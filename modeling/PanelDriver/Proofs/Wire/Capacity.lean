import PanelDriver.Proofs.Execution.Malformed
import PanelDriver.Proofs.Wire.Delivery

/-!
How much a bus takes in one write. On a device that never fails nothing else can go wrong: a run
overflows if and only if an active write step has more bytes than its bus takes, and then it has
recorded just what the program up to that step records (`run_overflow_iff`).
-/

namespace PanelDriver

namespace Action

variable {ε φ σ τ α β : Type} {p : σ → Prop}

/-- Where `p` holds, `x` succeeds, and `p` holds after it. -/
def Succeeds (p : σ → Prop) (x : Action ε σ α) : Prop :=
  ∀ s, p s → (∃ a, (x s).result = .ok a) ∧ p (x s).state

namespace Succeeds

theorem exists_eq {x : Action ε σ α} (h : Succeeds p x) {s : σ} (hs : p s) :
    ∃ a s' es, x s = ⟨.ok a, s', es⟩ ∧ p s' := by
  obtain ⟨⟨a, ha⟩, hp⟩ := h s hs
  rcases hx : x s with ⟨result, s', es⟩
  rw [hx] at ha hp
  exact ⟨a, s', es, by rw [← ha], hp⟩

theorem of_exists_eq {x : Action ε σ α}
    (h : ∀ s, p s → ∃ a s' es, x s = ⟨.ok a, s', es⟩ ∧ p s') : Succeeds p x := by
  intro s hs
  obtain ⟨a, s', es, hx, hp⟩ := h s hs
  rw [hx]
  exact ⟨⟨a, rfl⟩, hp⟩

theorem pure (a : α) : Succeeds p (Pure.pure a : Action ε σ α) := fun _ h => ⟨⟨a, rfl⟩, h⟩

theorem record (e : Event) : Succeeds p (Action.record e : Action ε σ Unit) := fun _ h =>
  ⟨⟨(), rfl⟩, h⟩

theorem bind {x : Action ε σ α} {f : α → Action ε σ β} (h : Succeeds p x)
    (hf : ∀ a, Succeeds p (f a)) : Succeeds p (x >>= f) := by
  intro s hs
  obtain ⟨a, s', es, hx, hs'⟩ := h.exists_eq hs
  rw [bind_ok hx]
  exact hf a s' hs'

/-- What is done instead is not needed. -/
theorem orElse {x : Action ε σ α} (h : Succeeds p x) (f : ε → Action φ σ α) :
    Succeeds p (x.orElse f) := by
  intro s hs
  obtain ⟨a, s', es, hx, hs'⟩ := h.exists_eq hs
  rw [orElse_ok hx]
  exact ⟨⟨a, rfl⟩, hs'⟩

theorem on {q : τ → Prop} {x : Action ε σ α} (h : Succeeds p x) {part : τ → σ} {put : σ → τ → τ}
    (hpart : ∀ t, q t → p (part t)) (hput : ∀ s t, q t → p s → q (put s t)) :
    Succeeds q (x.on part put) := fun t ht =>
  ⟨(h _ (hpart t ht)).1, hput _ t ht (h _ (hpart t ht)).2⟩

end Succeeds

end Action

open PanelDriver.Action (Succeeds)

/-! ## Payloads -/

/-- More bytes than a write may have. Without a limit no payload has more. -/
def exceeds (limit : Option Nat) (payload : Bytes) : Bool := limit.any (· < payload.length)

def Step.exceeds (limit : Option Nat) : Step → Bool
  | .write _ payload => PanelDriver.exceeds limit payload
  | _ => false

def Request.exceeds (limit : Option Nat) : Request → Bool
  | .send _ payload => PanelDriver.exceeds limit payload
  | _ => false

theorem Step.exists_of_exceeds {limit : Option Nat} {step : Step}
    (h : step.exceeds limit = true) :
    ∃ generic payload, step = .write generic payload ∧
      PanelDriver.exceeds limit payload = true := by
  cases step with
  | write generic payload => exact ⟨generic, payload, rfl, h⟩
  | _ => cases h

/-! ## Steps in their places -/

/-- The steps that are carried out of items when `lanes` lanes are active, with their places;
`filters` are the filters right before the items. -/
def activeItemsFrom (lanes : UInt8) : List UInt8 → List Item → List (Nat × Step)
  | _, [] => []
  | _, .error _ :: _ => []
  | filters, .ok (_, .laneFilter k) :: rest => activeItemsFrom lanes (filters ++ [k]) rest
  | filters, .ok found :: rest =>
    if filters.all (· == lanes) then found :: activeItemsFrom lanes [] rest
    else activeItemsFrom lanes [] rest

def Program.activeItems (lanes : UInt8) (program : Program) : List (Nat × Step) :=
  activeItemsFrom lanes [] program.items

theorem activeItemsFrom_cons {lanes : UInt8} {filters : List UInt8} {offset : Nat} {step : Step}
    (rest : List Item) (h : step.isFilter = false) :
    activeItemsFrom lanes filters (.ok (offset, step) :: rest) =
      if filters.all (· == lanes) then (offset, step) :: activeItemsFrom lanes [] rest
      else activeItemsFrom lanes [] rest := by
  cases step with
  | laneFilter k => simp [Step.isFilter] at h
  | _ => rfl

/-- Without their places they are the active steps. -/
theorem map_activeItemsFrom (lanes : UInt8) (filters : List UInt8) (items : List Item) :
    (activeItemsFrom lanes filters items).map Prod.snd =
      activeFrom lanes filters (leading items) := by
  induction items generalizing filters with
  | nil => rfl
  | cons item rest ih =>
    rcases item with e | ⟨offset, step⟩
    · rfl
    · cases hf : step.isFilter with
      | true =>
        cases step <;> simp [Step.isFilter] at hf
        exact ih _
      | false =>
        rw [activeItemsFrom_cons rest hf, leading, activeFrom_cons _ hf]
        split
        · rw [List.map_cons, ih]
        · exact ih []

/-- The active steps before one of them are those of the items before it. -/
theorem exists_items_of_activeItemsFrom {lanes : UInt8} {filters : List UInt8} {items : List Item}
    {done later : List (Nat × Step)} {offset : Nat} {step : Step}
    (h : activeItemsFrom lanes filters items = done ++ (offset, step) :: later) :
    ∃ front back, items = front ++ .ok (offset, step) :: back ∧
      activeItemsFrom lanes filters front = done := by
  induction items generalizing filters done with
  | nil => simp [activeItemsFrom] at h
  | cons item rest ih =>
    rcases item with e | ⟨place, first⟩
    · simp [activeItemsFrom] at h
    · cases hf : first.isFilter with
      | true =>
        cases first <;> simp [Step.isFilter] at hf
        obtain ⟨front, back, rfl, hfront⟩ := ih h
        exact ⟨_ :: front, back, rfl, hfront⟩
      | false =>
        rw [activeItemsFrom_cons rest hf] at h
        split at h
        · rename_i hall
          cases done with
          | nil =>
            obtain ⟨hfound, -⟩ := List.cons.inj h
            cases hfound
            exact ⟨[], rest, rfl, rfl⟩
          | cons found done =>
            obtain ⟨rfl, hrest⟩ := List.cons.inj h
            obtain ⟨front, back, rfl, hfront⟩ := ih hrest
            refine ⟨_ :: front, back, rfl, ?_⟩
            rw [activeItemsFrom_cons front hf, if_pos hall, hfront]
        · rename_i hall
          obtain ⟨front, back, rfl, hfront⟩ := ih h
          refine ⟨_ :: front, back, rfl, ?_⟩
          rw [activeItemsFrom_cons front hf, if_neg hall, hfront]

/-! ## Requests within the limit -/

theorem Query.length_bytes_le (query : Query) : query.bytes.length ≤ 2 := by
  cases query <;> simp [bytes]

/-- The requests of the first steps come before those of the others. -/
theorem exists_requests_append (t : VideoTiming) (s : Scratch) (steps more : List Step) :
    ∃ s', requests t s (steps ++ more) = requests t s steps ++ requests t s' more := by
  induction steps generalizing s with
  | nil => exact ⟨s, rfl⟩
  | cons step rest ih =>
    cases step with
    | laneFilter k => exact ih s
    | constant start length value => exact ih _
    | timing field start length dropped => exact ih _
    | _ =>
      obtain ⟨s', hs'⟩ := ih s
      exact ⟨s', by simp only [List.cons_append, requests, hs']⟩

/-- The scratch buffer is within every limit that leaves room for it. -/
theorem exceeds_of_mem_requests {limit : Option Nat} (hlimit : ∀ n ∈ limit, 32 ≤ n)
    {t : VideoTiming} {s : Scratch} {steps : List Step}
    (hsteps : ∀ step ∈ steps, step.exceeds limit = false) :
    ∀ request ∈ requests t s steps, request.exceeds limit = false := by
  induction steps generalizing s with
  | nil => simp [requests]
  | cons step rest ih =>
    have hrest {s : Scratch} : ∀ request ∈ requests t s rest, request.exceeds limit = false :=
      ih fun step hs => hsteps step (List.mem_cons_of_mem _ hs)
    have hfirst := hsteps step List.mem_cons_self
    cases step with
    | write generic payload => exact List.forall_mem_cons.mpr ⟨hfirst, hrest⟩
    | writeScratch generic length =>
      refine List.forall_mem_cons.mpr ⟨?_, hrest⟩
      cases limit with
      | none => rfl
      | some n =>
        have hn := hlimit n rfl
        have hlength := Scratch.length_toBytes s
        simp only [Request.exceeds, exceeds, Option.any_some, List.length_take]
        exact decide_eq_false (by omega)
    | read query expected => exact List.forall_mem_cons.mpr ⟨rfl, hrest⟩
    | delay ms | returnSize size => exact List.forall_mem_cons.mpr ⟨rfl, hrest⟩
    | laneFilter k | constant start length value | timing field start length dropped =>
      exact hrest

section Limited

variable {β : Type} [SidebandBus β]

/-- Where `good` holds, all calls on the bus succeed, and `good` holds after them, but for a write
of too many bytes: that does what a flush does, and overflows. -/
structure Limited (β : Type) [SidebandBus β] (limit : Option Nat) (good : Channel β → Prop) :
    Prop where
  room : ∀ n ∈ limit, 32 ≤ n
  begin : Succeeds good (SidebandBus.begin : Action PanelError (Channel β) Unit)
  write : ∀ payload generic, exceeds limit payload = false →
    Succeeds good (SidebandBus.write payload generic : Action PanelError (Channel β) Unit)
  refuse : ∀ payload generic c, exceeds limit payload = true → good c →
    ∃ d es, SidebandBus.flush c = ⟨.ok (), d, es⟩ ∧
      SidebandBus.write payload generic c = ⟨.error .overflow, d, es⟩
  readBack : ∀ command generic length, command.length ≤ 2 → length ≤ 8 →
    Succeeds good (Channel.readBack command generic length : Action PanelError (Channel β) Bytes)
  setReturnSize : ∀ size,
    Succeeds good (SidebandBus.setReturnSize size : Action PanelError (Channel β) Unit)
  flush : Succeeds good (SidebandBus.flush : Action PanelError (Channel β) Unit)
  /-- Where there is a limit, beginning and flushing alone leave no trace. -/
  quiet : limit.isSome = true → ∀ c : Channel β, (conduct [] none c).events = []

theorem carryOutAll_append (asked more : List Request) :
    (carryOutAll (asked ++ more) : Action PanelError (Channel β) (List Comparison)) =
      carryOutAll asked >>= fun compared => carryOutAll more >>= fun later =>
        pure (compared ++ later) := by
  induction asked with
  | nil => simp [carryOutAll]
  | cons request rest ih =>
    simp only [List.cons_append, carryOutAll, ih, bind_assoc, pure_bind, List.append_assoc]

namespace Limited

variable {limit : Option Nat} {good : Channel β → Prop}

theorem carryOut (law : Limited β limit good) {request : Request}
    (hfits : request.exceeds limit = false)
    (hread : ∀ query expected, request = .ask query expected → expected.length ≤ 8) :
    Succeeds good
      (PanelDriver.carryOut request : Action PanelError (Channel β) (List Comparison)) := by
  cases request with
  | send generic payload =>
    refine Succeeds.bind ?_ fun _ => Succeeds.pure []
    cases payload with
    | nil => exact Succeeds.pure ()
    | cons b data => exact law.write (b :: data) generic hfits
  | wait ms => exact law.flush.bind fun _ => (Succeeds.record _).bind fun _ => Succeeds.pure []
  | limit size => exact (law.setReturnSize size).bind fun _ => Succeeds.pure []
  | ask query expected =>
    exact (law.readBack _ query.isGeneric _ query.length_bytes_le (hread query expected rfl)).bind
      fun _ => Succeeds.pure _

theorem carryOutAll (law : Limited β limit good) {asked : List Request}
    (hfits : ∀ request ∈ asked, request.exceeds limit = false)
    (hreads : ∀ query expected, .ask query expected ∈ asked → expected.length ≤ 8) :
    Succeeds good
      (PanelDriver.carryOutAll asked : Action PanelError (Channel β) (List Comparison)) := by
  induction asked with
  | nil => exact Succeeds.pure []
  | cons request rest ih =>
    have hfirst := law.carryOut (hfits request List.mem_cons_self) fun query expected h =>
      hreads query expected (h ▸ List.mem_cons_self)
    refine hfirst.bind fun _ => Succeeds.bind (ih ?_ ?_) fun _ => Succeeds.pure _
    · exact fun request h => hfits request (List.mem_cons_of_mem _ h)
    · exact fun query expected h => hreads query expected (List.mem_cons_of_mem _ h)

/-- A payload of too many bytes is refused when what waits has been sent. -/
theorem carryOut_refused (law : Limited β limit good) (generic : Bool) {payload : Bytes}
    (h : exceeds limit payload = true) {c : Channel β} (hc : good c) :
    ∃ d es, SidebandBus.flush c = ⟨.ok (), d, es⟩ ∧
      PanelDriver.carryOut (.send generic payload) c = ⟨.error .overflow, d, es⟩ := by
  obtain ⟨d, es, hflush, hwrite⟩ := law.refuse payload generic c h hc
  refine ⟨d, es, hflush, ?_⟩
  have hsend : send payload generic c = ⟨.error .overflow, d, es⟩ := by
    cases payload with
    | nil => cases limit <;> simp [exceeds] at h
    | cons b data => exact hwrite
  exact Action.bind_error hsend

section Conduct

variable {channel : Channel β} (hgood : good { channel with packer := channel.packer.reset })

include hgood

/-- Requests within the limit succeed, up to what their reads find. -/
theorem conduct_of_fits (law : Limited β limit good) {asked : List Request}
    (hfits : ∀ request ∈ asked, request.exceeds limit = false)
    (hreads : ∀ query expected, .ask query expected ∈ asked → expected.length ≤ 8) :
    ∃ (mismatch : Bool) (d : Channel β) (es : List Event), conduct asked none channel =
      ⟨if mismatch then .error .mismatch else .ok (), d, es⟩ := by
  obtain ⟨_, begun, first, hbegin, hbegun⟩ := law.begin.exists_eq hgood
  obtain ⟨compared, served, second, hserve, hserved⟩ :=
    (law.carryOutAll hfits hreads).exists_eq hbegun
  obtain ⟨_, flushed, third, hflush, -⟩ := law.flush.exists_eq hserved
  exact ⟨_, flushed, _, conduct_ok hbegin (serveAll_of_ok hserve) hflush⟩

/-- The first payload of too many bytes ends a run, and the requests before it leave the events of a
run of their own. -/
theorem conduct_of_exceeds (law : Limited β limit good) {asked : List Request} (generic : Bool)
    {payload : Bytes} (later : List Request)
    (hfits : ∀ request ∈ asked, request.exceeds limit = false)
    (hreads : ∀ query expected, .ask query expected ∈ asked → expected.length ≤ 8)
    (h : exceeds limit payload = true) :
    ∃ d : Channel β, d.packer.cursor = 0 ∧
      conduct (asked ++ .send generic payload :: later) none channel =
        ⟨.error .overflow, d, (conduct asked none channel).events⟩ := by
  obtain ⟨_, begun, first, hbegin, hbegun⟩ := law.begin.exists_eq hgood
  obtain ⟨compared, served, second, hserve, hserved⟩ :=
    (law.carryOutAll hfits hreads).exists_eq hbegun
  obtain ⟨flushed, third, hflush, hrefused⟩ := law.carryOut_refused generic h hserved
  have hstop : PanelDriver.carryOutAll (asked ++ .send generic payload :: later) begun =
      ⟨.error .overflow, flushed, second ++ third⟩ := by
    rw [carryOutAll_append, Action.bind_ok hserve, PanelDriver.carryOutAll, bind_assoc,
      Action.bind_error hrefused]
  refine ⟨{ flushed with packer := flushed.packer.reset }, rfl, ?_⟩
  rw [conduct_of_error hbegin (serveUntil_of_error hstop none),
    conduct_ok hbegin (serveAll_of_ok hserve) hflush]

end Conduct

end Limited

end Limited

/-! ## I2C -/

/-- Every transaction succeeds. -/
def I2cMaster.Unfailing : I2cMaster → Prop
  | .silent => True
  | .scripted s => ∀ fault ∈ s.faults, fault = none

namespace I2cBus

theorem next_of_unfailing {s : I2cScript} (h : ∀ fault ∈ s.faults, fault = none) :
    s.next.1 = .ok () ∧ ∀ fault ∈ s.next.2.faults, fault = none := by
  refine ⟨?_, fun fault hf => h fault (List.mem_of_mem_tail hf)⟩
  simp only [I2cScript.next, headD_of_forall_eq h, reported]

/-- One transaction of a write. -/
def writeOnce (address : UInt8) (bytes : Bytes) : Action I2cFault I2cBus Unit :=
  (I2cMaster.write address bytes).on (·.master) fun master bus => { bus with master }

theorem write_eq_retrying {payload : Bytes} (h : payload.length ≤ bufferBytes) (bus : I2cBus) :
    write payload bus = retrying (writeOnce bus.config.address (swap payload)) bus := by
  have hwire : wire payload = .ok (swap payload) := if_pos h
  simp only [write, hwire]
  rfl

theorem read_eq_retrying {command buffer : Bytes} (hcommand : command.length ≤ bufferBytes)
    (hbuffer : buffer.length ≤ bufferBytes) (bus : I2cBus) :
    read command (bus, buffer) =
      retrying (readOnce bus.config.address (swap command)) (bus, buffer) := by
  have hwire : wire command = .ok (swap command) := if_pos hcommand
  have hshort : ¬bufferBytes < buffer.length := Nat.not_lt.mpr hbuffer
  simp only [read, Action.state_bind, hshort, ↓reduceIte, hwire]
  rfl

def Unfailing (bus : I2cBus) : Prop := bus.master.Unfailing

theorem succeeds_writeOnce (address : UInt8) (bytes : Bytes) :
    Succeeds Unfailing (writeOnce address bytes) := by
  rintro ⟨_ | s, config⟩ h
  · exact ⟨⟨(), rfl⟩, trivial⟩
  · obtain ⟨hok, hnext⟩ := next_of_unfailing h
    exact ⟨⟨(), hok⟩, hnext⟩

theorem succeeds_readOnce (address : UInt8) (bytes : Bytes) :
    Succeeds (fun s : I2cBus × Bytes => s.1.Unfailing) (readOnce address bytes) := by
  rintro ⟨⟨_ | s, config⟩, buffer⟩ h
  · exact ⟨⟨(), rfl⟩, trivial⟩
  · obtain ⟨hok, hnext⟩ := next_of_unfailing h
    exact ⟨⟨(), hok⟩, hnext⟩

theorem succeeds_retrying {σ : Type} {p : σ → Prop} {x : Action I2cFault σ Unit}
    (h : Succeeds p x) : Succeeds p (retrying x) := h.orElse _

theorem succeeds_write {payload : Bytes} (h : payload.length ≤ bufferBytes) :
    Succeeds Unfailing (write payload) := by
  intro bus hbus
  rw [write_eq_retrying h]
  exact succeeds_retrying (succeeds_writeOnce _ _) bus hbus

theorem write_of_exceeds {payload : Bytes} (h : bufferBytes < payload.length) (bus : I2cBus) :
    write payload bus = ⟨.error .overflow, bus, []⟩ := by
  have hwire : wire payload = .error .overflow := if_neg (Nat.not_le.mpr h)
  simp only [write, hwire]
  rfl

theorem read_of_unfailing {command buffer : Bytes} (hcommand : command.length ≤ bufferBytes)
    (hbuffer : buffer.length ≤ bufferBytes) {bus : I2cBus} (hbus : bus.Unfailing) :
    (read command (bus, buffer)).result = .ok () ∧
      (read command (bus, buffer)).state.1.Unfailing := by
  rw [read_eq_retrying hcommand hbuffer]
  obtain ⟨⟨_, hok⟩, hstate⟩ := succeeds_retrying (succeeds_readOnce _ _) (bus, buffer) hbus
  exact ⟨hok, hstate⟩

theorem limited : Limited I2cBus (some 64) fun c => c.bus.Unfailing where
  room n hn := by
    cases hn
    decide
  begin := Succeeds.pure ()
  write payload _ h := by
    have hshort : payload.length ≤ bufferBytes := Nat.not_lt.mp (of_decide_eq_false h)
    exact (succeeds_write hshort).on (fun _ h => h) fun _ _ _ h => h
  refuse payload _ c h _ := by
    have hlong : bufferBytes < payload.length := of_decide_eq_true h
    refine ⟨c, [], rfl, ?_⟩
    show Channel.onBus (write payload) c = _
    simp only [Channel.onBus, Action.on, write_of_exceeds hlong]
  readBack command _ length hcommand hlength := by
    intro c hc
    have hbuffer : (Bytes.zeros length).length ≤ bufferBytes := by
      rw [Bytes.length_zeros]
      exact Nat.le_trans hlength (by decide)
    obtain ⟨hok, hstate⟩ :=
      read_of_unfailing (Nat.le_trans hcommand (by decide)) hbuffer hc
    refine ⟨⟨_, congrArg (Except.map fun _ => _) hok⟩, hstate⟩
  setReturnSize _ := Succeeds.pure ()
  flush := Succeeds.pure ()
  quiet _ _ := rfl

end I2cBus

/-! ## MIPI -/

/-- Every call succeeds, and no read brings a report. -/
def DsiHost.Unfailing : DsiHost → Prop
  | .silent => True
  | .scripted s => s.Faultless

namespace MipiBus

theorem succeeds_of_scripted {α : Type} {x : Action PanelError (Channel MipiBus) α}
    (hsilent : ∀ packer, ∃ a, x ⟨⟨.silent⟩, packer⟩ = ⟨.ok a, ⟨⟨.silent⟩, packer⟩, []⟩)
    (hscripted : ∀ script packer, script.Faultless → ∃ a after es, DsiScript.Faultless after ∧
      x ⟨⟨.scripted script⟩, packer⟩ = ⟨.ok a, ⟨⟨.scripted after⟩, packer⟩, es⟩) :
    Succeeds (fun c : Channel MipiBus => c.bus.host.Unfailing) x := by
  rintro ⟨⟨_ | script⟩, packer⟩ h
  · obtain ⟨a, ha⟩ := hsilent packer
    rw [ha]
    exact ⟨⟨a, rfl⟩, trivial⟩
  · obtain ⟨a, after, es, hafter, ha⟩ := hscripted script packer h
    rw [ha]
    exact ⟨⟨a, rfl⟩, hafter⟩

theorem limited : Limited MipiBus none fun c => c.bus.host.Unfailing where
  room _ hn := by cases hn
  begin := succeeds_of_scripted (fun _ => ⟨(), rfl⟩) fun script _ h =>
    ⟨(), { script with lowPower := true }, _, ⟨h.writes, h.sizes, h.replies⟩, rfl⟩
  write payload generic _ := succeeds_of_scripted (fun _ => ⟨(), rfl⟩) fun _ _ h => by
    obtain ⟨after, hafter, hwrite⟩ := write_of_faultless h generic payload
    exact ⟨(), after, _, hafter, hwrite⟩
  refuse _ _ _ h _ := by cases h
  readBack command generic length _ _ := by
    refine succeeds_of_scripted (fun packer => ?_) fun _ _ h => ?_
    · cases generic <;> exact ⟨_, rfl⟩
    · obtain ⟨after, reply, e, hafter, -, hread⟩ :=
        readBack_of_faultless h command generic length
      exact ⟨reply, after, _, hafter, hread⟩
  setReturnSize size := succeeds_of_scripted (fun _ => ⟨(), rfl⟩) fun _ _ h => by
    obtain ⟨after, hafter, hsize⟩ := setReturnSize_of_faultless h size
    exact ⟨(), after, _, hafter, hsize⟩
  flush := Succeeds.pure ()
  quiet h := by cases h

end MipiBus

/-! ## SPI -/

/-- Every transaction succeeds. -/
def SpiDevice.Unfailing : SpiDevice → Prop
  | .silent => True
  | .scripted s => s.Faultless

namespace SpiBus

/-- A bus with this framing, on a device that never fails. -/
structure Ready (nineBit : Bool) (bus : SpiBus) : Prop where
  device : bus.device.Unfailing
  framing : bus.config.nineBit = nineBit

theorem capacity_eq : Packer.capacity = 512 := rfl

variable {nineBit : Bool} {c : Channel SpiBus}

theorem succeeds_deviceWrite (frame : Bytes) :
    Succeeds SpiDevice.Unfailing (SpiDevice.write frame) := by
  rintro (_ | s) h
  · exact ⟨⟨(), rfl⟩, trivial⟩
  · exact ⟨⟨(), SpiScript.next_of_faultless h⟩, SpiScript.faultless_next h⟩

theorem succeeds_deviceTransfer (sent : Bytes) :
    Succeeds (fun s : SpiDevice × Bytes => s.1.Unfailing) (SpiDevice.transfer sent) := by
  rintro ⟨_ | s, window⟩ h
  · exact ⟨⟨(), rfl⟩, trivial⟩
  · exact ⟨⟨(), SpiScript.next_of_faultless h⟩, SpiScript.faultless_next h⟩

theorem succeeds_sendFrame (nineBit : Bool) (frame : Bytes) :
    Succeeds (fun c : Channel SpiBus => c.bus.Ready nineBit) (sendFrame frame) := by
  have hbus : Succeeds (Ready nineBit) (((SpiDevice.write frame).mapError transferError).on
      (·.device) fun device bus => { bus with device }) :=
    ((succeeds_deviceWrite frame).orElse _).on (fun _ h => h.device) fun _ _ h hdevice =>
      ⟨hdevice, h.framing⟩
  exact hbus.on (fun _ h => h) fun _ _ _ h => h

theorem flush_of_ready (h : c.bus.Ready nineBit) :
    ∃ d es, flush c = ⟨.ok (), d, es⟩ ∧ d.bus.Ready nineBit ∧ d.packer.cursor = 0 := by
  cases hempty : c.packer.isEmpty with
  | true =>
    exact ⟨c, [], by simp only [flush, hempty, ↓reduceIte], h, beq_iff_eq.mp hempty⟩
  | false =>
    obtain ⟨_, d, es, hsend, hd⟩ := (succeeds_sendFrame nineBit c.packer.frame).exists_eq h
    exact ⟨{ d with packer := d.packer.reset }, es,
      by simp only [flush, hempty, Bool.false_eq_true, ↓reduceIte, emptying_apply, hsend], hd, rfl⟩

/-- Bits that fit are stored. -/
theorem store_of_fits (f : Packer → Except PanelError Packer) {bits : List Bool}
    (hf : f c.packer = c.packer.store bits)
    (hroom : c.packer.cursor + bits.length ≤ Packer.capacity) :
    ∃ packer : Packer, packer.cursor = c.packer.cursor + bits.length ∧
      (Channel.store f : Action PanelError (Channel SpiBus) Unit) c =
        ⟨.ok (), { c with packer }, []⟩ := by
  have hfits : c.packer.pending.length + bits.length ≤ 512 := hroom
  refine ⟨{ c.packer with pending := c.packer.pending ++ bits }, List.length_append, ?_⟩
  simp only [Channel.store, hf, Packer.store_eq, hfits, ↓reduceIte]

theorem store_bytes (command : Bytes) (hempty : c.packer.cursor = 0)
    (hroom : 8 * command.length ≤ Packer.capacity) :
    ∃ packer : Packer, packer.cursor = 8 * command.length ∧
      (Channel.store (·.pushBytes command) : Action PanelError (Channel SpiBus) Unit) c =
        ⟨.ok (), { c with packer }, []⟩ := by
  have hlength := Bits.length_ofBytes command
  have hpush : c.packer.pushBytes command = c.packer.store (Bits.ofBytes command) := by
    simp only [Packer.pushBytes, hempty, Nat.zero_mod, ↓reduceIte]
  have hbits : c.packer.cursor + (Bits.ofBytes command).length ≤ Packer.capacity := by omega
  obtain ⟨packer, hcursor, hstore⟩ := store_of_fits (·.pushBytes command) hpush hbits
  exact ⟨packer, by omega, hstore⟩

theorem store_nineBit (command : Bytes)
    (hroom : c.packer.cursor + 9 * command.length ≤ Packer.capacity) :
    ∃ packer : Packer, packer.cursor = c.packer.cursor + 9 * command.length ∧
      (Channel.store (·.pushNineBit command) : Action PanelError (Channel SpiBus) Unit) c =
        ⟨.ok (), { c with packer }, []⟩ := by
  rw [← Packer.length_nineBit] at hroom ⊢
  exact store_of_fits (·.pushNineBit command) rfl hroom

theorem store_ones {count : Nat} (hroom : c.packer.cursor + count ≤ Packer.capacity) :
    ∃ packer : Packer, packer.cursor = c.packer.cursor + count ∧
      (Channel.store (·.pushOnes count) : Action PanelError (Channel SpiBus) Unit) c =
        ⟨.ok (), { c with packer }, []⟩ := by
  have hlength : (List.replicate count true).length = count := List.length_replicate
  have hpush : c.packer.pushOnes count = c.packer.store (List.replicate count true) := by
    rw [Packer.store, hlength]
    rfl
  rw [← hlength] at hroom
  obtain ⟨packer, hcursor, hstore⟩ := store_of_fits (·.pushOnes count) hpush hroom
  exact ⟨packer, hlength ▸ hcursor, hstore⟩

/-- In nine-bit framing a payload waits, behind others or in their place. -/
theorem write_nineBit (h : c.bus.Ready true) {payload : Bytes}
    (hroom : 9 * payload.length ≤ Packer.capacity) :
    ∃ d es, write payload c = ⟨.ok (), d, es⟩ ∧ d.bus.Ready true := by
  cases hfits : c.packer.fits (9 * payload.length) with
  | true =>
    obtain ⟨packer, -, hstore⟩ := store_nineBit payload (of_decide_eq_true hfits)
    refine ⟨{ c with packer }, [], ?_, h⟩
    simp only [write, Action.state_bind, h.framing, hfits, ↓reduceIte, hstore]
  | false =>
    obtain ⟨d, es, hflush, hd, hempty⟩ := flush_of_ready h
    have hspace : d.packer.cursor + 9 * payload.length ≤ Packer.capacity := by omega
    obtain ⟨packer, -, hstore⟩ := store_nineBit payload hspace
    refine ⟨{ d with packer }, es ++ [], ?_, hd⟩
    simp only [write, Action.state_bind, h.framing, hfits, ↓reduceIte, Bool.false_eq_true,
      Action.bind_ok hflush, Nat.not_lt.mpr hroom, hstore]

/-- In byte framing it goes out at once. -/
theorem write_bytes (h : c.bus.Ready false) {payload : Bytes}
    (hshort : payload.length ≤ Packer.windowBytes) :
    ∃ d es, write payload c = ⟨.ok (), d, es⟩ ∧ d.bus.Ready false ∧ d.packer.cursor = 0 := by
  obtain ⟨packer, -, hstore⟩ := store_bytes (c := { c with packer := c.packer.reset })
    payload rfl (Nat.mul_comm .. ▸ Nat.mul_le_mul_right 8 hshort)
  obtain ⟨d, es, hflush, hd, hempty⟩ := flush_of_ready (c := { c with packer }) h
  refine ⟨d, [] ++ es, ?_, hd, hempty⟩
  simp only [write, Action.state_bind, h.framing, Bool.false_eq_true, ↓reduceIte,
    Nat.not_lt.mpr hshort, Channel.reset_bind, Action.bind_ok hstore, hflush]

/-- A transfer that stays within the window brings a reply. -/
theorem transfer_of_ready (h : c.bus.Ready nineBit) {start length : Nat}
    (hroom : start + 8 * length ≤ Packer.capacity) :
    ∃ reply d es, transfer start length c = ⟨.ok reply, d, es⟩ ∧ d.bus.Ready nineBit ∧
      d.packer.cursor = 0 := by
  have hdevice : Succeeds (fun s : SpiDevice × Bytes => s.1.Unfailing)
      ((SpiDevice.transfer c.packer.frame).mapError transferError) :=
    (succeeds_deviceTransfer c.packer.frame).orElse _
  obtain ⟨_, ⟨device, window⟩, es, htransfer, hafter⟩ :=
    hdevice.exists_eq (s := (c.bus.device, c.packer.received)) h.device
  let filled : Channel SpiBus := ⟨{ c.bus with device }, c.packer.receive 0 window⟩
  have hexchange : exchange c = ⟨.ok (), filled, es⟩ := by
    simp only [exchange, htransfer, filled]
  obtain ⟨reply, hread⟩ : ∃ reply, filled.packer.readWindow start length = .ok reply :=
    ⟨_, if_pos hroom⟩
  refine ⟨reply, { filled with packer := filled.packer.reset }, es ++ [], ?_,
    ⟨hafter, h.framing⟩, rfl⟩
  simp only [transfer, emptying_apply, Action.bind_ok hexchange, Action.state_bind, Action.ofExcept,
    hread]

/-- A command of two bytes leaves room for the ones of the longest reply. -/
theorem storeCommand_of_ready (h : c.bus.Ready nineBit) {command : Bytes}
    (hshort : command.length ≤ 2) :
    ∃ d es, storeCommand command c = ⟨.ok (), d, es⟩ ∧ d.bus.Ready nineBit ∧
      d.packer.cursor ≤ 18 := by
  cases nineBit with
  | true =>
    obtain ⟨d, es, hflush, hd, hempty⟩ := flush_of_ready h
    have hroom : d.packer.cursor + 9 * command.length ≤ Packer.capacity := by
      rw [capacity_eq]
      omega
    obtain ⟨packer, hstored, hstore⟩ := store_nineBit command hroom
    refine ⟨{ d with packer }, es ++ [], ?_, hd, by simp only; omega⟩
    simp only [storeCommand, Action.state_bind, h.framing, ↓reduceIte, Action.bind_ok hflush,
      hstore]
  | false =>
    have hroom : 8 * command.length ≤ Packer.capacity := by
      rw [capacity_eq]
      omega
    obtain ⟨packer, hstored, hstore⟩ :=
      store_bytes (c := { c with packer := c.packer.reset }) command rfl hroom
    refine ⟨{ c with packer }, [], ?_, h, by simp only; omega⟩
    simp only [storeCommand, Action.state_bind, h.framing, Bool.false_eq_true, ↓reduceIte,
      Channel.reset_bind, hstore]

theorem query_of_ready (h : c.bus.Ready nineBit) {command : Bytes} {length : Nat}
    (hcommand : command.length ≤ 2) (hlength : length ≤ 8) :
    ∃ reply d es, query command length c = ⟨.ok reply, d, es⟩ ∧ d.bus.Ready nineBit ∧
      d.packer.cursor = 0 := by
  obtain ⟨asking, first, hstore, hasking, hcursor⟩ := storeCommand_of_ready h hcommand
  have hroom : asking.packer.cursor + 8 * length ≤ Packer.capacity := by
    rw [capacity_eq]
    omega
  obtain ⟨packer, -, hones⟩ := store_ones hroom
  obtain ⟨reply, d, es, htransfer, hd, hempty⟩ :=
    transfer_of_ready (c := { asking with packer }) hasking hroom
  refine ⟨reply, d, first ++ ([] ++ es), ?_, hd, hempty⟩
  simp only [query, Action.bind_ok hstore, Action.state_bind,
    Action.bind_ok (Action.orElse_ok hones), htransfer]

/-- Too many bytes are refused, in nine-bit framing only after what waits has gone out. -/
theorem write_of_exceeds (h : c.bus.Ready nineBit)
    (hsent : nineBit = false → c.packer.cursor = 0) {payload : Bytes}
    (hlong : (if nineBit then 56 else 64) < payload.length) :
    ∃ d es, flush c = ⟨.ok (), d, es⟩ ∧ write payload c = ⟨.error .overflow, d, es⟩ := by
  cases nineBit with
  | true =>
    obtain ⟨d, es, hflush, -, -⟩ := flush_of_ready h
    have hroom : Packer.capacity < 9 * payload.length := by
      simp only [↓reduceIte] at hlong
      rw [capacity_eq]
      omega
    have hfits : c.packer.fits (9 * payload.length) = false :=
      decide_eq_false (by omega)
    refine ⟨d, es, hflush, ?_⟩
    simp only [write, Action.state_bind, h.framing, hfits, ↓reduceIte, Bool.false_eq_true,
      Action.bind_ok hflush, hroom, Action.fail, List.append_nil]
  | false =>
    have hempty : c.packer.isEmpty = true := beq_iff_eq.mpr (hsent rfl)
    have hroom : Packer.windowBytes < payload.length := hlong
    refine ⟨c, [], by simp only [flush, hempty, ↓reduceIte], ?_⟩
    simp only [write, Action.state_bind, h.framing, Bool.false_eq_true, ↓reduceIte, hroom,
      Action.fail]

theorem limited (nineBit : Bool) : Limited SpiBus (some (if nineBit then 56 else 64))
    fun c => c.bus.Ready nineBit ∧ (nineBit = false → c.packer.cursor = 0) where
  room n hn := by
    cases hn
    cases nineBit <;> decide
  begin := Succeeds.pure ()
  write payload _ hfits := by
    refine Succeeds.of_exists_eq fun c h => ?_
    have hshort := Nat.not_lt.mp (of_decide_eq_false hfits)
    cases nineBit with
    | true =>
      have hroom : 9 * payload.length ≤ Packer.capacity := by
        simp only [↓reduceIte] at hshort
        rw [capacity_eq]
        omega
      obtain ⟨d, es, hwrite, hd⟩ := write_nineBit h.1 hroom
      exact ⟨(), d, es, hwrite, hd, fun hbytes => Bool.noConfusion hbytes⟩
    | false =>
      obtain ⟨d, es, hwrite, hd, hempty⟩ := write_bytes h.1 hshort
      exact ⟨(), d, es, hwrite, hd, fun _ => hempty⟩
  refuse payload _ c hlong h := write_of_exceeds h.1 h.2 (of_decide_eq_true hlong)
  readBack command _ length hcommand hlength := by
    refine Succeeds.of_exists_eq fun c h => ?_
    obtain ⟨reply, d, es, hquery, hd, hempty⟩ := query_of_ready h.1 hcommand hlength
    exact ⟨reply, d, es, by rw [readBack_eq_query, hquery], hd, fun _ => hempty⟩
  setReturnSize _ := Succeeds.pure ()
  flush := by
    refine Succeeds.of_exists_eq fun c h => ?_
    obtain ⟨d, es, hflush, hd, hempty⟩ := flush_of_ready h.1
    exact ⟨(), d, es, hflush, hd, fun _ => hempty⟩
  quiet _ _ := rfl

end SpiBus

/-! ## Runs -/

theorem defect?_append (items more : List Item) :
    defect? (items ++ more) = (defect? items).or (defect? more) := by
  induction items with
  | nil => rfl
  | cons item rest ih =>
    rcases item with e | found
    · rfl
    · exact ih

namespace Program

/-- The active steps, without their places, make the requests. -/
theorem requests_eq_map_activeItems (ctx : Context) (program : Program) :
    program.requests ctx =
      PanelDriver.requests ctx.timing 0 ((program.activeItems ctx.lanes).map Prod.snd) := by
  rw [requests, active, activeItems, map_activeItemsFrom]

end Program

section Run

variable {β : Type} [SidebandBus β]

/-- A run on a bus on which nothing fails, but for a write of more than `limit` bytes. -/
structure OverflowsAtFirst (limit : Option Nat) (ctx : Context) (program : Program)
    (channel : Channel β) : Prop where
  overflow_iff : (program.run ctx channel).result = .error .overflow ↔
    ∃ found ∈ program.activeItems ctx.lanes, found.2.exceeds limit = true
  otherwise : (program.run ctx channel).result = .error .overflow ∨
    (program.run ctx channel).result = .ok () ∨
    (program.run ctx channel).result = .error .mismatch
  /-- What stands before the first such write is carried out in full, and nothing else. -/
  first : ∀ offset step,
    (program.activeItems ctx.lanes).find? (·.2.exceeds limit) = some (offset, step) →
    (program.run ctx channel).events = ((program.before offset).run ctx channel).events ∧
    (((program.before offset).run ctx channel).result = .ok () ∨
      ((program.before offset).run ctx channel).result = .error .mismatch) ∧
    (offset = 0 → (program.run ctx channel).events = []) ∧
    (program.run ctx channel).state.packer.cursor = 0

namespace Limited

variable {limit : Option Nat} {good : Channel β → Prop} {ctx : Context} {program : Program}
  {channel : Channel β}

theorem fits_requests (law : Limited β limit good)
    (hfits : ∀ found ∈ program.activeItems ctx.lanes, found.2.exceeds limit = false) :
    ∀ request ∈ program.requests ctx, request.exceeds limit = false := by
  rw [program.requests_eq_map_activeItems]
  refine exceeds_of_mem_requests law.room fun step hstep => ?_
  obtain ⟨found, hfound, rfl⟩ := List.mem_map.mp hstep
  exact hfits found hfound

section Fits

variable (law : Limited β limit good) (valid : defect? program.items = none)
  (hgood : good { channel with packer := channel.packer.reset })

include law valid hgood

theorem run_of_fits
    (hfits : ∀ found ∈ program.activeItems ctx.lanes, found.2.exceeds limit = false) :
    (program.run ctx channel).result = .ok () ∨
      (program.run ctx channel).result = .error .mismatch := by
  rw [run_eq_conduct, valid]
  split
  · exact .inl rfl
  · obtain ⟨mismatch, d, es, hrun⟩ :=
      law.conduct_of_fits hgood (law.fits_requests hfits) fun _ _ h => (length_of_ask h).2
    rw [hrun]
    cases mismatch with
    | true => exact .inr rfl
    | false => exact .inl rfl

omit hgood in
/-- Where there is a limit, even the empty program records what its requests do. -/
theorem events_run_eq (hlimit : limit.isSome = true) :
    (program.run ctx channel).events = (conduct (program.requests ctx) none channel).events := by
  rw [run_eq_conduct, valid]
  obtain ⟨_ | ⟨byte, rest⟩⟩ := program
  · exact (law.quiet hlimit channel).symm
  · rfl

end Fits

theorem run_of_exceeds (law : Limited β limit good) (valid : defect? program.items = none)
    (hgood : good { channel with packer := channel.packer.reset }) {offset : Nat} {step : Step}
    (h : (program.activeItems ctx.lanes).find? (·.2.exceeds limit) = some (offset, step)) :
    (program.run ctx channel).result = .error .overflow ∧
    (program.run ctx channel).events = ((program.before offset).run ctx channel).events ∧
    (((program.before offset).run ctx channel).result = .ok () ∨
      ((program.before offset).run ctx channel).result = .error .mismatch) ∧
    (program.run ctx channel).state.packer.cursor = 0 := by
  obtain ⟨hexceeds, done, later, hactive, hshort⟩ := List.find?_eq_some_iff_append.mp h
  obtain ⟨front, back, hitems, hfront⟩ := exists_items_of_activeItemsFrom hactive
  have hbefore : (program.before offset).items = front := Program.items_before_step hitems
  have hdone : (program.before offset).activeItems ctx.lanes = done := by
    rw [Program.activeItems, hbefore, hfront]
  have hvalid : defect? (program.before offset).items = none := by
    rw [hitems, defect?_append, Option.or_eq_none_iff] at valid
    rw [hbefore]
    exact valid.1
  have hfits : ∀ found ∈ (program.before offset).activeItems ctx.lanes,
      found.2.exceeds limit = false := by
    rw [hdone]
    intro found hfound
    simpa using hshort found hfound
  obtain ⟨generic, payload, rfl, hlong⟩ := Step.exists_of_exceeds hexceeds
  have hlimit : limit.isSome = true := by
    cases limit with
    | none => cases hlong
    | some n => rfl
  have hasked : ∃ rest, program.requests ctx =
      (program.before offset).requests ctx ++ .send generic payload :: rest := by
    obtain ⟨s, hs⟩ := exists_requests_append ctx.timing 0 (done.map Prod.snd)
      (.write generic payload :: later.map Prod.snd)
    refine ⟨PanelDriver.requests ctx.timing s (later.map Prod.snd), ?_⟩
    rw [program.requests_eq_map_activeItems, (program.before offset).requests_eq_map_activeItems,
      hdone, hactive, List.map_append, List.map_cons, hs, PanelDriver.requests]
  obtain ⟨rest, hasked⟩ := hasked
  obtain ⟨d, hempty, hrun⟩ := law.conduct_of_exceeds hgood generic rest
    (law.fits_requests hfits) (fun _ _ h => (length_of_ask h).2) hlong
  have hconduct : program.run ctx channel =
      conduct (program.requests ctx) none channel := by
    rw [run_eq_conduct, valid]
    obtain ⟨_ | ⟨byte, bytes⟩⟩ := program
    · cases front <;> cases hitems
    · rfl
  rw [hconduct, hasked, hrun, law.events_run_eq hvalid hlimit]
  exact ⟨rfl, rfl, law.run_of_fits hvalid hgood hfits, hempty⟩

theorem overflowsAtFirst (law : Limited β limit good) (valid : program.validate = .ok ())
    (hgood : good { channel with packer := channel.packer.reset }) :
    OverflowsAtFirst limit ctx program channel := by
  obtain ⟨steps, hsteps⟩ := validate_eq_ok_iff.mp valid
  have hdefect := (steps_eq_ok_iff.mp hsteps).1
  rcases hfind : (program.activeItems ctx.lanes).find? (·.2.exceeds limit) with _ | ⟨offset, step⟩
  · have hfits : ∀ found ∈ program.activeItems ctx.lanes, found.2.exceeds limit = false :=
      fun found hfound => Bool.eq_false_iff.mpr (List.find?_eq_none.mp hfind found hfound)
    have hend := law.run_of_fits hdefect hgood hfits
    refine ⟨⟨fun h => ?_, ?_⟩, .inr hend, fun _ _ h => ?_⟩
    · rcases hend with hend | hend <;> rw [hend] at h <;> cases h
    · rintro ⟨found, hfound, hexceeds⟩
      rw [hfits found hfound] at hexceeds
      cases hexceeds
    · rw [hfind] at h
      cases h
  · obtain ⟨hresult, hevents, hfront, hcursor⟩ := law.run_of_exceeds hdefect hgood hfind
    refine ⟨iff_of_true hresult ⟨_, List.mem_of_find?_eq_some hfind, ?_⟩, .inl hresult, ?_⟩
    · exact (List.find?_eq_some_iff_append.mp hfind).1
    · intro offset' step' h
      rw [hfind] at h
      cases h
      refine ⟨hevents, hfront, ?_, hcursor⟩
      rintro rfl
      exact hevents

end Limited

end Run

/-- A valid program on a bus on which nothing fails. A run overflows if and only if a write among
the active steps has more bytes than the bus takes: 64 on I2C and in byte framing, 56 in nine-bit
framing, any number in packets. Then it has recorded what the program before the first such write
records in a run of its own, and nothing waits. -/
theorem run_overflow_iff (ctx : Context) (program : Program)
    (valid : program.validate = .ok ()) :
    (∀ channel : Channel I2cBus, channel.bus.master.Unfailing →
      OverflowsAtFirst (some 64) ctx program channel) ∧
    (∀ channel : Channel SpiBus, channel.bus.device.Unfailing →
      OverflowsAtFirst (some (if channel.bus.config.nineBit then 56 else 64)) ctx program
        channel) ∧
    ∀ channel : Channel MipiBus, channel.bus.host.Unfailing →
      OverflowsAtFirst none ctx program channel := by
  refine ⟨fun channel h => ?_, fun channel h => ?_, fun channel h => ?_⟩
  · exact I2cBus.limited.overflowsAtFirst valid h
  · exact (SpiBus.limited _).overflowsAtFirst valid ⟨⟨h, rfl⟩, fun _ => rfl⟩
  · exact MipiBus.limited.overflowsAtFirst valid h

/-- In nine-bit framing a write of 57 bytes is refused, when the one before it has been sent. -/
theorem run_overflow_iff_long_write :
    let program : Program := ⟨[0x02, 0xb0, 0x01, 0x3e, 57] ++ List.replicate 57 0⟩
    let channel : Channel SpiBus := ⟨⟨.scripted {}, { nineBit := true }⟩, {}⟩
    let run := program.run (.ofLanes 2) channel
    program.validate = .ok () ∧ run.result = .error .overflow ∧
    run.events = [.spiWrite [0x58, 0x40, 0x7f]] ∧ run.state.packer.cursor = 0 := by
  intro program channel run
  have hvalid : program.validate = .ok () := rfl
  obtain ⟨-, hspi, -⟩ := run_overflow_iff (.ofLanes 2) program hvalid
  have hoverflows := hspi channel (by simp [SpiDevice.Unfailing, SpiScript.Faultless, channel])
  have hfind : (program.activeItems 2).find? (·.2.exceeds (some 56)) =
      some (3, .write false (List.replicate 57 0)) := rfl
  obtain ⟨hevents, -, -, hcursor⟩ := hoverflows.first _ _ hfind
  refine ⟨hvalid, hoverflows.overflow_iff.mpr ⟨_, List.mem_of_find?_eq_some hfind, rfl⟩, ?_,
    hcursor⟩
  exact hevents.trans (by decide)

end PanelDriver

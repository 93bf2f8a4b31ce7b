import PanelDriver.Proofs.Execution.Verdict
import PanelDriver.Proofs.Program.Prefix

/-!
Programs with a defect. A run of such a program does what its steps before the defect ask for, and
then it ends with the defect, unless a request has failed before. It sends nothing at its end, so
what then waits in a packer is lost: a run of those steps alone would have sent it
(`run_malformed`).
-/

namespace PanelDriver

namespace Action

variable {ε φ σ τ α β : Type} {p : σ → Prop}

/-- However `x` ends, `p` holds after it if it held before. -/
def Keeps (p : σ → Prop) (x : Action ε σ α) : Prop := ∀ s, p s → p (x s).state

namespace Keeps

theorem pure (a : α) : Keeps p (Pure.pure a : Action ε σ α) := fun _ h => h

theorem fail (e : ε) : Keeps p (Action.fail e : Action ε σ α) := fun _ h => h

theorem ofExcept (r : Except ε α) : Keeps p (Action.ofExcept r : Action ε σ α) := fun _ h => h

theorem record (e : Event) : Keeps p (Action.record e : Action ε σ Unit) := fun _ h => h

theorem state {f : σ → Action ε σ α} (h : ∀ s, Keeps p (f s)) :
    Keeps p (Action.state >>= f) := fun s => h s s

theorem bind {x : Action ε σ α} {f : α → Action ε σ β} (h : Keeps p x)
    (hf : ∀ a, Keeps p (f a)) : Keeps p (x >>= f) := by
  intro s hs
  have hx := h s hs
  rcases hr : x s with ⟨e | a, s', es⟩
  · rw [bind_error hr]
    rwa [hr] at hx
  · rw [bind_ok hr]
    rw [hr] at hx
    exact hf a s' hx

theorem orElse {x : Action ε σ α} {f : ε → Action φ σ α} (h : Keeps p x)
    (hf : ∀ e, Keeps p (f e)) : Keeps p (x.orElse f) := by
  intro s hs
  have hx := h s hs
  rcases hr : x s with ⟨e | a, s', es⟩
  · rw [orElse_error hr]
    rw [hr] at hx
    exact hf e s' hx
  · rw [orElse_ok hr]
    rwa [hr] at hx

end Keeps

theorem events_mapError (f : ε → φ) (x : Action ε σ α) (s : σ) :
    (x.mapError f s).events = (x s).events := by
  rcases hx : x s with ⟨result, s', es⟩
  rw [mapError_eq f hx]

end Action

open PanelDriver.Action (Keeps)

section Bus

variable {β : Type} [SidebandBus β]

/-! ## Breaking off -/

/-- Executes requests and fails, with `e` unless one of them has failed before; what waits is
dropped. -/
def breakOff (asked : List Request) (e : PanelError) : Action PanelError (Channel β) Unit :=
  fun channel =>
    let o := execute asked channel
    ⟨.error (match o.result with
      | .ok _ => e
      | .error first => first), { o.state with packer := o.state.packer.reset }, o.events⟩

theorem conduct_eq_breakOff
    (begins : ∀ c : Channel β, ∃ d es, SidebandBus.begin c = ⟨.ok (), d, es⟩)
    (asked : List Request) (e : PanelError) (channel : Channel β) :
    conduct asked (some e) channel = breakOff asked e channel := by
  obtain ⟨begun, first, hbegin⟩ := begins { channel with packer := channel.packer.reset }
  rcases hall : carryOutAll asked begun with ⟨failed | compared, c, second⟩
  · rw [conduct_of_error hbegin (serveUntil_of_error hall _), breakOff, execute_eq hbegin hall]
  · rw [conduct_of_error hbegin (serveUntil_of_ok hall _), breakOff, execute_eq hbegin hall]

/-- Where a request fails, it does not matter what would have followed. -/
theorem conduct_of_execute_error
    (begins : ∀ c : Channel β, ∃ d es, SidebandBus.begin c = ⟨.ok (), d, es⟩)
    {asked : List Request} {channel c : Channel β} {failed : PanelError} {es : List Event}
    (h : execute asked channel = ⟨.error failed, c, es⟩) (e : PanelError) :
    conduct asked none channel = breakOff asked e channel := by
  obtain ⟨begun, first, hbegin⟩ := begins { channel with packer := channel.packer.reset }
  rcases hall : carryOutAll asked begun with ⟨failed' | compared, c', second⟩
  · rw [conduct_of_error hbegin (serveUntil_of_error hall _), breakOff, execute_eq hbegin hall]
  · rw [execute_eq hbegin hall] at h
    cases h

/-- Where none fails, what waits is sent at the end. -/
theorem events_conduct_of_execute_ok
    (begins : ∀ c : Channel β, ∃ d es, SidebandBus.begin c = ⟨.ok (), d, es⟩)
    {asked : List Request} {channel c : Channel β} {compared : List Comparison} {es : List Event}
    (h : execute asked channel = ⟨.ok compared, c, es⟩) :
    (conduct asked none channel).events = es ++ (SidebandBus.flush c).events := by
  obtain ⟨begun, first, hbegin⟩ := begins { channel with packer := channel.packer.reset }
  rcases hall : carryOutAll asked begun with ⟨failed' | compared', c', second⟩
  · rw [execute_eq hbegin hall] at h
    cases h
  · rw [execute_eq hbegin hall] at h
    cases h
    rcases hflush : SidebandBus.flush c with ⟨failed | _, d, third⟩
    · rw [conduct_of_flush_error hbegin (serveUntil_of_ok hall none) hflush, List.append_assoc]
    · rw [conduct_ok hbegin (serveAll_of_ok hall) hflush, List.append_assoc]

/-! ## What waits at the end -/

/-- However a call on the bus ends, `p` holds after it if it held before. -/
structure Kept (β : Type) [SidebandBus β] (p : Channel β → Prop) : Prop where
  write : ∀ payload generic, Keeps p
    (SidebandBus.write payload generic : Action PanelError (Channel β) Unit)
  readBack : ∀ command generic length, Keeps p
    (Channel.readBack command generic length : Action PanelError (Channel β) Bytes)
  setReturnSize : ∀ size, Keeps p
    (SidebandBus.setReturnSize size : Action PanelError (Channel β) Unit)
  flush : Keeps p (SidebandBus.flush : Action PanelError (Channel β) Unit)

namespace Kept

variable {p : Channel β → Prop}

theorem carryOut (law : Kept β p) (request : Request) :
    Keeps p (PanelDriver.carryOut request : Action PanelError (Channel β) (List Comparison)) := by
  cases request with
  | send generic payload =>
    refine Keeps.bind ?_ fun _ => Keeps.pure []
    cases payload with
    | nil => exact Keeps.pure ()
    | cons b data => exact law.write (b :: data) generic
  | wait ms => exact law.flush.bind fun _ => (Keeps.record _).bind fun _ => Keeps.pure []
  | limit size => exact (law.setReturnSize size).bind fun _ => Keeps.pure []
  | ask query expected =>
    exact (law.readBack query.bytes query.isGeneric expected.length).bind fun _ => Keeps.pure _

theorem carryOutAll (law : Kept β p) (asked : List Request) :
    Keeps p (PanelDriver.carryOutAll asked : Action PanelError (Channel β) (List Comparison)) := by
  induction asked with
  | nil => exact Keeps.pure []
  | cons request rest ih =>
    exact (law.carryOut request).bind fun _ => ih.bind fun _ => Keeps.pure _

end Kept

/-- No run sees what waited before it. -/
theorem run_repack (ctx : Context) (program : Program) (channel : Channel β) (bits : List Bool) :
    (program.run ctx { channel with packer.pending := bits }).Alike (fun c d => c.bus = d.bus)
      (program.run ctx channel) := by
  rw [run_eq_conduct]
  cases program.isEmpty with
  | true => exact ⟨rfl, rfl, rfl⟩
  | false => exact ⟨rfl, rfl, rfl⟩

end Bus

namespace Channel

variable {ε β : Type} {f : Packer → Except ε Packer} {c d : Channel β} {es : List Event}

theorem bus_of_store {result : Except ε Unit} (h : store f c = ⟨result, d, es⟩) :
    d.bus = c.bus := by
  unfold store at h
  split at h <;> cases h <;> rfl

theorem state_of_store_error {e : ε} (h : store f c = ⟨.error e, d, es⟩) : d = c := by
  unfold store at h
  split at h <;> cases h
  rfl

end Channel

namespace SpiBus

/-- In byte framing nothing waits between two calls. -/
structure Idle (c : Channel SpiBus) : Prop where
  bytes : c.bus.config.nineBit = false
  nothing : c.packer.pending = []

theorem idle_reset {c : Channel SpiBus} (h : c.bus.config.nineBit = false) :
    Idle { c with packer := c.packer.reset } := ⟨h, rfl⟩

/-- A flush leaves nothing, whether or not the device took it. -/
theorem idle_flush {c : Channel SpiBus} (h : c.bus.config.nineBit = false) :
    Idle (flush c).state := by
  unfold flush
  split
  · rename_i hempty
    exact ⟨h, List.length_eq_zero_iff.mp (beq_iff_eq.mp hempty)⟩
  · exact ⟨h, rfl⟩

theorem idle_transfer {c : Channel SpiBus} (h : c.bus.config.nineBit = false)
    (start length : Nat) : Idle (transfer start length c).state := by
  refine ⟨?_, rfl⟩
  have hexchange : (exchange c).state.bus.config = c.bus.config := rfl
  simp only [transfer, emptying_apply]
  rcases hx : exchange c with ⟨e | _, filled, es⟩
  · rw [Action.bind_error hx]
    rw [hx] at hexchange
    exact hexchange ▸ h
  · rw [Action.bind_ok hx]
    rw [hx] at hexchange
    exact hexchange ▸ h

theorem idle_write (payload : Bytes) : Keeps Idle (write payload) := by
  intro c h
  simp only [write, Action.state_bind, h.bytes, Bool.false_eq_true, ↓reduceIte]
  split
  · exact h
  · simp only [Channel.reset_bind]
    rcases hs : (Channel.store (·.pushBytes payload) : Action PanelError (Channel SpiBus) Unit)
      { c with packer := c.packer.reset } with ⟨e | _, stored, es⟩
    · rw [Action.bind_error hs, Channel.state_of_store_error hs]
      exact idle_reset h.bytes
    · rw [Action.bind_ok hs]
      exact idle_flush (Channel.bus_of_store hs ▸ h.bytes)

/-- A read leaves nothing, at whichever of its parts it fails. -/
theorem idle_query {c : Channel SpiBus} (h : c.bus.config.nineBit = false) (command : Bytes)
    (length : Nat) : Idle (query command length c).state := by
  have hcommand : storeCommand command c =
      (Channel.store (·.pushBytes command) : Action PanelError (Channel SpiBus) Unit)
        { c with packer := c.packer.reset } := by
    simp only [storeCommand, Action.state_bind, h, Bool.false_eq_true, ↓reduceIte,
      Channel.reset_bind]
  unfold query
  rcases hs : (Channel.store (·.pushBytes command) : Action PanelError (Channel SpiBus) Unit)
    { c with packer := c.packer.reset } with ⟨e | _, asking, es⟩
  · rw [Action.bind_error (hcommand.trans hs), Channel.state_of_store_error hs]
    exact idle_reset h
  · have hasking : asking.bus.config.nineBit = false := Channel.bus_of_store hs ▸ h
    rw [Action.bind_ok (hcommand.trans hs)]
    simp only [Action.state_bind]
    rcases hl : (Channel.store (·.pushOnes (8 * length)) :
      Action PanelError (Channel SpiBus) Unit) asking with ⟨e | _, listening, fs⟩
    · have hstop : ((Channel.store (·.pushOnes (8 * length)) :
          Action PanelError (Channel SpiBus) Unit).orElse fun e =>
            Channel.reset >>= fun _ => Action.fail e) asking =
          ⟨.error e, { listening with packer := listening.packer.reset }, fs ++ []⟩ :=
        Action.orElse_undo hl rfl
      rw [Action.bind_error hstop]
      exact idle_reset (Channel.bus_of_store hl ▸ hasking)
    · rw [Action.bind_ok (Action.orElse_ok hl)]
      exact idle_transfer (Channel.bus_of_store hl ▸ hasking) _ length

theorem kept_idle : Kept SpiBus Idle where
  write payload _ := idle_write payload
  readBack command generic length c h := by
    rw [readBack_eq_query]
    exact idle_query h.bytes command length
  setReturnSize _ := Keeps.pure ()
  flush _ h := idle_flush h.bytes

theorem idle_execute {c : Channel SpiBus} (h : c.bus.config.nineBit = false)
    (asked : List Request) : Idle (execute asked c).state := by
  have hall := kept_idle.carryOutAll asked _ (idle_reset h)
  rcases hr : (carryOutAll asked : Action PanelError (Channel SpiBus) (List Comparison))
    { c with packer := c.packer.reset } with ⟨result, d, es⟩
  rw [hr] at hall
  rw [execute_eq rfl hr]
  exact hall

/-- The frame of what waits. A silent device does not record it. -/
def waiting (c : Channel SpiBus) : List Event :=
  match c.bus.device with
  | .silent => []
  | .scripted _ => if c.packer.pending = [] then [] else [.spiWrite c.packer.frame]

theorem Idle.waiting_eq {c : Channel SpiBus} (h : Idle c) : waiting c = [] := by
  unfold waiting
  split
  · rfl
  · rw [if_pos h.nothing]

theorem events_flush (c : Channel SpiBus) : (flush c).events = waiting c := by
  obtain ⟨⟨device, config⟩, packer⟩ := c
  by_cases hempty : packer.pending = []
  · have hflush : flush ⟨⟨device, config⟩, packer⟩ = ⟨.ok (), ⟨⟨device, config⟩, packer⟩, []⟩ := by
      simp [flush, Packer.isEmpty, Packer.cursor, hempty]
    rw [hflush]
    cases device <;> simp [waiting, hempty]
  · have hflush : flush ⟨⟨device, config⟩, packer⟩ =
        emptying (sendFrame packer.frame) ⟨⟨device, config⟩, packer⟩ := by
      simp [flush, Packer.isEmpty, Packer.cursor, hempty]
    rw [hflush]
    cases device with
    | silent => rfl
    | scripted script =>
      simp only [waiting, hempty, ↓reduceIte, emptying_apply, sendFrame, Channel.onBus, Action.on]
      rw [Action.events_mapError]
      rfl

end SpiBus

/-! ## Runs -/

section Run

variable {β : Type} [SidebandBus β]

/-- A run of a program that breaks off with `e` behind `front`, beside a run of `front`. Sending
what waits in a channel leaves the events `unsent`, and beginning a program the events `begun`. -/
structure BreaksOff (ctx : Context) (program front : Program) (e : PanelError) (channel : Channel β)
    (unsent : Channel β → List Event) (begun : List Event) : Prop where
  run_eq : program.run ctx channel = breakOff (front.requests ctx) e channel
  /-- A request fails before the break: the break is not reached in either program. -/
  stopped : ∀ failed, (execute (front.requests ctx) channel).result = .error failed →
    front.run ctx channel = program.run ctx channel
  /-- None fails: all that is missing is what a run of `front` sends at its end. -/
  reached : ∀ compared, (execute (front.requests ctx) channel).result = .ok compared →
    front.isEmpty = false → (front.run ctx channel).events =
      (program.run ctx channel).events ++ unsent (execute (front.requests ctx) channel).state
  atOnce : front.isEmpty = true → (program.run ctx channel).result = .error e ∧
    (program.run ctx channel).events = begun
  emptied : (program.run ctx channel).state.packer.cursor = 0
  /-- Nor does it matter to any later run what waited. -/
  lost : ∀ (ctx' : Context) (later : Program) (bits : List Bool),
    (later.run ctx' { (program.run ctx channel).state with packer.pending := bits }).Alike
      (fun c d => c.bus = d.bus) (later.run ctx' (program.run ctx channel).state)

theorem breaksOff (begins : ∀ c : Channel β, ∃ d es, SidebandBus.begin c = ⟨.ok (), d, es⟩)
    {program front : Program} {e : PanelError} (hdefect : defect? program.items = some e)
    (hvalid : defect? front.items = none) (hleading : leading program.items = leading front.items)
    {channel : Channel β} {unsent : Channel β → List Event} {begun : List Event}
    (hunsent : ∀ asked compared, (execute asked channel).result = .ok compared →
      (SidebandBus.flush (execute asked channel).state).events =
        unsent (execute asked channel).state)
    (hbegun : (SidebandBus.begin { channel with packer := channel.packer.reset }).events = begun)
    (ctx : Context) : BreaksOff ctx program front e channel unsent begun := by
  have hrun : program.run ctx channel = breakOff (front.requests ctx) e channel := by
    have hempty : program.isEmpty = false := by
      obtain ⟨_ | ⟨byte, rest⟩⟩ := program
      · cases hdefect
      · rfl
    have hrequests : program.requests ctx = front.requests ctx := by
      rw [Program.requests, Program.requests, hleading]
    rw [run_eq_conduct, hempty, hdefect, hrequests]
    exact conduct_eq_breakOff begins _ e channel
  have hfront (hempty : front.isEmpty = false) :
      front.run ctx channel = conduct (front.requests ctx) none channel := by
    rw [run_eq_conduct, hempty, hvalid]
    rfl
  have hnothing (hempty : front.isEmpty = true) : front.requests ctx = [] := by
    obtain ⟨_ | ⟨byte, rest⟩⟩ := front
    · rfl
    · cases hempty
  have hbegin : ∃ d, execute [] channel = ⟨.ok [], d, begun⟩ := by
    obtain ⟨d, es, hd⟩ := begins { channel with packer := channel.packer.reset }
    rw [hd] at hbegun
    subst hbegun
    have hnil : carryOutAll [] d = ⟨.ok [], d, []⟩ := rfl
    exact ⟨d, by rw [execute_eq hd hnil, List.append_nil]⟩
  refine ⟨hrun, fun failed h => ?_, fun compared h hempty => ?_, fun hempty => ?_, ?_, ?_⟩
  · have hempty : front.isEmpty = false := by
      by_contra hempty
      obtain ⟨d, hd⟩ := hbegin
      rw [hnothing (by simpa using hempty), hd] at h
      cases h
    rcases hexec : execute (front.requests ctx) channel with ⟨result, c, es⟩
    rw [hexec] at h
    cases h
    rw [hfront hempty, hrun]
    exact conduct_of_execute_error begins hexec e
  · have hend := hunsent _ _ h
    rcases hexec : execute (front.requests ctx) channel with ⟨result, c, es⟩
    rw [hexec] at h hend
    cases h
    rw [hfront hempty, hrun, events_conduct_of_execute_ok begins hexec, hend]
    simp only [breakOff, hexec]
  · obtain ⟨d, hd⟩ := hbegin
    rw [hrun, hnothing hempty]
    simp only [breakOff, hd]
    exact ⟨trivial, trivial⟩
  · rw [hrun]
    rfl
  · exact fun ctx' later bits => run_repack ctx' later _ bits

end Run

/-- What a program with a defect does. The defect names a place, and up to there the program is
valid. On every bus a run does what the steps before that place ask for, and then fails, by the
first request that fails or else by the defect. So it records the same events as a run of the valid
part alone, or, in nine-bit framing, all but the frame of what still waits at the place; that is
dropped, and does not come up again. If nothing stands before the defect, a run only begins. -/
theorem run_malformed (ctx : Context) (program : Program) (e : PanelError)
    (malformed : program.validate = .error e) :
    ∃ offset, e.place? = some offset ∧ offset < program.length ∧
      (program.before offset).validate = .ok () ∧
      (∀ channel : Channel I2cBus,
        BreaksOff ctx program (program.before offset) e channel (fun _ => []) []) ∧
      (∀ channel : Channel MipiBus,
        BreaksOff ctx program (program.before offset) e channel (fun _ => [])
          (match channel.bus.host with
            | .silent => []
            | .scripted _ => [.lowPower true])) ∧
      ∀ channel : Channel SpiBus,
        BreaksOff ctx program (program.before offset) e channel
          (fun c => if channel.bus.config.nineBit then SpiBus.waiting c else []) [] := by
  obtain ⟨tiles, offset, hplace, hlt, hbefore, hitems⟩ := Program.exists_of_validate_error malformed
  have hvalid := Program.steps_of_items_eq_placed hbefore
  have hdefect : defect? program.items = some e := by
    rw [hitems, defect?_placed]
    rfl
  have hleading : leading program.items = leading (program.before offset).items := by
    have hall := leading_placed 0 (Tile.sizes tiles) []
    rw [List.append_nil] at hall
    rw [hitems, leading_placed, hbefore, hall]
    rfl
  obtain ⟨hfront, -⟩ := steps_eq_ok_iff.mp hvalid
  refine ⟨offset, hplace, hlt, validate_eq_ok_iff.mpr ⟨_, hvalid⟩, fun channel => ?_,
    fun channel => ?_, fun channel => ?_⟩
  · exact breaksOff I2cBus.orderly.begins hdefect hfront hleading (fun _ _ _ => rfl) rfl ctx
  · refine breaksOff MipiBus.orderly.begins hdefect hfront hleading (fun _ _ _ => rfl) ?_ ctx
    obtain ⟨⟨_ | script⟩, packer⟩ := channel <;> rfl
  · refine breaksOff SpiBus.orderly.begins hdefect hfront hleading (fun asked _ _ => ?_) rfl ctx
    refine (SpiBus.events_flush _).trans ?_
    cases hnine : channel.bus.config.nineBit with
    | true => rfl
    | false => exact (SpiBus.idle_execute hnine asked).waiting_eq

/-- A write, and then no opcode behind a filter that names other lanes. In nine-bit framing the
write is never sent, though it is sent without the defect. -/
theorem run_malformed_pending :
    let program : Program := ⟨[0x02, 0xb0, 0x01, 0x4b, 0x77]⟩
    let channel : Channel SpiBus := ⟨⟨.scripted {}, { nineBit := true }⟩, {}⟩
    let run := program.run (.ofLanes 2) channel
    let front := (program.before 4).run (.ofLanes 2) channel
    program.validate = .error (.unknownOpcode 4 0x77) ∧
    run.result = .error (.unknownOpcode 4 0x77) ∧ run.events = [] ∧
    front.events = run.events ++ [.spiWrite [0x58, 0x40, 0x7f]] ∧ run.state.packer.cursor = 0 := by
  intro program channel run front
  have hdefect : program.validate = .error (.unknownOpcode 4 0x77) := rfl
  obtain ⟨offset, hplace, -, -, -, -, hspi⟩ :=
    run_malformed (.ofLanes 2) program (.unknownOpcode 4 0x77) hdefect
  obtain rfl : 4 = offset := Option.some.inj hplace
  have hbreaks := hspi channel
  refine ⟨hdefect, by decide, by decide, ?_, hbreaks.emptied⟩
  exact (hbreaks.reached [] rfl rfl).trans (by decide)

end PanelDriver

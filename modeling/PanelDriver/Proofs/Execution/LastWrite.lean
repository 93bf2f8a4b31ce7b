import PanelDriver.Proofs.Execution.Verdict

/-!
What a write from the scratch buffer hands to the bus. The payloads of a run are what a watcher
between the run and its bus sees, who changes nothing. A byte of the scratch buffer comes out of the
whole history of the steps that placed values in it: each of its bits belongs to the last active
step that covered it (`scratch_last_write`).
-/

namespace PanelDriver

/-! ## The bits of the scratch buffer -/

/-- Bit `n` of a byte string, bit 0 the lowest of the first byte; beyond its end there are zeros. -/
def Bytes.bit (data : Bytes) (n : Nat) : Bool := (data.getD (n / 8) 0).toNat.testBit (n % 8)

namespace Scratch

theorem getLsbD_mask {start length n : Nat} (hlength : length ≤ 256) (hn : n < 256) :
    (mask start length).getLsbD n = decide (start ≤ n ∧ n < start + length) := by
  rw [mask, BitVec.getLsbD_shiftLeft, BitVec.getLsbD_ushiftRight, BitVec.getLsbD_allOnes]
  by_cases hstart : start ≤ n
  · have hshort : 256 - length + (n - start) < 256 ↔ n < start + length := by omega
    simp [hn, hstart, hshort]
  · simp [hstart, Nat.lt_of_not_le hstart]

/-- Placing a value replaces the bits that it covers, and no other. -/
theorem getLsbD_place (s : Scratch) (start length : UInt8) (value : UInt32) {n : Nat}
    (hn : n < 256) :
    (s.place start length value).getLsbD n =
      if start.toNat ≤ n ∧ n < start.toNat + length.toNat then
        value.toNat.testBit (n - start.toNat)
      else s.getLsbD n := by
  have hlength : length.toNat ≤ 256 := Nat.le_of_lt length.toNat_lt
  simp only [place, BitVec.getLsbD_or, BitVec.getLsbD_and, BitVec.getLsbD_not,
    getLsbD_mask hlength hn, BitVec.getLsbD_shiftLeft, BitVec.getLsbD_setWidth]
  by_cases hcovers : start.toNat ≤ n ∧ n < start.toNat + length.toNat
  · have hvalue : value.toBitVec.getLsbD (n - start.toNat) =
        value.toNat.testBit (n - start.toNat) := rfl
    have hindex : n - start.toNat < 256 := by omega
    simp [hcovers, hn, hindex, hvalue]
  · simp [hcovers, hn]

theorem bit_take_toBytes (s : Scratch) {count n : Nat} (hn : n < 8 * count) (hend : n < 256) :
    Bytes.bit (s.toBytes.take count) n = s.getLsbD n := by
  have hbyte : n / 8 < count := by omega
  have hrange : n / 8 < byteCount := by
    show n / 8 < 32
    omega
  have hget : (s.toBytes.take count).getD (n / 8) 0 =
      .ofBitVec (s.extractLsb' (8 * (n / 8)) 8) := by
    simp [List.getD_eq_getElem?_getD, hbyte, toBytes, hrange]
  have hbit : (UInt8.ofBitVec (s.extractLsb' (8 * (n / 8)) 8)).toNat.testBit (n % 8) =
      (s.extractLsb' (8 * (n / 8)) 8).getLsbD (n % 8) := rfl
  have hmod : n % 8 < 8 := Nat.mod_lt n (by decide)
  rw [Bytes.bit, hget, hbit, BitVec.getLsbD_extractLsb', Nat.div_add_mod]
  simp [hmod]

end Scratch

/-! ## The last step that covers a bit -/

/-- A value put at `length` bits of the scratch buffer, from bit `start` on. -/
structure Placement where
  start : Nat
  length : Nat
  value : Nat

/-- The bit belongs to the placement; what would lie beyond bit 255 is dropped. -/
def Placement.covers (p : Placement) (n : Nat) : Bool :=
  decide (p.start ≤ n ∧ n < min (p.start + p.length) 256)

theorem Placement.covers_iff (p : Placement) {n : Nat} (hn : n < 256) :
    p.covers n = true ↔ p.start ≤ n ∧ n < p.start + p.length := by
  simp [covers, hn]

/-- What a step places: its value, or a field of the timing without its lowest bits. -/
def Step.placement? (t : VideoTiming) : Step → Option Placement
  | .constant start length value => some ⟨start.toNat, length.toNat, value.toNat⟩
  | .timing field start length dropped =>
    some ⟨start.toNat, length.toNat, (t.field field).toNat >>> dropped.toNat⟩
  | _ => none

/-- The last placement among the steps that covers a bit. -/
def lastCovering (t : VideoTiming) (steps : List Step) (n : Nat) : Option Placement :=
  ((steps.filterMap (·.placement? t)).filter (·.covers n)).getLast?

/-- The bit that the last covering placement has there; it is zero where there is none, and where
the placed value has no bits any more. -/
def lastBit (t : VideoTiming) (steps : List Step) (n : Nat) : Bool :=
  match lastCovering t steps n with
  | none => false
  | some p => p.value.testBit (n - p.start)

theorem lastBit_nil (t : VideoTiming) (n : Nat) : lastBit t [] n = false := rfl

theorem lastBit_append_of_not {t : VideoTiming} {step : Step} {n : Nat} (steps : List Step)
    (h : ∀ p, step.placement? t = some p → p.covers n = false) :
    lastBit t (steps ++ [step]) n = lastBit t steps n := by
  have hnone : ([step].filterMap (·.placement? t)).filter (·.covers n) = [] := by
    cases hstep : step.placement? t with
    | none => simp [hstep]
    | some p => simp [hstep, h p hstep]
  rw [lastBit, lastCovering, List.filterMap_append, List.filter_append, hnone, List.append_nil]
  rfl

theorem lastBit_append_of_covers {t : VideoTiming} {step : Step} {p : Placement} {n : Nat}
    (steps : List Step) (hstep : step.placement? t = some p) (hcovers : p.covers n = true) :
    lastBit t (steps ++ [step]) n = p.value.testBit (n - p.start) := by
  have hlast : ([step].filterMap (·.placement? t)).filter (·.covers n) = [p] := by
    simp [hstep, hcovers]
  rw [lastBit, lastCovering, List.filterMap_append, List.filter_append, hlast,
    List.getLast?_append]
  rfl

theorem toNat_sourceValue (t : VideoTiming) (field : TimingField) (dropped : UInt8) :
    (sourceValue t field dropped).toNat = (t.field field).toNat >>> dropped.toNat := by
  unfold sourceValue
  split
  · next h =>
    have hdropped : dropped.toNat < 32 := UInt8.lt_iff_toNat_lt.mp h
    rw [UInt32.toNat_shiftRight, UInt8.toNat_toUInt32, Nat.mod_eq_of_lt hdropped]
  · next h =>
    have hdropped : 32 ≤ dropped.toNat := Nat.not_lt.mp fun hlt => h (UInt8.lt_iff_toNat_lt.mpr hlt)
    have hfield : (t.field field).toNat < 2 ^ dropped.toNat :=
      Nat.lt_of_lt_of_le (t.field field).toNat_lt (Nat.pow_le_pow_right (by decide) hdropped)
    rw [Nat.shiftRight_eq_div_pow, Nat.div_eq_of_lt hfield]
    rfl

/-- The buffer after the steps holds the last bit placed at every place. -/
def Scratch.After (s : Scratch) (t : VideoTiming) (steps : List Step) : Prop :=
  ∀ n < 256, s.getLsbD n = lastBit t steps n

namespace Scratch

theorem after_nil (t : VideoTiming) : Scratch.After 0 t [] := by
  intro n hn
  rw [lastBit_nil]
  exact BitVec.getLsbD_zero

variable {s : Scratch} {t : VideoTiming} {steps : List Step}

theorem After.skip (h : s.After t steps) {step : Step} (hstep : step.placement? t = none) :
    s.After t (steps ++ [step]) := by
  intro n hn
  rw [h n hn, lastBit_append_of_not]
  intro p hp
  rw [hstep] at hp
  cases hp

theorem After.place (h : s.After t steps) {step : Step} {start length : UInt8} {value : UInt32}
    (hstep : step.placement? t = some ⟨start.toNat, length.toNat, value.toNat⟩) :
    (s.place start length value).After t (steps ++ [step]) := by
  intro n hn
  rw [getLsbD_place s start length value hn]
  split
  · next hcovers =>
    rw [lastBit_append_of_covers steps hstep ((Placement.covers_iff _ hn).mpr hcovers)]
  · next hcovers =>
    rw [h n hn, lastBit_append_of_not]
    intro p hp
    rw [hstep] at hp
    cases hp
    exact Bool.eq_false_iff.mpr fun hin => hcovers ((Placement.covers_iff _ hn).mp hin)

end Scratch

/-! ## Payloads -/

/-- The front of the scratch buffer: as many bytes as it has, up to `length`, and every bit of them
the last that the steps placed there. -/
structure FrontOf (t : VideoTiming) (steps : List Step) (length : Nat) (payload : Bytes) :
    Prop where
  length_eq : payload.length = min length 32
  bit_eq : ∀ n < 8 * payload.length, payload.bit n = lastBit t steps n

theorem Scratch.After.frontOf {s : Scratch} {t : VideoTiming} {steps : List Step}
    (h : s.After t steps) (length : Nat) : FrontOf t steps length (s.toBytes.take length) where
  length_eq := by rw [List.length_take, Scratch.length_toBytes]
  bit_eq n hn := by
    rw [List.length_take, Scratch.length_toBytes] at hn
    have hend : n < 256 := by omega
    rw [Scratch.bit_take_toBytes s (by omega) hend, h n hend]

/-- A payload as it is handed over, with the kind of packet asked for; an empty one is not. -/
def offer (generic : Bool) (payload : Bytes) : List (Bool × Bytes) :=
  if payload.isEmpty then [] else [(generic, payload)]

namespace Step

def isWrite : Step → Bool
  | write _ _ | writeScratch _ _ => true
  | _ => false

end Step

/-- What steps hand over that are all carried out, one after another, after the steps `done`. -/
inductive Hands (t : VideoTiming) : List Step → List Step → List (Bool × Bytes) → Prop
  | nothing (done : List Step) : Hands t done [] []
  | write {done rest : List Step} {later : List (Bool × Bytes)} (generic : Bool) (payload : Bytes) :
      Hands t (done ++ [.write generic payload]) rest later →
      Hands t done (.write generic payload :: rest) (offer generic payload ++ later)
  | scratch {done rest : List Step} {later : List (Bool × Bytes)} (generic : Bool) (length : UInt8)
      (payload : Bytes) : FrontOf t done length.toNat payload →
      Hands t (done ++ [.writeScratch generic length]) rest later →
      Hands t done (.writeScratch generic length :: rest) (offer generic payload ++ later)
  | other {done rest : List Step} {later : List (Bool × Bytes)} (step : Step) :
      step.isWrite = false → Hands t (done ++ [step]) rest later →
      Hands t done (step :: rest) later

/-- What a request hands over. -/
def Request.offers : Request → List (Bool × Bytes)
  | .send generic payload => offer generic payload
  | _ => []

theorem hands_requests {t : VideoTiming} {s : Scratch} {done steps : List Step}
    (h : s.After t done) : Hands t done steps ((requests t s steps).flatMap Request.offers) := by
  induction steps generalizing s done with
  | nil => exact .nothing done
  | cons step rest ih =>
    cases step with
    | write generic payload => exact .write generic payload (ih (h.skip rfl))
    | writeScratch generic length =>
      exact .scratch generic length _ (h.frontOf length.toNat) (ih (h.skip rfl))
    | constant start length value => exact .other _ rfl (ih (h.place rfl))
    | timing field start length dropped =>
      refine .other _ rfl (ih (h.place ?_))
      rw [toNat_sourceValue]
      rfl
    | delay ms | returnSize size | read query expected | laneFilter lanes =>
      exact .other _ rfl (ih (h.skip rfl))

/-! ## A watched bus -/

/-- A bus with a record of the payloads that were handed to it. -/
structure Watched (β : Type) where
  bus : β
  handed : List (Bool × Bytes) := []

namespace Watched

variable {ε β α : Type}

/-- The bus itself, with the packer. -/
def inner (c : Channel (Watched β)) : Channel β := ⟨c.bus.bus, c.packer⟩

/-- The same record, and a bus and a packer as they are now. -/
def goOn (c : Channel (Watched β)) (d : Channel β) : Channel (Watched β) :=
  ⟨⟨d.bus, c.bus.handed⟩, d.packer⟩

/-- Another payload on the record. -/
def note (generic : Bool) (payload : Bytes) (c : Channel (Watched β)) : Channel (Watched β) :=
  { c with bus := { c.bus with handed := c.bus.handed ++ [(generic, payload)] } }

def through (x : Action ε (Channel β) α) : Action ε (Channel (Watched β)) α :=
  x.on inner fun d c => goOn c d

instance [SidebandBus β] : SidebandBus (Watched β) where
  kind := SidebandBus.kind β
  begin := through SidebandBus.begin
  write payload generic := do
    Action.update (note generic payload)
    through (SidebandBus.write payload generic)
  read command generic := (SidebandBus.read command generic).on
    (fun (c, buffer) => (inner c, buffer)) fun (d, buffer) (c, _) => (goOn c d, buffer)
  setReturnSize size := through (SidebandBus.setReturnSize size)
  flush := through SidebandBus.flush

end Watched

/-- On a watched bus `x` does what `y` does on the bus itself. It hands over a front of `all`, and
all of it if it succeeds. -/
def Mirrors {ε β α : Type} (all : List (Bool × Bytes)) (x : Action ε (Channel (Watched β)) α)
    (y : Action ε (Channel β) α) : Prop :=
  ∀ c, ∃ result d events handed, x c = ⟨result, d, events⟩ ∧
    y (Watched.inner c) = ⟨result, Watched.inner d, events⟩ ∧
    d.bus.handed = c.bus.handed ++ handed ∧ handed <+: all ∧ (result.isOk = true → handed = all)

namespace Mirrors

variable {ε β α γ : Type} {all more : List (Bool × Bytes)}

/-- What hands over nothing. -/
theorem of_unseen {x : Action ε (Channel (Watched β)) α} {y : Action ε (Channel β) α}
    (h : ∀ c, x c = ⟨(y (Watched.inner c)).result, Watched.goOn c (y (Watched.inner c)).state,
      (y (Watched.inner c)).events⟩) : Mirrors [] x y := fun c =>
  ⟨_, _, _, [], h c, rfl, (List.append_nil _).symm, List.prefix_rfl, fun _ => rfl⟩

theorem pure (a : α) :
    Mirrors [] (Pure.pure a : Action ε (Channel (Watched β)) α) (Pure.pure a) :=
  of_unseen fun _ => rfl

theorem record (e : Event) :
    Mirrors [] (Action.record e : Action ε (Channel (Watched β)) Unit) (Action.record e) :=
  of_unseen fun _ => rfl

theorem through (x : Action ε (Channel β) α) : Mirrors [] (Watched.through x) x :=
  of_unseen fun _ => rfl

theorem reset : Mirrors [] (Channel.reset : Action ε (Channel (Watched β)) Unit) Channel.reset :=
  of_unseen fun _ => rfl

theorem bind {x : Action ε (Channel (Watched β)) α} {y : Action ε (Channel β) α}
    {f : α → Action ε (Channel (Watched β)) γ} {g : α → Action ε (Channel β) γ}
    (h : Mirrors all x y) (hf : ∀ a, Mirrors more (f a) (g a)) :
    Mirrors (all ++ more) (x >>= f) (y >>= g) := by
  intro c
  obtain ⟨result, d, events, handed, hx, hy, hd, hprefix, hall⟩ := h c
  cases result with
  | error e =>
    rw [Action.bind_error hx, Action.bind_error hy]
    exact ⟨_, _, _, handed, rfl, rfl, hd, hprefix.trans (List.prefix_append _ _), nofun⟩
  | ok a =>
    obtain ⟨result', d', events', handed', hx', hy', hd', hprefix', hall'⟩ := hf a d
    obtain rfl := hall rfl
    rw [Action.bind_ok hx, Action.bind_ok hy, hx', hy']
    refine ⟨_, _, _, handed ++ handed', rfl, rfl, ?_, ?_, fun hok => by rw [hall' hok]⟩
    · rw [hd', hd, List.append_assoc]
    · exact (List.prefix_append_right_inj handed).mpr hprefix'

/-- What hands over nothing may follow. -/
theorem andThen {x : Action ε (Channel (Watched β)) α} {y : Action ε (Channel β) α}
    {f : α → Action ε (Channel (Watched β)) γ} {g : α → Action ε (Channel β) γ}
    (h : Mirrors all x y) (hf : ∀ a, Mirrors [] (f a) (g a)) :
    Mirrors all (x >>= f) (y >>= g) := by
  have hbind := h.bind hf
  rwa [List.append_nil] at hbind

/-- What empties the packer after a failure still fails. -/
theorem undo {x : Action ε (Channel (Watched β)) α} {y : Action ε (Channel β) α}
    (h : Mirrors all x y) :
    Mirrors all (x.orElse fun e => Channel.reset >>= fun _ => Action.fail e)
      (y.orElse fun e => Channel.reset >>= fun _ => Action.fail e) := by
  intro c
  obtain ⟨result, d, events, handed, hx, hy, hd, hprefix, hall⟩ := h c
  cases result with
  | error e =>
    rw [Action.orElse_error hx, Action.orElse_error hy]
    exact ⟨_, _, _, handed, rfl, rfl, hd, hprefix, nofun⟩
  | ok a =>
    rw [Action.orElse_ok hx, Action.orElse_ok hy]
    exact ⟨_, _, _, handed, rfl, rfl, hd, hprefix, hall⟩

end Mirrors

section Serve

variable {β : Type} [SidebandBus β]

theorem mirrors_send (payload : Bytes) (generic : Bool) :
    Mirrors (offer generic payload)
      (send payload generic : Action PanelError (Channel (Watched β)) Unit)
      (send payload generic) := by
  cases payload with
  | nil => exact Mirrors.pure ()
  | cons b data =>
    -- The payload is on the record whether or not the bus takes it.
    intro c
    exact ⟨_, _, _, [(generic, b :: data)], rfl, rfl, rfl, List.prefix_rfl, fun _ => rfl⟩

theorem mirrors_readBack (command : Bytes) (generic : Bool) (length : Nat) :
    Mirrors [] (Channel.readBack command generic length :
        Action PanelError (Channel (Watched β)) Bytes)
      (Channel.readBack command generic length) :=
  Mirrors.of_unseen fun _ => rfl

theorem mirrors_serve (request : Request) :
    Mirrors request.offers (serve request : Action PanelError (Channel (Watched β)) Bool)
      (serve request) := by
  cases request with
  | send generic payload => exact (mirrors_send payload generic).andThen fun _ => .pure false
  | wait ms =>
    refine (Mirrors.through SidebandBus.flush).bind fun _ => ?_
    exact (Mirrors.record _).bind fun _ => .pure false
  | limit size =>
    exact (Mirrors.through (SidebandBus.setReturnSize size)).bind fun _ => .pure false
  | ask query expected => exact (mirrors_readBack _ _ _).bind fun _ => .pure _

theorem mirrors_serveAll (asked : List Request) (mismatch : Bool) :
    Mirrors (asked.flatMap Request.offers)
      (serveAll mismatch asked : Action PanelError (Channel (Watched β)) Bool)
      (serveAll mismatch asked) := by
  induction asked generalizing mismatch with
  | nil => exact .pure mismatch
  | cons request rest ih => exact (mirrors_serve request).bind fun found => ih (mismatch || found)

/-- A run of a valid program, up to the verdict on what its reads found. -/
theorem mirrors_attend (asked : List Request) :
    Mirrors (asked.flatMap Request.offers)
      (attend asked none : Action PanelError (Channel (Watched β)) Bool) (attend asked none) := by
  have hserve : Mirrors (asked.flatMap Request.offers)
      (serveUntil false asked none : Action PanelError (Channel (Watched β)) Bool)
      (serveUntil false asked none) := (mirrors_serveAll asked false).andThen fun _ => .pure _
  refine Mirrors.reset.bind fun _ => (Mirrors.through SidebandBus.begin).bind fun _ => ?_
  refine hserve.undo.andThen fun _ => ?_
  exact (Mirrors.through SidebandBus.flush).bind fun _ => .pure _

/-- Where a run is a success or a mismatch, everything has been handed over. -/
theorem mirrors_conduct (asked : List Request) (c : Channel (Watched β)) :
    let run : Outcome PanelError (Channel β) Unit := conduct asked none (Watched.inner c)
    ∃ d handed, conduct asked none c = ⟨run.result, d, run.events⟩ ∧ Watched.inner d = run.state ∧
      d.bus.handed = c.bus.handed ++ handed ∧ handed <+: asked.flatMap Request.offers ∧
      (Confined β → run.result = .ok () ∨ run.result = .error .mismatch →
        handed = asked.flatMap Request.offers) := by
  intro run
  obtain ⟨result, d, events, handed, hx, hy, hd, hprefix, hall⟩ := mirrors_attend asked c
  have hrun : run = conduct asked none (Watched.inner c) := rfl
  rw [conduct_eq_attend] at hrun ⊢
  cases result with
  | error e =>
    rw [Action.bind_error hy] at hrun
    rw [Action.bind_error hx, hrun]
    refine ⟨d, handed, rfl, rfl, hd, hprefix, fun law hend => ?_⟩
    have herror := ((law.attend asked none) (Watched.inner c)).error e (by rw [hy])
    rcases herror with hfault | hdefect
    · rcases hend with hend | hend <;> cases hend
      exact absurd rfl hfault.ne_mismatch
    · cases hdefect
  | ok mismatch =>
    rw [Action.bind_ok hy] at hrun
    rw [Action.bind_ok hx, hrun]
    cases mismatch <;> exact ⟨d, handed, rfl, rfl, hd, hprefix, fun _ _ => hall rfl⟩

end Serve

/-- A valid program on any bus. A watcher changes nothing, and sees the payloads that the active
steps hand over, one after another; all of them, unless the bus has failed. Those of scratch writes
are fronts of the buffer in which every bit is the last that an earlier active step placed there. -/
theorem scratch_last_write {β : Type} [SidebandBus β] (ctx : Context) (program : Program)
    (steps : List Step) (h : program.steps = .ok steps) (channel : Channel β) :
    let run := program.run ctx channel
    let watched := program.run ctx (⟨⟨channel.bus, []⟩, channel.packer⟩ : Channel (Watched β))
    watched.result = run.result ∧ watched.events = run.events ∧
    Watched.inner watched.state = run.state ∧
    ∃ all, Hands ctx.timing [] (active ctx.lanes steps) all ∧
      watched.state.bus.handed <+: all ∧
      (Confined β → run.result = .ok () ∨ run.result = .error .mismatch →
        watched.state.bus.handed = all) := by
  intro run watched
  have hrequests : program.requests ctx = requests ctx.timing 0 (active ctx.lanes steps) :=
    Program.requests_of_steps h
  have hhands : Hands ctx.timing [] (active ctx.lanes steps)
      ((program.requests ctx).flatMap Request.offers) := by
    rw [hrequests]
    exact hands_requests (Scratch.after_nil ctx.timing)
  have hrun : run = program.run ctx channel := rfl
  have hwatched : watched = program.run ctx ⟨⟨channel.bus, []⟩, channel.packer⟩ := rfl
  rw [run_eq_conduct, (steps_eq_ok_iff.mp h).1] at hrun hwatched
  cases hempty : program.isEmpty with
  | true =>
    obtain ⟨_ | ⟨byte, rest⟩⟩ := program
    · rw [hrun, hwatched]
      exact ⟨rfl, rfl, rfl, _, hhands, List.prefix_rfl, fun _ _ => rfl⟩
    · cases hempty
  | false =>
    obtain ⟨d, handed, hconduct, hstate, hd, hprefix, hall⟩ :=
      mirrors_conduct (program.requests ctx)
        (⟨⟨channel.bus, []⟩, channel.packer⟩ : Channel (Watched β))
    simp only [hempty, Bool.false_eq_true, ↓reduceIte] at hrun hwatched
    rw [hwatched, hconduct, hrun]
    simp only [hd, List.nil_append]
    exact ⟨rfl, rfl, hstate, _, hhands, hprefix, hall⟩

/-- Values that overlap, a step that is skipped, a value of forty bits of which eight are left over,
and one that is cut off at the end of the buffer. -/
theorem scratch_last_write_overlap :
    let program : Program := ⟨[0x4c, 4, 8, 0xab, 0, 0, 0, 0x49, 0x4c, 0, 8, 0xff, 0, 0, 0,
      0x4c, 8, 40, 5, 0, 0, 0, 0xbf, 2, 0x4c, 252, 8, 0xff, 0, 0, 0, 0x3f, 0, 0x3f, 40]⟩
    let steps : List Step := [.constant 4 8 0xab, .laneFilter 2, .constant 0 8 0xff,
      .constant 8 40 5, .writeScratch true 2, .constant 252 8 0xff, .writeScratch false 0,
      .writeScratch false 40]
    let run := program.run (.ofLanes 4) (⟨⟨⟨.scripted {}⟩, []⟩, {}⟩ : Channel (Watched MipiBus))
    program.steps = .ok steps ∧ run.result = .ok () ∧
    Hands (Context.ofLanes 4).timing [] (active 4 steps)
      [(true, [0xb0, 0x05]), (false, [0xb0, 0x05] ++ Bytes.zeros 29 ++ [0xf0])] := by
  intro program steps run
  have hsteps : program.steps = .ok steps := rfl
  obtain ⟨hresult, -, -, all, hhands, -, hall⟩ := scratch_last_write (.ofLanes 4) program steps
    hsteps (⟨⟨.scripted {}⟩, {}⟩ : Channel MipiBus)
  have hok : run.result = .ok () := rfl
  have hhanded := hall MipiBus.confined (.inl (hresult.symm.trans hok))
  refine ⟨hsteps, hok, ?_⟩
  rw [← hhanded] at hhands
  exact hhands

end PanelDriver

import Mathlib.Data.Nat.Digits.Defs
import PanelDriver.Proofs.Execution.Attempts
import PanelDriver.Proofs.Program.Grammar

/-!
What the result of a run means. A run that is not stopped by its first error compares what each of
its reads brought with what was expected; it reports a mismatch if and only if some of them differ,
and then only when all else has succeeded and has been sent (`run_ends`).
-/

namespace PanelDriver

/-! ## Comparisons -/

namespace Bytes

/-- Up to eight bytes lose none of their bits in a number. -/
theorem toNat_number {data : Bytes} (h : data.length ≤ 8) :
    (number data).toNat = Nat.ofDigits 256 (data.map UInt8.toNat) := by
  induction data with
  | nil => rfl
  | cons b rest ih =>
    have hnumber : number (b :: rest) = b.toUInt64 + 256 * number rest := rfl
    have hrest := ih (Nat.le_of_succ_le h)
    have hdigits : Nat.ofDigits 256 (rest.map UInt8.toNat) < 256 ^ 7 := by
      refine Nat.lt_of_lt_of_le (Nat.ofDigits_lt_base_pow_length (by decide) ?_)
        (Nat.pow_le_pow_right (by decide) ?_)
      · intro digit hdigit
        obtain ⟨c, -, rfl⟩ := List.mem_map.mp hdigit
        exact c.toNat_lt
      · rw [List.length_map]
        exact Nat.le_of_succ_le_succ h
    have hb := b.toNat_lt
    rw [hnumber, UInt64.toNat_add, UInt64.toNat_mul, UInt8.toNat_toUInt64, hrest, List.map_cons,
      Nat.ofDigits_cons]
    simp only [UInt64.reduceToNat]
    omega

theorem number_inj {data other : Bytes} (hlength : data.length = other.length)
    (hshort : data.length ≤ 8) (h : number data = number other) : data = other := by
  have hsmall (data : Bytes) : ∀ digit ∈ data.map UInt8.toNat, digit < 256 := by
    intro digit hdigit
    obtain ⟨b, -, rfl⟩ := List.mem_map.mp hdigit
    exact b.toNat_lt
  have hdigits := congrArg UInt64.toNat h
  rw [toNat_number hshort, toNat_number (hlength ▸ hshort)] at hdigits
  have hmap := Nat.ofDigits_inj_of_len_eq (by decide) (by simpa using hlength) (hsmall data)
    (hsmall other) hdigits
  exact (List.map_inj_right fun _ _ => UInt8.toNat_inj.mp).mp hmap

/-- For short strings of one length, to be other numbers is to be other strings. -/
theorem differ_eq_true_iff {data other : Bytes} (hlength : data.length = other.length)
    (hshort : data.length ≤ 8) : differ data other = true ↔ data ≠ other := by
  rw [differ, bne_iff_ne]
  refine not_congr ⟨fun h => ?_, fun h => by rw [h]⟩
  have hfit := number_inj (by simp) (by simp) h
  rw [fit, fit, List.take_of_length_le hshort, List.take_of_length_le (by omega)] at hfit
  exact (List.append_inj hfit hlength).1

end Bytes

/-- What a read compares: the bytes it expects, and those that it leaves in its buffer, in which
there are zeros before its first attempt. -/
structure Comparison where
  expected : Bytes
  reply : Bytes

namespace Comparison

/-- There are as many bytes as are expected, one to eight. -/
def Sized (m : Comparison) : Prop :=
  m.reply.length = m.expected.length ∧ 1 ≤ m.expected.length ∧ m.expected.length ≤ 8

/-- Some byte is not the expected one. -/
def Differs (m : Comparison) : Prop :=
  ∃ i < m.expected.length, m.reply[i]? ≠ m.expected[i]?

theorem differ_eq_true_iff {m : Comparison} (h : m.Sized) :
    Bytes.differ m.reply m.expected = true ↔ m.Differs := by
  obtain ⟨hlength, -, hshort⟩ := h
  rw [Bytes.differ_eq_true_iff hlength (by omega)]
  constructor
  · intro hne
    by_contra hsame
    simp only [Differs, not_exists, not_and, not_not] at hsame
    refine hne (List.ext_getElem? fun i => ?_)
    by_cases hi : i < m.expected.length
    · exact hsame i hi
    · rw [List.getElem?_eq_none (by omega), List.getElem?_eq_none (by omega)]
  · rintro ⟨i, -, hi⟩ hsame
    exact hi (by rw [hsame])

end Comparison

/-! ## Requests carried out -/

/-- What a read among the requests expects. -/
def Request.expected? : Request → Option Bytes
  | .ask _ expected => some expected
  | _ => none

section CarryOut

variable {β : Type} [SidebandBus β]

/-- Carries out a request; a read gives what it compares. -/
def carryOut : Request → Action PanelError (Channel β) (List Comparison)
  | .send generic payload => do
    send payload generic
    pure []
  | .wait ms => do
    SidebandBus.flush
    Action.record (.delayMs ms.toUInt32)
    pure []
  | .limit size => do
    SidebandBus.setReturnSize size
    pure []
  | .ask query expected => do
    let reply ← Channel.readBack query.bytes query.isGeneric expected.length
    pure [⟨expected, reply⟩]

/-- Carries out requests one after another, up to the first error. -/
def carryOutAll : List Request → Action PanelError (Channel β) (List Comparison)
  | [] => pure []
  | request :: rest => do
    let compared ← carryOut request
    let later ← carryOutAll rest
    pure (compared ++ later)

/-- The first part of a run. -/
def execute (asked : List Request) : Action PanelError (Channel β) (List Comparison) := do
  Channel.reset
  SidebandBus.begin
  carryOutAll asked

/-- Some comparison has found another reply. -/
def foundMismatch (compared : List Comparison) : Bool :=
  compared.any fun m => Bytes.differ m.reply m.expected

theorem serve_eq_carryOut (request : Request) :
    (serve request : Action PanelError (Channel β) Bool) =
      carryOut request >>= fun compared => pure (foundMismatch compared) := by
  cases request <;> simp [serve, carryOut, foundMismatch]

/-- What is carried out does not depend on what was found before. -/
theorem serveAll_eq_carryOutAll (asked : List Request) (mismatch : Bool) :
    (serveAll mismatch asked : Action PanelError (Channel β) Bool) =
      carryOutAll asked >>= fun compared => pure (mismatch || foundMismatch compared) := by
  induction asked generalizing mismatch with
  | nil => simp [serveAll, carryOutAll, foundMismatch]
  | cons request rest ih =>
    simp [serveAll, carryOutAll, serve_eq_carryOut, ih, foundMismatch, Bool.or_assoc]

theorem serveAll_of_ok {asked : List Request} {compared : List Comparison} {c d : Channel β}
    {es : List Event} (h : carryOutAll asked c = ⟨.ok compared, d, es⟩) :
    serveAll false asked c = ⟨.ok (foundMismatch compared), d, es⟩ := by
  rw [serveAll_eq_carryOutAll, Action.bind_ok h]
  simp

theorem serveUntil_of_ok {asked : List Request} {compared : List Comparison} {c d : Channel β}
    {es : List Event} (h : carryOutAll asked c = ⟨.ok compared, d, es⟩)
    (defect : Option PanelError) : serveUntil false asked defect c =
      ⟨match defect with
        | none => .ok (foundMismatch compared)
        | some e => .error e, d, es⟩ := by
  rw [serveUntil, serveAll_eq_carryOutAll, bind_assoc, Action.bind_ok h]
  cases defect <;> simp [Action.fail]

theorem serveUntil_of_error {asked : List Request} {c d : Channel β} {es : List Event}
    {e : PanelError} (h : carryOutAll asked c = ⟨.error e, d, es⟩) (defect : Option PanelError) :
    serveUntil false asked defect c = ⟨.error e, d, es⟩ := by
  rw [serveUntil, serveAll_eq_carryOutAll, bind_assoc, Action.bind_error h]

/-- A run that stops empties the packer. -/
theorem conduct_of_error {asked : List Request} {defect : Option PanelError}
    {channel begun d : Channel β} {first second : List Event} {e : PanelError}
    (hbegin : SidebandBus.begin { channel with packer := channel.packer.reset } =
      ⟨.ok (), begun, first⟩)
    (hserve : serveUntil false asked defect begun = ⟨.error e, d, second⟩) :
    conduct asked defect channel =
      ⟨.error e, { d with packer := d.packer.reset }, first ++ second⟩ := by
  have hreset : (Channel.reset : Action PanelError (Channel β) Unit) d =
      ⟨.ok (), { d with packer := d.packer.reset }, []⟩ := rfl
  have hstop := Action.orElse_undo hserve hreset
  simp only [conduct, Channel.reset_bind] at hstop ⊢
  rw [Action.bind_ok hbegin, Action.bind_error hstop, List.append_nil]

theorem conduct_of_flush_error {asked : List Request} {channel begun served d : Channel β}
    {mismatch : Bool} {first second third : List Event} {e : PanelError}
    (hbegin : SidebandBus.begin { channel with packer := channel.packer.reset } =
      ⟨.ok (), begun, first⟩)
    (hserve : serveUntil false asked none begun = ⟨.ok mismatch, served, second⟩)
    (hflush : SidebandBus.flush served = ⟨.error e, d, third⟩) :
    conduct asked none channel = ⟨.error e, d, first ++ (second ++ third)⟩ := by
  simp only [conduct, Channel.reset_bind]
  rw [Action.bind_ok hbegin, Action.bind_ok (Action.orElse_ok hserve), Action.bind_error hflush]

/-- How a run of a program ends that is not empty. -/
inductive Ends (ctx : Context) (program : Program) (channel : Channel β) :
    Outcome PanelError (Channel β) Unit → Prop
  /-- A request fails. Those after it do not matter. -/
  | stopped {before later : List Request} {request : Request} {compared : List Comparison}
      {c d : Channel β} {es fs : List Event} {e : PanelError}
      (hasked : program.requests ctx = before ++ request :: later)
      (hbefore : execute before channel = ⟨.ok compared, c, es⟩)
      (hrequest : carryOut request c = ⟨.error e, d, fs⟩)
      (herror : (SidebandBus.kind β).Error e) :
      Ends ctx program channel ⟨.error e, { d with packer := d.packer.reset }, es ++ fs⟩
  /-- All requests succeed, and then no step is written where the next one should be. -/
  | broken {tiles : List Tile} {rest : Bytes} {compared : List Comparison} {c : Channel β}
      {es : List Event} {e : PanelError}
      (hbytes : program.bytes = Tile.join tiles ++ rest)
      (hbroken : Program.Broken (Tile.join tiles).length rest e)
      (hall : execute (program.requests ctx) channel = ⟨.ok compared, c, es⟩) :
      Ends ctx program channel ⟨.error e, { c with packer := c.packer.reset }, es⟩
  /-- All requests succeed, but what they left in the packer cannot be sent. -/
  | unsent {compared : List Comparison} {c d : Channel β} {es fs : List Event} {fault : BusFault}
      (hwritten : program.Written)
      (hall : execute (program.requests ctx) channel = ⟨.ok compared, c, es⟩)
      (hflush : SidebandBus.flush c = ⟨.error (.transfer fault), d, fs⟩)
      (hfault : fault.bus = SidebandBus.kind β) :
      Ends ctx program channel ⟨.error (.transfer fault), d, es ++ fs⟩
  /-- Everything succeeds, and the comparisons decide. -/
  | finished {compared : List Comparison} {c d : Channel β} {es fs : List Event}
      {result : Except PanelError Unit}
      (hwritten : program.Written)
      (hall : execute (program.requests ctx) channel = ⟨.ok compared, c, es⟩)
      (hflush : SidebandBus.flush c = ⟨.ok (), d, fs⟩)
      (hreads : compared.map (·.expected) = (program.requests ctx).filterMap Request.expected?)
      (hsized : ∀ m ∈ compared, m.Sized)
      (hmismatch : result = .error .mismatch ↔ ∃ m ∈ compared, m.Differs)
      (hok : result = .ok () ↔ ∀ m ∈ compared, ¬m.Differs) :
      Ends ctx program channel ⟨result, d, es ++ fs⟩

theorem mem_of_ask_mem_requests {t : VideoTiming} {s : Scratch} {steps : List Step} {query : Query}
    {expected : Bytes} (h : .ask query expected ∈ requests t s steps) :
    .read query expected ∈ steps := by
  fun_induction requests t s steps with
  | case6 s first wanted rest ih =>
    rcases List.mem_cons.mp h with h | h
    · cases h
      exact List.mem_cons_self
    · exact List.mem_cons_of_mem _ (ih h)
  | _ => simp_all

/-- Where requests fail, there is a first one that does. -/
theorem exists_of_carryOutAll_error {asked : List Request} {c d : Channel β} {es : List Event}
    {e : PanelError} (h : carryOutAll asked c = ⟨.error e, d, es⟩) :
    ∃ before request later compared c' first second, asked = before ++ request :: later ∧
      carryOutAll before c = ⟨.ok compared, c', first⟩ ∧
      carryOut request c' = ⟨.error e, d, second⟩ ∧ es = first ++ second := by
  induction asked generalizing c es with
  | nil => cases h
  | cons request rest ih =>
    rcases hr : carryOut request c with ⟨e' | compared, c', first⟩
    · rw [carryOutAll, Action.bind_error hr] at h
      cases h
      exact ⟨[], request, rest, [], c, [], es, rfl, rfl, hr, rfl⟩
    · rw [carryOutAll, Action.bind_ok hr] at h
      rcases hrest : carryOutAll rest c' with ⟨e' | later, d', second⟩
      · rw [Action.bind_error hrest] at h
        cases h
        obtain ⟨before, failing, after, seen, c'', third, fourth, rfl, hbefore, hfailing, rfl⟩ :=
          ih hrest
        refine ⟨request :: before, failing, after, compared ++ seen, c'', first ++ third, fourth,
          rfl, ?_, hfailing, by rw [List.append_assoc]⟩
        rw [carryOutAll, Action.bind_ok hr, Action.bind_ok hbefore]
        simp
      · rw [Action.bind_ok hrest] at h
        cases h

theorem execute_eq {channel begun : Channel β} {es : List Event}
    (h : SidebandBus.begin { channel with packer := channel.packer.reset } = ⟨.ok (), begun, es⟩)
    {asked : List Request} {c : Channel β} {result : Except PanelError (List Comparison)}
    {fs : List Event} (hall : carryOutAll asked begun = ⟨result, c, fs⟩) :
    execute asked channel = ⟨result, c, es ++ fs⟩ := by
  simp only [execute, Channel.reset_bind]
  rw [Action.bind_ok h, hall]

/-! ## Orderly buses -/

/-- Requests that succeed compare what the reads among them expect, with as many bytes each. -/
def Compares (asked : List Request) (compared : List Comparison) : Prop :=
  compared.map (·.expected) = asked.filterMap Request.expected? ∧
    ∀ m ∈ compared, m.reply.length = m.expected.length

theorem Compares.append {asked asked' : List Request} {compared compared' : List Comparison}
    (h : Compares asked compared) (h' : Compares asked' compared') :
    Compares (asked ++ asked') (compared ++ compared') := by
  refine ⟨by rw [List.map_append, List.filterMap_append, h.1, h'.1], fun m hm => ?_⟩
  rcases List.mem_append.mp hm with hm | hm
  · exact h.2 m hm
  · exact h'.2 m hm

theorem Orderly.compares_of_carryOut (law : Orderly β) {request : Request}
    {compared : List Comparison} {c d : Channel β} {es : List Event}
    (h : carryOut request c = ⟨.ok compared, d, es⟩) : Compares [request] compared := by
  cases request with
  | ask query expected =>
    obtain ⟨reply, c', _, _, hreply, hend⟩ := Action.exists_of_bind_ok h
    have hlength := law.sized _ _ _ _ _ _ _ hreply
    cases congrArg Outcome.result hend
    exact ⟨rfl, by simpa using hlength⟩
  | send generic payload =>
    obtain ⟨_, _, _, _, -, hend⟩ := Action.exists_of_bind_ok h
    cases congrArg Outcome.result hend
    exact ⟨rfl, by simp⟩
  | wait ms =>
    obtain ⟨_, _, _, _, -, hrest⟩ := Action.exists_of_bind_ok h
    obtain ⟨_, _, _, _, -, hend⟩ := Action.exists_of_bind_ok hrest
    cases congrArg Outcome.result hend
    exact ⟨rfl, by simp⟩
  | limit size =>
    obtain ⟨_, _, _, _, -, hend⟩ := Action.exists_of_bind_ok h
    cases congrArg Outcome.result hend
    exact ⟨rfl, by simp⟩

theorem Orderly.compares_of_carryOutAll (law : Orderly β) {asked : List Request}
    {compared : List Comparison} {c d : Channel β} {es : List Event}
    (h : carryOutAll asked c = ⟨.ok compared, d, es⟩) : Compares asked compared := by
  induction asked generalizing c d compared es with
  | nil =>
    cases congrArg Outcome.result h
    exact ⟨rfl, by simp⟩
  | cons request rest ih =>
    obtain ⟨first, c', _, _, hrequest, h⟩ := Action.exists_of_bind_ok h
    obtain ⟨later, _, _, _, hrest, hend⟩ := Action.exists_of_bind_ok h
    cases congrArg Outcome.result hend
    exact (law.compares_of_carryOut hrequest).append (ih hrest)

theorem Confined.error_of_carryOut (law : Confined β) {request : Request} {c d : Channel β}
    {e : PanelError} {es : List Event} (h : carryOut request c = ⟨.error e, d, es⟩) :
    (SidebandBus.kind β).Error e := by
  refine ((law.serve request) c).error e ?_
  rw [serve_eq_carryOut, Action.bind_error h]

/-- Reads of a program ask for what its steps ask for, which is one to eight bytes. -/
theorem length_of_ask {ctx : Context} {program : Program} {query : Query} {expected : Bytes}
    (h : .ask query expected ∈ program.requests ctx) :
    1 ≤ expected.length ∧ expected.length ≤ 8 := by
  obtain ⟨tiles, _, -, hleading, -⟩ := program.exists_leading_eq
  have hstep : .read query expected ∈ tiles.map (·.step) := by
    rw [← hleading]
    exact (activeFrom_sublist _ _ _).mem (mem_of_ask_mem_requests h)
  obtain ⟨tile, -, htile⟩ := List.mem_map.mp hstep
  have hencodable := tile.written.encodable
  rw [htile] at hencodable
  exact hencodable

theorem foundMismatch_iff {compared : List Comparison} (h : ∀ m ∈ compared, m.Sized) :
    foundMismatch compared = true ↔ ∃ m ∈ compared, m.Differs := by
  rw [foundMismatch, List.any_eq_true]
  exact exists_congr fun m => and_congr_right fun hm => Comparison.differ_eq_true_iff (h m hm)

namespace Orderly

variable {ctx : Context} {program : Program} {channel c : Channel β} {compared : List Comparison}
  {es : List Event}

theorem sized_of_execute (law : Orderly β)
    (h : execute (program.requests ctx) channel = ⟨.ok compared, c, es⟩) :
    Compares (program.requests ctx) compared ∧ ∀ m ∈ compared, m.Sized := by
  obtain ⟨_, _, _, _, -, h⟩ := Action.exists_of_bind_ok h
  obtain ⟨_, _, _, _, -, h⟩ := Action.exists_of_bind_ok h
  have hcompares := law.compares_of_carryOutAll h
  refine ⟨hcompares, fun m hm => ⟨hcompares.2 m hm, ?_⟩⟩
  have hexpected : m.expected ∈ (program.requests ctx).filterMap Request.expected? := by
    rw [← hcompares.1]
    exact List.mem_map_of_mem hm
  obtain ⟨request, hrequest, hm⟩ := List.mem_filterMap.mp hexpected
  cases request with
  | ask query expected =>
    cases hm
    exact length_of_ask hrequest
  | send _ _ | wait _ | limit _ => cases hm

theorem ends_conduct (law : Orderly β) (ctx : Context) (program : Program) (channel : Channel β) :
    Ends ctx program channel
      (conduct (program.requests ctx) (defect? program.items) channel) := by
  obtain ⟨begun, first, hbegin⟩ := law.begins { channel with packer := channel.packer.reset }
  obtain ⟨tiles, rest, hbytes, -, hend⟩ := program.exists_leading_eq
  rcases hall : carryOutAll (program.requests ctx) begun with ⟨e | compared, c, second⟩
  · -- A defect of the program is not reached any more.
    obtain ⟨before, request, later, compared, c', third, fourth, hasked, hbefore, hrequest, rfl⟩ :=
      exists_of_carryOutAll_error hall
    rw [conduct_of_error hbegin (serveUntil_of_error hall _), ← List.append_assoc]
    exact .stopped hasked (execute_eq hbegin hbefore) hrequest (law.error_of_carryOut hrequest)
  · have hexecute := execute_eq hbegin hall
    rcases hend with ⟨hwritten, hdefect⟩ | ⟨e, hbroken, hdefect⟩
    · have hserve := serveUntil_of_ok hall none
      rw [hdefect]
      rcases hflush : SidebandBus.flush c with ⟨e | _, d, third⟩
      · obtain ⟨fault, hfault, rfl⟩ := law.fault_of_flush _ _ _ _ hflush
        rw [conduct_of_flush_error hbegin hserve hflush, ← List.append_assoc]
        exact .unsent hwritten hexecute hflush hfault
      · obtain ⟨hcompares, hsized⟩ := law.sized_of_execute hexecute
        have hmismatch := foundMismatch_iff hsized
        rw [conduct_ok hbegin (by simpa [serveUntil] using hserve) hflush, ← List.append_assoc]
        refine .finished hwritten hexecute hflush hcompares.1 hsized ?_ ?_
        · rw [← hmismatch]
          cases foundMismatch compared <;> simp
        · have hsame : (∀ m ∈ compared, ¬m.Differs) ↔ ¬∃ m ∈ compared, m.Differs := by simp
          rw [hsame, ← hmismatch]
          cases foundMismatch compared <;> simp
    · have hserve := serveUntil_of_ok hall (some e)
      rw [hdefect, conduct_of_error hbegin hserve]
      exact .broken hbytes hbroken hexecute

end Orderly

end CarryOut

/-- On every bus the result of a run is that of the first request that fails, or the error where no
step is written, or the fault of the last flush. Without those it is a mismatch if and only if some
read that was carried out has left another byte than expected in its buffer; it is what the last
attempt of the read has left there. What was found has no bearing on anything but the result. -/
theorem run_ends (ctx : Context) (program : Program) (h : program.isEmpty = false) :
    (∀ channel : Channel I2cBus, Ends ctx program channel (program.run ctx channel)) ∧
    (∀ channel : Channel MipiBus, Ends ctx program channel (program.run ctx channel)) ∧
    (∀ channel : Channel SpiBus, Ends ctx program channel (program.run ctx channel)) ∧
    LeavesLast I2cBus I2cBus.replies? ∧ LeavesLast MipiBus MipiBus.replies? := by
  have hrun {β : Type} [SidebandBus β] (law : Orderly β) (channel : Channel β) :
      Ends ctx program channel (program.run ctx channel) := by
    rw [run_eq_conduct, h]
    exact law.ends_conduct ctx program channel
  exact ⟨hrun I2cBus.orderly, hrun MipiBus.orderly, hrun SpiBus.orderly, I2cBus.leavesLast,
    MipiBus.leavesLast⟩

/-- The first attempt brings the expected byte and a report, the second another byte, and the run
goes on to its end. -/
theorem run_ends_mismatch :
    let program : Program := ⟨[0x40, 0x0a, 0x9c, 0x01, 0x29]⟩
    let channel : Channel MipiBus :=
      ⟨⟨.scripted { replies := [⟨[0x9c], some .protocol⟩, ⟨[0x08], none⟩] }⟩, {}⟩
    let run := program.run (.ofLanes 4) channel
    program.isEmpty = false ∧ Ends (.ofLanes 4) program channel run ∧
    run.result = .error .mismatch ∧
    run.events = [.lowPower true, .dcsRead 0x0a 1, .dcsRead 0x0a 1, .dcsWrite [0x29]] :=
  ⟨rfl, (run_ends (.ofLanes 4) ⟨[0x40, 0x0a, 0x9c, 0x01, 0x29]⟩ rfl).2.1 _, by decide, by decide⟩

end PanelDriver

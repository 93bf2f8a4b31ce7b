import PanelDriver.Proofs.Execution.Discretion
import PanelDriver.Proofs.Wire.Transactions

/-!
SPI runs are fail-stop. Beside a run on a device that may fail, take the run of the same program on
a device with the same replies that never fails. As long as transactions succeed the two do the
same; the first one that fails is the last event of its run, whose record is the front of the other
one's, and nothing waits in the packer then (`run_fail_stop`).
-/

namespace PanelDriver

/-- The device is asked for a transaction on SPI. -/
def Event.isSpi : Event → Bool
  | .spiWrite _ | .spiTransfer _ => true
  | _ => false

namespace SpiBus

/-- How many transactions a run has asked for. -/
def transactions (events : List Event) : Nat := events.countP Event.isSpi

theorem transactions_append (es fs : List Event) :
    transactions (es ++ fs) = transactions es + transactions fs := List.countP_append

/-- None of the next transactions fails, as many as there are among the events. -/
def Quiet (faults : List (Option SpiFault)) (events : List Event) : Prop :=
  ∀ entry ∈ faults.take (transactions events), entry = none

/-- Transaction number `m`, the first one being number zero, is the first that fails. -/
structure FirstFault (faults : List (Option SpiFault)) (m : Nat) (fault : SpiFault) : Prop where
  fails : faults[m]? = some (some fault)
  before : ∀ entry ∈ faults.take m, entry = none

theorem FirstFault.le_of_quiet {faults : List (Option SpiFault)} {m : Nat} {fault : SpiFault}
    (h : FirstFault faults m fault) {n : Nat} (quiet : ∀ entry ∈ faults.take n, entry = none) :
    n ≤ m := by
  rcases Nat.lt_or_ge m n with hlt | hle
  · have hmem : some fault ∈ faults.take n := by
      apply List.mem_of_getElem? (i := m)
      rw [List.getElem?_take_of_lt hlt]
      exact h.fails
    cases quiet _ hmem
  · exact hle

theorem FirstFault.unique {faults : List (Option SpiFault)} {m m' : Nat} {fault fault' : SpiFault}
    (h : FirstFault faults m fault) (h' : FirstFault faults m' fault') :
    m = m' ∧ fault = fault' := by
  have hle := h.le_of_quiet h'.before
  have hge := h'.le_of_quiet h.before
  obtain rfl : m = m' := by omega
  exact ⟨rfl, Option.some.inj (Option.some.inj (h.fails.symm.trans h'.fails))⟩

theorem quiet_of_no_transaction {faults : List (Option SpiFault)} {events : List Event}
    (h : transactions events = 0) : Quiet faults events := by
  intro entry hentry
  rw [h] at hentry
  cases hentry

theorem Quiet.append {faults : List (Option SpiFault)} {es fs : List Event} (h : Quiet faults es)
    (h' : Quiet (faults.drop (transactions es)) fs) : Quiet faults (es ++ fs) := by
  intro entry hentry
  rw [transactions_append, List.take_add] at hentry
  rcases List.mem_append.mp hentry with hfirst | hsecond
  · exact h entry hfirst
  · exact h' entry hsecond

/-! ## Two devices -/

section Outcomes

variable {α β : Type} {config : SpiLink} {faults : List (Option SpiFault)}

/-- An outcome on a device with faults to come, beside the one on a device without faults. -/
inductive FailStop (config : SpiLink) (faults : List (Option SpiFault)) :
    Outcome PanelError (Channel SpiBus) α → Outcome PanelError (Channel SpiBus) α → Prop
  /-- No transaction fails, and no difference shows. -/
  | through {result : Except PanelError α} {events : List Event} {packer : Packer}
      {replies : List Bytes} (quiet : Quiet faults events) :
      FailStop config faults
        ⟨result, place config packer replies (faults.drop (transactions events)), events⟩
        ⟨result, place config packer replies [], events⟩
  /-- The transaction `last` fails, and whatever came behind it on the other device is missing. -/
  | cut {front rest : List Event} {last : Event} {fault : SpiFault} {c c' : Channel SpiBus}
      {result : Except PanelError α} (quiet : Quiet faults front)
      (isSpi : last.isSpi = true) (fails : faults[transactions front]? = some (some fault))
      (empty : c.packer.pending = []) :
      FailStop config faults ⟨.error (transferError fault), c, front ++ [last]⟩
        ⟨result, c', front ++ last :: rest⟩

namespace FailStop

/-- Nothing is asked of the device. -/
theorem still {result : Except PanelError α} {events : List Event} {packer : Packer}
    {replies : List Bytes} (h : transactions events = 0) :
    FailStop config faults ⟨result, place config packer replies faults, events⟩
      ⟨result, place config packer replies [], events⟩ := by
  have hthrough : FailStop config faults
      (⟨result, place config packer replies (faults.drop (transactions events)), events⟩ :
        Outcome PanelError (Channel SpiBus) α)
      ⟨result, place config packer replies [], events⟩ := .through (quiet_of_no_transaction h)
  rwa [h] at hthrough

/-- One transaction: what it gives if it succeeds, and that it fails with the fault of the device
and leaves nothing waiting. -/
theorem transaction {e : Event} (he : e.isSpi = true) {result : Except PanelError α}
    {packer : Packer} {replies : List Bytes}
    {o : List (Option SpiFault) → Outcome PanelError (Channel SpiBus) α}
    (succeeds : ∀ faults, faults.headD none = none →
      o faults = ⟨result, place config packer replies faults.tail, [e]⟩)
    (fails : ∀ fault rest, ∃ c : Channel SpiBus, c.packer.pending = [] ∧
      o (some fault :: rest) = ⟨.error (transferError fault), c, [e]⟩)
    (faults : List (Option SpiFault)) : FailStop config faults (o faults) (o []) := by
  have hone : transactions [e] = 1 := by simp [transactions, he]
  have hthrough (h : faults.headD none = none) : FailStop config faults (o faults) (o []) := by
    have hquiet : Quiet faults [e] := by
      intro entry hentry
      rw [hone] at hentry
      cases faults with
      | nil => cases hentry
      | cons first rest =>
        rw [List.mem_singleton.mp hentry]
        exact h
    rw [succeeds faults h, succeeds [] rfl, ← List.drop_one, ← hone]
    exact .through hquiet
  cases faults with
  | nil => exact hthrough rfl
  | cons first rest =>
    cases first with
    | none => exact hthrough rfl
    | some fault =>
      obtain ⟨c, hempty, ho⟩ := fails fault rest
      rw [ho, succeeds [] rfl]
      have hquiet : Quiet (some fault :: rest) [] := quiet_of_no_transaction rfl
      exact FailStop.cut hquiet he rfl hempty

theorem bind {x : Action PanelError (Channel SpiBus) α}
    {f : α → Action PanelError (Channel SpiBus) β} {s t : Channel SpiBus}
    (h : FailStop config faults (x s) (x t))
    (hf : ∀ a packer replies faults, FailStop config faults
      (f a (place config packer replies faults)) (f a (place config packer replies []))) :
    FailStop config faults ((x >>= f) s) ((x >>= f) t) := by
  generalize hs : x s = o at h
  generalize ht : x t = o' at h
  cases h with
  | @through result events packer replies quiet =>
    cases result with
    | error e =>
      rw [Action.bind_error hs, Action.bind_error ht]
      exact .through quiet
    | ok a =>
      rw [Action.bind_ok hs, Action.bind_ok ht]
      have hrest := hf a packer replies (faults.drop (transactions events))
      generalize f a (place config packer replies (faults.drop (transactions events))) = q at hrest
      generalize f a (place config packer replies []) = q' at hrest
      cases hrest with
      | @through result' events' packer' replies' quiet' =>
        rw [List.drop_drop, ← transactions_append]
        exact .through (quiet.append quiet')
      | @cut front rest last fault c c' result' quiet' isSpi fails empty =>
        rw [List.getElem?_drop, ← transactions_append] at fails
        simp only [← List.append_assoc]
        exact .cut (quiet.append quiet') isSpi fails empty
  | @cut front rest last fault c c' result quiet isSpi fails empty =>
    -- On the device that fails nothing follows; on the other one something may.
    rw [Action.bind_error hs]
    cases result with
    | error e =>
      rw [Action.bind_error ht]
      exact .cut quiet isSpi fails empty
    | ok a =>
      rw [Action.bind_ok ht, List.append_assoc, List.cons_append]
      exact .cut quiet isSpi fails empty

/-- Emptying the packer after an error asks nothing of the device. -/
theorem undo {x : Action PanelError (Channel SpiBus) α} {s t : Channel SpiBus}
    (h : FailStop config faults (x s) (x t)) :
    FailStop config faults ((x.orElse fun e => Channel.reset >>= fun _ => Action.fail e) s)
      ((x.orElse fun e => Channel.reset >>= fun _ => Action.fail e) t) := by
  have hreset (c : Channel SpiBus) : (Channel.reset : Action PanelError (Channel SpiBus) Unit) c =
      ⟨.ok (), { c with packer := c.packer.reset }, []⟩ := rfl
  generalize hs : x s = o at h
  generalize ht : x t = o' at h
  cases h with
  | @through result events packer replies quiet =>
    cases result with
    | ok a =>
      rw [Action.orElse_ok hs, Action.orElse_ok ht]
      exact .through quiet
    | error e =>
      rw [Action.orElse_undo hs (hreset _), Action.orElse_undo ht (hreset _), List.append_nil]
      exact .through quiet
  | @cut front rest last fault c c' result quiet isSpi fails empty =>
    rw [Action.orElse_undo hs (hreset _), List.append_nil]
    cases result with
    | ok a =>
      rw [Action.orElse_ok ht]
      exact .cut quiet isSpi fails rfl
    | error e =>
      rw [Action.orElse_undo ht (hreset _), List.append_nil]
      exact .cut quiet isSpi fails rfl

end FailStop

end Outcomes

/-! ## Calls on the bus -/

/-- Whatever replies and faults are to come, `x` stops at the first transaction that fails. -/
def FailStops {α : Type} (x : Action PanelError (Channel SpiBus) α) : Prop :=
  ∀ config packer replies faults,
    FailStop config faults (x (place config packer replies faults))
      (x (place config packer replies []))

namespace FailStops

variable {α β : Type}

theorem pure (a : α) : FailStops (Pure.pure a) := fun _ _ _ _ => .still rfl

theorem fail (e : PanelError) : FailStops (α := α) (Action.fail e) := fun _ _ _ _ => .still rfl

theorem delayMs (ms : UInt32) : FailStops (Action.record (.delayMs ms)) := fun _ _ _ _ => .still rfl

theorem bind {x : Action PanelError (Channel SpiBus) α}
    {f : α → Action PanelError (Channel SpiBus) β} (h : FailStops x)
    (hf : ∀ a, FailStops (f a)) : FailStops (x >>= f) :=
  fun config packer replies faults => (h config packer replies faults).bind fun a => hf a config

theorem undo {x : Action PanelError (Channel SpiBus) α} (h : FailStops x) :
    FailStops (x.orElse fun e => Channel.reset >>= fun _ => Action.fail e) :=
  fun config packer replies faults => (h config packer replies faults).undo

theorem reset : FailStops Channel.reset := fun _ _ _ _ => .still rfl

theorem store (f : Packer → Except PanelError Packer) : FailStops (Channel.store f) := by
  intro config packer replies faults
  simp only [Channel.store, place]
  cases f packer with
  | ok stored => exact .still rfl
  | error e => exact .still rfl

end FailStops

theorem failStops_flush : FailStops flush := by
  intro config packer replies faults
  cases hempty : packer.isEmpty with
  | true =>
    rw [flush_of_isEmpty hempty, flush_of_isEmpty hempty]
    exact .still rfl
  | false =>
    have hflush := flush_of_waiting hempty config replies
    have hok (faults : List (Option SpiFault)) (h : faults.headD none = none) :
        flush (place config packer replies faults) =
          ⟨.ok (), place config packer.reset replies faults.tail, [.spiWrite packer.frame]⟩ := by
      rw [hflush, h]
      rfl
    refine FailStop.transaction rfl hok (fun fault rest => ?_) faults
    exact ⟨place config packer.reset replies rest, rfl, hflush (some fault :: rest)⟩

theorem failStops_transfer (start length : Nat) : FailStops (transfer start length) := by
  intro config packer replies faults
  let back := filled packer (replies.headD [])
  have htransfer := transfer_place start length config packer replies
  have hok (faults : List (Option SpiFault)) (h : faults.headD none = none) :
      transfer start length (place config packer replies faults) =
        ⟨back.readWindow start length, place config back.reset replies.tail faults.tail,
          [.spiTransfer packer.frame]⟩ := by
    rw [htransfer, h]
    rfl
  refine FailStop.transaction rfl hok (fun fault rest => ?_) faults
  exact ⟨place config back.reset replies.tail rest, rfl, htransfer (some fault :: rest)⟩

/-- A write whose payload does not fit sends what waits before it is stored or refused. -/
theorem failStops_write (payload : Bytes) : FailStops (write payload) := by
  intro config packer replies faults
  simp only [write, Action.state_bind, bus_place, packer_place]
  by_cases hnine : config.nineBit = true
  · by_cases hfits : packer.fits (9 * payload.length) = true
    · simp only [hnine, hfits, ↓reduceIte]
      exact FailStops.store _ config packer replies faults
    · simp only [hnine, hfits, ↓reduceIte, Bool.false_eq_true]
      refine failStops_flush.bind (fun _ => ?_) config packer replies faults
      split
      · exact FailStops.fail .overflow
      · exact FailStops.store _
  · by_cases hlong : Packer.windowBytes < payload.length
    · simp only [hnine, hlong, ↓reduceIte, Bool.false_eq_true]
      exact FailStops.fail .overflow config packer replies faults
    · simp only [hnine, hlong, ↓reduceIte, Bool.false_eq_true]
      refine FailStops.reset.bind (fun _ => ?_) config packer replies faults
      exact (FailStops.store _).bind fun _ => failStops_flush

theorem failStops_storeCommand (command : Bytes) : FailStops (storeCommand command) := by
  intro config packer replies faults
  simp only [storeCommand, Action.state_bind, bus_place]
  by_cases hnine : config.nineBit = true
  · simp only [hnine, ↓reduceIte]
    exact (failStops_flush.bind fun _ => FailStops.store _) config packer replies faults
  · simp only [hnine, ↓reduceIte, Bool.false_eq_true]
    exact (FailStops.reset.bind fun _ => FailStops.store _) config packer replies faults

theorem failStops_query (command : Bytes) (length : Nat) : FailStops (query command length) := by
  refine (failStops_storeCommand command).bind fun _ => ?_
  intro config packer replies faults
  simp only [Action.state_bind, packer_place]
  refine FailStops.bind ?_ (fun _ => ?_) config packer replies faults
  · exact (FailStops.store _).undo
  · exact failStops_transfer packer.cursor length

/-! ## Runs -/

theorem failStops_serve (request : Request) : FailStops (serve request) := by
  cases request with
  | send generic payload =>
    refine FailStops.bind ?_ fun _ => FailStops.pure false
    cases payload with
    | nil => exact FailStops.pure ()
    | cons b data => exact failStops_write (b :: data)
  | wait ms =>
    refine failStops_flush.bind fun _ => ?_
    exact (FailStops.delayMs ms.toUInt32).bind fun _ => FailStops.pure false
  | limit size => exact FailStops.pure false
  | ask query expected =>
    refine FailStops.bind ?_ fun reply => FailStops.pure (Bytes.differ reply expected)
    intro config packer replies faults
    rw [readBack_eq_query, readBack_eq_query]
    exact failStops_query query.bytes expected.length config packer replies faults

theorem failStops_serveAll (asked : List Request) (mismatch : Bool) :
    FailStops (serveAll mismatch asked) := by
  induction asked generalizing mismatch with
  | nil => exact FailStops.pure mismatch
  | cons request rest ih => exact (failStops_serve request).bind fun found => ih (mismatch || found)

theorem failStops_conduct (asked : List Request) (defect : Option PanelError) :
    FailStops (conduct asked defect) := by
  have hserve : FailStops (serveUntil false asked defect) := by
    refine (failStops_serveAll asked false).bind fun mismatch => ?_
    cases defect with
    | none => exact FailStops.pure mismatch
    | some e => exact FailStops.fail e
  refine FailStops.reset.bind fun _ => (FailStops.pure ()).bind fun _ => ?_
  refine hserve.undo.bind fun mismatch => failStops_flush.bind fun _ => ?_
  cases mismatch with
  | true => exact FailStops.fail .mismatch
  | false => exact FailStops.pure ()

theorem failStops_run (ctx : Context) (program : Program) : FailStops (program.run ctx) := by
  rw [run_eq_conduct]
  cases program.isEmpty with
  | true => exact FailStops.pure ()
  | false => exact failStops_conduct (program.requests ctx) (defect? program.items)

/-- A run that ends with transaction number `m` beside a run that may go on: what the one has
recorded is what the other had recorded by then. -/
structure BrokenAt (m : Nat) (fault : SpiFault)
    (o calm : Outcome PanelError (Channel SpiBus) Unit) : Prop where
  result : o.result = .error (.transfer (.spi fault))
  events : ∃ front last rest, calm.events = front ++ last :: rest ∧ transactions front = m ∧
    last.isSpi = true ∧ o.events = front ++ [last]
  emptied : o.state.packer.cursor = 0

end SpiBus

open SpiBus (BrokenAt FirstFault transactions)

/-- Take a run of any program on an SPI device, and the run with the same replies on a device that
never fails. If the latter gets to the transaction that is the first to fail, the former ends with
just that transaction, with its fault and with nothing waiting. Otherwise the two do not differ. -/
theorem run_fail_stop (ctx : Context) (program : Program) (config : SpiLink) (packer : Packer)
    (replies : List Bytes) (faults : List (Option SpiFault)) :
    let run (faults : List (Option SpiFault)) :=
      program.run ctx (⟨⟨.scripted ⟨replies, faults⟩, config⟩, packer⟩ : Channel SpiBus)
    let calm := run []
    (∀ m fault, FirstFault faults m fault → m < transactions calm.events →
      BrokenAt m fault (run faults) calm) ∧
    ((∀ m fault, FirstFault faults m fault → transactions calm.events ≤ m) →
      (run faults).result = calm.result ∧ (run faults).events = calm.events) := by
  intro run calm
  have hrun := SpiBus.failStops_run ctx program config packer replies faults
  change SpiBus.FailStop config faults (run faults) calm at hrun
  generalize run faults = o at hrun
  generalize calm = o' at hrun
  cases hrun with
  | @through result events packer' replies' quiet =>
    refine ⟨fun m fault hfirst hlt => ?_, fun _ => ⟨rfl, rfl⟩⟩
    have hle : transactions events ≤ m := hfirst.le_of_quiet quiet
    exact absurd hlt (Nat.not_lt.mpr hle)
  | @cut front rest last fault c c' result quiet isSpi fails empty =>
    have hfirst : FirstFault faults (transactions front) fault := ⟨fails, quiet⟩
    constructor
    · intro m fault' hfirst' _
      obtain ⟨rfl, rfl⟩ := hfirst.unique hfirst'
      exact ⟨rfl, ⟨front, last, rest, rfl, rfl, isSpi, rfl⟩, congrArg List.length empty⟩
    · intro hlate
      have hle : transactions (front ++ last :: rest) ≤ transactions front := hlate _ _ hfirst
      have hlast : transactions (last :: rest) = transactions rest + 1 :=
        List.countP_cons_of_pos isSpi
      rw [SpiBus.transactions_append, hlast] at hle
      omega

/-- A write, a read that brings another byte than expected, and a write. The fault is in the
transfer of the read, or in a transaction that the run does not get to. -/
theorem run_fail_stop_in_read :
    let program : Program := ⟨[0x02, 0xb0, 0x01, 0x40, 0x0a, 0x9c, 0x01, 0x29]⟩
    let run (faults : List (Option SpiFault)) := program.run (.ofLanes 4)
      (⟨⟨.scripted ⟨[], faults⟩, { nineBit := true }⟩, {}⟩ : Channel SpiBus)
    (run []).events = [.spiWrite [0x58, 0x40, 0x7f], .spiTransfer [0x05, 0x7f, 0xff],
      .spiWrite [0x14, 0xff]] ∧
    BrokenAt 1 .modeFault (run [none, some .modeFault]) (run []) ∧
    (run [none, some .modeFault]).events = [.spiWrite [0x58, 0x40, 0x7f],
      .spiTransfer [0x05, 0x7f, 0xff]] ∧
    (run [none, none, none, some .modeFault]).result = .error .mismatch ∧
    (run [none, none, none, some .modeFault]).events = (run []).events := by
  intro program run
  have hstop := run_fail_stop (.ofLanes 4) program { nineBit := true } {} []
  have hevents : (run []).events = [.spiWrite [0x58, 0x40, 0x7f],
      .spiTransfer [0x05, 0x7f, 0xff], .spiWrite [0x14, 0xff]] := by decide
  have hthree : transactions (run []).events = 3 := by decide
  have hlate : ∀ m fault, FirstFault [none, none, none, some .modeFault] m fault →
      transactions (run []).events ≤ m := by
    intro m fault hfirst
    have hlast : FirstFault [none, none, none, some .modeFault] 3 .modeFault := ⟨rfl, by decide⟩
    obtain ⟨rfl, -⟩ := hfirst.unique hlast
    exact Nat.le_of_eq hthree
  obtain ⟨hresult, hsame⟩ := (hstop [none, none, none, some .modeFault]).2 hlate
  refine ⟨hevents, ?_, by decide, hresult.trans rfl, hsame⟩
  exact (hstop [none, some .modeFault]).1 1 .modeFault ⟨rfl, by decide⟩ (by rw [hthree]; decide)

end PanelDriver

import PanelDriver.Proofs.Execution.Bounds
import PanelDriver.Proofs.Execution.Discretion

/-!
Replies do not steer. Two devices with the same faults whose reads bring other bytes see the same
run of a program: it records the same events, takes as many entries of either script, and ends in
the same way, except that it may find a mismatch on one device only (`run_same_traffic`).
-/

namespace PanelDriver

namespace Action

variable {ε φ σ τ α β : Type} {R : σ → τ → Prop}

/-- The action, with no value. -/
def void (x : Action ε σ α) : Action ε σ Unit := fun s =>
  ⟨(x s).result.map fun _ => (), (x s).state, (x s).events⟩

namespace Agree

theorem ofExcept (r : Except ε α) :
    Agree R (Action.ofExcept r : Action ε σ α) (Action.ofExcept r : Action ε τ α) :=
  fun _ _ h => ⟨rfl, rfl, h⟩

theorem mapError {x : Action ε σ α} {y : Action ε τ α} (h : Agree R x y) (f : ε → φ) :
    Agree R (x.mapError f) (y.mapError f) := h.orElse fun e => Agree.fail (f e)

theorem on {σ' τ' : Type} {S : σ' → τ' → Prop} {x : Action ε σ' α} {y : Action ε τ' α}
    (h : Agree S x y) {part : σ → σ'} {part' : τ → τ'} {put : σ' → σ → σ} {put' : τ' → τ → τ}
    (hpart : ∀ s t, R s t → S (part s) (part' t))
    (hput : ∀ s t, R s t → ∀ s' t', S s' t' → R (put s' s) (put' t' t)) :
    Agree R (x.on part put) (y.on part' put') := by
  intro s t hst
  obtain ⟨hresult, hevents, hstate⟩ := h (hpart s t hst)
  exact ⟨hresult, hevents, hput s t hst _ _ hstate⟩

theorem void {x : Action ε σ α} {y : Action ε τ α} (h : Agree R x y) : Agree R x.void y.void :=
  fun _ _ hst => ⟨congrArg (Except.map fun _ => ()) (h hst).result, (h hst).events, (h hst).state⟩

/-- Two actions that agree but for their values end in the same error, or both succeed. -/
theorem exists_of_void {x : Action ε σ α} {y : Action ε τ α} (h : Agree R x.void y.void)
    {s : σ} {t : τ} (hst : R s t) : ∃ s' t' events, R s' t' ∧
      ((∃ e, x s = ⟨.error e, s', events⟩ ∧ y t = ⟨.error e, t', events⟩) ∨
        ∃ a b, x s = ⟨.ok a, s', events⟩ ∧ y t = ⟨.ok b, t', events⟩) := by
  obtain ⟨hresult, hevents, hstate⟩ := h hst
  simp only [Action.void] at hresult hevents hstate
  rcases hx : x s with ⟨e | a, s', events⟩ <;> rcases hy : y t with ⟨e' | b, t', events'⟩ <;>
    rw [hx, hy] at hresult hevents hstate <;> cases hresult <;> cases hevents
  · exact ⟨s', t', events, hstate, .inl ⟨e, rfl, rfl⟩⟩
  · exact ⟨s', t', events, hstate, .inr ⟨a, b, rfl, rfl⟩⟩

theorem void_bind {x : Action ε σ α} {y : Action ε τ α} {f : α → Action ε σ β}
    {g : α → Action ε τ β} (h : Agree R x.void y.void)
    (hf : ∀ a b, Agree R (f a).void (g b).void) : Agree R (x >>= f).void (y >>= g).void := by
  intro s t hst
  obtain ⟨s', t', events, hst', ⟨e, hx, hy⟩ | ⟨a, b, hx, hy⟩⟩ := h.exists_of_void hst
  · simp only [Action.void, bind_error hx, bind_error hy]
    exact ⟨rfl, rfl, hst'⟩
  · obtain ⟨hresult, hevents, hstate⟩ := hf a b hst'
    simp only [Action.void, bind_ok hx, bind_ok hy] at hresult hevents hstate ⊢
    exact ⟨hresult, congrArg (events ++ ·) hevents, hstate⟩

theorem void_orElse {x : Action ε σ α} {y : Action ε τ α} {f : ε → Action φ σ α}
    {g : ε → Action φ τ α} (h : Agree R x.void y.void)
    (hf : ∀ e, Agree R (f e).void (g e).void) : Agree R (x.orElse f).void (y.orElse g).void := by
  intro s t hst
  obtain ⟨s', t', events, hst', ⟨e, hx, hy⟩ | ⟨a, b, hx, hy⟩⟩ := h.exists_of_void hst
  · obtain ⟨hresult, hevents, hstate⟩ := hf e hst'
    simp only [Action.void, orElse_error hx, orElse_error hy] at hresult hevents hstate ⊢
    exact ⟨hresult, congrArg (events ++ ·) hevents, hstate⟩
  · simp only [Action.void, orElse_ok hx, orElse_ok hy]
    exact ⟨rfl, rfl, hst'⟩

end Agree

end Action

/-! ## Runs -/

section Heedless

variable {β : Type}

/-- Related buses, and the same bits waiting. -/
structure Linked (B : β → β → Prop) (c d : Channel β) : Prop where
  bus : B c.bus d.bus
  pending : c.packer.pending = d.packer.pending

/-- A bus that keeps no more of a reply than it hands over: calls do the same on related buses,
where reads may bring other bytes. -/
structure Heedless (β : Type) [SidebandBus β] (B : β → β → Prop) : Prop where
  begin : Action.Agree (Linked B) SidebandBus.begin SidebandBus.begin
  write : ∀ payload generic, Action.Agree (Linked B)
    (SidebandBus.write payload generic) (SidebandBus.write payload generic)
  readBack : ∀ command generic length, Action.Agree (Linked B)
    (Channel.readBack command generic length).void (Channel.readBack command generic length).void
  setReturnSize : ∀ size, Action.Agree (Linked B)
    (SidebandBus.setReturnSize size) (SidebandBus.setReturnSize size)
  flush : Action.Agree (Linked B) SidebandBus.flush SidebandBus.flush

/-- The same error, which is no mismatch, or no error but perhaps a mismatch. -/
inductive SameButMismatch : Except PanelError Unit → Except PanelError Unit → Prop
  | error {e : PanelError} (h : e ≠ .mismatch) : SameButMismatch (.error e) (.error e)
  | compared {r r' : Except PanelError Unit} (h : r = .ok () ∨ r = .error .mismatch)
      (h' : r' = .ok () ∨ r' = .error .mismatch) : SameButMismatch r r'

/-- The same events, in states related by `R`, and the same result but for a mismatch. -/
structure Outcome.SameTraffic {σ τ : Type} (R : σ → τ → Prop) (o : Outcome PanelError σ Unit)
    (o' : Outcome PanelError τ Unit) : Prop where
  result : SameButMismatch o.result o'.result
  events : o.events = o'.events
  state : R o.state o'.state

theorem Channel.linked_reset {ε : Type} {B : β → β → Prop} : Action.Agree (Linked B)
    (Channel.reset : Action ε (Channel β) Unit) Channel.reset :=
  fun _ _ h => ⟨rfl, rfl, h.bus, rfl⟩

namespace Heedless

variable [SidebandBus β] {B : β → β → Prop}

theorem serve (law : Heedless β B) (request : Request) :
    Action.Agree (Linked B)
      (PanelDriver.serve request : Action PanelError (Channel β) Bool).void
      (PanelDriver.serve request).void := by
  cases request with
  | send generic payload =>
    refine Action.Agree.void (Action.Agree.bind ?_ fun _ => Action.Agree.pure false)
    cases payload with
    | nil => exact Action.Agree.pure ()
    | cons b data => exact law.write (b :: data) generic
  | wait ms =>
    refine Action.Agree.void (law.flush.bind fun _ => ?_)
    exact (Action.Agree.record _).bind fun _ => Action.Agree.pure false
  | limit size =>
    exact Action.Agree.void ((law.setReturnSize size).bind fun _ => Action.Agree.pure false)
  | ask query expected =>
    exact (law.readBack query.bytes query.isGeneric expected.length).void_bind
      fun _ _ _ _ h => ⟨rfl, rfl, h⟩

theorem serveAll (law : Heedless β B) (asked : List Request) (mismatch mismatch' : Bool) :
    Action.Agree (Linked B)
      (PanelDriver.serveAll mismatch asked : Action PanelError (Channel β) Bool).void
      (PanelDriver.serveAll mismatch' asked).void := by
  induction asked generalizing mismatch mismatch' with
  | nil => exact fun _ _ h => ⟨rfl, rfl, h⟩
  | cons request rest ih =>
    -- What the reads found may come apart here; the requests that follow are the same all the same.
    exact (law.serve request).void_bind fun found found' =>
      ih (mismatch || found) (mismatch' || found')

theorem attend (law : Heedless β B) (asked : List Request) (defect : Option PanelError) :
    Action.Agree (Linked B)
      (PanelDriver.attend asked defect : Action PanelError (Channel β) Bool).void
      (PanelDriver.attend asked defect).void := by
  have hserve : Action.Agree (Linked B)
      (serveUntil false asked defect : Action PanelError (Channel β) Bool).void
      (serveUntil false asked defect).void := by
    refine (law.serveAll asked false false).void_bind fun mismatch mismatch' => ?_
    cases defect with
    | none => exact fun _ _ h => ⟨rfl, rfl, h⟩
    | some e => exact Action.Agree.void (Action.Agree.fail e)
  have hstop (e : PanelError) : Action.Agree (Linked B)
      (Channel.reset >>= fun _ => Action.fail e : Action PanelError (Channel β) Bool)
      (Channel.reset >>= fun _ => Action.fail e) :=
    Channel.linked_reset.bind fun _ => Action.Agree.fail e
  refine Channel.linked_reset.void.void_bind fun _ _ => law.begin.void.void_bind fun _ _ => ?_
  refine (hserve.void_orElse fun e => (hstop e).void).void_bind fun mismatch mismatch' => ?_
  exact law.flush.void.void_bind fun _ _ _ _ h => ⟨rfl, rfl, h⟩

/-- No reply has any bearing on a run but through the comparison that is its verdict. -/
theorem run (law : Heedless β B) (confined : Confined β) (ctx : Context) (program : Program)
    {c d : Channel β} (h : Linked B c d) :
    (program.run ctx c).SameTraffic (Linked B) (program.run ctx d) := by
  rw [run_eq_conduct]
  cases program.isEmpty with
  | true => exact ⟨.compared (.inl rfl) (.inl rfl), rfl, h⟩
  | false =>
    simp only [Bool.false_eq_true, ↓reduceIte, conduct_eq_attend]
    obtain ⟨c', d', events, hlinked, ⟨e, hc, hd⟩ | ⟨found, found', hc, hd⟩⟩ :=
      (law.attend (program.requests ctx) (defect? program.items)).exists_of_void h
    · -- An error that stops a run comes from the bus or from the program, never from a comparison.
      rw [Action.bind_error hc, Action.bind_error hd]
      refine ⟨.error ?_, rfl, hlinked⟩
      rcases (confined.attend _ _ c).error e (congrArg Outcome.result hc) with herror | hdefect
      · exact herror.ne_mismatch
      · rintro rfl
        exact program.defect?_ne_mismatch hdefect
    · rw [Action.bind_ok hc, Action.bind_ok hd]
      refine ⟨.compared ?_ ?_, ?_, ?_⟩
      · cases found <;> simp [Action.fail]
      · cases found' <;> simp [Action.fail]
      · cases found <;> cases found' <;> rfl
      · cases found <;> cases found' <;> exact hlinked

end Heedless

end Heedless

section Bus

variable {β : Type} {B : β → β → Prop}

/-- Buffers of one length beside related devices. -/
structure Beside (B : β → β → Prop) (p q : β × Bytes) : Prop where
  device : B p.1 q.1
  length : p.2.length = q.2.length

theorem agree_onBus {ε : Type} {x : Action ε β Unit} (h : Action.Agree B x x) :
    Action.Agree (Linked B) (Channel.onBus x) (Channel.onBus x) :=
  h.on (fun _ _ hlinked => hlinked.bus) fun _ _ hlinked _ _ hbus => ⟨hbus, hlinked.pending⟩

/-- A read that only sees the bus and the buffer. -/
theorem agree_readBack [SidebandBus β] {command : Bytes} {generic : Bool}
    {x : Action PanelError (β × Bytes) Unit}
    (hread : (SidebandBus.read command generic : Action PanelError (Channel β × Bytes) Unit) =
      Channel.onBusAndBuffer x)
    (h : Action.Agree (Beside B) x x) (length : Nat) :
    Action.Agree (Linked B)
      (Channel.readBack command generic length : Action PanelError (Channel β) Bytes).void
      (Channel.readBack command generic length).void := by
  intro c d hlinked
  have hstart : Beside B (c.bus, Bytes.zeros length) (d.bus, Bytes.zeros length) :=
    ⟨hlinked.bus, rfl⟩
  obtain ⟨result, p, q, events, hc, hd, hend⟩ := (h hstart).exists_eq
  have hback {c : Channel β} {p : β × Bytes}
      (hc : x (c.bus, Bytes.zeros length) = ⟨result, p, events⟩) :
      (Channel.readBack command generic length : Action PanelError (Channel β) Bytes).void c =
        ⟨result, { c with bus := p.1 }, events⟩ := by
    simp only [Action.void, Channel.readBack, hread, Channel.onBusAndBuffer, Action.on, hc]
    cases result <;> rfl
  rw [hback hc, hback hd]
  exact ⟨rfl, rfl, hend.device, hlinked.pending⟩

end Bus

/-! ## I2C -/

/-- The script when so many of its replies and faults are used up. -/
def I2cScript.after (s : I2cScript) (replies faults : Nat) : I2cScript where
  replies := s.replies.drop replies
  faults := s.faults.drop faults

/-- As much of one script is used up as of the other. -/
inductive I2cMaster.UsedAlike (s t : I2cScript) : I2cMaster → I2cMaster → Prop
  | intro (replies faults : Nat) :
      UsedAlike s t (.scripted (s.after replies faults)) (.scripted (t.after replies faults))

namespace I2cMaster

variable {s t : I2cScript}

theorem agree_write (h : s.faults = t.faults) (address : UInt8) (data : Bytes) :
    Action.Agree (UsedAlike s t) (write address data) (write address data) := by
  rintro _ _ ⟨replies, faults⟩
  have hused : UsedAlike s t _ _ := .intro replies (faults + 1)
  refine ⟨?_, rfl, ?_⟩
  · simp [write, I2cScript.write, I2cScript.next, I2cScript.after, h]
  · simpa [write, I2cScript.write, I2cScript.next, I2cScript.after] using hused

theorem agree_writeRead (h : s.faults = t.faults) (address : UInt8) (data : Bytes) :
    Action.Agree (Beside (UsedAlike s t)) (writeRead address data) (writeRead address data) := by
  rintro ⟨_, buffer⟩ ⟨_, buffer'⟩ ⟨⟨replies, faults⟩, hlength⟩
  have hused : UsedAlike s t _ _ := .intro (replies + 1) (faults + 1)
  have hlength : buffer.length = buffer'.length := hlength
  refine ⟨?_, ?_, ?_, ?_⟩
  · simp [writeRead, I2cScript.writeRead, I2cScript.next, I2cScript.after, h]
  · simp [writeRead, I2cScript.writeRead, hlength]
  · simpa [writeRead, I2cScript.writeRead, I2cScript.next, I2cScript.after] using hused
  · simp [writeRead, I2cScript.writeRead, hlength]

end I2cMaster

namespace I2cBus

variable {s t : I2cScript}

structure UsedAlike (s t : I2cScript) (bus bus' : I2cBus) : Prop where
  config : bus.config = bus'.config
  master : I2cMaster.UsedAlike s t bus.master bus'.master

theorem agree_retrying {σ τ : Type} {R : σ → τ → Prop} {x : Action I2cFault σ Unit}
    {y : Action I2cFault τ Unit} (h : Action.Agree R x y) :
    Action.Agree R (retrying x) (retrying y) :=
  h.orElse fun _ => (Action.Agree.record _).bind fun _ => h.mapError _

theorem agree_write (h : s.faults = t.faults) (payload : Bytes) :
    Action.Agree (UsedAlike s t) (write payload) (write payload) := by
  refine (Action.Agree.ofExcept _).bind fun bytes bus bus' hbus => ?_
  simp only [Action.state_bind, hbus.config]
  refine agree_retrying ((I2cMaster.agree_write h _ bytes).on ?_ ?_) hbus
  · exact fun _ _ hbus => hbus.master
  · exact fun _ _ hbus _ _ hmaster => ⟨hbus.config, hmaster⟩

theorem agree_read (h : s.faults = t.faults) (command : Bytes) :
    Action.Agree (Beside (UsedAlike s t)) (read command) (read command) := by
  rintro ⟨bus, buffer⟩ ⟨bus', buffer'⟩ hstart
  have hlength : buffer.length = buffer'.length := hstart.length
  have hconfig : bus.config = bus'.config := hstart.device.config
  have hrest : Action.Agree (Beside (UsedAlike s t))
      (Action.ofExcept (wire command) >>= fun bytes =>
        retrying ((I2cMaster.writeRead bus'.config.address bytes).on
          (fun (p : I2cBus × Bytes) => (p.1.master, p.2))
          fun (o : I2cMaster × Bytes) p => ({ p.1 with master := o.1 }, o.2)))
      (Action.ofExcept (wire command) >>= fun bytes =>
        retrying ((I2cMaster.writeRead bus'.config.address bytes).on
          (fun (p : I2cBus × Bytes) => (p.1.master, p.2))
          fun (o : I2cMaster × Bytes) p => ({ p.1 with master := o.1 }, o.2))) := by
    refine (Action.Agree.ofExcept _).bind fun bytes => agree_retrying ?_
    refine (I2cMaster.agree_writeRead h _ bytes).on ?_ ?_
    · exact fun _ _ hp => ⟨hp.device.master, hp.length⟩
    · exact fun _ _ hp _ _ ho => ⟨⟨hp.device.config, ho.device⟩, ho.length⟩
  simp only [read, Action.state_bind, hlength, hconfig]
  split
  · exact (Action.Agree.fail _).bind (fun _ => hrest) hstart
  · exact hrest hstart

theorem heedless (h : s.faults = t.faults) : Heedless I2cBus (UsedAlike s t) where
  begin := Action.Agree.pure ()
  write payload _ := agree_onBus (agree_write h payload)
  readBack command _ := agree_readBack rfl (agree_read h command)
  setReturnSize _ := Action.Agree.pure ()
  flush := Action.Agree.pure ()

end I2cBus

/-! ## MIPI -/

namespace DsiScript

/-- The script when so many of its replies and faults are used up. -/
def after (s : DsiScript) (replies writes sizes : Nat) (lowPower : Bool) : DsiScript where
  replies := s.replies.drop replies
  writeFaults := s.writeFaults.drop writes
  sizeFaults := s.sizeFaults.drop sizes
  lowPower := lowPower

/-- Two scripts of the same faults, in the same state. -/
structure SameFaults (s t : DsiScript) : Prop where
  replies : s.replies.map (·.fault) = t.replies.map (·.fault)
  writes : s.writeFaults = t.writeFaults
  sizes : s.sizeFaults = t.sizeFaults
  lowPower : s.lowPower = t.lowPower

variable {s t : DsiScript}

theorem SameFaults.next (h : s.SameFaults t) (replies : Nat) :
    ((s.replies.drop replies).headD {}).fault = ((t.replies.drop replies).headD {}).fault := by
  have hfault (l : List DsiReply) :
      ((l.drop replies).headD {}).fault = ((l.map (·.fault)).drop replies).headD none := by
    rw [← List.map_drop]
    cases l.drop replies <;> rfl
  rw [hfault, hfault, h.replies]

end DsiScript

inductive DsiHost.UsedAlike (s t : DsiScript) : DsiHost → DsiHost → Prop
  | intro (replies writes sizes : Nat) (lowPower : Bool) : UsedAlike s t
      (.scripted (s.after replies writes sizes lowPower))
      (.scripted (t.after replies writes sizes lowPower))

namespace DsiHost

variable {s t : DsiScript}

theorem agree_write (h : s.SameFaults t) (generic : Bool) (data : Bytes) :
    Action.Agree (UsedAlike s t) (write generic data) (write generic data) := by
  rintro _ _ ⟨replies, writes, sizes, lowPower⟩
  have hused : UsedAlike s t _ _ := .intro replies (writes + 1) sizes lowPower
  refine ⟨?_, rfl, ?_⟩
  · simp [write, onScript, DsiScript.write, DsiScript.after, h.writes]
  · simpa [write, onScript, DsiScript.write, DsiScript.after] using hused

theorem agree_setReturnSize (h : s.SameFaults t) (size : UInt16) :
    Action.Agree (UsedAlike s t) (setReturnSize size) (setReturnSize size) := by
  rintro _ _ ⟨replies, writes, sizes, lowPower⟩
  have hused : UsedAlike s t _ _ := .intro replies writes (sizes + 1) lowPower
  refine ⟨?_, rfl, ?_⟩
  · simp [setReturnSize, onScript, DsiScript.setReturnSize, DsiScript.after, h.sizes]
  · simpa [setReturnSize, onScript, DsiScript.setReturnSize, DsiScript.after] using hused

theorem agree_setLowPower (on : Bool) : Action.Agree (UsedAlike s t)
    (setLowPower on : Action PanelError DsiHost Unit) (setLowPower on) := by
  rintro _ _ ⟨replies, writes, sizes, lowPower⟩
  exact ⟨rfl, rfl, .intro replies writes sizes on⟩

theorem agree_answer (h : s.SameFaults t) (event : Nat → Event) :
    Action.Agree (Beside (UsedAlike s t)) (readWith (DsiScript.answer event))
      (readWith (DsiScript.answer event)) := by
  rintro ⟨_, buffer⟩ ⟨_, buffer'⟩ ⟨⟨replies, writes, sizes, lowPower⟩, hlength⟩
  have hused : UsedAlike s t _ _ := .intro (replies + 1) writes sizes lowPower
  have hlength : buffer.length = buffer'.length := hlength
  refine ⟨congrArg reported (h.next replies), ?_, ?_, ?_⟩
  · simp [readWith, DsiScript.answer, hlength]
  · simpa [readWith, DsiScript.answer, DsiScript.after] using hused
  · simp [readWith, DsiScript.answer, hlength]

end DsiHost

namespace MipiBus

variable {s t : DsiScript}

def UsedAlike (s t : DsiScript) (bus bus' : MipiBus) : Prop :=
  DsiHost.UsedAlike s t bus.host bus'.host

theorem agree_onHost {ε : Type} {x : Action ε DsiHost Unit}
    (h : Action.Agree (DsiHost.UsedAlike s t) x x) :
    Action.Agree (UsedAlike s t) (onHost x) (onHost x) :=
  h.on (fun _ _ hbus => hbus) fun _ _ _ _ _ hhost => hhost

theorem agree_readOnce (h : s.SameFaults t) (command : Bytes) (generic : Bool) :
    Action.Agree (Beside (DsiHost.UsedAlike s t)) (readOnce command generic)
      (readOnce command generic) := by
  cases generic with
  | false => exact DsiHost.agree_answer h _
  | true => exact DsiHost.agree_answer h _

/-- Whether a read is attempted again depends on the report, not on the reply. -/
theorem agree_readHost (h : s.SameFaults t) (command : Bytes) (generic : Bool) :
    Action.Agree (Beside (DsiHost.UsedAlike s t)) (readHost command generic)
      (readHost command generic) := by
  refine (agree_readOnce h command generic).orElse fun fault => ?_
  cases fault with
  | protocol =>
    refine (agree_readOnce h command generic).orElse fun again => ?_
    cases again with
    | protocol => exact Action.Agree.pure ()
    | timeout | other => exact Action.Agree.fail _
  | timeout | other => exact Action.Agree.fail _

theorem agree_read (h : s.SameFaults t) (command : Bytes) (generic : Bool) :
    Action.Agree (Beside (UsedAlike s t)) (read command generic) (read command generic) :=
  (agree_readHost h command generic).on (fun _ _ hp => ⟨hp.device, hp.length⟩)
    fun _ _ _ _ _ ho => ⟨ho.device, ho.length⟩

theorem heedless (h : s.SameFaults t) : Heedless MipiBus (UsedAlike s t) where
  begin := agree_onBus (agree_onHost (DsiHost.agree_setLowPower true))
  write payload generic :=
    agree_onBus (agree_onHost ((DsiHost.agree_write h generic payload).mapError _))
  readBack command generic := agree_readBack rfl (agree_read h command generic)
  setReturnSize size :=
    agree_onBus (agree_onHost ((DsiHost.agree_setReturnSize h size.toUInt16).mapError _))
  flush := Action.Agree.pure ()

end MipiBus

/-! ## SPI -/

/-- The script when so many of its replies and faults are used up. -/
def SpiScript.after (s : SpiScript) (replies faults : Nat) : SpiScript where
  replies := s.replies.drop replies
  faults := s.faults.drop faults

inductive SpiDevice.UsedAlike (s t : SpiScript) : SpiDevice → SpiDevice → Prop
  | intro (replies faults : Nat) :
      UsedAlike s t (.scripted (s.after replies faults)) (.scripted (t.after replies faults))

namespace SpiDevice

variable {s t : SpiScript}

theorem agree_write (h : s.faults = t.faults) (data : Bytes) :
    Action.Agree (UsedAlike s t) (write data) (write data) := by
  rintro _ _ ⟨replies, faults⟩
  have hused : UsedAlike s t _ _ := .intro replies (faults + 1)
  refine ⟨?_, rfl, ?_⟩
  · simp [write, SpiScript.write, SpiScript.next, SpiScript.after, h]
  · simpa [write, SpiScript.write, SpiScript.next, SpiScript.after] using hused

theorem agree_transfer (h : s.faults = t.faults) (sent : Bytes) :
    Action.Agree (fun p q => UsedAlike s t p.1 q.1) (transfer sent) (transfer sent) := by
  rintro ⟨_, window⟩ ⟨_, window'⟩ ⟨replies, faults⟩
  have hused : UsedAlike s t _ _ := .intro (replies + 1) (faults + 1)
  refine ⟨?_, rfl, ?_⟩
  · simp [transfer, SpiScript.transfer, SpiScript.next, SpiScript.after, h]
  · simpa [transfer, SpiScript.transfer, SpiScript.next, SpiScript.after] using hused

end SpiDevice

namespace SpiBus

variable {s t : SpiScript}

structure UsedAlike (s t : SpiScript) (bus bus' : SpiBus) : Prop where
  config : bus.config = bus'.config
  device : SpiDevice.UsedAlike s t bus.device bus'.device

theorem framed_linked (h : s.faults = t.faults) : Framed (Linked (UsedAlike s t)) where
  config hlinked := hlinked.bus.config
  pending hlinked := hlinked.pending
  repack _ hlinked := ⟨hlinked.bus, rfl⟩
  sendFrame frame := agree_onBus (((SpiDevice.agree_write h frame).mapError _).on
    (fun _ _ hbus => hbus.device) fun _ _ hbus _ _ hdevice => ⟨hbus.config, hdevice⟩)

theorem linked_exchange (h : s.faults = t.faults) :
    Action.Agree (Linked (UsedAlike s t)) exchange exchange := by
  intro c d hlinked
  have hframe : c.packer.frame = d.packer.frame := Packer.frame_congr hlinked.pending
  have hdevice : (fun p q : SpiDevice × Bytes => SpiDevice.UsedAlike s t p.1 q.1)
      (c.bus.device, c.packer.received) (d.bus.device, d.packer.received) := hlinked.bus.device
  have htransfer := (SpiDevice.agree_transfer h d.packer.frame).mapError transferError hdevice
  simp only [exchange, hframe]
  exact ⟨htransfer.result, htransfer.events, ⟨hlinked.bus.config, htransfer.state⟩,
    by simpa using hlinked.pending⟩

theorem linked_emptying {α : Type} {x : Action PanelError (Channel SpiBus) α}
    (h : Action.Agree (Linked (UsedAlike s t)) x.void x.void) :
    Action.Agree (Linked (UsedAlike s t)) (emptying x).void (emptying x).void :=
  fun _ _ hlinked => ⟨(h hlinked).result, (h hlinked).events, (h hlinked).state.bus, rfl⟩

/-- Whether the reply can be cut out depends on where it starts and on its length. -/
theorem linked_transfer (h : s.faults = t.faults) (start length : Nat) :
    Action.Agree (Linked (UsedAlike s t)) (transfer start length).void
      (transfer start length).void := by
  have hcut (p q : Packer) : (p.readWindow start length).map (fun _ => ()) =
      (q.readWindow start length).map fun _ => () := by
    unfold Packer.readWindow
    split <;> rfl
  refine linked_emptying ((linked_exchange h).void.void_bind fun _ _ c d hlinked => ?_)
  simp only [Action.void, Action.state_bind, Action.ofExcept, hcut c.packer d.packer]
  exact ⟨rfl, rfl, hlinked⟩

theorem onPending_pushOnes (bits : Nat) : Packer.OnPending (·.pushOnes bits) := by
  obtain ⟨g, hg⟩ := Packer.onPending_store (List.replicate bits true)
  refine ⟨g, fun p => ?_⟩
  simp only [← hg p, Packer.pushOnes, Packer.store, List.length_replicate]

theorem linked_query (h : s.faults = t.faults) (command : Bytes) (length : Nat) :
    Action.Agree (Linked (UsedAlike s t)) (query command length).void
      (query command length).void := by
  refine ((framed_linked h).storeCommand command).void.void_bind fun _ _ c d hlinked => ?_
  have hcursor := Packer.cursor_congr hlinked.pending
  have hstop (e : PanelError) : Action.Agree (Linked (UsedAlike s t))
      (Channel.reset >>= fun _ => Action.fail e : Action PanelError (Channel SpiBus) Unit)
      (Channel.reset >>= fun _ => Action.fail e) :=
    Channel.linked_reset.bind fun _ => Action.Agree.fail e
  have hlisten := ((framed_linked h).store (onPending_pushOnes (8 * length))).orElse hstop
  have hrest := hlisten.void.void_bind fun _ _ => linked_transfer h c.packer.cursor length
  simp only [Action.void, Action.state_bind, ← hcursor]
  exact hrest hlinked

theorem heedless (h : s.faults = t.faults) : Heedless SpiBus (UsedAlike s t) where
  begin := Action.Agree.pure ()
  write payload _ := (framed_linked h).write payload
  readBack command generic length := by
    intro c d hlinked
    simp only [Action.void, readBack_eq_query]
    exact linked_query h command length hlinked
  setReturnSize _ := Action.Agree.pure ()
  flush := (framed_linked h).flush

end SpiBus

/-- Two devices whose scripts have the same faults and any bytes in their replies: a run records the
same events on both, uses up as much of the one script as of the other, and ends in the same error,
unless that is a mismatch, which may be found on one of them only. -/
theorem run_same_traffic (ctx : Context) (program : Program) (packer : Packer) :
    (∀ config (s t : I2cScript), s.faults = t.faults →
      (program.run ctx (⟨⟨.scripted s, config⟩, packer⟩ : Channel I2cBus)).SameTraffic
        (fun c d : Channel I2cBus => I2cMaster.UsedAlike s t c.bus.master d.bus.master)
        (program.run ctx ⟨⟨.scripted t, config⟩, packer⟩)) ∧
    (∀ s t : DsiScript, s.SameFaults t →
      (program.run ctx (⟨⟨.scripted s⟩, packer⟩ : Channel MipiBus)).SameTraffic
        (fun c d : Channel MipiBus => DsiHost.UsedAlike s t c.bus.host d.bus.host)
        (program.run ctx ⟨⟨.scripted t⟩, packer⟩)) ∧
    (∀ config (s t : SpiScript), s.faults = t.faults →
      (program.run ctx (⟨⟨.scripted s, config⟩, packer⟩ : Channel SpiBus)).SameTraffic
        (fun c d : Channel SpiBus => SpiDevice.UsedAlike s t c.bus.device d.bus.device)
        (program.run ctx ⟨⟨.scripted t, config⟩, packer⟩)) := by
  refine ⟨fun config s t h => ?_, fun s t h => ?_, fun config s t h => ?_⟩
  · have hstart : Linked (I2cBus.UsedAlike s t) ⟨⟨.scripted s, config⟩, packer⟩
        ⟨⟨.scripted t, config⟩, packer⟩ := ⟨⟨rfl, .intro 0 0⟩, rfl⟩
    have hrun := (I2cBus.heedless h).run I2cBus.confined ctx program hstart
    exact ⟨hrun.result, hrun.events, hrun.state.bus.master⟩
  · have hstart : Linked (MipiBus.UsedAlike s t) ⟨⟨.scripted s⟩, packer⟩
        ⟨⟨.scripted t⟩, packer⟩ := by
      refine ⟨?_, rfl⟩
      have hlow : t.after 0 0 0 s.lowPower = t := by rw [h.lowPower]; rfl
      have hused : DsiHost.UsedAlike s t _ _ := .intro 0 0 0 s.lowPower
      rwa [hlow] at hused
    have hrun := (MipiBus.heedless h).run MipiBus.confined ctx program hstart
    exact ⟨hrun.result, hrun.events, hrun.state.bus⟩
  · have hstart : Linked (SpiBus.UsedAlike s t) ⟨⟨.scripted s, config⟩, packer⟩
        ⟨⟨.scripted t, config⟩, packer⟩ := ⟨⟨rfl, .intro 0 0⟩, rfl⟩
    have hrun := (SpiBus.heedless h).run SpiBus.confined ctx program hstart
    exact ⟨hrun.result, hrun.events, hrun.state.bus.device⟩

/-- A byte is expected that one device of each kind brings and the other does not; on I2C and MIPI
at the second attempt. -/
theorem run_same_traffic_two_devices :
    let program : Program := ⟨[0x40, 0x0a, 0x9c, 0x01, 0x29]⟩
    let ctx : Context := .ofLanes 4
    let master (second : Bytes) : I2cScript := { replies := [[], second], faults := [some .bus] }
    let host (second : Bytes) : DsiScript :=
      { replies := [⟨[], some .protocol⟩, ⟨second, none⟩] }
    let device (byte : UInt8) : SpiScript := { replies := [[0x00, byte]] }
    let onI2c (second : Bytes) :=
      program.run ctx (⟨⟨.scripted (master second), ⟨0x48, 0⟩⟩, {}⟩ : Channel I2cBus)
    let onMipi (second : Bytes) :=
      program.run ctx (⟨⟨.scripted (host second)⟩, {}⟩ : Channel MipiBus)
    let onSpi (byte : UInt8) :=
      program.run ctx (⟨⟨.scripted (device byte), {}⟩, {}⟩ : Channel SpiBus)
    ((onI2c [0x9c]).result.isOk = true ∧ (onI2c [0x08]).result.isOk = false ∧
      (onI2c [0x9c]).events = (onI2c [0x08]).events) ∧
    ((onMipi [0x9c]).result.isOk = true ∧ (onMipi []).result.isOk = false ∧
      (onMipi [0x9c]).events = (onMipi []).events) ∧
    (onSpi 0x9c).result.isOk = true ∧ (onSpi 0x08).result.isOk = false ∧
      (onSpi 0x9c).events = (onSpi 0x08).events := by
  intro program ctx master host device onI2c onMipi onSpi
  obtain ⟨hi2c, hmipi, hspi⟩ := run_same_traffic ctx program {}
  have hhost : (host [0x9c]).SameFaults (host []) := ⟨rfl, rfl, rfl, rfl⟩
  exact ⟨⟨by decide, by decide, (hi2c ⟨0x48, 0⟩ (master [0x9c]) (master [0x08]) rfl).events⟩,
    ⟨by decide, by decide, (hmipi (host [0x9c]) (host []) hhost).events⟩,
    by decide, by decide, (hspi {} (device 0x9c) (device 0x08) rfl).events⟩

end PanelDriver

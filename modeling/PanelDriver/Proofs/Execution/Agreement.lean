import PanelDriver.Proofs.Execution.Requests

/-!
Two actions agree on related states if they give the same result and the same events and leave
related states again. Two buses whose calls agree on related channels run every program alike
(`Parallel.run`); so does a bus on channels that differ in what is out of its sight
(`Discreet.run`).
-/

namespace PanelDriver

/-- The same result and events, in states related by `R`. -/
structure Outcome.Alike {ε σ τ α : Type} (R : σ → τ → Prop) (o : Outcome ε σ α)
    (o' : Outcome ε τ α) : Prop where
  result : o.result = o'.result
  events : o.events = o'.events
  state : R o.state o'.state

theorem Outcome.Alike.exists_eq {ε σ τ α : Type} {R : σ → τ → Prop} {o : Outcome ε σ α}
    {o' : Outcome ε τ α} (h : o.Alike R o') : ∃ result s t events,
      o = ⟨result, s, events⟩ ∧ o' = ⟨result, t, events⟩ ∧ R s t := by
  obtain ⟨result, s, events⟩ := o
  obtain ⟨result', t, events'⟩ := o'
  obtain ⟨rfl, rfl, hst⟩ := h
  exact ⟨_, _, _, _, rfl, rfl, hst⟩

namespace Action

variable {ε φ σ τ α β : Type} {R : σ → τ → Prop}

def Agree (R : σ → τ → Prop) (x : Action ε σ α) (y : Action ε τ α) : Prop :=
  ∀ ⦃s t⦄, R s t → (x s).Alike R (y t)

theorem alike_bind {S : σ → τ → Prop} {x : Action ε σ α} {y : Action ε τ α}
    {f : α → Action ε σ β} {g : α → Action ε τ β} {s : σ} {t : τ} (h : (x s).Alike S (y t))
    (hstop : ∀ ⦃s t⦄, S s t → R s t) (hf : ∀ a ⦃s t⦄, S s t → (f a s).Alike R (g a t)) :
    ((x >>= f) s).Alike R ((y >>= g) t) := by
  obtain ⟨result, s', t', first, hx, hy, hst⟩ := h.exists_eq
  cases result with
  | error e =>
    rw [bind_error hx, bind_error hy]
    exact ⟨rfl, rfl, hstop hst⟩
  | ok a =>
    have hrest := hf a hst
    rw [bind_ok hx, bind_ok hy]
    exact ⟨hrest.result, congrArg (first ++ ·) hrest.events, hrest.state⟩

/-- A step that records nothing may come first. -/
theorem alike_after {x : Action ε σ α} {f : α → Action ε σ β} {s s' : σ} {a : α}
    {o : Outcome ε τ β} (hx : x s = ⟨.ok a, s', []⟩) (h : (f a s').Alike R o) :
    ((x >>= f) s).Alike R o := by
  rw [bind_ok hx]
  exact ⟨h.result, h.events, h.state⟩

theorem alike_orElse {x : Action ε σ α} {y : Action ε τ α} {f : ε → Action φ σ α}
    {g : ε → Action φ τ α} {s : σ} {t : τ} (h : (x s).Alike R (y t))
    (hf : ∀ e ⦃s t⦄, R s t → (f e s).Alike R (g e t)) :
    ((x.orElse f) s).Alike R ((y.orElse g) t) := by
  obtain ⟨result, s', t', first, hx, hy, hst⟩ := h.exists_eq
  cases result with
  | error e =>
    have hrest := hf e hst
    rw [orElse_error hx, orElse_error hy]
    exact ⟨hrest.result, congrArg (first ++ ·) hrest.events, hrest.state⟩
  | ok a =>
    rw [orElse_ok hx, orElse_ok hy]
    exact ⟨rfl, rfl, hst⟩

namespace Agree

theorem pure (a : α) : Agree R (Pure.pure a : Action ε σ α) (Pure.pure a : Action ε τ α) :=
  fun _ _ h => ⟨rfl, rfl, h⟩

theorem fail (e : ε) : Agree R (Action.fail e : Action ε σ α) (Action.fail e : Action ε τ α) :=
  fun _ _ h => ⟨rfl, rfl, h⟩

theorem record (e : Event) :
    Agree R (Action.record e : Action ε σ Unit) (Action.record e : Action ε τ Unit) :=
  fun _ _ h => ⟨rfl, rfl, h⟩

theorem bind {x : Action ε σ α} {y : Action ε τ α} {f : α → Action ε σ β}
    {g : α → Action ε τ β} (h : Agree R x y) (hf : ∀ a, Agree R (f a) (g a)) :
    Agree R (x >>= f) (y >>= g) :=
  fun _ _ hst => alike_bind (h hst) (fun _ _ h => h) hf

theorem orElse {x : Action ε σ α} {y : Action ε τ α} {f : ε → Action φ σ α}
    {g : ε → Action φ τ α} (h : Agree R x y) (hf : ∀ e, Agree R (f e) (g e)) :
    Agree R (x.orElse f) (y.orElse g) :=
  fun _ _ hst => alike_orElse (h hst) hf

end Agree

end Action

/-! ## Buses -/

section Parallel

variable {β γ P Q : Type} [SidebandBus β P] [SidebandBus γ Q]

/-- Every call on the one bus agrees with that on the other, on related channels. -/
structure Parallel (R : Channel β P → Channel γ Q → Prop) : Prop where
  begin : Action.Agree R SidebandBus.begin SidebandBus.begin
  write : ∀ payload generic, Action.Agree R
    (SidebandBus.write payload generic) (SidebandBus.write payload generic)
  readBack : ∀ command generic length, Action.Agree R
    (Channel.readBack command generic length) (Channel.readBack command generic length)
  setReturnSize : ∀ size, Action.Agree R
    (SidebandBus.setReturnSize size) (SidebandBus.setReturnSize size)
  flush : Action.Agree R SidebandBus.flush SidebandBus.flush

namespace Parallel

variable {R : Channel β P → Channel γ Q → Prop}

theorem serve (law : Parallel R) (request : Request) :
    Action.Agree R (PanelDriver.serve request) (PanelDriver.serve request) := by
  cases request with
  | send generic payload =>
    refine Action.Agree.bind ?_ fun _ => Action.Agree.pure false
    cases payload with
    | nil => exact Action.Agree.pure ()
    | cons b data => exact law.write (b :: data) generic
  | wait ms =>
    refine law.flush.bind fun _ => ?_
    exact (Action.Agree.record _).bind fun _ => Action.Agree.pure false
  | limit size => exact (law.setReturnSize size).bind fun _ => Action.Agree.pure false
  | ask query expected =>
    exact (law.readBack query.bytes query.isGeneric expected.length).bind fun reply =>
      Action.Agree.pure (Bytes.differ reply expected)

theorem serveAll (law : Parallel R) (asked : List Request) (mismatch : Bool) :
    Action.Agree R (PanelDriver.serveAll mismatch asked) (PanelDriver.serveAll mismatch asked) := by
  induction asked generalizing mismatch with
  | nil => exact Action.Agree.pure mismatch
  | cons request rest ih => exact (law.serve request).bind fun found => ih (mismatch || found)

theorem serveUntil (law : Parallel R) (asked : List Request) (defect : Option PanelError) :
    Action.Agree R (PanelDriver.serveUntil false asked defect)
      (PanelDriver.serveUntil false asked defect) := by
  refine (law.serveAll asked false).bind fun mismatch => ?_
  cases defect with
  | none => exact Action.Agree.pure mismatch
  | some e => exact Action.Agree.fail e

variable [Resettable P] [Resettable Q] {start : Channel β P → Channel γ Q → Prop}

/-- A run starts with an empty packer, so it does not see what waited before. -/
theorem conduct (law : Parallel R)
    (hreset : ∀ ⦃s t⦄, start s t → R { s with packer := Resettable.reset s.packer }
      { t with packer := Resettable.reset t.packer })
    (hstart : ∀ ⦃s t⦄, R s t → start s t) (asked : List Request) (defect : Option PanelError) :
    Action.Agree start (PanelDriver.conduct asked defect) (PanelDriver.conduct asked defect) := by
  intro s t h
  refine Action.alike_bind (S := R) ⟨rfl, rfl, hreset h⟩ hstart fun _ s t h => ?_
  refine Action.alike_bind (law.begin h) hstart fun _ s t h => ?_
  have hstop (e : PanelError) : Action.Agree R
      (Channel.reset >>= fun _ => Action.fail e : Action PanelError (Channel β P) Bool)
      (Channel.reset >>= fun _ => Action.fail e) := by
    refine Action.Agree.bind (fun _ _ h => ?_) fun _ => Action.Agree.fail e
    exact ⟨rfl, rfl, hreset (hstart h)⟩
  have hserve := (law.serveUntil asked defect).orElse hstop
  refine Action.alike_bind (hserve h) hstart fun mismatch s t h => ?_
  refine Action.alike_bind (law.flush h) hstart fun _ s t h => ?_
  cases mismatch with
  | true => exact ⟨rfl, rfl, hstart h⟩
  | false => exact ⟨rfl, rfl, hstart h⟩

/-- Nothing that a program does tells the channels apart. -/
theorem run (law : Parallel R)
    (hreset : ∀ ⦃s t⦄, start s t → R { s with packer := Resettable.reset s.packer }
      { t with packer := Resettable.reset t.packer })
    (hstart : ∀ ⦃s t⦄, R s t → start s t) (ctx : Context) (program : Program) :
    Action.Agree start (program.run ctx) (program.run ctx) := by
  rw [run_eq_conduct, run_eq_conduct]
  cases program.isEmpty with
  | true => exact Action.Agree.pure ()
  | false => exact law.conduct hreset hstart (program.requests ctx) (defect? program.items)

end Parallel

end Parallel

section Discreet

variable {β : Type}

/-- The same bus, with windows that suit it. -/
structure SameBus (suits : β → Vector UInt8 64 → Prop) (s t : Channel β) : Prop where
  bus : s.bus = t.bus
  left : suits s.bus s.packer.window
  right : suits t.bus t.packer.window

/-- Moreover, the same bits wait in the packers. -/
structure SamePending (suits : β → Vector UInt8 64 → Prop) (s t : Channel β) : Prop
    extends SameBus suits s t where
  pending : s.packer.pending = t.packer.pending

/-- No call on the bus tells channels apart in which the same bits wait, and every call leaves a
window that suits the bus. -/
abbrev Discreet (β : Type) [SidebandBus β] (suits : β → Vector UInt8 64 → Prop) : Prop :=
  Parallel (SamePending suits)

theorem SameBus.reset {suits : β → Vector UInt8 64 → Prop} {s t : Channel β}
    (h : SameBus suits s t) :
    SamePending suits { s with packer := s.packer.reset } { t with packer := t.packer.reset } :=
  ⟨⟨h.bus, h.left, h.right⟩, rfl⟩

/-- Nothing that a program does tells channels apart that have the same bus. -/
theorem Discreet.run [SidebandBus β] {suits : β → Vector UInt8 64 → Prop}
    (law : Discreet β suits) (ctx : Context) (program : Program) :
    Action.Agree (SameBus suits) (program.run ctx : Action PanelError (Channel β) Unit)
      (program.run ctx) :=
  Parallel.run law (fun _ _ h => h.reset) (fun _ _ h => h.toSameBus) ctx program

end Discreet

end PanelDriver

import PanelDriver.Proofs.Execution.Agreement
import PanelDriver.Proofs.Panel.Transitions

/-!
Two panels side by side. An action echoes on related states if it does the same on both, as far as
its events are heard. If the parts of which calls are made echo on related panels, then so does
every call (`PartsEcho.perform`).
-/

namespace PanelDriver

open ControlLines (enterReset leaveReset setPower setPrepare setReset)

/-! ## Actions that are heard in part -/

namespace Action

variable {ε φ σ τ α β : Type} {R : σ → σ → Prop} {hears : Event → Bool}

/-- The same action, of which only some events are recorded. -/
def muted (hears : Event → Bool) (x : Action ε σ α) : Action ε σ α := fun s =>
  ⟨(x s).result, (x s).state, (x s).events.filter hears⟩

theorem muted_bind (x : Action ε σ α) (f : α → Action ε σ β) :
    (x >>= f).muted hears = x.muted hears >>= fun a => (f a).muted hears := by
  funext s
  rcases hx : x s with ⟨e | a, s', first⟩
  · have hmuted : x.muted hears s = ⟨.error e, s', first.filter hears⟩ := by
      simp only [muted, hx]
    rw [bind_error hmuted, muted, bind_error hx]
  · have hmuted : x.muted hears s = ⟨.ok a, s', first.filter hears⟩ := by
      simp only [muted, hx]
    rw [bind_ok hmuted, muted, bind_ok hx]
    simp only [muted, List.filter_append]

theorem muted_orElse (x : Action ε σ α) (f : ε → Action φ σ α) :
    (x.orElse f).muted hears = (x.muted hears).orElse fun e => (f e).muted hears := by
  funext s
  rcases hx : x s with ⟨e | a, s', first⟩
  · have hmuted : x.muted hears s = ⟨.error e, s', first.filter hears⟩ := by
      simp only [muted, hx]
    rw [orElse_error hmuted, muted, orElse_error hx]
    simp only [muted, List.filter_append]
  · have hmuted : x.muted hears s = ⟨.ok a, s', first.filter hears⟩ := by
      simp only [muted, hx]
    rw [orElse_ok hmuted, muted, orElse_ok hx]

/-- On related states the action is heard as itself, muted. -/
def Echoes (R : σ → σ → Prop) (hears : Event → Bool) (x : Action ε σ α) : Prop :=
  Agree R x (x.muted hears)

namespace Echoes

theorem pure (a : α) : Echoes R hears (Pure.pure a : Action ε σ α) := fun _ _ h => ⟨rfl, rfl, h⟩

theorem fail (e : ε) : Echoes R hears (Action.fail e : Action ε σ α) := fun _ _ h => ⟨rfl, rfl, h⟩

theorem bind {x : Action ε σ α} {f : α → Action ε σ β} (h : Echoes R hears x)
    (hf : ∀ a, Echoes R hears (f a)) : Echoes R hears (x >>= f) := by
  rw [Echoes, muted_bind]
  exact Agree.bind h hf

theorem orElse {x : Action ε σ α} {f : ε → Action φ σ α} (h : Echoes R hears x)
    (hf : ∀ e, Echoes R hears (f e)) : Echoes R hears (x.orElse f) := by
  rw [Echoes, muted_orElse]
  exact Agree.orElse h hf

theorem ignore {x : Action ε σ Unit} (h : Echoes R hears x) :
    Echoes R hears (x.ignore : Action φ σ Unit) := h.orElse fun _ => Echoes.pure ()

theorem on {S : τ → τ → Prop} {x : Action ε σ α} {part : τ → σ} {put : σ → τ → τ}
    (h : Echoes R hears x) (hpart : ∀ ⦃s t⦄, S s t → R (part s) (part t))
    (hput : ∀ ⦃s t u v⦄, S s t → R u v → S (put u s) (put v t)) :
    Echoes S hears (x.on part put) := fun _ _ hst =>
  let hx := h (hpart hst)
  ⟨hx.result, hx.events, hput hst hx.state⟩

/-- What it looks at is the same in both states. -/
theorem state {f : σ → Action ε σ α} (hsame : ∀ ⦃s t⦄, R s t → f t = f s)
    (h : ∀ s, Echoes R hears (f s)) : Echoes R hears (Action.state >>= f) := by
  intro s t hst
  have hs := h s hst
  rw [← hsame hst] at hs
  simpa only [muted, state_bind, hsame hst] using hs

theorem update {f : σ → σ} (h : ∀ ⦃s t⦄, R s t → R (f s) (f t)) :
    Echoes R hears (Action.update f : Action ε σ Unit) := fun _ _ hst => ⟨rfl, rfl, h hst⟩

end Echoes

end Action

open PanelDriver.Action (Echoes)

/-! ## Calls on lines -/

namespace ControlLines

section OfLine

variable {R : ControlLines → ControlLines → Prop} {S : Line → Line → Prop} {hears : Event → Bool}
  {high : Bool}

theorem echoes_setPower (h : Echoes S hears (Line.set .power high))
    (hpart : ∀ ⦃s t⦄, R s t → S s.power t.power)
    (hput : ∀ ⦃s t u v⦄, R s t → S u v → R { s with power := u } { t with power := v }) :
    Echoes R hears (setPower high) := by
  rw [funext (setPower_eq high)]
  exact h.on hpart hput

theorem echoes_setPrepare (h : Echoes S hears (Line.set .prepare high))
    (hpart : ∀ ⦃s t⦄, R s t → S s.prepare t.prepare)
    (hput : ∀ ⦃s t u v⦄, R s t → S u v → R { s with prepare := u } { t with prepare := v }) :
    Echoes R hears (setPrepare high) := by
  rw [funext (setPrepare_eq high)]
  exact h.on hpart hput

theorem echoes_setReset (h : Echoes S hears (Line.set .reset high))
    (hpart : ∀ ⦃s t⦄, R s t → S s.reset t.reset)
    (hput : ∀ ⦃s t u v⦄, R s t → S u v → R { s with reset := u } { t with reset := v }) :
    Echoes R hears (setReset high) := by
  rw [funext (setReset_eq high)]
  exact h.on hpart hput

end OfLine

/-- Driving a line echoes on related lines. -/
structure SetsEcho (R : ControlLines → ControlLines → Prop) (hears : Event → Bool) : Prop where
  setPower : ∀ high, Echoes R hears (setPower high)
  setPrepare : ∀ high, Echoes R hears (setPrepare high)
  setReset : ∀ high, Echoes R hears (setReset high)

namespace SetsEcho

variable {R : ControlLines → ControlLines → Prop} {hears : Event → Bool}

theorem enterReset (law : SetsEcho R hears) : Echoes R hears enterReset :=
  (law.setReset true).ignore.bind fun _ => (law.setPrepare false).ignore

theorem leaveReset (law : SetsEcho R hears) : Echoes R hears leaveReset :=
  (law.setPrepare true).bind fun _ => law.setReset false

end SetsEcho

end ControlLines

/-! ## Calls on a panel -/

namespace Panel

/-- The parts of calls echo on related panels. These have the same flags, and whatever the flags
become, the panels stay related. -/
structure PartsEcho (R : Panel → Panel → Prop) (hears : Event → Bool) : Prop where
  setPower : ∀ high, Echoes R hears (onPins (setPower high))
  enterReset : Echoes R hears (onPins enterReset)
  leaveReset : Echoes R hears (onPins leaveReset)
  setSupply : ∀ on, Echoes R hears (setSupply on)
  setBlank : ∀ blank, Echoes R hears (setBlank blank)
  wait : ∀ delay, Echoes R hears (wait delay)
  runPrograms : ∀ phase, Echoes R hears (runPrograms phase)
  prepared : ∀ {p q}, R p q → q.prepared = p.prepared
  enabled : ∀ {p q}, R p q → q.enabled = p.enabled
  setPrepared : ∀ {p q} flag, R p q → R { p with prepared := flag } { q with prepared := flag }
  setEnabled : ∀ {p q} flag, R p q → R { p with enabled := flag } { q with enabled := flag }

/-- A call that may have nothing to do. -/
theorem echoes_unless {R : Panel → Panel → Prop} {hears : Event → Bool} (flag : Panel → Bool)
    {x y : Action PanelError Panel Unit} (hflag : ∀ {p q}, R p q → flag q = flag p)
    (hx : Echoes R hears x) (hy : Echoes R hears y) :
    Echoes R hears (Action.state >>= fun panel => if flag panel then x else y) := by
  refine Echoes.state (fun p q hpq => by rw [hflag hpq]) fun panel => ?_
  split
  · exact hx
  · exact hy

namespace PartsEcho

variable {R : Panel → Panel → Prop} {hears : Event → Bool}

theorem cutSupply (law : PartsEcho R hears) : Echoes R hears cutSupply :=
  law.enterReset.bind fun _ => (law.setSupply false).ignore

theorem wake (law : PartsEcho R hears) : Echoes R hears wake :=
  law.leaveReset.bind fun _ => (law.wait _).bind fun _ => law.runPrograms .init

theorem light (law : PartsEcho R hears) : Echoes R hears light :=
  (law.runPrograms .enable).bind fun _ => (law.wait _).bind fun _ => law.setBlank false

theorem powerUp (law : PartsEcho R hears) : Echoes R hears powerUp :=
  (law.setPower true).bind fun _ => law.wait _

theorem powerDown (law : PartsEcho R hears) : Echoes R hears powerDown :=
  (law.wait _).bind fun _ => law.setPower false

theorem prepare (law : PartsEcho R hears) : Echoes R hears prepare := by
  have hundo (e : PanelError) : Echoes R hears
      (Panel.cutSupply >>= fun _ => Action.fail e : Action PanelError Panel Unit) :=
    law.cutSupply.bind fun _ => Echoes.fail e
  refine echoes_unless (·.prepared) law.prepared (Echoes.pure ()) ?_
  refine (law.setSupply true).bind fun _ => ?_
  exact (law.wake.orElse hundo).bind fun _ => Echoes.update fun _ _ h => law.setPrepared true h

theorem enable (law : PartsEcho R hears) : Echoes R hears enable := by
  have hundo (e : PanelError) : Echoes R hears
      (onPins ControlLines.enterReset >>= fun _ => Action.fail e :
        Action PanelError Panel Unit) :=
    law.enterReset.bind fun _ => Echoes.fail e
  refine echoes_unless (·.enabled) law.enabled (Echoes.pure ()) ?_
  exact (law.light.orElse hundo).bind fun _ => Echoes.update fun _ _ h => law.setEnabled true h

theorem disable (law : PartsEcho R hears) : Echoes R hears disable := by
  refine echoes_unless (·.enabled) law.enabled ?_ (Echoes.pure ())
  refine (law.setBlank true).ignore.bind fun _ => (law.wait _).bind fun _ => ?_
  refine (law.runPrograms .disable).ignore.bind fun _ => ?_
  exact Echoes.update fun _ _ h => law.setEnabled false h

theorem unprepare (law : PartsEcho R hears) : Echoes R hears unprepare := by
  refine echoes_unless (·.prepared) law.prepared ?_ (Echoes.pure ())
  refine (law.wait _).bind fun _ => law.cutSupply.bind fun _ => ?_
  exact Echoes.update fun _ _ h => law.setPrepared false h

theorem perform (law : PartsEcho R hears) (call : Call) : Echoes R hears (perform call) := by
  cases call with
  | powerUp => exact law.powerUp
  | prepare => exact law.prepare
  | enable => exact law.enable
  | disable => exact law.disable
  | unprepare => exact law.unprepare
  | powerDown => exact law.powerDown
  | shutdown => exact law.disable.ignore.bind fun _ => law.unprepare.ignore

end PartsEcho

end Panel

end PanelDriver

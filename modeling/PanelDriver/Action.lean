import PanelDriver.Event

/-!
Actions on devices. An action fails or gives a value; in both cases it leaves a new state and the
events it recorded, oldest first. A failed action stops what follows it and keeps what it did.
-/

namespace PanelDriver

structure Outcome (ε σ α : Type) where
  result : Except ε α
  state : σ
  events : List Event

/-- The result of a call on a device that reports `fault`. -/
def reported {ε : Type} : Option ε → Except ε Unit
  | none => .ok ()
  | some e => .error e

/-- The next entry of a schedule in which every entry is `quiet`, and so are those after its end. -/
theorem headD_of_forall_eq {α : Type} {quiet : α} {schedule : List α}
    (h : ∀ entry ∈ schedule, entry = quiet) : schedule.headD quiet = quiet := by
  cases schedule with
  | nil => rfl
  | cons first rest => exact h first List.mem_cons_self

def Action (ε σ α : Type) := σ → Outcome ε σ α

namespace Action

variable {ε φ σ τ α β : Type}

protected def pure (a : α) : Action ε σ α := fun s => ⟨.ok a, s, []⟩

protected def bind (x : Action ε σ α) (f : α → Action ε σ β) : Action ε σ β := fun s =>
  match x s with
  | ⟨.ok a, s, first⟩ => ⟨(f a s).result, (f a s).state, first ++ (f a s).events⟩
  | ⟨.error e, s, first⟩ => ⟨.error e, s, first⟩

instance : Monad (Action ε σ) where
  pure := Action.pure
  bind := Action.bind

def fail (e : ε) : Action ε σ α := fun s => ⟨.error e, s, []⟩

/-- Goes on with a result that is already there. -/
def ofExcept (r : Except ε α) : Action ε σ α := fun s => ⟨r, s, []⟩

def state : Action ε σ σ := fun s => ⟨.ok s, s, []⟩

def update (f : σ → σ) : Action ε σ Unit := fun s => ⟨.ok (), f s, []⟩

def record (e : Event) : Action ε σ Unit := fun s => ⟨.ok (), s, [e]⟩

/-- Where `x` fails, goes on with `f` from the state in which `x` stopped. -/
def orElse (x : Action ε σ α) (f : ε → Action φ σ α) : Action φ σ α := fun s =>
  match x s with
  | ⟨.ok a, s, first⟩ => ⟨.ok a, s, first⟩
  | ⟨.error e, s, first⟩ => ⟨(f e s).result, (f e s).state, first ++ (f e s).events⟩

/-- Runs `x` and goes on whether or not it failed. -/
def ignore (x : Action ε σ Unit) : Action φ σ Unit := x.orElse fun _ => pure ()

def mapError (f : ε → φ) (x : Action ε σ α) : Action φ σ α := x.orElse fun e => fail (f e)

/-- Runs an action on a part of the state. -/
def on (part : τ → σ) (put : σ → τ → τ) (x : Action ε σ α) : Action ε τ α := fun t =>
  ⟨(x (part t)).result, put (x (part t)).state t, (x (part t)).events⟩

/-- Runs an action on a part that may be missing; without it nothing happens. -/
def onSome (part : τ → Option σ) (put : σ → τ → τ) (x : Action ε σ Unit) : Action ε τ Unit :=
  fun t =>
    match part t with
    | some s => ⟨(x s).result, put (x s).state t, (x s).events⟩
    | none => ⟨.ok (), t, []⟩

@[simp] theorem pure_apply (a : α) (s : σ) : (pure a : Action ε σ α) s = ⟨.ok a, s, []⟩ := rfl

@[simp] theorem state_bind (f : σ → Action ε σ β) (s : σ) : (state >>= f) s = f s s := rfl

@[simp] theorem fail_bind (e : ε) (f : α → Action ε σ β) (s : σ) :
    ((fail e : Action ε σ α) >>= f) s = ⟨.error e, s, []⟩ := rfl

@[simp] theorem update_bind (g : σ → σ) (f : Unit → Action ε σ β) (s : σ) :
    (update g >>= f) s = f () (g s) := rfl

@[simp] theorem pure_orElse (a : α) (f : ε → Action φ σ α) :
    (pure a : Action ε σ α).orElse f = pure a := rfl

@[simp] theorem fail_orElse (e : ε) (f : ε → Action φ σ α) :
    (fail e : Action ε σ α).orElse f = f e := rfl

theorem bind_ok {x : Action ε σ α} {f : α → Action ε σ β} {s s' : σ} {a : α} {es : List Event}
    (h : x s = ⟨.ok a, s', es⟩) :
    (x >>= f) s = ⟨(f a s').result, (f a s').state, es ++ (f a s').events⟩ := by
  simp [bind, Action.bind, h]

theorem bind_error {x : Action ε σ α} {f : α → Action ε σ β} {s s' : σ} {e : ε} {es : List Event}
    (h : x s = ⟨.error e, s', es⟩) : (x >>= f) s = ⟨.error e, s', es⟩ := by
  simp [bind, Action.bind, h]

theorem bind_of_ok {x : Action ε σ α} {s : σ} {a : α} (h : (x s).result = .ok a)
    (f : α → Action ε σ β) : (x >>= f) s = ⟨(f a (x s).state).result, (f a (x s).state).state,
      (x s).events ++ (f a (x s).state).events⟩ := by
  rcases hx : x s with ⟨result, s', es⟩
  rw [hx] at h
  subst h
  exact bind_ok hx

theorem bind_of_error {x : Action ε σ α} {s : σ} {e : ε} (h : (x s).result = .error e)
    (f : α → Action ε σ β) : (x >>= f) s = ⟨.error e, (x s).state, (x s).events⟩ := by
  rcases hx : x s with ⟨result, s', es⟩
  rw [hx] at h
  subst h
  exact bind_error hx

/-- What goes on depends on the outcome before it only. -/
theorem bind_congr_outcome {x y : Action ε σ α} {s t : σ} (h : x s = y t)
    (f : α → Action ε σ β) : (x >>= f) s = (y >>= f) t := by
  simp only [bind, Action.bind, h]

theorem bind_update {x : Action ε σ α} {f : σ → σ} {s s' : σ} {a : α} {es : List Event}
    (h : x s = ⟨.ok a, s', es⟩) : (x >>= fun _ => update f) s = ⟨.ok (), f s', es⟩ := by
  simp [bind_ok h, update]

theorem orElse_ok {x : Action ε σ α} {f : ε → Action φ σ α} {s s' : σ} {a : α} {es : List Event}
    (h : x s = ⟨.ok a, s', es⟩) : (x.orElse f) s = ⟨.ok a, s', es⟩ := by
  simp [orElse, h]

theorem orElse_error {x : Action ε σ α} {f : ε → Action φ σ α} {s s' : σ} {e : ε}
    {es : List Event} (h : x s = ⟨.error e, s', es⟩) :
    (x.orElse f) s = ⟨(f e s').result, (f e s').state, es ++ (f e s').events⟩ := by
  simp [orElse, h]

/-- A failed action that is undone still fails. -/
theorem orElse_undo {x : Action ε σ α} {undo : Action ε σ Unit} {s s' s'' : σ} {e : ε}
    {first second : List Event} (hx : x s = ⟨.error e, s', first⟩)
    (hundo : undo s' = ⟨.ok (), s'', second⟩) :
    (x.orElse fun e => undo >>= fun _ => fail e) s = ⟨.error e, s'', first ++ second⟩ := by
  rw [orElse_error hx, bind_ok hundo]
  simp [fail]

theorem mapError_eq (f : ε → φ) {x : Action ε σ α} {s s' : σ} {result : Except ε α}
    {es : List Event} (h : x s = ⟨result, s', es⟩) :
    x.mapError f s = ⟨result.mapError f, s', es⟩ := by
  cases result with
  | error e =>
    rw [mapError, orElse_error h]
    simp only [fail, List.append_nil]
    rfl
  | ok a => exact orElse_ok h

theorem ignore_apply (x : Action ε σ Unit) (s : σ) :
    (x.ignore : Action φ σ Unit) s = ⟨.ok (), (x s).state, (x s).events⟩ := by
  rcases hx : x s with ⟨_ | _, s', events⟩
  · rw [ignore, orElse_error hx]
    simp
  · rw [ignore, orElse_ok hx]

instance : LawfulMonad (Action ε σ) := LawfulMonad.mk' _
  (by
    intro α x
    funext s
    show Action.bind x _ s = _
    simp only [Action.bind]
    rcases x s with ⟨_ | _, _, _⟩ <;> simp [Action.pure])
  (by intro α β a f; funext s; simp [bind, pure, Action.bind, Action.pure])
  (by
    intro α β γ x f g
    funext s
    simp only [bind, Action.bind]
    rcases x s with ⟨_ | a, s, first⟩
    · rfl
    · simp only
      rcases f a s with ⟨_ | b, s, second⟩ <;> simp)

end Action

end PanelDriver

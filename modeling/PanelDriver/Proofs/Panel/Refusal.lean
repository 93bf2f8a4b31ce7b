import PanelDriver.Proofs.Panel.Errors
import PanelDriver.Proofs.Panel.Safety
import PanelDriver.Proofs.Program.Prefix

/-!
What a host learns and what it has back when a bind is refused. It learns of the first ground that
applies (`bind_first_ground`). A refusal for something that is wrong with the configuration, or
missing, touches nothing, and the host goes on as if it had not asked (`negotiate_effective`). A
line that refuses its first level is met after other lines may have been driven; these stay driven
(`refused_bind`).
-/

namespace PanelDriver

open ControlLines (initialise setPower setPrepare setReset)

/-! ## Checks -/

theorem foundAtBind_of_place {e : PanelError} {offset : Nat} (h : e.place? = some offset) :
    e.FoundAtBind := by
  cases e with
  | truncated | unknownOpcode => trivial
  | _ => cases h

theorem PanelError.FoundAtBind.ne_gpio {e : PanelError} (h : e.FoundAtBind) : e ≠ .gpio := by
  rintro rfl
  exact h

/-- All grounds but the lines are found when a panel is bound. -/
theorem Ground.foundAtBind {config : Config} {r : Resources} {ground : Ground} {e : PanelError}
    (hline : ground.isLine = false) (h : error? config r ground = some e) : e.FoundAtBind := by
  cases ground with
  | line name => cases hline
  | program phase kind =>
    rw [error?, ← Program.failure?_validate, failure?_eq_some_iff] at h
    obtain ⟨-, offset, hplace, -⟩ := Program.exists_of_validate_error h
    exact foundAtBind_of_place hplace
  | _ =>
    obtain ⟨-, herror⟩ := Option.ite_none_right_eq_some.mp h
    cases herror
    trivial

theorem Panel.foundAtBind_of_check {config : Config} {r : Resources} {e : PanelError}
    (h : check config r = .error e) : e.FoundAtBind := by
  rw [← failure?_eq_some_iff, failure?_check] at h
  obtain ⟨ground, hmem, herror⟩ := List.exists_of_findSome?_eq_some h
  exact Ground.foundAtBind (Ground.isLine_of_mem_checks hmem) herror

/-! ## Lines -/

/-- A line that refuses keeps the call. -/
theorem Line.ne_of_error {name : PinName} {high : Bool} {line : Line} {e : PanelError}
    (h : (set name high line).result = .error e) : (set name high line).state ≠ line := by
  cases line with
  | none => cases h
  | some pin =>
    simp only [set, Action.onSome, id] at h ⊢
    rcases Pin.set_cases name high pin with hset | hset
    · rw [hset] at h
      cases h
    · rw [hset]
      intro hsame
      have hrefused := congrArg Pin.refused (Option.some.inj hsame)
      exact absurd hrefused (List.cons_ne_self high pin.refused)

namespace ControlLines

/-- Where the first levels stop, when a line refuses its own: what the lines are then, and what was
recorded. The lines before it have followed, and those after it are not asked. -/
inductive Halted (pins : ControlLines) : ControlLines → List Event → Prop
  | reset (hreset : (Line.set .reset true pins.reset).result = .error .gpio) :
      Halted pins { pins with reset := (Line.set .reset true pins.reset).state } []
  | prepare (hreset : (Line.set .reset true pins.reset).result = .ok ())
      (hprepare : (Line.set .prepare false pins.prepare).result = .error .gpio) :
      Halted pins
        { pins with
          reset := (Line.set .reset true pins.reset).state
          prepare := (Line.set .prepare false pins.prepare).state }
        (Line.set .reset true pins.reset).events
  | power (hreset : (Line.set .reset true pins.reset).result = .ok ())
      (hprepare : (Line.set .prepare false pins.prepare).result = .ok ())
      (hpower : (Line.set .power false pins.power).result = .error .gpio) :
      Halted pins
        { reset := (Line.set .reset true pins.reset).state
          prepare := (Line.set .prepare false pins.prepare).state
          power := (Line.set .power false pins.power).state }
        ((Line.set .reset true pins.reset).events ++
          (Line.set .prepare false pins.prepare).events)

variable {pins last : ControlLines} {events : List Event}

theorem Halted.ne (h : Halted pins last events) : last ≠ pins := by
  intro hsame
  cases h with
  | reset hreset => exact Line.ne_of_error hreset (congrArg ControlLines.reset hsame)
  | prepare _ hprepare => exact Line.ne_of_error hprepare (congrArg ControlLines.prepare hsame)
  | power _ _ hpower => exact Line.ne_of_error hpower (congrArg ControlLines.power hsame)

theorem halted_of_initialise {e : PanelError} (h : initialise pins = ⟨.error e, last, events⟩) :
    e = .gpio ∧ Halted pins last events := by
  have hfirst := setReset_eq true pins
  cases hreset : (Line.set .reset true pins.reset).result with
  | error failed =>
    obtain ⟨rfl, hnone, -⟩ := Line.level_of_error hreset
    rw [hreset, hnone] at hfirst
    rw [initialise, Action.bind_error hfirst] at h
    cases h
    exact ⟨rfl, .reset hreset⟩
  | ok _ =>
    rw [hreset] at hfirst
    rw [initialise, Action.bind_ok hfirst] at h
    have hsecond := setPrepare_eq false
      { pins with reset := (Line.set .reset true pins.reset).state }
    cases hprepare : (Line.set .prepare false pins.prepare).result with
    | error failed =>
      obtain ⟨rfl, hnone, -⟩ := Line.level_of_error hprepare
      simp only [hprepare, hnone] at hsecond
      rw [Action.bind_error hsecond, List.append_nil] at h
      cases h
      exact ⟨rfl, .prepare hreset hprepare⟩
    | ok _ =>
      simp only [hprepare] at hsecond
      rw [Action.bind_ok hsecond, setPower_eq] at h
      injection h with hresult hlast hevents
      obtain ⟨rfl, hnone, -⟩ := Line.level_of_error hresult
      rw [hnone, List.append_nil] at hevents
      rw [← hlast, ← hevents]
      exact ⟨rfl, .power hreset hprepare hresult⟩

end ControlLines

namespace Panel

/-! ## Refusals -/

/-- Refused by the checks, the host has back what it handed over. -/
theorem bind_of_check_error {config : Config} {r : Resources} {e : PanelError}
    (h : check config r = .error e) : bind config r = (.error ⟨e, r⟩, []) := by
  rw [bind, h]

/-- A bind is refused by the checks, or else by a line. -/
theorem refused_cases {config : Config} {r : Resources} {refusal : Refusal} {events : List Event}
    (refused : bind config r = (.error refusal, events)) :
    (refusal.error.FoundAtBind ∧ refusal.resources = r ∧ events = []) ∨
      refusal.error = .gpio ∧ ∃ pins, r.pins.Halted pins events ∧
        refusal.resources = { r with pins } := by
  rcases hcheck : check config r with e | ⟨timing, buses⟩
  · rw [bind_of_check_error hcheck] at refused
    cases refused
    exact .inl ⟨foundAtBind_of_check hcheck, rfl, rfl⟩
  · have hadapters := Buses.adapters_ofAdapters? (check_eq_ok hcheck).2.2
    unfold bind at refused
    rcases hinit : initialise r.pins with ⟨e | _, pins, driven⟩
    · simp only [hcheck, hinit, hadapters] at refused
      cases refused
      obtain ⟨hgpio, halted⟩ := ControlLines.halted_of_initialise hinit
      exact .inr ⟨hgpio, pins, halted, rfl⟩
    · simp only [hcheck, hinit] at refused
      cases refused

/-- The error of the first ground that applies is that of the refusal, and where no ground applies
a panel is bound. A line that refuses its first level leaves those after it alone. A panel that is
bound has both flags down, and takes timing fields from the mode that the configuration gives, else
from the typical mode of the first range, else from the first exact mode. Whether there is a DSI
host does not matter. -/
theorem bind_first_ground (config : Config) (r : Resources) :
    refusal? config r = Ground.first? config r Ground.order ∧
    (∀ refusal events, bind config r = (.error refusal, events) → refusal.error = .gpio →
      ∃ pins, r.pins.Halted pins events ∧ refusal.resources = { r with pins }) ∧
    (Ground.first? config r Ground.order = none → ∃ panel events,
      bind config r = (.ok panel, events) ∧
      panel.prepared = false ∧ panel.enabled = false ∧ panel.config = config ∧
      some panel.timing = config.timing.or
        ((config.desc.timings.head?.map (·.typicalMode)).or config.desc.modes.head?)) ∧
    ∀ host : Option DsiHost,
      refusal? config { r with adapters := { r.adapters with dsi := host } } =
        refusal? config r := by
  refine ⟨refusal?_eq config r, fun refusal events refused hgpio => ?_, fun hnone => ?_,
    fun host => ?_⟩
  · rcases refused_cases refused with ⟨hfound, -⟩ | ⟨-, hhalted⟩
    · exact absurd hgpio hfound.ne_gpio
    · exact hhalted
  · rw [← refusal?_eq] at hnone
    obtain ⟨panel, events, bound⟩ := exists_bind_of_refusal? hnone
    obtain ⟨timing, buses, hcheck, -, hpanel⟩ := bind_eq_ok bound
    refine ⟨panel, events, bound, ?_⟩
    rw [hpanel, ← Config.activeTiming_eq_or]
    exact ⟨rfl, rfl, rfl, (check_eq_ok hcheck).2.1.symm⟩
  · rw [refusal?_eq, refusal?_eq]
    exact congrArg (Ground.order.findSome? ·) (funext (error?_dsi config r host))

/-- The prepare line refuses its first level, after reset has gone high. -/
def stubborn : Resources where
  pins := { prepare := some { schedule := some [true] }, reset := some { schedule := some [] } }

/-- What a host has back then. -/
def stubbornAfter : Resources where
  pins := {
    prepare := some { schedule := some [], refused := [false] }
    reset := some { schedule := some [], level := some true } }

theorem bind_stubborn :
    bind bare stubborn = (.error ⟨.gpio, stubbornAfter⟩, [.pin .reset true]) := by rfl

/-- A configuration that names an I2C device. -/
def named : Config := { bare with i2c := some { address := 0x2c } }

/-- Two programs are malformed, and the I2C device is missing. -/
def troubled : Config :=
  { named with programs := { enable := { mipi := ⟨[0x77]⟩ }, disable := { i2c := ⟨[0x01]⟩ } } }

/-- What is wrong with the programs goes before the missing device, and that before the line. -/
theorem bind_first_ground_troubled :
    refusal? troubled stubborn = some (.unknownOpcode 0 0x77) ∧
    refusal? named stubborn = some .defer ∧
    (∃ pins, stubborn.pins.Halted pins [.pin .reset true] ∧
      stubbornAfter = { stubborn with pins }) ∧
    ∃ panel events, bind sleeper faultyResources = (.ok panel, events) ∧
      some panel.timing = sleeper.timing := by
  obtain ⟨hprogram, -⟩ := bind_first_ground troubled stubborn
  obtain ⟨hmissing, -⟩ := bind_first_ground named stubborn
  obtain ⟨-, hline, -⟩ := bind_first_ground bare stubborn
  obtain ⟨-, -, hbound, -⟩ := bind_first_ground sleeper faultyResources
  obtain ⟨panel, events, bound, -, -, -, htiming⟩ := hbound rfl
  exact ⟨hprogram.trans rfl, hmissing.trans rfl, hline _ _ bind_stubborn rfl, panel, events, bound,
    htiming⟩

/-! ## Attempts to bind -/

/-- What a host does with resources that are not bound to a panel: it puts in, exchanges or takes
out devices, or it asks to bind a panel. -/
inductive Move
  | attach (change : Resources → Resources)
  | attempt (config : Config)

/-- What comes of the moves of a host, until it has a panel. -/
def negotiate : List Move → Resources → (Panel ⊕ Resources) × List Event
  | [], r => (.inr r, [])
  | .attach change :: rest, r => negotiate rest (change r)
  | .attempt config :: rest, r =>
    match bind config r with
    | (.ok panel, events) => (.inl panel, events)
    | (.error refusal, events) =>
      ((negotiate rest refusal.resources).1, events ++ (negotiate rest refusal.resources).2)

/-- The moves without the attempts that are refused, unless it is a line that refuses. -/
def effective : List Move → Resources → List Move
  | [], _ => []
  | .attach change :: rest, r => .attach change :: effective rest (change r)
  | .attempt config :: rest, r =>
    match bind config r with
    | (.ok _, _) => [.attempt config]
    | (.error refusal, _) =>
      if refusal.error = .gpio then .attempt config :: effective rest refusal.resources
      else effective rest refusal.resources

/-- To leave out the refused attempts changes neither what the host has in the end nor what was
recorded on the way. -/
theorem negotiate_effective (moves : List Move) (r : Resources) :
    negotiate (effective moves r) r = negotiate moves r := by
  induction moves generalizing r with
  | nil => rfl
  | cons move rest ih =>
    cases move with
    | attach change => exact ih (change r)
    | attempt config =>
      rcases hbind : bind config r with ⟨refusal | panel, events⟩
      · simp only [effective, negotiate, hbind]
        rcases refused_cases hbind with ⟨hfound, hsame, rfl⟩ | ⟨hgpio, -⟩
        · rw [if_neg hfound.ne_gpio, hsame, ih r]
          rfl
        · rw [if_pos hgpio]
          simp only [negotiate, hbind, ih refusal.resources]
      · simp only [effective, negotiate, hbind]

/-- When a bind is refused, the host has back just what it handed over if and only if it was not a
line that refused; then nothing was recorded, either. A line that refuses its first level leaves the
lines before it driven and everything but the lines as it was. So an attempt that no line refused
might as well not have been made: whatever devices the host puts in then, and whatever it binds, all
comes out and is recorded as without it. -/
theorem refused_bind (r : Resources) :
    (∀ (config : Config) (refusal : Refusal) (events : List Event),
      bind config r = (.error refusal, events) →
      (refusal.resources = r ↔ refusal.error ≠ .gpio) ∧
      (refusal.error ≠ .gpio → events = []) ∧
      (refusal.error = .gpio → ∃ pins, r.pins.Halted pins events ∧
        refusal.resources = { r with pins })) ∧
    ∀ moves : List Move, negotiate (effective moves r) r = negotiate moves r := by
  refine ⟨fun config refusal events refused => ?_, fun moves => negotiate_effective moves r⟩
  rcases refused_cases refused with ⟨hfound, hsame, hnone⟩ | ⟨hgpio, pins, halted, hresources⟩
  · have hother := hfound.ne_gpio
    exact ⟨⟨fun _ => hother, fun _ => hsame⟩, fun _ => hnone, fun hgpio => absurd hgpio hother⟩
  · have hne : refusal.resources ≠ r := fun hsame =>
      halted.ne (congrArg Resources.pins (hresources.symm.trans hsame))
    exact ⟨⟨fun hsame => absurd hsame hne, fun hother => absurd hgpio hother⟩,
      fun hother => absurd hgpio hother, fun _ => ⟨pins, halted, hresources⟩⟩

/-- The I2C device is missing at first, and then it is the line that refuses. -/
theorem refused_bind_stubborn :
    bind named stubborn = (.error ⟨.defer, stubborn⟩, []) ∧
    bind bare stubborn = (.error ⟨.gpio, stubbornAfter⟩, [.pin .reset true]) ∧
    stubbornAfter ≠ stubborn ∧
    negotiate [.attempt bare, .attempt bare] stubborn =
      negotiate [.attempt named, .attempt bare, .attempt bare] stubborn := by
  obtain ⟨hbind, hnegotiate⟩ := refused_bind stubborn
  refine ⟨rfl, bind_stubborn, fun hsame => ?_,
    hnegotiate [.attempt named, .attempt bare, .attempt bare]⟩
  obtain ⟨hback, -⟩ := hbind bare _ _ bind_stubborn
  exact hback.mp hsame rfl

/-- The host has back other lines than it handed over: reset has gone high. -/
theorem refused_bind_drives : ¬ ∀ (config : Config) (r : Resources) (refusal : Refusal)
    (events : List Event), bind config r = (.error refusal, events) →
      refusal.resources = r ∧ events = [] := by
  intro h
  obtain ⟨-, hnone⟩ := h bare stubborn _ _ bind_stubborn
  cases hnone

end Panel

end PanelDriver

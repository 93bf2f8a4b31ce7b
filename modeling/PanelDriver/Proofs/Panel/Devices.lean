import PanelDriver.Panel.Basic

/-!
What one call does to a line, a supply or a backlight. It is accepted and takes effect, or it is
refused, changes nothing but the count of what was refused, and records nothing. Refusals are only
counted for the calls that make a panel safe: reset high, prepare low, supply off and backlight
dark.
-/

namespace PanelDriver

open ControlLines (enterReset leaveReset setPower setPrepare setReset)

/-! ## Lines -/

theorem Pin.set_cases (name : PinName) (high : Bool) (pin : Pin) :
    Pin.set name high pin =
      ⟨.ok (), { pin with schedule := pin.schedule.map List.tail, level := some high },
        if pin.schedule.isSome then [.pin name high] else []⟩ ∨
    Pin.set name high pin =
      ⟨.error .gpio,
        { pin with
          schedule := pin.schedule.map List.tail
          refused := high :: pin.refused }, []⟩ := by
  obtain ⟨schedule, level, refused⟩ := pin
  cases schedule with
  | none => exact .inl rfl
  | some schedule =>
    cases hfails : schedule.headD false with
    | true => exact .inr (by simp only [Pin.set, hfails, ↓reduceIte, Option.map_some])
    | false =>
      refine .inl ?_
      simp only [Pin.set, hfails, Bool.false_eq_true, ↓reduceIte, Option.map_some,
        Option.isSome_some]

/-- A control line: its pin, if it is there. -/
abbrev Line := Option Pin

namespace Line

def set (name : PinName) (high : Bool) : Action PanelError Line Unit :=
  (Pin.set name high).onSome id fun pin _ => some pin

/-- What the line was last driven to; nothing for a line that is missing. -/
def level (line : Line) : Option Bool := line.bind (·.level)

/-- How often the line was not driven to a level when it should have been. -/
def refusals (high : Bool) (line : Line) : Nat := line.elim 0 (·.refused.count high)

/-- Every call on the line is recorded. -/
def Recorded (line : Line) : Prop := ∀ pin ∈ line, pin.schedule.isSome = true

variable {name : PinName} {high : Bool} {line : Line}

theorem level_of_ok (h : (set name high line).result = .ok ()) :
    ∀ pin ∈ (set name high line).state, pin.level = some high := by
  cases line with
  | none => simp [set, Action.onSome]
  | some pin =>
    simp only [set, Action.onSome, id] at h ⊢
    rcases Pin.set_cases name high pin with hset | hset
    · simp [hset]
    · simp [hset] at h

/-- A line that refuses stays at its level. -/
theorem level_of_error {e : PanelError} (h : (set name high line).result = .error e) :
    e = .gpio ∧ (set name high line).events = [] ∧
      level (set name high line).state = level line := by
  cases line with
  | none => simp [set, Action.onSome] at h
  | some pin =>
    simp only [set, Action.onSome, id] at h ⊢
    rcases Pin.set_cases name high pin with hset | hset
    · simp [hset] at h
    · simp only [hset, level, Option.bind_some] at h ⊢
      exact ⟨(Except.error.inj h).symm, trivial, trivial⟩

/-- Lines at one level do not differ, if they are there. -/
theorem level_congr {line line' : Line} (h : ∀ pin ∈ line, pin.level = some high)
    (h' : ∀ pin ∈ line', pin.level = some high) (hsome : line.isSome = line'.isSome) :
    level line = level line' := by
  cases line with
  | none =>
    cases line' with
    | none => rfl
    | some pin' => cases hsome
  | some pin =>
    obtain ⟨pin', rfl⟩ := Option.isSome_iff_exists.mp hsome.symm
    simp only [level, Option.bind_some, h pin rfl, h' pin' rfl]

/-- A call that was not refused was accepted. -/
theorem result_of_refusals
    (h : refusals high (set name high line).state = refusals high line) :
    (set name high line).result = .ok () := by
  cases line with
  | none => rfl
  | some pin =>
    simp only [set, Action.onSome, id] at h ⊢
    rcases Pin.set_cases name high pin with hset | hset
    · simp [hset]
    · simp [hset, refusals] at h

/-- A recorded call shows if it was accepted. -/
theorem recorded_set (h : Recorded line) :
    (set name high line).events = [] ∧ level (set name high line).state = level line ∨
      (set name high line).events = [.pin name high] ∧
        level (set name high line).state = some high := by
  cases line with
  | none => exact .inl ⟨rfl, rfl⟩
  | some pin =>
    have hpin : pin.schedule.isSome = true := h pin rfl
    simp only [set, Action.onSome, id]
    rcases Pin.set_cases name high pin with hset | hset
    · rw [hset]
      exact .inr ⟨by simp [hpin], rfl⟩
    · rw [hset]
      exact .inl ⟨rfl, rfl⟩

/-- What holds however a line is driven: it stays where it is, with its record, and no refusal is
forgotten. -/
structure Driven (line last : Line) : Prop where
  present : last.isSome = line.isSome
  recorded : Recorded line → Recorded last
  refusals : ∀ high, refusals high line ≤ refusals high last

theorem Driven.refl (line : Line) : Driven line line := ⟨rfl, id, fun _ => Nat.le_refl _⟩

theorem Driven.trans {line middle last : Line} (h : Driven line middle) (h' : Driven middle last) :
    Driven line last where
  present := h'.present.trans h.present
  recorded := h'.recorded ∘ h.recorded
  refusals high := Nat.le_trans (h.refusals high) (h'.refusals high)

theorem driven_set (name : PinName) (high : Bool) (line : Line) :
    Driven line (set name high line).state := by
  cases line with
  | none => exact .refl none
  | some pin =>
    simp only [set, Action.onSome, id]
    have hrecorded (last : Pin) (hlast : last.schedule = pin.schedule.map List.tail)
        (h : Recorded (some pin)) : Recorded (some last) := by
      intro other hother
      rw [← Option.some.inj hother, hlast, Option.isSome_map]
      exact h pin rfl
    rcases Pin.set_cases name high pin with hset | hset
    · rw [hset]
      exact ⟨rfl, hrecorded _ rfl, fun _ => Nat.le_refl _⟩
    · rw [hset]
      exact ⟨rfl, hrecorded _ rfl, fun _ => List.count_le_count_cons⟩

end Line

namespace ControlLines

/-- The levels that the lines were last driven to, as far as they are there. -/
structure At (prepare reset : Bool) (pins : ControlLines) : Prop where
  prepare : ∀ pin ∈ pins.prepare, pin.level = some prepare
  reset : ∀ pin ∈ pins.reset, pin.level = some reset

/-- Which of the lines are there. -/
def present (pins : ControlLines) : PinName → Bool
  | .power => pins.power.isSome
  | .prepare => pins.prepare.isSome
  | .reset => pins.reset.isSome
  | .spare => false

/-- Every call on the lines is recorded. -/
structure Recorded (pins : ControlLines) : Prop where
  power : Line.Recorded pins.power
  prepare : Line.Recorded pins.prepare
  reset : Line.Recorded pins.reset

/-- How often the lines refused to enter reset: reset to go high, or prepare to go low. -/
def refusals (pins : ControlLines) : Nat :=
  Line.refusals true pins.reset + Line.refusals false pins.prepare

theorem setPower_eq (high : Bool) (pins : ControlLines) : setPower high pins =
    ⟨(Line.set .power high pins.power).result,
      { pins with power := (Line.set .power high pins.power).state },
      (Line.set .power high pins.power).events⟩ := by
  obtain ⟨_ | power, prepare, reset⟩ := pins <;> rfl

theorem setPrepare_eq (high : Bool) (pins : ControlLines) : setPrepare high pins =
    ⟨(Line.set .prepare high pins.prepare).result,
      { pins with prepare := (Line.set .prepare high pins.prepare).state },
      (Line.set .prepare high pins.prepare).events⟩ := by
  obtain ⟨power, _ | prepare, reset⟩ := pins <;> rfl

theorem setReset_eq (high : Bool) (pins : ControlLines) : setReset high pins =
    ⟨(Line.set .reset high pins.reset).result,
      { pins with reset := (Line.set .reset high pins.reset).state },
      (Line.set .reset high pins.reset).events⟩ := by
  obtain ⟨power, prepare, _ | reset⟩ := pins <;> rfl

theorem enterReset_eq (pins : ControlLines) : enterReset pins =
    ⟨.ok (), (setPrepare false (setReset true pins).state).state,
      (setReset true pins).events ++ (setPrepare false (setReset true pins).state).events⟩ := by
  simp only [enterReset, Action.bind_ok (Action.ignore_apply _ _), Action.ignore_apply]

/-- Without the prepare line up, the reset line is not touched. -/
theorem leaveReset_of_error {pins : ControlLines} {e : PanelError}
    (h : (setPrepare true pins).result = .error e) : leaveReset pins =
      ⟨.error e, (setPrepare true pins).state, (setPrepare true pins).events⟩ :=
  Action.bind_of_error h _

theorem leaveReset_of_ok {pins : ControlLines} (h : (setPrepare true pins).result = .ok ()) :
    leaveReset pins = ⟨(setReset false (setPrepare true pins).state).result,
      (setReset false (setPrepare true pins).state).state,
      (setPrepare true pins).events ++ (setReset false (setPrepare true pins).state).events⟩ :=
  Action.bind_of_ok h _

/-- What holds however the lines are driven. -/
structure Driven (pins last : ControlLines) : Prop where
  power : Line.Driven pins.power last.power
  prepare : Line.Driven pins.prepare last.prepare
  reset : Line.Driven pins.reset last.reset

namespace Driven

variable {pins middle last : ControlLines}

theorem refl (pins : ControlLines) : Driven pins pins := ⟨.refl _, .refl _, .refl _⟩

theorem trans (h : Driven pins middle) (h' : Driven middle last) : Driven pins last :=
  ⟨h.power.trans h'.power, h.prepare.trans h'.prepare, h.reset.trans h'.reset⟩

theorem present (h : Driven pins last) : last.present = pins.present := by
  funext name
  cases name with
  | power => exact h.power.present
  | prepare => exact h.prepare.present
  | reset => exact h.reset.present
  | spare => rfl

theorem refusals (h : Driven pins last) : pins.refusals ≤ last.refusals :=
  Nat.add_le_add (h.reset.refusals true) (h.prepare.refusals false)

theorem recorded (h : Driven pins last) (hrecorded : pins.Recorded) : last.Recorded where
  power := h.power.recorded hrecorded.power
  prepare := h.prepare.recorded hrecorded.prepare
  reset := h.reset.recorded hrecorded.reset

theorem setPower (high : Bool) (pins : ControlLines) :
    Driven pins (ControlLines.setPower high pins).state := by
  rw [setPower_eq]
  exact ⟨Line.driven_set .power high pins.power, .refl _, .refl _⟩

theorem setPrepare (high : Bool) (pins : ControlLines) :
    Driven pins (ControlLines.setPrepare high pins).state := by
  rw [setPrepare_eq]
  exact ⟨.refl _, Line.driven_set .prepare high pins.prepare, .refl _⟩

theorem setReset (high : Bool) (pins : ControlLines) :
    Driven pins (ControlLines.setReset high pins).state := by
  rw [setReset_eq]
  exact ⟨.refl _, .refl _, Line.driven_set .reset high pins.reset⟩

theorem enterReset (pins : ControlLines) :
    Driven pins (ControlLines.enterReset pins).state := by
  rw [enterReset_eq]
  exact (setReset true pins).trans (setPrepare false _)

theorem leaveReset (pins : ControlLines) :
    Driven pins (ControlLines.leaveReset pins).state := by
  cases h : (ControlLines.setPrepare true pins).result with
  | error e =>
    rw [leaveReset_of_error h]
    exact setPrepare true pins
  | ok _ =>
    rw [leaveReset_of_ok h]
    exact (setPrepare true pins).trans (setReset false _)

end Driven

theorem power_enterReset (pins : ControlLines) : (enterReset pins).state.power = pins.power := by
  rw [enterReset_eq, setPrepare_eq, setReset_eq]

theorem power_leaveReset (pins : ControlLines) : (leaveReset pins).state.power = pins.power := by
  cases h : (setPrepare true pins).result with
  | error e => rw [leaveReset_of_error h, setPrepare_eq]
  | ok _ => rw [leaveReset_of_ok h, setReset_eq, setPrepare_eq]

variable {pins : ControlLines}

theorem At.setPower {prepare reset : Bool} (h : pins.At prepare reset) (high : Bool) :
    (setPower high pins).state.At prepare reset := by
  rw [setPower_eq]
  exact ⟨h.prepare, h.reset⟩

theorem reset_of_ok {high : Bool} (h : (setReset high pins).result = .ok ()) :
    ∀ pin ∈ (setReset high pins).state.reset, pin.level = some high := by
  rw [setReset_eq] at h ⊢
  exact Line.level_of_ok h

theorem prepare_of_ok {high : Bool} (h : (setPrepare high pins).result = .ok ()) :
    ∀ pin ∈ (setPrepare high pins).state.prepare, pin.level = some high := by
  rw [setPrepare_eq] at h ⊢
  exact Line.level_of_ok h

/-- Lines that both follow into reset are in reset. -/
theorem at_of_ok (hreset : (setReset true pins).result = .ok ())
    (hprepare : (setPrepare false (setReset true pins).state).result = .ok ()) :
    (setPrepare false (setReset true pins).state).state.At false true := by
  refine ⟨prepare_of_ok hprepare, ?_⟩
  rw [setPrepare_eq]
  exact reset_of_ok hreset

/-- Where nothing was refused on the way into reset, both lines followed. -/
theorem ok_of_enterReset (h : (enterReset pins).state.refusals = pins.refusals) :
    (setReset true pins).result = .ok () ∧
      (setPrepare false (setReset true pins).state).result = .ok () := by
  have hfirst := (Driven.setReset true pins).refusals
  have hsecond := (Driven.setPrepare false (setReset true pins).state).refusals
  rw [enterReset_eq] at h
  have hreset : (setReset true pins).state.refusals = pins.refusals :=
    Nat.le_antisymm (h ▸ hsecond) hfirst
  have hprepare := h.trans hreset.symm
  constructor
  · rw [setReset_eq] at hreset ⊢
    exact Line.result_of_refusals (Nat.add_right_cancel hreset)
  · rw [setPrepare_eq] at hprepare ⊢
    exact Line.result_of_refusals (Nat.add_left_cancel hprepare)

/-- Without a refusal, lines that enter reset are in reset. -/
theorem at_enterReset (h : (enterReset pins).state.refusals = pins.refusals) :
    (enterReset pins).state.At false true := by
  obtain ⟨hreset, hprepare⟩ := ok_of_enterReset h
  rw [enterReset_eq]
  exact at_of_ok hreset hprepare

/-- Lines that left reset before refuse nothing on their way back, either. -/
theorem refusals_of_reenter
    (h : (enterReset (leaveReset pins).state).state.refusals = pins.refusals) :
    (enterReset (leaveReset pins).state).state.refusals = (leaveReset pins).state.refusals :=
  Nat.le_antisymm (h ▸ (Driven.leaveReset pins).refusals)
    (Driven.enterReset (leaveReset pins).state).refusals

/-- Lines that could be driven to their first levels took all of them. -/
theorem initialise_eq_ok {last : ControlLines} {events : List Event}
    (h : initialise pins = ⟨.ok (), last, events⟩) :
    (setReset true pins).result = .ok () ∧
      (setPrepare false (setReset true pins).state).result = .ok () ∧
      last = (setPower false (setPrepare false (setReset true pins).state).state).state := by
  cases hreset : (setReset true pins).result with
  | error e =>
    rw [initialise, Action.bind_of_error hreset] at h
    cases h
  | ok _ =>
    cases hprepare : (setPrepare false (setReset true pins).state).result with
    | error e =>
      rw [initialise, Action.bind_of_ok hreset, Action.bind_of_error hprepare] at h
      cases h
    | ok _ =>
      rw [initialise, Action.bind_of_ok hreset, Action.bind_of_ok hprepare] at h
      injection h with _ hlast _
      exact ⟨rfl, rfl, hlast.symm⟩

/-- Before it is used for the first time, a panel is in reset. -/
theorem at_initialise {last : ControlLines} {events : List Event}
    (h : initialise pins = ⟨.ok (), last, events⟩) : last.At false true := by
  obtain ⟨hreset, hprepare, rfl⟩ := initialise_eq_ok h
  exact (at_of_ok hreset hprepare).setPower false

theorem driven_initialise {last : ControlLines} {events : List Event}
    (h : initialise pins = ⟨.ok (), last, events⟩) : Driven pins last := by
  obtain ⟨-, -, rfl⟩ := initialise_eq_ok h
  exact ((Driven.setReset true pins).trans (.setPrepare false _)).trans (.setPower false _)

end ControlLines

/-! ## Supplies -/

namespace Supply

/-- A call is kept with its answer, whatever that is. -/
theorem set_cases (on : Bool) (supply : Supply) :
    Supply.set on supply =
      ⟨.ok (), ⟨supply.script.map fun s => (s.next on).2, ⟨on, true⟩ :: supply.calls⟩,
        if supply.script.isSome then [.supply on] else []⟩ ∨
    Supply.set on supply =
      ⟨.error .regulator,
        ⟨supply.script.map fun s => (s.next on).2, ⟨on, false⟩ :: supply.calls⟩, []⟩ := by
  obtain ⟨script, calls⟩ := supply
  cases script with
  | none => exact .inl rfl
  | some script =>
    rcases hnext : script.next on with ⟨_ | _, rest⟩
    · exact .inr (by simp [Supply.set, hnext])
    · exact .inl (by simp [Supply.set, hnext])

/-- How often the supply refused to be switched off. -/
def refusals (supply : Supply) : Nat := supply.calls.count ⟨false, false⟩

variable {on : Bool} {supply : Supply}

theorem calls_set (on : Bool) (supply : Supply) : (Supply.set on supply).state.calls =
    ⟨on, (Supply.set on supply).result.isOk⟩ :: supply.calls := by
  rcases set_cases on supply with hset | hset <;> rw [hset] <;> rfl

theorem isOn_of_ok (h : (Supply.set on supply).result = .ok ()) :
    (Supply.set on supply).state.isOn = on := by
  rw [isOn, calls_set, h]
  rfl

/-- A supply that refuses stays as it is. -/
theorem isOn_of_error {e : PanelError} (h : (Supply.set on supply).result = .error e) :
    e = .regulator ∧ (Supply.set on supply).events = [] ∧
      (Supply.set on supply).state.isOn = supply.isOn := by
  rcases set_cases on supply with hset | hset
  · rw [hset] at h
    cases h
  · rw [hset] at h ⊢
    exact ⟨(Except.error.inj h).symm, rfl, rfl⟩

/-- What holds however a supply is switched: it keeps its record, and no refusal is forgotten. -/
structure Switched (supply last : Supply) : Prop where
  recorded : last.script.isSome = supply.script.isSome
  refusals : supply.refusals ≤ last.refusals

theorem Switched.refl (supply : Supply) : Switched supply supply := ⟨rfl, Nat.le_refl _⟩

theorem Switched.trans {supply middle last : Supply} (h : Switched supply middle)
    (h' : Switched middle last) : Switched supply last :=
  ⟨h'.recorded.trans h.recorded, Nat.le_trans h.refusals h'.refusals⟩

theorem switched_set (on : Bool) (supply : Supply) :
    Switched supply (Supply.set on supply).state := by
  refine ⟨?_, ?_⟩
  · rcases set_cases on supply with hset | hset <;> rw [hset] <;> exact Option.isSome_map
  · rw [refusals, refusals, calls_set]
    exact List.count_le_count_cons

theorem result_of_refusals (h : (Supply.set false supply).state.refusals = supply.refusals) :
    (Supply.set false supply).result = .ok () := by
  rcases set_cases false supply with hset | hset
  · rw [hset]
  · simp [hset, refusals] at h

end Supply

/-! ## Backlights -/

theorem Backlight.setBlank_cases (blank : Bool) (script : BacklightScript) :
    setBlank blank (scripted script) =
      ⟨.ok (), scripted { script with failures := script.failures.tail, blanked := blank },
        [.backlight blank]⟩ ∨
    setBlank blank (scripted script) =
      ⟨.error .backlight,
        scripted { script with
          failures := script.failures.tail
          refused := blank :: script.refused }, []⟩ := by
  cases hfails : script.failures.headD false with
  | true => exact .inr (by simp only [setBlank, hfails, ↓reduceIte])
  | false =>
    exact .inl (by simp only [setBlank, hfails, Bool.false_eq_true, ↓reduceIte])

/-- A panel's backlight, if it has one. -/
abbrev Lamp := Option Backlight

namespace Lamp

def setBlank (blank : Bool) : Action PanelError Lamp Unit :=
  (Backlight.setBlank blank).onSome id fun backlight _ => some backlight

/-- Whether it is dark, if that shows. -/
def blanked? (lamp : Lamp) : Option Bool := lamp.bind (·.blanked?)

/-- How often the backlight refused to go dark. -/
def refusals : Lamp → Nat
  | some (.scripted script) => script.refused.count true
  | _ => 0

variable {blank : Bool} {lamp : Lamp}

theorem event_of_setBlank {e : Event} (h : e ∈ (setBlank blank lamp).events) :
    e = .backlight blank := by
  rcases lamp with _ | _ | script
  · cases h
  · cases h
  · simp only [setBlank, Action.onSome, id] at h
    rcases Backlight.setBlank_cases blank script with hset | hset
    · rw [hset] at h
      exact List.mem_singleton.mp h
    · rw [hset] at h
      cases h

theorem blanked_of_ok (h : (setBlank blank lamp).result = .ok ()) :
    ∀ blanked ∈ (setBlank blank lamp).state.blanked?, blanked = blank := by
  rcases lamp with _ | _ | script
  · simp [setBlank, Action.onSome, blanked?]
  · simp [setBlank, Action.onSome, blanked?, Backlight.setBlank, Backlight.blanked?]
  · simp only [setBlank, Action.onSome, id] at h ⊢
    rcases Backlight.setBlank_cases blank script with hset | hset
    · simp [hset, blanked?, Backlight.blanked?]
    · simp [hset] at h

/-- A backlight that refuses stays as it is. -/
theorem blanked_of_error {e : PanelError} (h : (setBlank blank lamp).result = .error e) :
    e = .backlight ∧ (setBlank blank lamp).state.blanked? = lamp.blanked? := by
  rcases lamp with _ | _ | script
  · cases h
  · cases h
  · simp only [setBlank, Action.onSome, id] at h ⊢
    rcases Backlight.setBlank_cases blank script with hset | hset
    · simp [hset] at h
    · rw [hset] at h ⊢
      exact ⟨(Except.error.inj h).symm, rfl⟩

/-- What holds however a backlight is switched: it stays where it is, and no refusal is
forgotten. -/
structure Switched (lamp last : Lamp) : Prop where
  present : last.isSome = lamp.isSome
  refusals : lamp.refusals ≤ last.refusals

theorem Switched.refl (lamp : Lamp) : Switched lamp lamp := ⟨rfl, Nat.le_refl _⟩

theorem Switched.trans {lamp middle last : Lamp} (h : Switched lamp middle)
    (h' : Switched middle last) : Switched lamp last :=
  ⟨h'.present.trans h.present, Nat.le_trans h.refusals h'.refusals⟩

theorem switched_setBlank (blank : Bool) (lamp : Lamp) :
    Switched lamp (setBlank blank lamp).state := by
  rcases lamp with _ | _ | script
  · exact .refl none
  · exact .refl (some .silent)
  · simp only [setBlank, Action.onSome, id]
    rcases Backlight.setBlank_cases blank script with hset | hset
    · rw [hset]
      exact ⟨rfl, Nat.le_refl _⟩
    · rw [hset]
      exact ⟨rfl, List.count_le_count_cons⟩

theorem result_of_refusals (h : (setBlank true lamp).state.refusals = lamp.refusals) :
    (setBlank true lamp).result = .ok () := by
  rcases lamp with _ | _ | script
  · rfl
  · rfl
  · simp only [setBlank, Action.onSome, id] at h ⊢
    rcases Backlight.setBlank_cases true script with hset | hset
    · rw [hset]
    · simp [hset, refusals] at h

end Lamp

/-! ## Levels -/

/-- Where the lines and the supply are. -/
structure Levels where
  power : Option Bool
  prepare : Option Bool
  reset : Option Bool
  supply : Bool
  deriving DecidableEq, Repr

def ControlLines.levels (pins : ControlLines) (supply : Bool) : Levels where
  power := Line.level pins.power
  prepare := Line.level pins.prepare
  reset := Line.level pins.reset
  supply := supply

def Panel.levels (panel : Panel) : Levels := panel.pins.levels panel.supply.isOn

end PanelDriver

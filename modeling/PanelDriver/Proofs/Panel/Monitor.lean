import PanelDriver.Proofs.Execution.Bounds
import PanelDriver.Proofs.Panel.Echoes

/-!
A panel under observation. Silent pins and a silent supply leave nothing in the record of a panel,
so they are given a record here, and nothing else is changed. The panel goes through the same states
then, and its own record is the part of the longer one that can be heard without an observer
(`after_monitored`, `record_monitored`).
-/

namespace PanelDriver

open PanelDriver.Action (Echoes)

/-! ## Devices with a record -/

/-- What of the calls on lines and supply is recorded without an observer. -/
structure Hearing where
  line : PinName → Bool
  supply : Bool

def Hearing.hears (hearing : Hearing) : Event → Bool
  | .pin name _ => hearing.line name
  | .supply _ => hearing.supply
  | _ => true

namespace Line

/-- The same line, with a record of its calls. -/
def monitored (line : Line) : Line :=
  line.map fun pin => { pin with schedule := some (pin.schedule.getD []) }

theorem recorded_monitored (line : Line) : Recorded line.monitored := by
  cases line with
  | none => simp [Recorded, monitored]
  | some pin =>
    intro other hother
    rw [← Option.some.inj hother]
    rfl

theorem level_monitored (line : Line) : level line.monitored = level line := by
  cases line with
  | none => rfl
  | some pin => rfl

theorem refusals_monitored (high : Bool) (line : Line) :
    refusals high line.monitored = refusals high line := by
  cases line with
  | none => rfl
  | some pin => rfl

def hearing (line : Line) : Bool := line.any (·.schedule.isSome)

/-- The second line is the first one, observed. -/
def Monitors (hearing : Bool) (line line' : Line) : Prop :=
  line' = line.monitored ∧ line.hearing = hearing

theorem echoes_set {name : PinName} {high : Bool} {hears : Event → Bool} {hearing : Bool}
    (h : hears (.pin name high) = hearing) : Echoes (Monitors hearing) hears (set name high) := by
  rintro line _ ⟨rfl, rfl⟩
  rcases line with _ | ⟨_ | schedule, level, refused⟩
  · exact ⟨rfl, rfl, rfl, rfl⟩
  · -- Silent: the observer hears an event that the line does not record.
    have hdeaf : hears (.pin name high) = false := h
    have hshown (pin : Pin) (h : pin.schedule = none) :
        (set name high (monitored (some pin))).events = [.pin name high] := by
      simp only [monitored, Option.map_some, h]
      rfl
    refine ⟨rfl, ?_, rfl, rfl⟩
    simp only [Action.muted, hshown ⟨none, level, refused⟩ rfl, List.filter_cons, hdeaf]
    rfl
  · have hheard : hears (.pin name high) = true := h
    simp only [monitored, Action.muted, set, Action.onSome, id, Option.map_some,
      Option.getD_some]
    rcases Pin.set_cases name high ⟨some schedule, level, refused⟩ with hset | hset
    · rw [hset]
      exact ⟨rfl, by simp [hheard], rfl, rfl⟩
    · rw [hset]
      exact ⟨rfl, rfl, rfl, rfl⟩

end Line

namespace ControlLines

/-- The same lines, with a record of their calls. -/
def monitored (pins : ControlLines) : ControlLines where
  power := Line.monitored pins.power
  prepare := Line.monitored pins.prepare
  reset := Line.monitored pins.reset

theorem levels_monitored (pins : ControlLines) (supply : Bool) :
    pins.monitored.levels supply = pins.levels supply := by
  simp only [monitored, levels, Line.level_monitored]

theorem refusals_monitored (pins : ControlLines) : pins.monitored.refusals = pins.refusals := by
  simp only [monitored, refusals, Line.refusals_monitored]

def hearing (pins : ControlLines) : PinName → Bool
  | .power => Line.hearing pins.power
  | .prepare => Line.hearing pins.prepare
  | .reset => Line.hearing pins.reset
  | .spare => false

def Monitors (hearing : PinName → Bool) (pins pins' : ControlLines) : Prop :=
  pins' = pins.monitored ∧ pins.hearing = hearing

variable {hearing : PinName → Bool} {hears : Event → Bool}

theorem setsEcho_monitors (h : ∀ name high, hears (.pin name high) = hearing name) :
    SetsEcho (Monitors hearing) hears where
  setPower high := by
    refine echoes_setPower (Line.echoes_set (h .power high)) ?_ ?_
    · rintro pins _ ⟨rfl, rfl⟩
      exact ⟨rfl, rfl⟩
    · rintro pins _ power _ ⟨rfl, rfl⟩ ⟨rfl, hpower⟩
      refine ⟨rfl, ?_⟩
      funext name
      cases name with
      | power => exact hpower
      | _ => rfl
  setPrepare high := by
    refine echoes_setPrepare (Line.echoes_set (h .prepare high)) ?_ ?_
    · rintro pins _ ⟨rfl, rfl⟩
      exact ⟨rfl, rfl⟩
    · rintro pins _ prepare _ ⟨rfl, rfl⟩ ⟨rfl, hprepare⟩
      refine ⟨rfl, ?_⟩
      funext name
      cases name with
      | prepare => exact hprepare
      | _ => rfl
  setReset high := by
    refine echoes_setReset (Line.echoes_set (h .reset high)) ?_ ?_
    · rintro pins _ ⟨rfl, rfl⟩
      exact ⟨rfl, rfl⟩
    · rintro pins _ reset _ ⟨rfl, rfl⟩ ⟨rfl, hreset⟩
      refine ⟨rfl, ?_⟩
      funext name
      cases name with
      | reset => exact hreset
      | _ => rfl

end ControlLines

namespace Supply

/-- The same supply, with a record of its calls. -/
def monitored (supply : Supply) : Supply :=
  { supply with script := some (supply.script.getD {}) }

def Monitors (hearing : Bool) (supply supply' : Supply) : Prop :=
  supply' = supply.monitored ∧ supply.script.isSome = hearing

theorem echoes_set {on hearing : Bool} {hears : Event → Bool} (h : hears (.supply on) = hearing) :
    Echoes (Monitors hearing) hears (set on) := by
  rintro supply _ ⟨rfl, rfl⟩
  obtain ⟨_ | script, calls⟩ := supply
  · have hdeaf : hears (.supply on) = false := h
    have haccepted : ({} : SupplyScript).next on = (true, {}) := by
      cases on with
      | true => rfl
      | false => rfl
    have hshown : set on (monitored ⟨none, calls⟩) =
        ⟨.ok (), ⟨some {}, ⟨on, true⟩ :: calls⟩, [.supply on]⟩ := by
      simp only [set, monitored, Option.getD_none, haccepted]
    rw [Action.muted, hshown]
    refine ⟨rfl, ?_, rfl, rfl⟩
    simp only [List.filter_cons, hdeaf]
    rfl
  · have hheard : hears (.supply on) = true := h
    have hsame : monitored ⟨some script, calls⟩ = ⟨some script, calls⟩ := rfl
    rw [Action.muted, hsame]
    rcases set_cases on ⟨some script, calls⟩ with hset | hset
    · rw [hset]
      exact ⟨rfl, by simp [hheard], rfl, rfl⟩
    · rw [hset]
      exact ⟨rfl, rfl, rfl, rfl⟩

end Supply

/-! ## Panels -/

namespace Panel

/-- The same panel, on lines and a supply that record every call. -/
def monitored (panel : Panel) : Panel :=
  { panel with pins := panel.pins.monitored, supply := panel.supply.monitored }

def hearing (panel : Panel) : Hearing where
  line := panel.pins.hearing
  supply := panel.supply.script.isSome

/-- The second panel is the first one, observed. -/
def Monitors (hearing : Hearing) (panel panel' : Panel) : Prop :=
  panel' = panel.monitored ∧ panel.hearing = hearing

variable {hearing : Hearing}

/-- Heard as itself, where an observer hears all calls. -/
abbrev Echoed (hearing : Hearing) {α : Type} (x : Action PanelError Panel α) : Prop :=
  Echoes (Monitors hearing) hearing.hears x

theorem echoed_onPins {x : Action PanelError ControlLines Unit}
    (h : Echoes (ControlLines.Monitors hearing.line) hearing.hears x) :
    Echoed hearing (onPins x) := by
  refine h.on ?_ ?_
  · rintro panel _ ⟨rfl, rfl⟩
    exact ⟨rfl, rfl⟩
  · rintro panel _ pins _ ⟨rfl, rfl⟩ ⟨rfl, hpins⟩
    exact ⟨rfl, congrArg (Hearing.mk · _) hpins⟩

theorem echoed_setSupply (on : Bool) : Echoed hearing (setSupply on) := by
  have hset : Echoes (Supply.Monitors hearing.supply) hearing.hears (Supply.set on) :=
    Supply.echoes_set rfl
  refine hset.on ?_ ?_
  · rintro panel _ ⟨rfl, rfl⟩
    exact ⟨rfl, rfl⟩
  · rintro panel _ supply _ ⟨rfl, rfl⟩ ⟨rfl, hsupply⟩
    exact ⟨rfl, congrArg (Hearing.mk _) hsupply⟩

/-- What touches neither lines nor supply, and is not told by them, does the same for an observer.
-/
theorem echoed_of_untouched {x : Action PanelError Panel Unit}
    (hsame : ∀ panel, (x panel.monitored).result = (x panel).result ∧
      (x panel.monitored).events = (x panel).events ∧
      (x panel.monitored).state = (x panel).state.monitored ∧
      (x panel).state.hearing = panel.hearing)
    (hheard : ∀ panel, ∀ e ∈ (x panel).events, hearing.hears e = true) : Echoed hearing x := by
  rintro panel _ ⟨rfl, rfl⟩
  obtain ⟨hresult, hevents, hstate, hhearing⟩ := hsame panel
  refine ⟨hresult.symm, ?_, hstate, hhearing⟩
  rw [Action.muted, hevents]
  exact (List.filter_eq_self.mpr (hheard panel)).symm

theorem hears_of_quiet {e : Event} (h : e.Quiet) : hearing.hears e = true := by
  cases e with
  | pin | supply => cases h
  | _ => rfl

theorem quiet_settle (delay : PanelDelays → UInt32) (panel : Panel) :
    ∀ e ∈ settle delay panel, e.Quiet := by
  unfold settle
  split
  · simp
  · intro e he
    rw [List.mem_singleton.mp he]
    rfl

theorem quiet_phaseRun (phase : Phase) (panel : Panel) :
    ∀ e ∈ (phaseRun phase panel).events, e.Quiet := by
  unfold phaseRun
  split
  · simp
  · rw [Sideband.run_eq_runBuses]
    exact (Sideband.quiet_runBuses _ _ _ _).events

theorem echoed_wait (delay : PanelDelays → UInt32) : Echoed hearing (wait delay) := by
  refine echoed_of_untouched (fun panel => ?_) fun panel e he => ?_
  · rw [wait_eq, wait_eq]
    exact ⟨rfl, rfl, rfl, rfl⟩
  · rw [wait_eq] at he
    exact hears_of_quiet (quiet_settle delay panel e he)

theorem echoed_runPrograms (phase : Phase) : Echoed hearing (runPrograms phase) := by
  refine echoed_of_untouched (fun panel => ?_) fun panel e he => ?_
  · rw [runPrograms_eq, runPrograms_eq]
    exact ⟨rfl, rfl, rfl, rfl⟩
  · rw [runPrograms_eq] at he
    exact hears_of_quiet (quiet_phaseRun phase panel e he)

theorem echoed_setBlank (blank : Bool) : Echoed hearing (setBlank blank) := by
  refine echoed_of_untouched (fun panel => ?_) fun panel e he => ?_
  · rw [setBlank_eq, setBlank_eq]
    exact ⟨rfl, rfl, rfl, rfl⟩
  · rw [setBlank_eq] at he
    rw [Lamp.event_of_setBlank he]
    rfl

theorem setsEcho_hears : ControlLines.SetsEcho (ControlLines.Monitors hearing.line) hearing.hears :=
  ControlLines.setsEcho_monitors fun _ _ => rfl

theorem partsEcho_monitors : PartsEcho (Monitors hearing) hearing.hears where
  setPower high := echoed_onPins (setsEcho_hears.setPower high)
  enterReset := echoed_onPins setsEcho_hears.enterReset
  leaveReset := echoed_onPins setsEcho_hears.leaveReset
  setSupply := echoed_setSupply
  setBlank := echoed_setBlank
  wait := echoed_wait
  runPrograms := echoed_runPrograms
  prepared h := by
    obtain ⟨rfl, rfl⟩ := h
    rfl
  enabled h := by
    obtain ⟨rfl, rfl⟩ := h
    rfl
  setPrepared flag h := by
    obtain ⟨rfl, rfl⟩ := h
    exact ⟨rfl, rfl⟩
  setEnabled flag h := by
    obtain ⟨rfl, rfl⟩ := h
    exact ⟨rfl, rfl⟩

/-! ## Runs -/

theorem perform_monitored (call : Call) (panel : Panel) :
    (perform call panel.monitored).state = (perform call panel).state.monitored ∧
    (perform call panel).events =
      (perform call panel.monitored).events.filter panel.hearing.hears ∧
    (perform call panel).state.hearing = panel.hearing := by
  have hsame : Monitors panel.hearing panel panel.monitored := ⟨rfl, rfl⟩
  obtain ⟨-, hevents, hstate, hhearing⟩ := partsEcho_monitors.perform call hsame
  exact ⟨hstate, hevents, hhearing⟩

/-- An observer changes nothing. -/
theorem after_monitored (calls : List Call) (panel : Panel) :
    after calls panel.monitored = (after calls panel).monitored := by
  induction calls generalizing panel with
  | nil => rfl
  | cons call rest ih =>
    obtain ⟨hstate, -, -⟩ := perform_monitored call panel
    rw [after, hstate, ih]
    rfl

/-- What a panel records is what can be heard of what an observer records. -/
theorem record_monitored (calls : List Call) (panel : Panel) :
    record calls panel = (record calls panel.monitored).filter panel.hearing.hears := by
  induction calls generalizing panel with
  | nil => rfl
  | cons call rest ih =>
    obtain ⟨hstate, hevents, hhearing⟩ := perform_monitored call panel
    rw [record, record, List.filter_append, hstate, hevents, ih, hhearing]

end Panel

end PanelDriver

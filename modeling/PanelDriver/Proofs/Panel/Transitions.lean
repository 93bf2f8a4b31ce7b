import PanelDriver.Panel.Lifecycle
import PanelDriver.Proofs.Panel.Devices

/-!
The ways in which a call on a panel can end: its result, what it records and what the panel is then,
all in terms of the parts that the call is made of. A part is a call on the lines, the supply or the
backlight, or a run of the programs of a phase.
-/

namespace PanelDriver

open ControlLines (enterReset leaveReset setPower)

theorem exists_of_bind_eq_ok {ε α β : Type} {x : Except ε α} {f : α → Except ε β} {b : β}
    (h : (x >>= f) = .ok b) : ∃ a, x = .ok a ∧ f a = .ok b := by
  cases x with
  | error e => cases h
  | ok a => exact ⟨a, rfl, h⟩

namespace Panel

/-! ## Parts of calls -/

/-- What a wait records. -/
def settle (delay : PanelDelays → UInt32) (panel : Panel) : List Event :=
  if delay panel.config.desc.delays = 0 then [] else [.delayMs (delay panel.config.desc.delays)]

/-- What the programs of a phase do on the buses of a panel. -/
def phaseRun (phase : Phase) (panel : Panel) : Outcome PanelError Sideband Unit :=
  if (panel.config.programs.phase phase).isEmpty then ⟨.ok (), panel.sideband, []⟩
  else Sideband.run panel.context (panel.config.programs.phase phase) panel.sideband

theorem wait_eq (delay : PanelDelays → UInt32) (panel : Panel) :
    wait delay panel = ⟨.ok (), panel, settle delay panel⟩ := by
  simp only [wait, Action.state_bind, settle]
  split
  · rfl
  · rfl

theorem runPrograms_eq (phase : Phase) (panel : Panel) : runPrograms phase panel =
    ⟨(phaseRun phase panel).result, { panel with sideband := (phaseRun phase panel).state },
      (phaseRun phase panel).events⟩ := by
  simp only [runPrograms, Action.state_bind, phaseRun]
  split
  · rfl
  · rfl

theorem setBlank_eq (blank : Bool) (panel : Panel) : setBlank blank panel =
    ⟨(Lamp.setBlank blank panel.backlight).result,
      { panel with backlight := (Lamp.setBlank blank panel.backlight).state },
      (Lamp.setBlank blank panel.backlight).events⟩ := by
  obtain ⟨_, _, _, _, _, backlight, _, _⟩ := panel
  cases backlight with
  | none => rfl
  | some backlight => rfl

theorem enterReset_eq (panel : Panel) : onPins enterReset panel =
    ⟨.ok (), { panel with pins := (enterReset panel.pins).state },
      (enterReset panel.pins).events⟩ := by
  have hresult : (enterReset panel.pins).result = .ok () := by rw [ControlLines.enterReset_eq]
  simp only [onPins, Action.on, hresult]

theorem cutSupply_eq (panel : Panel) : cutSupply panel =
    ⟨.ok (), { panel with
      pins := (enterReset panel.pins).state
      supply := (Supply.set false panel.supply).state },
      (enterReset panel.pins).events ++ (Supply.set false panel.supply).events⟩ := by
  simp only [cutSupply, Action.bind_ok (enterReset_eq panel), Action.ignore_apply]
  rfl

/-- A panel whose lines do not follow is not woken. -/
theorem wake_of_error {panel : Panel} {e : PanelError}
    (h : (leaveReset panel.pins).result = .error e) : wake panel =
      ⟨.error e, { panel with pins := (leaveReset panel.pins).state },
        (leaveReset panel.pins).events⟩ :=
  Action.bind_of_error (x := onPins leaveReset) h _

theorem wake_of_ok {panel : Panel} (h : (leaveReset panel.pins).result = .ok ()) : wake panel =
    ⟨(phaseRun .init panel).result,
      { panel with
        pins := (leaveReset panel.pins).state
        sideband := (phaseRun .init panel).state },
      (leaveReset panel.pins).events ++
        (settle (·.prepare) panel ++ (phaseRun .init panel).events)⟩ := by
  rw [wake, Action.bind_of_ok (x := onPins leaveReset) h, Action.bind_ok (wait_eq _ _),
    runPrograms_eq]
  rfl

/-- Where the programs fail, the backlight is not asked. -/
theorem light_of_error {panel : Panel} {e : PanelError}
    (h : (phaseRun .enable panel).result = .error e) : light panel =
      ⟨.error e, { panel with sideband := (phaseRun .enable panel).state },
        (phaseRun .enable panel).events⟩ := by
  have hrun := runPrograms_eq .enable panel
  rw [h] at hrun
  rw [light, Action.bind_error hrun]

theorem light_of_ok {panel : Panel} (h : (phaseRun .enable panel).result = .ok ()) : light panel =
    ⟨(Lamp.setBlank false panel.backlight).result,
      { panel with
        sideband := (phaseRun .enable panel).state
        backlight := (Lamp.setBlank false panel.backlight).state },
      (phaseRun .enable panel).events ++
        (settle (·.enable) panel ++ (Lamp.setBlank false panel.backlight).events)⟩ := by
  have hrun := runPrograms_eq .enable panel
  rw [h] at hrun
  rw [light, Action.bind_ok hrun, Action.bind_ok (wait_eq _ _), setBlank_eq]
  rfl

/-! ## Calls -/

/-- How a call on a panel may end: with which result, what it records, and what the panel is
then. -/
inductive Ends : Panel → Call → Except PanelError Unit → List Event → Panel → Prop
  | poweredUp {panel : Panel} (hp : (setPower true panel.pins).result = .ok ()) :
      Ends panel .powerUp (.ok ())
        ((setPower true panel.pins).events ++ settle (·.powerUp) panel)
        { panel with pins := (setPower true panel.pins).state }
  | notPoweredUp {panel : Panel} {e : PanelError}
      (hp : (setPower true panel.pins).result = .error e) :
      Ends panel .powerUp (.error e) (setPower true panel.pins).events
        { panel with pins := (setPower true panel.pins).state }
  | stillPrepared {panel : Panel} (h : panel.prepared = true) :
      Ends panel .prepare (.ok ()) [] panel
  | unsupplied {panel : Panel} {e : PanelError} (h : panel.prepared = false)
      (hs : (Supply.set true panel.supply).result = .error e) :
      Ends panel .prepare (.error e) (Supply.set true panel.supply).events
        { panel with supply := (Supply.set true panel.supply).state }
  | stuck {panel : Panel} {e : PanelError} (h : panel.prepared = false)
      (hs : (Supply.set true panel.supply).result = .ok ())
      (hp : (leaveReset panel.pins).result = .error e) :
      Ends panel .prepare (.error e)
        ((Supply.set true panel.supply).events ++ ((leaveReset panel.pins).events ++
          ((enterReset (leaveReset panel.pins).state).events ++
            (Supply.set false (Supply.set true panel.supply).state).events)))
        { panel with
          pins := (enterReset (leaveReset panel.pins).state).state
          supply := (Supply.set false (Supply.set true panel.supply).state).state }
  | notPrepared {panel : Panel} {e : PanelError} (h : panel.prepared = false)
      (hs : (Supply.set true panel.supply).result = .ok ())
      (hp : (leaveReset panel.pins).result = .ok ())
      (hr : (phaseRun .init panel).result = .error e) :
      Ends panel .prepare (.error e)
        ((Supply.set true panel.supply).events ++ ((leaveReset panel.pins).events ++
          (settle (·.prepare) panel ++ (phaseRun .init panel).events) ++
          ((enterReset (leaveReset panel.pins).state).events ++
            (Supply.set false (Supply.set true panel.supply).state).events)))
        { panel with
          sideband := (phaseRun .init panel).state
          pins := (enterReset (leaveReset panel.pins).state).state
          supply := (Supply.set false (Supply.set true panel.supply).state).state }
  | prepared {panel : Panel} (h : panel.prepared = false)
      (hs : (Supply.set true panel.supply).result = .ok ())
      (hp : (leaveReset panel.pins).result = .ok ())
      (hr : (phaseRun .init panel).result = .ok ()) :
      Ends panel .prepare (.ok ())
        ((Supply.set true panel.supply).events ++ ((leaveReset panel.pins).events ++
          (settle (·.prepare) panel ++ (phaseRun .init panel).events)))
        { panel with
          sideband := (phaseRun .init panel).state
          pins := (leaveReset panel.pins).state
          supply := (Supply.set true panel.supply).state
          prepared := true }
  | stillEnabled {panel : Panel} (h : panel.enabled = true) :
      Ends panel .enable (.ok ()) [] panel
  | notEnabled {panel : Panel} {e : PanelError} (h : panel.enabled = false)
      (hr : (phaseRun .enable panel).result = .error e) :
      Ends panel .enable (.error e)
        ((phaseRun .enable panel).events ++ (enterReset panel.pins).events)
        { panel with
          sideband := (phaseRun .enable panel).state
          pins := (enterReset panel.pins).state }
  | unlit {panel : Panel} {e : PanelError} (h : panel.enabled = false)
      (hr : (phaseRun .enable panel).result = .ok ())
      (hb : (Lamp.setBlank false panel.backlight).result = .error e) :
      Ends panel .enable (.error e)
        ((phaseRun .enable panel).events ++
          (settle (·.enable) panel ++ (Lamp.setBlank false panel.backlight).events) ++
          (enterReset panel.pins).events)
        { panel with
          sideband := (phaseRun .enable panel).state
          backlight := (Lamp.setBlank false panel.backlight).state
          pins := (enterReset panel.pins).state }
  | enabled {panel : Panel} (h : panel.enabled = false)
      (hr : (phaseRun .enable panel).result = .ok ())
      (hb : (Lamp.setBlank false panel.backlight).result = .ok ()) :
      Ends panel .enable (.ok ())
        ((phaseRun .enable panel).events ++
          (settle (·.enable) panel ++ (Lamp.setBlank false panel.backlight).events))
        { panel with
          sideband := (phaseRun .enable panel).state
          backlight := (Lamp.setBlank false panel.backlight).state
          enabled := true }
  | stillDisabled {panel : Panel} (h : panel.enabled = false) :
      Ends panel .disable (.ok ()) [] panel
  | disabled {panel : Panel} (h : panel.enabled = true) :
      Ends panel .disable (.ok ())
        ((Lamp.setBlank true panel.backlight).events ++ (settle (·.disable) panel ++
          (phaseRun .disable panel).events))
        { panel with
          backlight := (Lamp.setBlank true panel.backlight).state
          sideband := (phaseRun .disable panel).state
          enabled := false }
  | stillUnprepared {panel : Panel} (h : panel.prepared = false) :
      Ends panel .unprepare (.ok ()) [] panel
  | unprepared {panel : Panel} (h : panel.prepared = true) :
      Ends panel .unprepare (.ok ())
        (settle (·.unprepare) panel ++
          ((enterReset panel.pins).events ++ (Supply.set false panel.supply).events))
        { panel with
          pins := (enterReset panel.pins).state
          supply := (Supply.set false panel.supply).state
          prepared := false }
  | poweredDown {panel : Panel} : Ends panel .powerDown (setPower false panel.pins).result
      (settle (·.powerDown) panel ++ (setPower false panel.pins).events)
      { panel with pins := (setPower false panel.pins).state }
  | shutDown {panel dark last : Panel} {r r' : Except PanelError Unit} {first second : List Event}
      (hd : Ends panel .disable r first dark) (hu : Ends dark .unprepare r' second last) :
      Ends panel .shutdown (.ok ()) (first ++ second) last

/-- The call ends with this outcome. -/
def EndsWith (panel : Panel) (call : Call) (o : Outcome PanelError Panel Unit) : Prop :=
  Ends panel call o.result o.events o.state

theorem powerUp_ends (panel : Panel) : EndsWith panel .powerUp (powerUp panel) := by
  cases hp : (setPower true panel.pins).result with
  | error e =>
    rw [powerUp, Action.bind_of_error (x := onPins (setPower true)) hp]
    exact .notPoweredUp hp
  | ok _ =>
    rw [powerUp, Action.bind_of_ok (x := onPins (setPower true)) hp, wait_eq]
    exact .poweredUp hp

theorem powerDown_ends (panel : Panel) : EndsWith panel .powerDown (powerDown panel) := by
  rw [powerDown, Action.bind_ok (wait_eq _ panel)]
  exact .poweredDown

theorem prepare_ends (panel : Panel) : EndsWith panel .prepare (prepare panel) := by
  cases h : panel.prepared with
  | true =>
    simp only [prepare, Action.state_bind, h, ↓reduceIte]
    exact .stillPrepared h
  | false =>
    simp only [prepare, Action.state_bind, h, Bool.false_eq_true, ↓reduceIte]
    cases hs : (Supply.set true panel.supply).result with
    | error e =>
      rw [Action.bind_of_error (x := setSupply true) hs]
      exact .unsupplied h hs
    | ok _ =>
      let supplied : Panel := { panel with supply := (Supply.set true panel.supply).state }
      have hsupply : setSupply true panel =
          ⟨.ok (), supplied, (Supply.set true panel.supply).events⟩ := by
        simp only [setSupply, Action.on, hs, supplied]
      rw [Action.bind_ok hsupply]
      cases hp : (leaveReset panel.pins).result with
      | error e =>
        have hwake : wake supplied = _ := wake_of_error hp
        rw [Action.bind_error (Action.orElse_undo hwake (cutSupply_eq _))]
        exact .stuck h hs hp
      | ok _ =>
        have hwake : wake supplied = _ := wake_of_ok hp
        cases hr : (phaseRun .init panel).result with
        | error e =>
          have hresult : (phaseRun .init supplied).result = .error e := hr
          rw [hresult] at hwake
          rw [Action.bind_error (Action.orElse_undo hwake (cutSupply_eq _))]
          exact .notPrepared h hs hp hr
        | ok _ =>
          have hresult : (phaseRun .init supplied).result = .ok () := hr
          rw [hresult] at hwake
          rw [Action.bind_update (Action.orElse_ok hwake)]
          exact .prepared h hs hp hr

theorem enable_ends (panel : Panel) : EndsWith panel .enable (enable panel) := by
  cases h : panel.enabled with
  | true =>
    simp only [enable, Action.state_bind, h, ↓reduceIte]
    exact .stillEnabled h
  | false =>
    simp only [enable, Action.state_bind, h, Bool.false_eq_true, ↓reduceIte]
    cases hr : (phaseRun .enable panel).result with
    | error e =>
      have hlight := light_of_error hr
      rw [Action.bind_error (Action.orElse_undo hlight (enterReset_eq _))]
      exact .notEnabled h hr
    | ok _ =>
      have hlight := light_of_ok hr
      cases hb : (Lamp.setBlank false panel.backlight).result with
      | error e =>
        rw [hb] at hlight
        rw [Action.bind_error (Action.orElse_undo hlight (enterReset_eq _))]
        exact .unlit h hr hb
      | ok _ =>
        rw [hb] at hlight
        rw [Action.bind_update (Action.orElse_ok hlight)]
        exact .enabled h hr hb

theorem disable_ends (panel : Panel) : EndsWith panel .disable (disable panel) := by
  cases h : panel.enabled with
  | false =>
    simp only [disable, Action.state_bind, h, Bool.false_eq_true, ↓reduceIte]
    exact .stillDisabled h
  | true =>
    simp only [disable, Action.state_bind, h, ↓reduceIte]
    have hdark := Action.ignore_apply (φ := PanelError) (setBlank true) panel
    rw [setBlank_eq] at hdark
    let dark : Panel := { panel with backlight := (Lamp.setBlank true panel.backlight).state }
    have hleft := Action.ignore_apply (φ := PanelError) (runPrograms .disable) dark
    rw [runPrograms_eq] at hleft
    rw [Action.bind_ok hdark, Action.bind_ok (wait_eq _ _), Action.bind_update hleft]
    exact .disabled h

theorem unprepare_ends (panel : Panel) : EndsWith panel .unprepare (unprepare panel) := by
  cases h : panel.prepared with
  | false =>
    simp only [unprepare, Action.state_bind, h, Bool.false_eq_true, ↓reduceIte]
    exact .stillUnprepared h
  | true =>
    simp only [unprepare, Action.state_bind, h, ↓reduceIte]
    rw [Action.bind_ok (wait_eq _ _), Action.bind_update (cutSupply_eq _)]
    exact .unprepared h

theorem shutdown_ends (panel : Panel) : EndsWith panel .shutdown (shutdown panel) := by
  have hdark := Action.ignore_apply (φ := PanelError) disable panel
  have hlast := Action.ignore_apply (φ := PanelError) unprepare (disable panel).state
  rw [shutdown, Action.bind_ok hdark, hlast]
  exact .shutDown (disable_ends panel) (unprepare_ends (disable panel).state)

/-- Every call ends in one of these ways. -/
theorem perform_ends (call : Call) (panel : Panel) : EndsWith panel call (perform call panel) := by
  cases call with
  | powerUp => exact powerUp_ends panel
  | prepare => exact prepare_ends panel
  | enable => exact enable_ends panel
  | disable => exact disable_ends panel
  | unprepare => exact unprepare_ends panel
  | powerDown => exact powerDown_ends panel
  | shutdown => exact shutdown_ends panel

/-! ## Flags -/

theorem enabled_of_disable {panel last : Panel} {result : Except PanelError Unit}
    {events : List Event} (h : Ends panel .disable result events last) : last.enabled = false := by
  cases h with
  | stillDisabled h => exact h
  | disabled => rfl

theorem prepared_of_unprepare {panel last : Panel} {result : Except PanelError Unit}
    {events : List Event} (h : Ends panel .unprepare result events last) :
    last.prepared = false := by
  cases h with
  | stillUnprepared h => exact h
  | unprepared => rfl

theorem enabled_of_unprepare {panel last : Panel} {result : Except PanelError Unit}
    {events : List Event} (h : Ends panel .unprepare result events last) :
    last.enabled = panel.enabled := by
  cases h with
  | stillUnprepared => rfl
  | unprepared => rfl

/-- Shut down, a panel is neither enabled nor prepared. -/
theorem flags_of_shutdown {panel last : Panel} {result : Except PanelError Unit}
    {events : List Event} (h : Ends panel .shutdown result events last) :
    last.enabled = false ∧ last.prepared = false := by
  cases h with
  | shutDown hd hu =>
    rw [enabled_of_unprepare hu]
    exact ⟨enabled_of_disable hd, prepared_of_unprepare hu⟩

/-! ## Runs -/

/-- The panel after a run of calls, whether or not they fail. -/
def after : List Call → Panel → Panel
  | [], panel => panel
  | call :: rest, panel => after rest (perform call panel).state

/-- What a run of calls records. -/
def record : List Call → Panel → List Event
  | [], _ => []
  | call :: rest, panel => (perform call panel).events ++ record rest (perform call panel).state

theorem after_append (calls later : List Call) (panel : Panel) :
    after (calls ++ later) panel = after later (after calls panel) := by
  induction calls generalizing panel with
  | nil => rfl
  | cons call rest ih => exact ih (perform call panel).state

theorem record_append (calls later : List Call) (panel : Panel) :
    record (calls ++ later) panel = record calls panel ++ record later (after calls panel) := by
  induction calls generalizing panel with
  | nil => rfl
  | cons call rest ih => simp only [List.cons_append, record, after, ih, List.append_assoc]

/-- What no call changes, no run of calls changes. -/
theorem after_kept {p : Panel → Prop} (kept : ∀ {panel last : Panel} {call : Call}
    {result : Except PanelError Unit} {events : List Event},
    Ends panel call result events last → p panel → p last) (calls : List Call) {panel : Panel}
    (h : p panel) : p (after calls panel) := by
  induction calls generalizing panel with
  | nil => exact h
  | cons call rest ih => exact ih (kept (perform_ends call panel) h)

/-- A release is a call to shut down, after which the host has its resources back. -/
theorem release_eq (calls : List Call) (panel : Panel) : release (after calls panel) =
    ((after (calls ++ [.shutdown]) panel).resources,
      (perform .shutdown (after calls panel)).events) := by
  rw [after_append]
  rfl

/-- A configuration that passed the checks is valid, it has a mode, and its devices make up its
buses. -/
theorem check_eq_ok {config : Config} {r : Resources} {timing : VideoTiming} {buses : Buses}
    (h : check config r = .ok (timing, buses)) : config.validate = .ok () ∧
      config.activeTiming = some timing ∧
      Buses.ofAdapters? r.adapters config.i2c config.spi = some buses := by
  obtain ⟨_, hvalid, h⟩ := exists_of_bind_eq_ok h
  refine ⟨hvalid, ?_⟩
  cases htiming : config.activeTiming with
  | none =>
    rw [htiming] at h
    cases h
  | some mode =>
    rw [htiming] at h
    cases hwait : mustWait config r with
    | true =>
      rw [hwait] at h
      cases h
    | false =>
      rw [hwait] at h
      cases hbuses : Buses.ofAdapters? r.adapters config.i2c config.spi with
      | none =>
        rw [hbuses] at h
        cases h
      | some made =>
        rw [hbuses] at h
        obtain ⟨rfl, rfl⟩ := Prod.mk.inj (Except.ok.inj h)
        exact ⟨rfl, rfl⟩

/-- A panel that was bound: with the resources it was bound to, but for what its pins did. -/
theorem bind_eq_ok {config : Config} {r : Resources} {panel : Panel} {driven : List Event}
    (h : bind config r = (.ok panel, driven)) : ∃ timing buses,
      check config r = .ok (timing, buses) ∧
      ControlLines.initialise r.pins = ⟨.ok (), panel.pins, driven⟩ ∧
      panel = {
        config, timing
        pins := panel.pins
        sideband := { buses }
        supply := r.supply
        backlight := r.backlight } := by
  unfold bind at h
  rcases hcheck : check config r with e | ⟨timing, buses⟩
  · simp [hcheck] at h
  · rcases hinit : ControlLines.initialise r.pins with ⟨_ | _, pins, events⟩
    · simp [hcheck, hinit] at h
    · simp only [hcheck, hinit, Prod.mk.injEq, Except.ok.injEq] at h
      obtain ⟨rfl, rfl⟩ := h
      exact ⟨timing, buses, rfl, rfl, rfl⟩

/-! ## A panel whose devices fail -/

/-- No programs, no delays and a mode without pixels. -/
def bare : Config where
  desc := { name := "", compatible := "" }
  timing := some (.ofSpans 0 ⟨0, 0, 0, 0⟩ ⟨0, 0, 0, 0⟩ 0)

/-- One program, which wakes the panel. -/
def sleeper : Config := { bare with programs := { init := { mipi := ⟨[0x01, 0x11]⟩ } } }

/-- Every device fails once: the supply and the backlight when they are first called, the reset line
when it is to go low, and the DSI host at its first packet. -/
def faultyResources : Resources where
  adapters := { dsi := some (.scripted { writeFaults := [some .timeout] }) }
  pins := {
    prepare := some { schedule := some [] }
    reset := some { schedule := some [false, true] } }
  supply := { script := some { onFailures := [true] } }
  backlight := some (.scripted { failures := [true] })

/-- The panel that is bound to them. -/
def faulty : Panel where
  config := sleeper
  timing := .ofSpans 0 ⟨0, 0, 0, 0⟩ ⟨0, 0, 0, 0⟩ 0
  sideband := { buses := { mipi := some ⟨.scripted { writeFaults := [some .timeout] }⟩ } }
  pins := {
    prepare := some { schedule := some [], level := some false }
    reset := some { schedule := some [true], level := some true } }
  supply := { script := some { onFailures := [true] } }
  backlight := some (.scripted { failures := [true] })

theorem bind_faulty : bind sleeper faultyResources =
    (.ok faulty, [.pin .reset true, .pin .prepare false]) := by rfl

/-- It is prepared until it is, and then enabled until it is. -/
def attempts : List Call := [.prepare, .prepare, .prepare, .prepare, .enable, .enable]

end Panel

end PanelDriver

import PanelDriver.Proofs.Panel.Grounds

/-!
How calls on a bound panel may fail. What can be found in a configuration is found when the panel is
bound: from then on its programs decode, and all that is left are the answers of its devices and
payloads too long for their bus (`errors_after_bind`).
-/

namespace PanelDriver

open ControlLines (leaveReset setPower setPrepare setReset)

/-- What is wrong with a configuration or with what it is bound to, and not with an answer of a
device. -/
def PanelError.FoundAtBind : PanelError → Prop
  | .truncated _ | .unknownOpcode _ _ | .misaligned | .defer | .invalidConfig => True
  | _ => False

/-! ## Valid configurations -/

/-- All programs of a phase decode. -/
def BusPrograms.Sound (programs : BusPrograms) : Prop :=
  ∀ kind, defect? (programs.on kind).items = none

theorem PhasePrograms.sound_of_validate {programs : PhasePrograms}
    (h : programs.validate = .ok ()) (phase : Phase) : (programs.phase phase).Sound := by
  intro kind
  have hnone : failure? programs.validate = none := by rw [h]; rfl
  rw [failure?_validate, List.findSome?_eq_none_iff] at hnone
  exact hnone _ (programs.mem_all phase kind)

theorem Config.programs_validate {config : Config} (h : config.validate = .ok ()) :
    config.programs.validate = .ok () := by
  unfold Config.validate at h
  split at h
  · cases h
  · split at h
    · cases h
    · split at h
      · cases h
      · exact h

/-! ## Devices -/

namespace ControlLines

theorem error_of_setPower {high : Bool} {pins : ControlLines} {e : PanelError}
    (h : (setPower high pins).result = .error e) : e = .gpio := by
  rw [setPower_eq] at h
  exact (Line.level_of_error h).1

theorem error_of_leaveReset {pins : ControlLines} {e : PanelError}
    (h : (leaveReset pins).result = .error e) : e = .gpio := by
  cases hprepare : (setPrepare true pins).result with
  | error e' =>
    rw [leaveReset_of_error hprepare] at h
    rw [setPrepare_eq] at hprepare
    rw [← Except.error.inj h]
    exact (Line.level_of_error hprepare).1
  | ok _ =>
    rw [leaveReset_of_ok hprepare] at h
    rw [setReset_eq] at h
    exact (Line.level_of_error h).1

end ControlLines

namespace Panel

/-! ## Calls -/

/-- How a call may fail, by what it makes the panel do. -/
inductive MayFail (panel : Panel) : Call → PanelError → Prop
  | powerUp : MayFail panel .powerUp .gpio
  | supply : MayFail panel .prepare .regulator
  | lines : MayFail panel .prepare .gpio
  | init {e : PanelError} (h : Sideband.Stops panel.context panel.config.programs.init
      panel.sideband e) : MayFail panel .prepare e
  | enable {e : PanelError} (h : Sideband.Stops panel.context panel.config.programs.enable
      panel.sideband e) : MayFail panel .enable e
  | backlight : MayFail panel .enable .backlight
  | powerDown : MayFail panel .powerDown .gpio

theorem stops_of_phaseRun {phase : Phase} {panel : Panel} {e : PanelError}
    (valid : (panel.config.programs.phase phase).Sound)
    (h : (phaseRun phase panel).result = .error e) :
    Sideband.Stops panel.context (panel.config.programs.phase phase) panel.sideband e := by
  unfold phaseRun at h
  split at h
  · cases h
  · exact Sideband.stops_of_error valid h

theorem MayFail.not_foundAtBind {panel : Panel} {call : Call} {e : PanelError}
    (h : MayFail panel call e) : ¬e.FoundAtBind := by
  cases h with
  | powerUp | supply | lines | backlight | powerDown => exact id
  | init h | enable h => cases h <;> exact id

theorem mayFail_of_ends {panel last : Panel} {call : Call} {e : PanelError} {events : List Event}
    (valid : ∀ phase, (panel.config.programs.phase phase).Sound)
    (hends : Ends panel call (.error e) events last) : MayFail panel call e := by
  generalize hresult : (Except.error e : Except PanelError Unit) = result at hends
  cases hends with
  | poweredUp | stillPrepared | prepared | stillEnabled | enabled | stillDisabled | disabled
  | stillUnprepared | unprepared | shutDown => cases hresult
  | notPoweredUp hp =>
    cases hresult
    cases ControlLines.error_of_setPower hp
    exact .powerUp
  | unsupplied _ hs =>
    cases hresult
    cases (Supply.isOn_of_error hs).1
    exact .supply
  | stuck _ _ hp =>
    cases hresult
    cases ControlLines.error_of_leaveReset hp
    exact .lines
  | notPrepared _ _ _ hr =>
    cases hresult
    exact .init (stops_of_phaseRun (valid .init) hr)
  | notEnabled _ hr =>
    cases hresult
    exact .enable (stops_of_phaseRun (valid .enable) hr)
  | unlit _ _ hb =>
    cases hresult
    cases (Lamp.blanked_of_error hb).1
    exact .backlight
  | poweredDown =>
    cases ControlLines.error_of_setPower hresult.symm
    exact .powerDown

theorem config_of_ends {panel last : Panel} {call : Call} {result : Except PanelError Unit}
    {events : List Event} (hends : Ends panel call result events last) :
    last.config = panel.config := by
  induction hends with
  | shutDown _ _ ihd ihu => exact ihu.trans ihd
  | _ => rfl

theorem validate_of_bind {config : Config} {r : Resources} {panel : Panel} {driven : List Event}
    (h : bind config r = (.ok panel, driven)) :
    config.validate = .ok () ∧ panel.config = config := by
  obtain ⟨timing, buses, hcheck, -, hpanel⟩ := bind_eq_ok h
  exact ⟨(check_eq_ok hcheck).1, by rw [hpanel]⟩

/-- Whatever its devices do, a panel that was bound can be disabled and unprepared at any time in
its life. Its other calls fail with answers of its devices only: a line, the supply, the backlight,
or a program that sends more than its bus takes, reads other bytes than expected, or meets a fault
of the bus that it was running on. Nothing that is checked when a panel is bound is found later. -/
theorem errors_after_bind (config : Config) (r : Resources) (panel : Panel) (driven : List Event)
    (bound : bind config r = (.ok panel, driven)) (calls : List Call) :
    (after calls panel).config = config ∧
    (∀ call e, (perform call (after calls panel)).result = .error e →
      MayFail (after calls panel) call e ∧ ¬e.FoundAtBind) ∧
    (perform .disable (after calls panel)).result = .ok () ∧
    (perform .disable (after calls panel)).state.enabled = false ∧
    (perform .unprepare (after calls panel)).result = .ok () ∧
    (perform .unprepare (after calls panel)).state.prepared = false := by
  obtain ⟨hvalid, hconfig⟩ := validate_of_bind bound
  have hkept : (after calls panel).config = config :=
    after_kept (fun hends h => (config_of_ends hends).trans h) calls hconfig
  have hsound (phase : Phase) : ((after calls panel).config.programs.phase phase).Sound := by
    rw [hkept]
    exact PhasePrograms.sound_of_validate (Config.programs_validate hvalid) phase
  have hfail (call : Call) (e : PanelError)
      (h : (perform call (after calls panel)).result = .error e) :
      MayFail (after calls panel) call e := by
    have hends := perform_ends call (after calls panel)
    rw [EndsWith, h] at hends
    exact mayFail_of_ends hsound hends
  have hok {call : Call} (hnever : ∀ e, ¬MayFail (after calls panel) call e) :
      (perform call (after calls panel)).result = .ok () := by
    cases h : (perform call (after calls panel)).result with
    | ok _ => rfl
    | error e => exact absurd (hfail call e h) (hnever e)
  refine ⟨hkept, fun call e h => ⟨hfail call e h, (hfail call e h).not_foundAtBind⟩, ?_, ?_, ?_, ?_⟩
  · exact hok fun e h => by cases h
  · exact enabled_of_disable (perform_ends .disable (after calls panel))
  · exact hok fun e h => by cases h
  · exact prepared_of_unprepare (perform_ends .unprepare (after calls panel))

/-- The third call to prepare meets the fault of the DSI host. -/
theorem errors_after_bind_faulty :
    (prepare (after [.prepare, .prepare] faulty)).result = .error (.transfer (.dsi .timeout)) ∧
    MayFail (after [.prepare, .prepare] faulty) .prepare (.transfer (.dsi .timeout)) := by
  have hresult : (perform .prepare (after [.prepare, .prepare] faulty)).result =
      .error (.transfer (.dsi .timeout)) := by rfl
  obtain ⟨-, hfail, -⟩ :=
    errors_after_bind sleeper faultyResources faulty _ bind_faulty [.prepare, .prepare]
  exact ⟨hresult, (hfail .prepare _ hresult).1⟩

end Panel

end PanelDriver

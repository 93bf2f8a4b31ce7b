import PanelDriver.Proofs.Panel.Errors
import PanelDriver.Proofs.Panel.Scripts

/-!
What the future of a panel depends on. Calls look at its configuration, its two flags and the
scripts of its devices, and at nothing else. What the calls before have left elsewhere does not
show: not what waits in the packer, not the window of an earlier exchange, not the levels of lines,
not how often a call has failed. Two panels of one configuration, with the same flags and the same
scripts left, cannot be told apart (`Panel.future_by_flags`).
-/

namespace PanelDriver

open PanelDriver.Action (Agree Echoes)

namespace Sideband

/-- Side bands that programs do not tell apart. -/
structure SameAhead (s t : Sideband) : Prop where
  scripts : SameIn Buses.remaining s.buses t.buses
  left : Blank s.buses s.packer.window
  right : Blank t.buses t.packer.window

/-- Each of the two does what it would do with a new packer for every program. -/
theorem agree_ahead (ctx : Context) (programs : BusPrograms) :
    Agree SameAhead (run ctx programs) (run ctx programs) := by
  intro s t h
  have hs := agree_run ctx programs (s := s) ⟨rfl, h.left⟩
  have ht := agree_run ctx programs (s := t) ⟨rfl, h.right⟩
  have hfresh := Buses.agree_runFresh ctx programs h.scripts
  refine ⟨hs.result.trans (hfresh.result.trans ht.result.symm),
    hs.events.trans (hfresh.events.trans ht.events.symm), ?_, hs.state.blank, ht.state.blank⟩
  rw [hs.state.same, ht.state.same]
  exact hfresh.state

/-- A side band of these links, in which no bits of earlier exchanges can show. -/
structure Settled (i2c : Option I2cLink) (spi : Option SpiLink) (s : Sideband) : Prop where
  linked : s.buses.Linked i2c spi
  blank : Blank s.buses s.packer.window

theorem settled_run (ctx : Context) (programs : BusPrograms) {i2c : Option I2cLink}
    {spi : Option SpiLink} {s : Sideband} (h : s.Settled i2c spi) :
    (run ctx programs s).state.Settled i2c spi where
  linked := linked_run ctx programs s h.linked
  blank := (agree_run ctx programs ⟨rfl, h.blank⟩).state.blank

end Sideband

namespace Panel

/-! ## Panels that calls do not tell apart -/

structure SameAhead (p q : Panel) : Prop where
  config : p.config = q.config
  timing : p.timing = q.timing
  prepared : p.prepared = q.prepared
  enabled : p.enabled = q.enabled
  sideband : p.sideband.SameAhead q.sideband
  pins : SameIn ControlLines.remaining p.pins q.pins
  supply : SameIn Supply.remaining p.supply q.supply
  backlight : SameIn Lamp.remaining p.backlight q.backlight

theorem agree_wait (delay : PanelDelays → UInt32) : Agree SameAhead (wait delay) (wait delay) := by
  intro p q h
  rw [wait_eq, wait_eq, settle, settle, h.config]
  exact ⟨rfl, rfl, h⟩

theorem SameAhead.phaseRun {p q : Panel} (h : SameAhead p q) (phase : Phase) :
    (Panel.phaseRun phase p).Alike Sideband.SameAhead (Panel.phaseRun phase q) := by
  have hcontext : p.context = q.context := by rw [context, context, h.timing, h.config]
  rw [Panel.phaseRun, Panel.phaseRun, h.config, hcontext]
  split
  · exact ⟨rfl, rfl, h.sideband⟩
  · exact Sideband.agree_ahead q.context _ h.sideband

theorem agree_runPrograms (phase : Phase) :
    Agree SameAhead (runPrograms phase) (runPrograms phase) := by
  intro p q h
  obtain ⟨hresult, hevents, hstate⟩ := h.phaseRun phase
  rw [runPrograms_eq, runPrograms_eq]
  exact ⟨hresult, hevents, { h with sideband := hstate }⟩

theorem echoes_onPins {x : Action PanelError ControlLines Unit} {hears : Event → Bool}
    (h : Echoes (SameIn ControlLines.remaining) hears x) : Echoes SameAhead hears (onPins x) :=
  h.on (fun _ _ h => h.pins) fun _ _ _ _ h hpins => { h with pins := hpins }

theorem partsEcho_sameAhead : PartsEcho SameAhead fun _ => true where
  setPower high := echoes_onPins (ControlLines.setsEcho_remaining.setPower high)
  enterReset := echoes_onPins ControlLines.setsEcho_remaining.enterReset
  leaveReset := echoes_onPins ControlLines.setsEcho_remaining.leaveReset
  setSupply on := (Action.echoes_iff_agree.mpr (Supply.agree_set on)).on (fun _ _ h => h.supply)
    fun _ _ _ _ h hsupply => { h with supply := hsupply }
  setBlank blank := by
    have hset : setBlank blank = (Lamp.setBlank blank).on (·.backlight)
        fun backlight panel => { panel with backlight } := funext (setBlank_eq blank)
    rw [hset]
    exact (Action.echoes_iff_agree.mpr (Lamp.agree_setBlank blank)).on (fun _ _ h => h.backlight)
      fun _ _ _ _ h hbacklight => { h with backlight := hbacklight }
  wait delay := Action.echoes_iff_agree.mpr (agree_wait delay)
  runPrograms phase := Action.echoes_iff_agree.mpr (agree_runPrograms phase)
  prepared h := h.prepared.symm
  enabled h := h.enabled.symm
  setPrepared _ h := { h with prepared := rfl }
  setEnabled _ h := { h with enabled := rfl }

theorem agree_perform (call : Call) : Agree SameAhead (perform call) (perform call) :=
  Action.echoes_iff_agree.mp (partsEcho_sameAhead.perform call)

/-! ## Observations -/

def flags (panel : Panel) : Bool × Bool := (panel.prepared, panel.enabled)

/-- What a call shows: its result, the flags after it, and what it records. -/
structure Observation where
  result : Except PanelError Unit
  flags : Bool × Bool
  events : List Event

def observe (call : Call) (panel : Panel) : Observation :=
  let o := perform call panel
  ⟨o.result, o.state.flags, o.events⟩

/-- What the calls of a run show, whether or not they fail. -/
def observations : List Call → Panel → List Observation
  | [], _ => []
  | call :: rest, panel => observe call panel :: observations rest (perform call panel).state

theorem SameAhead.flags {p q : Panel} (h : SameAhead p q) : p.flags = q.flags :=
  Prod.ext h.prepared h.enabled

theorem SameAhead.remaining {p q : Panel} (h : SameAhead p q) :
    SameIn Resources.remaining p.resources q.resources := by
  have hadapters : SameIn Adapters.remaining p.sideband.buses.adapters
      q.sideband.buses.adapters := by
    simp only [SameIn, ← Buses.adapters_remaining]
    exact congrArg Buses.adapters h.sideband.scripts
  exact (Resources.mk.injEq ..).mpr ⟨hadapters, h.pins, h.supply, h.backlight⟩

theorem SameAhead.observations {p q : Panel} (h : SameAhead p q) (calls : List Call) :
    observations calls p = Panel.observations calls q ∧
      SameAhead (after calls p) (after calls q) := by
  induction calls generalizing p q with
  | nil => exact ⟨rfl, h⟩
  | cons call rest ih =>
    obtain ⟨hresult, hevents, hstate⟩ := agree_perform call h
    obtain ⟨hlater, hlast⟩ := ih hstate
    refine ⟨?_, hlast⟩
    rw [Panel.observations, Panel.observations, hlater, observe, observe, hresult, hevents,
      hstate.flags]

/-! ## Histories -/

/-- What holds of a bound panel for good: the configuration, the mode and the links it was bound
with, and that no bits of earlier exchanges can show. -/
structure AsBound (config : Config) (panel : Panel) : Prop where
  timing : config.activeTiming = some panel.timing
  settled : panel.sideband.Settled config.i2c config.spi
  config : panel.config = config

theorem AsBound.phaseRun {config : Config} {panel : Panel} (h : AsBound config panel)
    (phase : Phase) : (Panel.phaseRun phase panel).state.Settled config.i2c config.spi := by
  unfold Panel.phaseRun
  split
  · exact h.settled
  · exact Sideband.settled_run _ _ h.settled

theorem asBound_of_bind {config : Config} {r : Resources} {panel : Panel} {driven : List Event}
    (h : bind config r = (.ok panel, driven)) : AsBound config panel := by
  obtain ⟨timing, buses, hcheck, -, hpanel⟩ := bind_eq_ok h
  obtain ⟨-, htiming, hbuses⟩ := check_eq_ok hcheck
  rw [hpanel]
  exact ⟨htiming, ⟨Buses.linked_of_ofAdapters hbuses, Sideband.blank_new buses⟩, rfl⟩

theorem asBound_of_ends {config : Config} {panel last : Panel} {call : Call}
    {result : Except PanelError Unit} {events : List Event}
    (hends : Ends panel call result events last) (h : AsBound config panel) :
    AsBound config last := by
  induction hends with
  | notPrepared | prepared => exact { h with settled := h.phaseRun .init }
  | notEnabled | unlit | enabled => exact { h with settled := h.phaseRun .enable }
  | disabled => exact { h with settled := h.phaseRun .disable }
  | shutDown _ _ ihd ihu => exact ihu (ihd h)
  | _ => exact { h with }

/-- A call that fails leaves the flags as they were. -/
theorem flags_of_error {panel last : Panel} {call : Call} {e : PanelError} {events : List Event}
    (hends : Ends panel call (.error e) events last) : last.flags = panel.flags := by
  generalize hresult : (Except.error e : Except PanelError Unit) = result at hends
  cases hends with
  | prepared | enabled | disabled | unprepared | shutDown => cases hresult
  | _ => rfl

theorem flags_after_failures (tries : List Call) (panel : Panel)
    (hfailed : ∀ o ∈ observations tries panel, ∃ e, o.result = .error e) :
    (after tries panel).flags = panel.flags := by
  induction tries generalizing panel with
  | nil => rfl
  | cons call rest ih =>
    obtain ⟨e, he⟩ := hfailed _ List.mem_cons_self
    have hends := perform_ends call panel
    rw [EndsWith, show (perform call panel).result = .error e from he] at hends
    rw [after, ih _ fun o ho => hfailed o (List.mem_cons_of_mem _ ho), flags_of_error hends]

/-- Bound with one configuration, panels with the same flags and the same scripts left are not told
apart. -/
theorem AsBound.sameAhead {config : Config} {p q : Panel} (hp : AsBound config p)
    (hq : AsBound config q) (hflags : p.flags = q.flags)
    (hscripts : SameIn Resources.remaining p.resources q.resources) : SameAhead p q := by
  obtain ⟨hadapters, hpins, hsupply, hbacklight⟩ := Resources.mk.inj hscripts
  obtain ⟨hprepared, henabled⟩ := Prod.mk.inj hflags
  exact {
    config := hp.config.trans hq.config.symm
    timing := Option.some.inj (hp.timing.symm.trans hq.timing)
    prepared := hprepared
    enabled := henabled
    sideband := ⟨Buses.remaining_congr hp.settled.linked hq.settled.linked hadapters,
      hp.settled.blank, hq.settled.blank⟩
    pins := hpins
    supply := hsupply
    backlight := hbacklight }

/-- A panel's future depends on its past through its two flags only. Two panels are bound with one
configuration, each goes through a history of its own, and they come to the same flags. With the
same scripts left on their devices, every further run of calls has the same results, flags and
events on both, and leaves the same scripts. Calls that have failed in between make no difference:
after them a panel goes on like one that makes its first attempt from the same flags. A scripted SPI
device fills its whole window in every transfer, and a silent one does not touch it. Nor does it
matter what is left over in the packer's memory: the programs run on it as they run here
(`runs_in_memory`). -/
theorem future_by_flags (config : Config) {r r' : Resources} {panel panel' : Panel}
    {driven driven' : List Event} (bound : bind config r = (.ok panel, driven))
    (bound' : bind config r' = (.ok panel', driven')) (history tries history' : List Call)
    (hfailed : ∀ o ∈ observations tries (after history panel), ∃ e, o.result = .error e)
    (hflags : (after history panel).flags = (after history' panel').flags)
    (hscripts : (after (history ++ tries) panel).resources.remaining =
      (after history' panel').resources.remaining) (calls : List Call) :
    observations calls (after (history ++ tries) panel) =
      observations calls (after history' panel') ∧
    (after calls (after (history ++ tries) panel)).resources.remaining =
      (after calls (after history' panel')).resources.remaining := by
  have htried : (after (history ++ tries) panel).flags = (after history' panel').flags := by
    rw [after_append, flags_after_failures tries _ hfailed, hflags]
  have hsame : SameAhead (after (history ++ tries) panel) (after history' panel') :=
    (after_kept asBound_of_ends (history ++ tries) (asBound_of_bind bound)).sameAhead
      (after_kept asBound_of_ends history' (asBound_of_bind bound')) htried hscripts
  obtain ⟨hshown, hlast⟩ := hsame.observations calls
  exact ⟨hshown, hlast.remaining⟩

/-! ## A read that fails and is tried again -/

/-- One program on SPI, which reads a byte. -/
def asking : Config :=
  { bare with spi := some {}, programs := { init := { spi := ⟨[0x40, 0x0a, 0x9c]⟩ } } }

/-- Devices that answer SPI transfers with these bytes. -/
def answers (replies : List Bytes) : Resources where
  adapters := { spi := some (.scripted { replies }) }

/-- The panel that is bound to them. -/
def answered (replies : List Bytes) : Panel where
  config := asking
  timing := .ofSpans 0 ⟨0, 0, 0, 0⟩ ⟨0, 0, 0, 0⟩ 0
  sideband := { buses := { spi := some ⟨.scripted { replies }, {}⟩ } }
  pins := {}
  supply := {}
  backlight := none

theorem bind_answers (replies : List Bytes) :
    bind asking (answers replies) = (.ok (answered replies), []) := by rfl

/-- The first answer is not the expected one, and its bytes are still in the window when the panel
is prepared again. A panel that gets the second answer at once has the same future. -/
theorem future_by_flags_answered :
    (after [.prepare] (answered [[0xff, 0x08], [0xff, 0x9c]])).sideband.packer ≠
      (answered [[0xff, 0x9c]]).sideband.packer ∧
    observations [.prepare, .enable]
      (after [.prepare] (answered [[0xff, 0x08], [0xff, 0x9c]])) =
      observations [.prepare, .enable] (answered [[0xff, 0x9c]]) := by
  have hfailed : ∀ o ∈ observations [.prepare] (answered [[0xff, 0x08], [0xff, 0x9c]]),
      ∃ e, o.result = .error e := by
    intro o ho
    rw [List.mem_singleton.mp ho]
    exact ⟨.mismatch, by rfl⟩
  have hfuture := future_by_flags asking (bind_answers [[0xff, 0x08], [0xff, 0x9c]])
    (bind_answers [[0xff, 0x9c]]) [] [.prepare] [] hfailed rfl (by decide) [.prepare, .enable]
  exact ⟨by decide, hfuture.1⟩

end Panel

end PanelDriver

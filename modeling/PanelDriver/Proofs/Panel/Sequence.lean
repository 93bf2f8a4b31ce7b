import PanelDriver.Proofs.Panel.Monitor
import PanelDriver.Proofs.Panel.Safety

/-!
Power sequencing. The prepare line of a panel is up only while the supply is on, and the panel is
out of reset only while the prepare line is up. This holds not only between calls but after every
event that an observer of lines and supply records, on every way through every call, as long as no
call fails that drives reset high or prepare low (`sequenced_throughout`).
-/

namespace PanelDriver

open ControlLines (enterReset leaveReset setPower setPrepare setReset)

/-! ## Levels over time -/

namespace Levels

/-- What an event tells of the levels. -/
def see (levels : Levels) : Event → Levels
  | .pin .power high => { levels with power := some high }
  | .pin .prepare high => { levels with prepare := some high }
  | .pin .reset high => { levels with reset := some high }
  | .supply on => { levels with supply := on }
  | _ => levels

def replay (levels : Levels) (events : List Event) : Levels := events.foldl see levels

/-- Out of reset the prepare line is up, and with it up the supply is on; what is missing does not
matter. -/
structure Sequenced (levels : Levels) : Prop where
  reset : levels.reset = some false →
    (∀ level ∈ levels.prepare, level = true) ∧ levels.supply = true
  prepare : levels.prepare = some true → levels.supply = true

/-- The events lead from the first levels to the last, and the levels are in sequence before the
first event and after every single one. -/
structure Through (first : Levels) (events : List Event) (last : Levels) : Prop where
  last : first.replay events = last
  sequenced : ∀ seen, seen <+: events → (first.replay seen).Sequenced

namespace Through

variable {first middle last : Levels} {events later : List Event}

theorem finish (h : Through first events last) : last.Sequenced :=
  h.last ▸ h.sequenced events List.prefix_rfl

/-- Events that tell nothing. -/
theorem unseen (h : first.Sequenced) (hevents : ∀ e ∈ events, first.see e = first) :
    Through first events first := by
  have hreplay {seen : List Event} (hseen : ∀ e ∈ seen, first.see e = first) :
      first.replay seen = first := by
    induction seen with
    | nil => rfl
    | cons e rest ih =>
      rw [replay, List.foldl_cons, hseen e List.mem_cons_self]
      exact ih fun e he => hseen e (List.mem_cons_of_mem _ he)
  refine ⟨hreplay hevents, fun seen hseen => ?_⟩
  rw [hreplay fun e he => hevents e (hseen.subset he)]
  exact h

theorem nil (h : first.Sequenced) : Through first [] first := unseen h (by simp)

theorem single {e : Event} (h : first.Sequenced) (h' : (first.see e).Sequenced) :
    Through first [e] (first.see e) := by
  refine ⟨rfl, fun seen hseen => ?_⟩
  rcases List.prefix_cons_iff.mp hseen with rfl | ⟨rest, rfl, hrest⟩
  · exact h
  · rw [List.prefix_nil.mp hrest]
    exact h'

theorem append (h : Through first events middle) (h' : Through middle later last) :
    Through first (events ++ later) last := by
  have hreplay (seen : List Event) : first.replay (events ++ seen) = middle.replay seen := by
    rw [replay, List.foldl_append, ← h.last]
    rfl
  refine ⟨(hreplay later).trans h'.last, fun seen hseen => ?_⟩
  rcases List.prefix_or_prefix_of_prefix hseen (List.prefix_append events later) with
    hseen' | ⟨rest, rfl⟩
  · exact h.sequenced seen hseen'
  · rw [hreplay]
    exact h'.sequenced rest ((List.prefix_append_right_inj events).mp hseen)

/-- A step that tells of itself only if it changes something. -/
theorem step {e : Event} (h : first.Sequenced) (h' : (first.see e).Sequenced)
    (hstep : events = [] ∧ last = first ∨ events = [e] ∧ last = first.see e) :
    Through first events last := by
  rcases hstep with ⟨rfl, rfl⟩ | ⟨rfl, rfl⟩
  · exact nil h
  · exact single h h'

end Through

end Levels

open Levels (Sequenced Through)

/-! ## Lines and supply -/

theorem Line.eq_of_level {line : Line} {high : Bool} (h : ∀ pin ∈ line, pin.level = some high) :
    ∀ level ∈ Line.level line, level = high := by
  intro level hlevel
  obtain ⟨pin, hpin, hlevel⟩ := Option.bind_eq_some_iff.mp hlevel
  exact Option.some.inj (hlevel.symm.trans (h pin hpin))

namespace ControlLines

variable {pins : ControlLines} {on : Bool}

/-- Lines in reset are in sequence on every supply. -/
theorem At.sequenced (h : pins.At false true) (on : Bool) : (pins.levels on).Sequenced where
  reset hreset := by cases Line.eq_of_level h.reset _ hreset
  prepare hprepare := by cases Line.eq_of_level h.prepare _ hprepare

/-- Switching the supply on disturbs no sequence. -/
theorem sequenced_on (h : (pins.levels on).Sequenced) : (pins.levels true).Sequenced where
  reset hreset := ⟨(h.reset hreset).1, rfl⟩
  prepare _ := rfl

theorem through_setPower (high : Bool) (hrecorded : pins.Recorded)
    (h : (pins.levels on).Sequenced) :
    Through (pins.levels on) (setPower high pins).events
      ((setPower high pins).state.levels on) := by
  rw [setPower_eq]
  refine Through.step h (e := .pin .power high) ⟨h.reset, h.prepare⟩ ?_
  rcases Line.recorded_set hrecorded.power with ⟨hevents, hlevel⟩ | ⟨hevents, hlevel⟩
  · exact .inl ⟨hevents, by simp only [levels, hlevel]⟩
  · exact .inr ⟨hevents, by simp only [levels, hlevel, Levels.see]⟩

theorem through_setPrepare {high : Bool} (hrecorded : pins.Recorded)
    (h : (pins.levels on).Sequenced)
    (h' : ({ pins.levels on with prepare := some high } : Levels).Sequenced) :
    Through (pins.levels on) (setPrepare high pins).events
      ((setPrepare high pins).state.levels on) := by
  rw [setPrepare_eq]
  refine Through.step (e := .pin .prepare high) h h' ?_
  rcases Line.recorded_set hrecorded.prepare with ⟨hevents, hlevel⟩ | ⟨hevents, hlevel⟩
  · exact .inl ⟨hevents, by simp only [levels, hlevel]⟩
  · exact .inr ⟨hevents, by simp only [levels, hlevel, Levels.see]⟩

theorem through_setReset {high : Bool} (hrecorded : pins.Recorded)
    (h : (pins.levels on).Sequenced)
    (h' : ({ pins.levels on with reset := some high } : Levels).Sequenced) :
    Through (pins.levels on) (setReset high pins).events
      ((setReset high pins).state.levels on) := by
  rw [setReset_eq]
  refine Through.step (e := .pin .reset high) h h' ?_
  rcases Line.recorded_set hrecorded.reset with ⟨hevents, hlevel⟩ | ⟨hevents, hlevel⟩
  · exact .inl ⟨hevents, by simp only [levels, hlevel]⟩
  · exact .inr ⟨hevents, by simp only [levels, hlevel, Levels.see]⟩

/-- On the way into reset, reset is high before prepare goes low. -/
theorem through_enterReset (hrecorded : pins.Recorded) (h : (pins.levels on).Sequenced)
    (hu : (enterReset pins).state.refusals = pins.refusals) :
    Through (pins.levels on) (enterReset pins).events ((enterReset pins).state.levels on) := by
  obtain ⟨hreset, -⟩ := ok_of_enterReset hu
  have hhigh := Line.eq_of_level (reset_of_ok hreset)
  have hfirst : Through (pins.levels on) (setReset true pins).events
      ((setReset true pins).state.levels on) :=
    through_setReset hrecorded h ⟨by simp, h.prepare⟩
  rw [enterReset_eq]
  refine hfirst.append (through_setPrepare ((Driven.setReset true pins).recorded hrecorded)
    hfirst.finish ⟨fun hlow => ?_, by simp⟩)
  cases hhigh false hlow

/-- On the way out of reset, prepare is up before reset goes low. -/
theorem through_leaveReset (hrecorded : pins.Recorded) (h : (pins.levels true).Sequenced) :
    Through (pins.levels true) (leaveReset pins).events ((leaveReset pins).state.levels true) := by
  have hfirst : Through (pins.levels true) (setPrepare true pins).events
      ((setPrepare true pins).state.levels true) :=
    through_setPrepare hrecorded h ⟨fun _ => ⟨by simp, rfl⟩, fun _ => rfl⟩
  cases hprepare : (setPrepare true pins).result with
  | error e =>
    rw [leaveReset_of_error hprepare]
    exact hfirst
  | ok _ =>
    rw [leaveReset_of_ok hprepare]
    refine hfirst.append (through_setReset ((Driven.setPrepare true pins).recorded hrecorded)
      hfirst.finish ⟨fun _ => ⟨?_, rfl⟩, fun _ => rfl⟩)
    exact Line.eq_of_level (prepare_of_ok hprepare)

theorem through_setSupply {supply : Supply} (hrecorded : supply.script.isSome = true)
    (h : (pins.levels supply.isOn).Sequenced) (h' : (pins.levels on).Sequenced) :
    Through (pins.levels supply.isOn) (Supply.set on supply).events
      (pins.levels (Supply.set on supply).state.isOn) := by
  refine Through.step (e := .supply on) h h' ?_
  rcases Supply.set_cases on supply with hset | hset
  · rw [hset, hrecorded]
    exact .inr ⟨rfl, rfl⟩
  · rw [hset]
    exact .inl ⟨rfl, rfl⟩

/-- The supply goes off after the lines are in reset. -/
theorem through_cut {supply : Supply} (hpins : pins.Recorded)
    (hsupply : supply.script.isSome = true) (h : (pins.levels supply.isOn).Sequenced)
    (hu : (enterReset pins).state.refusals = pins.refusals) :
    Through (pins.levels supply.isOn)
      ((enterReset pins).events ++ (Supply.set false supply).events)
      ((enterReset pins).state.levels (Supply.set false supply).state.isOn) := by
  have hat := at_enterReset hu
  exact (through_enterReset hpins h hu).append
    (through_setSupply hsupply (hat.sequenced _) (hat.sequenced false))

end ControlLines

/-! ## Calls -/

namespace Panel

/-- Every call on the lines and on the supply is recorded. -/
structure Recorded (panel : Panel) : Prop where
  pins : panel.pins.Recorded
  supply : panel.supply.script.isSome = true

theorem Used.recorded {panel last : Panel} (h : Used panel last) (hrecorded : panel.Recorded) :
    last.Recorded :=
  ⟨h.pins.recorded hrecorded.pins, h.supply.recorded.trans hrecorded.supply⟩

/-- Buses and waits do not touch lines and supply. -/
theorem through_of_quiet {levels : Levels} {events : List Event} (h : levels.Sequenced)
    (hquiet : ∀ e ∈ events, e.Quiet) : Through levels events levels := by
  refine Through.unseen h fun e he => ?_
  have hquiet := hquiet e he
  cases e with
  | pin | supply => cases hquiet
  | _ => rfl

theorem through_settle {levels : Levels} (h : levels.Sequenced) (delay : PanelDelays → UInt32)
    (panel : Panel) : Through levels (settle delay panel) levels :=
  through_of_quiet h (quiet_settle delay panel)

theorem through_phaseRun {levels : Levels} (h : levels.Sequenced) (phase : Phase) (panel : Panel) :
    Through levels (phaseRun phase panel).events levels :=
  through_of_quiet h (quiet_phaseRun phase panel)

theorem through_setBlank {levels : Levels} (h : levels.Sequenced) (blank : Bool) (lamp : Lamp) :
    Through levels (Lamp.setBlank blank lamp).events levels := by
  refine Through.unseen h fun e he => ?_
  rw [Lamp.event_of_setBlank he]
  rfl

/-- A supply that could be switched on, and lines that leave reset on it. -/
theorem through_wake {panel : Panel} (hrecorded : panel.Recorded) (h : panel.levels.Sequenced)
    (hs : (Supply.set true panel.supply).result = .ok ()) :
    Through panel.levels (Supply.set true panel.supply).events (panel.pins.levels true) ∧
    Through (panel.pins.levels true) (leaveReset panel.pins).events
      ((leaveReset panel.pins).state.levels true) := by
  have hon := ControlLines.sequenced_on h
  have hsupply := ControlLines.through_setSupply hrecorded.supply h hon
  rw [Supply.isOn_of_ok hs] at hsupply
  exact ⟨hsupply, ControlLines.through_leaveReset hrecorded.pins hon⟩

/-- A supply that could be switched on, and that is cut off again after the lines are in reset. -/
theorem through_undo {panel : Panel} (hrecorded : panel.Recorded)
    (hs : (Supply.set true panel.supply).result = .ok ())
    (hleft : ((leaveReset panel.pins).state.levels true).Sequenced)
    (hu : (enterReset (leaveReset panel.pins).state).state.refusals = panel.pins.refusals) :
    Through ((leaveReset panel.pins).state.levels true)
      ((enterReset (leaveReset panel.pins).state).events ++
        (Supply.set false (Supply.set true panel.supply).state).events)
      ((enterReset (leaveReset panel.pins).state).state.levels
        (Supply.set false (Supply.set true panel.supply).state).state.isOn) := by
  have hpins := (ControlLines.Driven.leaveReset panel.pins).recorded hrecorded.pins
  have hsupply := (Supply.switched_set true panel.supply).recorded.trans hrecorded.supply
  have hon := Supply.isOn_of_ok hs
  rw [← hon] at hleft
  have hcut := ControlLines.through_cut hpins hsupply hleft (ControlLines.refusals_of_reenter hu)
  rwa [hon] at hcut

theorem through_of_ends {panel last : Panel} {call : Call} {result : Except PanelError Unit}
    {events : List Event} (hends : Ends panel call result events last)
    (hrecorded : panel.Recorded) (hu : last.pins.refusals = panel.pins.refusals)
    (h : panel.levels.Sequenced) : Through panel.levels events last.levels := by
  induction hends with
  | poweredUp =>
    have hpower := ControlLines.through_setPower true hrecorded.pins h
    exact hpower.append (through_settle hpower.finish _ _)
  | notPoweredUp => exact ControlLines.through_setPower true hrecorded.pins h
  | poweredDown =>
    exact (through_settle h _ _).append (ControlLines.through_setPower false hrecorded.pins h)
  | stillPrepared | stillEnabled | stillDisabled | stillUnprepared => exact .nil h
  | unsupplied =>
    exact ControlLines.through_setSupply hrecorded.supply h (ControlLines.sequenced_on h)
  | stuck _ hs =>
    obtain ⟨hon, hleave⟩ := through_wake hrecorded h hs
    exact hon.append (hleave.append (through_undo hrecorded hs hleave.finish hu))
  | @notPrepared panel _ _ hs =>
    obtain ⟨hon, hleave⟩ := through_wake hrecorded h hs
    have hrun := (through_settle hleave.finish (·.prepare) panel).append
      (through_phaseRun hleave.finish .init panel)
    exact hon.append ((hleave.append hrun).append (through_undo hrecorded hs hleave.finish hu))
  | @prepared panel _ hs =>
    obtain ⟨hon, hleave⟩ := through_wake hrecorded h hs
    have hrun := (through_settle hleave.finish (·.prepare) panel).append
      (through_phaseRun hleave.finish .init panel)
    change Through panel.levels _
      ((leaveReset panel.pins).state.levels (Supply.set true panel.supply).state.isOn)
    rw [Supply.isOn_of_ok hs]
    exact hon.append (hleave.append hrun)
  | @notEnabled panel =>
    exact (through_phaseRun h .enable panel).append
      (ControlLines.through_enterReset hrecorded.pins h hu)
  | @unlit panel =>
    have hlight := (through_settle h (·.enable) panel).append
      (through_setBlank h false panel.backlight)
    exact ((through_phaseRun h .enable panel).append hlight).append
      (ControlLines.through_enterReset hrecorded.pins h hu)
  | @enabled panel =>
    have hlight := (through_settle h (·.enable) panel).append
      (through_setBlank h false panel.backlight)
    exact (through_phaseRun h .enable panel).append hlight
  | @disabled panel =>
    have hleft := (through_settle h (·.disable) panel).append (through_phaseRun h .disable panel)
    exact (through_setBlank h true panel.backlight).append hleft
  | @unprepared panel =>
    exact (through_settle h (·.unprepare) panel).append
      (ControlLines.through_cut hrecorded.pins hrecorded.supply h hu)
  | shutDown hd hcut ihd ihu =>
    have hused := used_of_ends hd
    obtain ⟨hfirst, hsecond⟩ :=
      eq_of_between hu hused.pins.refusals (used_of_ends hcut).pins.refusals
    have hdark := ihd hrecorded hfirst h
    exact hdark.append (ihu (hused.recorded hrecorded) hsecond hdark.finish)

theorem through_of_run (calls : List Call) {panel : Panel} (hrecorded : panel.Recorded)
    (hu : (after calls panel).pins.refusals = panel.pins.refusals) (h : panel.levels.Sequenced) :
    Through panel.levels (record calls panel) (after calls panel).levels := by
  induction calls generalizing panel with
  | nil => exact .nil h
  | cons call rest ih =>
    have hends := perform_ends call panel
    have hused := used_of_ends hends
    obtain ⟨hfirst, hsecond⟩ :=
      eq_of_between hu hused.pins.refusals (used_after rest _).pins.refusals
    have hcall := through_of_ends hends hrecorded hfirst h
    exact hcall.append (ih (hused.recorded hrecorded) hsecond hcall.finish)

/-! ## Observed panels -/

theorem recorded_monitored (panel : Panel) : panel.monitored.Recorded :=
  ⟨⟨Line.recorded_monitored _, Line.recorded_monitored _, Line.recorded_monitored _⟩, rfl⟩

theorem levels_monitored (panel : Panel) : panel.monitored.levels = panel.levels :=
  ControlLines.levels_monitored panel.pins panel.supply.isOn

theorem refusals_monitored (panel : Panel) :
    panel.monitored.pins.refusals = panel.pins.refusals :=
  ControlLines.refusals_monitored panel.pins

/-- An observed run goes through levels in sequence. -/
theorem through_monitored {calls : List Call} {panel : Panel}
    (hu : (after calls panel).pins.refusals = panel.pins.refusals) (h : panel.levels.Sequenced) :
    Through panel.levels (record calls panel.monitored) (after calls panel).levels := by
  have hafter := after_monitored calls panel
  have hrun := through_of_run calls (recorded_monitored panel)
  rw [hafter, refusals_monitored, refusals_monitored, levels_monitored, levels_monitored] at hrun
  exact hrun hu h

/-- What a run records, and the release after it. -/
theorem record_release (calls : List Call) (panel : Panel) :
    record calls panel ++ (release (after calls panel)).2 =
      record (calls ++ [.shutdown]) panel := by
  rw [release_eq, record_append, record, record, List.append_nil]

/-- Whatever else fails, and in whatever order the calls come: as long as no call fails that drives
reset high or prepare low, a panel that was bound keeps its levels in sequence. They are so before
the first call and after every event that an observer of its lines and its supply records, also
while it is released; and what the panel records by itself is a part of that. -/
theorem sequenced_throughout (config : Config) (r : Resources) (panel : Panel)
    (driven : List Event) (bound : bind config r = (.ok panel, driven)) (calls : List Call) :
    (let shown := record calls panel.monitored
     record calls panel = shown.filter panel.hearing.hears ∧
     ((after calls panel).pins.refusals = panel.pins.refusals →
       Through panel.levels shown (after calls panel).levels)) ∧
    (let shown := record calls panel.monitored ++ (release (after calls panel.monitored)).2
     let back := (release (after calls panel)).1
     record calls panel ++ (release (after calls panel)).2 = shown.filter panel.hearing.hears ∧
     (back.pins.refusals = panel.pins.refusals →
       Through panel.levels shown (back.pins.levels back.supply.isOn))) := by
  obtain ⟨timing, buses, -, hinit, -⟩ := bind_eq_ok bound
  have hstart : panel.levels.Sequenced := (ControlLines.at_initialise hinit).sequenced _
  refine ⟨⟨record_monitored calls panel, fun hu => through_monitored hu hstart⟩, ?_⟩
  rw [record_release, record_release, release_eq]
  exact ⟨record_monitored _ panel, fun hu => through_monitored hu hstart⟩

/-- The panel on which every device fails once. -/
theorem sequenced_throughout_faulty : Through faulty.levels (record attempts faulty.monitored)
    (after attempts faulty).levels := by
  obtain ⟨⟨-, hrun⟩, -⟩ :=
    sequenced_throughout sleeper faultyResources faulty _ bind_faulty attempts
  exact hrun (by decide +kernel)

end Panel

end PanelDriver

import PanelDriver.Proofs.Panel.Monitor
import PanelDriver.Proofs.Panel.Reset
import PanelDriver.Proofs.Panel.Safety

/-!
No traffic while there is light. As long as a panel is enabled only while prepared and given up only
while not enabled, and no call fails that darkens its backlight, all its programs run in the dark.
It is lit by a call to enable, after the programs of that call, and by nothing else
(`traffic_in_dark`).
-/

namespace PanelDriver

open ControlLines (enterReset initialise leaveReset setPower setPrepare setReset)

/-! ## Light over time -/

namespace Event

/-- What goes over the wires of a DSI host, an I2C master or an SPI device. -/
def onBus : Event → Bool
  | .delayMs _ | .delayNs _ | .supply _ | .backlight _ | .pin _ _ => false
  | _ => true

/-- Lines, supply and waits: neither traffic nor light. -/
def isMute : Event → Bool
  | .delayMs _ | .delayNs _ | .supply _ | .pin _ _ => true
  | _ => false

/-- Whether there is light after an event. -/
def light (lit : Bool) : Event → Bool
  | .backlight blank => !blank
  | _ => lit

end Event

/-- Whether there is light after the events, if there was as `lit` tells. -/
def litAfter (lit : Bool) (events : List Event) : Bool := events.foldl Event.light lit

/-- The events lead from light or dark to light or dark, and whatever of them goes over a bus does
so in the dark. -/
structure InDark (lit : Bool) (events : List Event) (last : Bool) : Prop where
  last : litAfter lit events = last
  dark : ∀ before e rest, events = before ++ e :: rest → e.onBus = true →
    litAfter lit before = false

namespace InDark

variable {lit middle last : Bool} {events later : List Event}

theorem nil (lit : Bool) : InDark lit [] lit :=
  ⟨rfl, fun before e rest h => by simp at h⟩

theorem single {e : Event} (h : e.onBus = false) : InDark lit [e] (e.light lit) := by
  refine ⟨rfl, fun before e' rest hsplit hbus => ?_⟩
  have he : e' ∈ [e] := by
    rw [hsplit]
    simp
  rw [List.mem_singleton.mp he, h] at hbus
  cases hbus

theorem append (h : InDark lit events middle) (h' : InDark middle later last) :
    InDark lit (events ++ later) last := by
  have hlit (seen : List Event) : litAfter lit (events ++ seen) = litAfter middle seen := by
    rw [litAfter, List.foldl_append, ← h.last]
    rfl
  refine ⟨(hlit later).trans h'.last, fun before e rest hsplit hbus => ?_⟩
  rcases List.append_eq_append_iff.mp hsplit with ⟨seen, rfl, hlater⟩ | ⟨seen, hevents, hlater⟩
  · rw [hlit]
    exact h'.dark seen e rest hlater hbus
  · cases seen with
    | nil =>
      -- The event is the first of `later`.
      have hbefore : litAfter lit before = middle := by
        rw [← h.last, hevents, List.append_nil]
      rw [hbefore]
      exact h'.dark [] e rest hlater.symm hbus
    | cons e' tail =>
      obtain ⟨rfl, -⟩ := List.cons.inj hlater
      exact h.dark before e tail hevents hbus

/-- Without a call on the backlight, the light stays as it is. -/
theorem litAfter_of_unswitched (h : ∀ e ∈ events, e.light lit = lit) :
    litAfter lit events = lit := by
  induction events with
  | nil => rfl
  | cons e rest ih =>
    rw [litAfter, List.foldl_cons, h e List.mem_cons_self]
    exact ih fun e' he => h e' (List.mem_cons_of_mem _ he)

/-- Lines, supply and waits do not matter, in the light or in the dark. -/
theorem mute (lit : Bool) (h : ∀ e ∈ events, e.isMute = true) : InDark lit events lit := by
  refine ⟨litAfter_of_unswitched fun e he => ?_, fun before e rest hsplit hbus => ?_⟩
  · have hmute := h e he
    cases e with
    | backlight blank => cases hmute
    | _ => rfl
  · have hmute := h e (by simp [hsplit])
    cases e with
    | delayMs | delayNs | supply | pin => cases hbus
    | _ => cases hmute

/-- Programs and waits, in the dark. -/
theorem quiet (h : ∀ e ∈ events, e.Quiet) : InDark false events false := by
  have hlit {seen : List Event} (hseen : ∀ e ∈ seen, e.Quiet) : litAfter false seen = false := by
    refine litAfter_of_unswitched fun e he => ?_
    have hquiet := hseen e he
    cases e with
    | backlight blank => cases hquiet
    | _ => rfl
  refine ⟨hlit h, fun before e rest hsplit _ => hlit fun e' he => h e' ?_⟩
  rw [hsplit]
  exact List.mem_append_left _ he

end InDark

/-! ## Devices -/

theorem Line.event_of_set {name : PinName} {high : Bool} {line : Line} {e : Event}
    (h : e ∈ (set name high line).events) : e = .pin name high := by
  cases line with
  | none => cases h
  | some pin =>
    simp only [set, Action.onSome, id] at h
    rcases Pin.set_cases name high pin with hset | hset
    · rw [hset] at h
      cases hrecorded : pin.schedule.isSome with
      | true => simpa [hrecorded] using h
      | false => simp [hrecorded] at h
    · rw [hset] at h
      cases h

theorem Line.mute_set (name : PinName) (high : Bool) (line : Line) :
    ∀ e ∈ (set name high line).events, e.isMute = true := by
  intro e he
  rw [event_of_set he]
  rfl

theorem Supply.event_of_set {on : Bool} {supply : Supply} {e : Event}
    (h : e ∈ (Supply.set on supply).events) : e = .supply on := by
  rcases Supply.set_cases on supply with hset | hset
  · rw [hset] at h
    cases hrecorded : supply.script.isSome with
    | true => simpa [hrecorded] using h
    | false => simp [hrecorded] at h
  · rw [hset] at h
    cases h

theorem Supply.mute_set (on : Bool) (supply : Supply) :
    ∀ e ∈ (Supply.set on supply).events, e.isMute = true := by
  intro e he
  rw [event_of_set he]
  rfl

namespace ControlLines

variable (pins : ControlLines) (high : Bool)

theorem mute_setPower : ∀ e ∈ (setPower high pins).events, e.isMute = true := by
  rw [setPower_eq]
  exact Line.mute_set .power high pins.power

theorem mute_setPrepare : ∀ e ∈ (setPrepare high pins).events, e.isMute = true := by
  rw [setPrepare_eq]
  exact Line.mute_set .prepare high pins.prepare

theorem mute_setReset : ∀ e ∈ (setReset high pins).events, e.isMute = true := by
  rw [setReset_eq]
  exact Line.mute_set .reset high pins.reset

theorem mute_enterReset : ∀ e ∈ (enterReset pins).events, e.isMute = true := by
  rw [enterReset_eq]
  exact List.forall_mem_append.mpr ⟨mute_setReset pins true, mute_setPrepare _ false⟩

theorem mute_leaveReset : ∀ e ∈ (leaveReset pins).events, e.isMute = true := by
  cases h : (setPrepare true pins).result with
  | error e =>
    rw [leaveReset_of_error h]
    exact mute_setPrepare pins true
  | ok _ =>
    rw [leaveReset_of_ok h]
    exact List.forall_mem_append.mpr ⟨mute_setPrepare pins true, mute_setReset _ false⟩

theorem mute_initialise : ∀ e ∈ (initialise pins).events, e.isMute = true := by
  have hreset := mute_setReset pins true
  have hprepare := mute_setPrepare (setReset true pins).state false
  cases h : (setReset true pins).result with
  | error e =>
    rw [initialise, Action.bind_of_error h]
    exact hreset
  | ok _ =>
    rw [initialise, Action.bind_of_ok h]
    refine List.forall_mem_append.mpr ⟨hreset, ?_⟩
    cases h' : (setPrepare false (setReset true pins).state).result with
    | error e =>
      rw [Action.bind_of_error h']
      exact hprepare
    | ok _ =>
      rw [Action.bind_of_ok h']
      exact List.forall_mem_append.mpr ⟨hprepare, mute_setPower _ false⟩

end ControlLines

namespace Lamp

variable {blank : Bool} {lamp : Lamp}

/-- Whether it shines, as far as that shows. -/
def lit (lamp : Lamp) : Bool := lamp.blanked? == some false

theorem lit_of_dark (h : ∀ blanked ∈ lamp.blanked?, blanked = true) : lamp.lit = false := by
  unfold lit
  cases hblanked : lamp.blanked? with
  | none => rfl
  | some blanked =>
    rw [h blanked hblanked]
    rfl

theorem lit_of_error {e : PanelError} (h : (setBlank blank lamp).result = .error e) :
    (setBlank blank lamp).state.lit = lamp.lit := by
  rw [lit, lit, (blanked_of_error h).2]

/-- Its events tell whether it shines. -/
theorem inDark_setBlank (blank : Bool) (lamp : Lamp) :
    InDark lamp.lit (setBlank blank lamp).events (setBlank blank lamp).state.lit := by
  rcases lamp with _ | _ | script
  · exact .nil _
  · exact .nil _
  · simp only [setBlank, Action.onSome, id]
    rcases Backlight.setBlank_cases blank script with hset | hset
    · rw [hset]
      cases blank with
      | true => exact .single rfl
      | false => exact .single rfl
    · rw [hset]
      exact .nil _

/-- A backlight that refuses records nothing, and one that accepts nothing else. -/
theorem events_of_mem {e : Event} (h : e ∈ (setBlank blank lamp).events) :
    (setBlank blank lamp).result = .ok () ∧ (setBlank blank lamp).events = [.backlight blank] := by
  rcases lamp with _ | _ | script
  · cases h
  · cases h
  · simp only [setBlank, Action.onSome, id] at h ⊢
    rcases Backlight.setBlank_cases blank script with hset | hset
    · rw [hset]
      exact ⟨rfl, rfl⟩
    · rw [hset] at h
      cases h

end Lamp

/-! ## Calls -/

namespace Panel

theorem mute_settle (delay : PanelDelays → UInt32) (panel : Panel) :
    ∀ e ∈ settle delay panel, e.isMute = true := by
  unfold settle
  split
  · simp
  · intro e he
    rw [List.mem_singleton.mp he]
    rfl

/-- An enabled panel is prepared, if calls are made while they are allowed. -/
theorem prepared_of_ends {panel last : Panel} {call : Call} {result : Except PanelError Unit}
    {events : List Event} (hends : Ends panel call result events last)
    (hallowed : panel.Allowed call) (h : panel.enabled = true → panel.prepared = true) :
    last.enabled = true → last.prepared = true := by
  induction hends with
  | poweredUp | notPoweredUp | poweredDown | stillPrepared | stillEnabled | stillDisabled
  | stillUnprepared | unsupplied | stuck | notPrepared | notEnabled | unlit => exact h
  | prepared => exact fun _ => rfl
  | enabled => exact fun _ => hallowed
  | disabled => exact fun henabled => by cases henabled
  | unprepared =>
    intro henabled
    rw [show _ = false from hallowed] at henabled
    cases henabled
  | shutDown hd _ ihd ihu => exact ihu (enabled_of_disable hd) (ihd trivial h)

/-- What holds between calls: there is no light before a panel is enabled. -/
structure Dim (panel : Panel) : Prop where
  lit : Lamp.lit panel.backlight = true → panel.enabled = true
  prepared : panel.enabled = true → panel.prepared = true

namespace Dim

variable {panel : Panel}

theorem dark (h : Dim panel) (henabled : panel.enabled = false) :
    Lamp.lit panel.backlight = false := by
  cases hlit : Lamp.lit panel.backlight with
  | false => rfl
  | true => exact absurd (h.lit hlit) (by simp [henabled])

theorem dark_of_unprepared (h : Dim panel) (hprepared : panel.prepared = false) :
    Lamp.lit panel.backlight = false := by
  refine h.dark ?_
  cases henabled : panel.enabled with
  | false => rfl
  | true => exact absurd (h.prepared henabled) (by simp [hprepared])

end Dim

/-- A backlight that did not refuse to go dark is dark. -/
theorem lit_setBlank_of_refusals {lamp : Lamp}
    (h : (Lamp.setBlank true lamp).state.refusals = lamp.refusals) :
    (Lamp.setBlank true lamp).state.lit = false :=
  Lamp.lit_of_dark (Lamp.blanked_of_ok (Lamp.result_of_refusals h))

theorem dim_of_ends {panel last : Panel} {call : Call} {result : Except PanelError Unit}
    {events : List Event} (hends : Ends panel call result events last)
    (hallowed : panel.Allowed call)
    (hu : Lamp.refusals last.backlight = Lamp.refusals panel.backlight) (h : Dim panel) :
    Dim last := by
  refine ⟨?_, prepared_of_ends hends hallowed h.prepared⟩
  induction hends with
  | poweredUp | notPoweredUp | poweredDown | stillPrepared | stillEnabled | stillDisabled
  | stillUnprepared | unsupplied | stuck | notPrepared | notEnabled | prepared | unprepared =>
    exact h.lit
  | enabled => exact fun _ => rfl
  | unlit _ _ hb =>
    intro hlit
    exact h.lit ((Lamp.lit_of_error hb).symm.trans hlit)
  | disabled =>
    intro hlit
    rw [show _ = false from lit_setBlank_of_refusals hu] at hlit
    cases hlit
  | shutDown hd hcut ihd ihu =>
    obtain ⟨hfirst, hsecond⟩ :=
      eq_of_between hu (used_of_ends hd).lamp.refusals (used_of_ends hcut).lamp.refusals
    have hdark : Dim _ := ⟨ihd trivial hfirst h, prepared_of_ends hd trivial h.prepared⟩
    exact ihu (enabled_of_disable hd) hsecond hdark

/-- In the dark, a panel leaves reset and runs its first programs. -/
theorem inDark_wake (panel : Panel) :
    InDark false ((leaveReset panel.pins).events ++
      (settle (·.prepare) panel ++ (phaseRun .init panel).events)) false :=
  (InDark.mute false (ControlLines.mute_leaveReset panel.pins)).append
    ((InDark.mute false (mute_settle _ panel)).append (.quiet (quiet_phaseRun .init panel)))

/-- It enters reset and is cut off from its supply in the light as in the dark. -/
theorem inDark_cut (lit : Bool) (pins : ControlLines) (supply : Supply) :
    InDark lit ((enterReset pins).events ++ (Supply.set false supply).events) lit :=
  (InDark.mute lit (ControlLines.mute_enterReset pins)).append
    (.mute lit (Supply.mute_set false supply))

/-- The programs of a call run before the backlight is lit or after it is dark. -/
theorem inDark_of_ends {panel last : Panel} {call : Call} {result : Except PanelError Unit}
    {events : List Event} (hends : Ends panel call result events last)
    (hallowed : panel.Allowed call)
    (hu : Lamp.refusals last.backlight = Lamp.refusals panel.backlight) (h : Dim panel) :
    InDark (Lamp.lit panel.backlight) events (Lamp.lit last.backlight) := by
  induction hends with
  | @poweredUp panel =>
    exact (InDark.mute _ (ControlLines.mute_setPower panel.pins true)).append
      (.mute _ (mute_settle _ panel))
  | @notPoweredUp panel => exact .mute _ (ControlLines.mute_setPower panel.pins true)
  | @poweredDown panel =>
    exact (InDark.mute _ (mute_settle _ panel)).append
      (.mute _ (ControlLines.mute_setPower panel.pins false))
  | stillPrepared | stillEnabled | stillDisabled | stillUnprepared => exact .nil _
  | @unsupplied panel => exact .mute _ (Supply.mute_set true panel.supply)
  | @stuck panel =>
    exact (InDark.mute _ (Supply.mute_set true panel.supply)).append
      ((InDark.mute _ (ControlLines.mute_leaveReset panel.pins)).append (inDark_cut _ _ _))
  | @notPrepared panel _ hprepared =>
    have hdark := h.dark_of_unprepared hprepared
    rw [hdark]
    exact (InDark.mute _ (Supply.mute_set true panel.supply)).append
      ((inDark_wake panel).append (inDark_cut _ _ _))
  | @prepared panel hprepared =>
    have hdark := h.dark_of_unprepared hprepared
    rw [hdark]
    exact (InDark.mute _ (Supply.mute_set true panel.supply)).append (inDark_wake panel)
  | @notEnabled panel _ henabled =>
    have hdark := h.dark henabled
    rw [hdark]
    exact (InDark.quiet (quiet_phaseRun .enable panel)).append
      (.mute _ (ControlLines.mute_enterReset panel.pins))
  | @unlit panel _ henabled =>
    have hlamp := Lamp.inDark_setBlank false panel.backlight
    have hdark := h.dark henabled
    rw [hdark] at hlamp ⊢
    exact ((InDark.quiet (quiet_phaseRun .enable panel)).append
      ((InDark.mute _ (mute_settle _ panel)).append hlamp)).append
        (.mute _ (ControlLines.mute_enterReset panel.pins))
  | @enabled panel henabled =>
    have hlamp := Lamp.inDark_setBlank false panel.backlight
    have hdark := h.dark henabled
    rw [hdark] at hlamp ⊢
    exact (InDark.quiet (quiet_phaseRun .enable panel)).append
      ((InDark.mute _ (mute_settle _ panel)).append hlamp)
  | @disabled panel =>
    have hlamp := Lamp.inDark_setBlank true panel.backlight
    have hdark := lit_setBlank_of_refusals hu
    have hleft := (InDark.mute false (mute_settle (·.disable) panel)).append
      (.quiet (quiet_phaseRun .disable panel))
    rw [hdark] at hlamp
    have hall := hlamp.append hleft
    rwa [← hdark] at hall
  | @unprepared panel =>
    exact (InDark.mute _ (mute_settle _ panel)).append (inDark_cut _ _ _)
  | shutDown hd hcut ihd ihu =>
    obtain ⟨hfirst, hsecond⟩ :=
      eq_of_between hu (used_of_ends hd).lamp.refusals (used_of_ends hcut).lamp.refusals
    have hdim := dim_of_ends hd trivial hfirst h
    exact (ihd trivial hfirst h).append (ihu (enabled_of_disable hd) hsecond hdim)

/-! ## The call that lights a panel -/

/-- A call that lights a panel: it is one to enable it, and all programs of that succeed; the light
is the last it records. -/
structure Lights (panel : Panel) (call : Call) (result : Except PanelError Unit)
    (events : List Event) : Prop where
  call : call = .enable
  programs : (runPrograms .enable panel).result = .ok ()
  result : result = .ok ()
  events : events = (runPrograms .enable panel).events ++
    ((wait (·.enable) panel).events ++ [.backlight false])

/-- No light comes of what is mute or quiet. -/
theorem not_mem_of_mute {events : List Event} (h : ∀ e ∈ events, e.isMute = true) (blank : Bool) :
    .backlight blank ∉ events := fun hmem => by cases h _ hmem

theorem not_mem_of_quiet {events : List Event} (h : ∀ e ∈ events, e.Quiet) (blank : Bool) :
    .backlight blank ∉ events := fun hmem => by cases h _ hmem

theorem lights_of_ends {panel last : Panel} {call : Call} {result : Except PanelError Unit}
    {events : List Event} (hends : Ends panel call result events last)
    (hlight : .backlight false ∈ events) : Lights panel call result events := by
  have hsupply (on : Bool) (supply : Supply) := not_mem_of_mute (Supply.mute_set on supply) false
  have hpower (high : Bool) (pins : ControlLines) :=
    not_mem_of_mute (ControlLines.mute_setPower pins high) false
  have henter (pins : ControlLines) := not_mem_of_mute (ControlLines.mute_enterReset pins) false
  have hleave (pins : ControlLines) := not_mem_of_mute (ControlLines.mute_leaveReset pins) false
  have hwait (delay : PanelDelays → UInt32) (panel : Panel) :=
    not_mem_of_mute (mute_settle delay panel) false
  have hrun (phase : Phase) (panel : Panel) := not_mem_of_quiet (quiet_phaseRun phase panel) false
  induction hends with
  | poweredUp | notPoweredUp | poweredDown | unsupplied | stuck | notPrepared | prepared
  | notEnabled | unprepared =>
    simp only [List.mem_append, hsupply, hpower, henter, hleave, hwait, hrun, or_self] at hlight
  | stillPrepared | stillEnabled | stillDisabled | stillUnprepared => cases hlight
  | unlit _ _ hb =>
    simp only [List.mem_append, henter, hwait, hrun, false_or, or_false] at hlight
    rw [(Lamp.events_of_mem hlight).1] at hb
    cases hb
  | @enabled panel _ hr =>
    simp only [List.mem_append, hwait, hrun, false_or] at hlight
    rw [(Lamp.events_of_mem hlight).2]
    refine ⟨rfl, ?_, rfl, ?_⟩
    · rw [runPrograms_eq]
      exact hr
    · rw [runPrograms_eq, wait_eq]
  | disabled =>
    simp only [List.mem_append, hwait, hrun, or_false] at hlight
    cases Lamp.event_of_setBlank hlight
  | shutDown _ _ ihd ihu =>
    rcases List.mem_append.mp hlight with hfirst | hsecond
    · cases (ihd hfirst).call
    · cases (ihu hsecond).call

/-! ## Runs -/

theorem Disciplined.of_append {calls later : List Call} {panel : Panel}
    (h : Disciplined (calls ++ later) panel) : Disciplined calls panel := by
  induction calls generalizing panel with
  | nil => trivial
  | cons call rest ih => exact ⟨h.1, ih h.2⟩

theorem prepared_after {calls : List Call} {panel : Panel} (hcalls : Disciplined calls panel)
    (h : panel.enabled = true → panel.prepared = true) :
    (after calls panel).enabled = true → (after calls panel).prepared = true := by
  induction calls generalizing panel with
  | nil => exact h
  | cons call rest ih => exact ih hcalls.2 (prepared_of_ends (perform_ends call panel) hcalls.1 h)

theorem inDark_of_run {calls : List Call} {panel : Panel} (hcalls : Disciplined calls panel)
    (hu : Lamp.refusals (after calls panel).backlight = Lamp.refusals panel.backlight)
    (h : Dim panel) :
    InDark (Lamp.lit panel.backlight) (record calls panel)
      (Lamp.lit (after calls panel).backlight) := by
  induction calls generalizing panel with
  | nil => exact .nil _
  | cons call rest ih =>
    have hends := perform_ends call panel
    obtain ⟨hfirst, hsecond⟩ :=
      eq_of_between hu (used_of_ends hends).lamp.refusals (used_after rest _).lamp.refusals
    have hcall := inDark_of_ends hends hcalls.1 hfirst h
    exact hcall.append (ih hcalls.2 hsecond (dim_of_ends hends hcalls.1 hfirst h))

/-- Take a panel bound to a backlight that is dark, and any run of calls in which it is enabled only
while prepared, and given up only while not enabled. Buses, pins and supply may fail at any time,
and so may the calls that light the panel, but none of those that darken it. From the bind on,
whatever goes over a bus does so in the dark. Only a call to enable lights the panel, after all its
programs have succeeded. After every call an enabled panel is prepared. -/
theorem traffic_in_dark (config : Config) (r : Resources) (panel : Panel) (driven : List Event)
    (bound : bind config r = (.ok panel, driven))
    (dark : ∀ blanked ∈ Lamp.blanked? r.backlight, blanked = true) (calls : List Call)
    (disciplined : Disciplined calls panel)
    (darkens : Lamp.refusals (after calls panel).backlight = Lamp.refusals panel.backlight) :
    InDark false (driven ++ record calls panel) (Lamp.lit (after calls panel).backlight) ∧
    (∀ done call rest, calls = done ++ call :: rest →
      let o := perform call (after done panel)
      .backlight false ∈ o.events → Lights (after done panel) call o.result o.events) ∧
    ∀ done rest, calls = done ++ rest →
      (after done panel).enabled = true → (after done panel).prepared = true := by
  obtain ⟨timing, buses, -, hinit, hpanel⟩ := bind_eq_ok bound
  have hdriven := ControlLines.mute_initialise r.pins
  rw [hinit] at hdriven
  have hbacklight : panel.backlight = r.backlight := by rw [hpanel]
  have henabled : panel.enabled = false := by rw [hpanel]
  have hdark : Lamp.lit panel.backlight = false := by
    rw [hbacklight]
    exact Lamp.lit_of_dark dark
  have hprepared : panel.enabled = true → panel.prepared = true := by simp [henabled]
  have hrun := inDark_of_run disciplined darkens ⟨by simp [hdark], hprepared⟩
  rw [hdark] at hrun
  refine ⟨(InDark.mute false hdriven).append hrun, ?_, ?_⟩
  · intro done call rest _ o hlight
    exact lights_of_ends (perform_ends call (after done panel)) hlight
  · rintro done rest rfl
    exact prepared_after disciplined.of_append hprepared

/-- With programs for all phases. -/
def talkative : Config :=
  { bare with programs := {
    init := { mipi := ⟨[0x01, 0x11]⟩ }
    enable := { mipi := ⟨[0x01, 0x29]⟩ }
    disable := { mipi := ⟨[0x01, 0x28]⟩ } } }

/-- Every device fails once, and then the panel is lit by the second call to enable it. -/
theorem traffic_in_dark_talkative :
    let panel : Panel := { faulty with config := talkative }
    let driven : List Event := [.pin .reset true, .pin .prepare false]
    let calls := attempts ++ [.disable, .unprepare]
    let events := driven ++ record calls panel
    bind talkative faultyResources = (.ok panel, driven) ∧ InDark false events false ∧
    [.lowPower true, .dcsWrite [0x29], .backlight false, .backlight true, .lowPower true,
      .dcsWrite [0x28]] <:+: events := by
  intro panel driven calls events
  have hbind : bind talkative faultyResources = (.ok panel, driven) := by rfl
  have hdisciplined : Disciplined calls panel := by decide +kernel
  have hlast : Lamp.lit (after calls panel).backlight = false := by decide +kernel
  obtain ⟨hdark, -, -⟩ := traffic_in_dark talkative faultyResources panel driven hbind (by decide)
    calls hdisciplined (by decide +kernel)
  rw [hlast] at hdark
  exact ⟨hbind, hdark, by decide +kernel⟩

end Panel

end PanelDriver

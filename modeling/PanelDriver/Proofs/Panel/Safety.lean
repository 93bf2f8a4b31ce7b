import PanelDriver.Proofs.Execution.Isolation
import PanelDriver.Proofs.Panel.Transitions

/-!
No panel is left half on. As long as no call that makes a panel safe is refused, whatever else fails
and in whatever order the calls come, the flags of a panel tell where its devices are: the supply is
on while it is prepared, the lines are in reset while it is not, and the backlight is lit while it
is enabled (`safe_after`).
-/

namespace PanelDriver

open ControlLines (Driven enterReset leaveReset setPower)

/-! ## What there is -/

/-- Which of the devices that may be missing are there. -/
structure Presence where
  bus : BusKind → Bool
  line : PinName → Bool
  backlight : Bool

def Adapters.present (adapters : Adapters) : BusKind → Bool
  | .i2c => adapters.i2c.isSome
  | .mipi => adapters.dsi.isSome
  | .spi => adapters.spi.isSome

def Resources.presence (r : Resources) : Presence where
  bus := r.adapters.present
  line := r.pins.present
  backlight := r.backlight.isSome

/-- Everything is switched off, in reset and dark. -/
structure Resources.Off (r : Resources) : Prop where
  supply : r.supply.isOn = false
  lines : r.pins.At false true
  backlight : ∀ blanked ∈ Lamp.blanked? r.backlight, blanked = true

namespace Buses

theorem present_adapters (buses : Buses) : buses.adapters.present = buses.present := by
  funext kind
  cases kind <;> simp [adapters, Adapters.present, present]

/-- Taken out of its bus again, a device is the one that was put in. -/
theorem map_pair {δ κ β : Type} {make : δ → κ → β} {device : β → δ}
    (hdevice : ∀ d k, device (make d k) = d) {device? : Option δ} {config? : Option κ}
    (h : device?.isSome → config?.isSome) : (pair make device? config?).map device = device? := by
  cases device? with
  | none => rfl
  | some d =>
    obtain ⟨k, rfl⟩ := Option.isSome_iff_exists.mp (h rfl)
    exact congrArg some (hdevice d k)

/-- Buses that are taken apart give back the devices that they were made of. -/
theorem adapters_ofAdapters? {adapters : Adapters} {i2c : Option I2cLink}
    {spi : Option SpiLink} {buses : Buses} (h : ofAdapters? adapters i2c spi = some buses) :
    buses.adapters = adapters := by
  unfold ofAdapters? at h
  split at h
  · cases h
  · rename_i hconfigs
    obtain ⟨dsi, master, device⟩ := adapters
    rw [← Option.some.inj h]
    have hi2c : master.isSome → i2c.isSome := fun hm => by
      cases i2c with
      | none => simp [hm] at hconfigs
      | some link => rfl
    have hspi : device.isSome → spi.isSome := fun hd => by
      cases spi with
      | none => simp [hd] at hconfigs
      | some link => rfl
    have hmaster : (pair I2cBus.mk master i2c).map (·.master) = master :=
      map_pair (fun _ _ => rfl) hi2c
    have hdevice : (pair SpiBus.mk device spi).map (·.device) = device :=
      map_pair (fun _ _ => rfl) hspi
    have hdsi : (dsi.map MipiBus.mk).map (·.host) = dsi := by cases dsi <;> rfl
    simp only [adapters, hmaster, hdevice, hdsi]

/-- Every device that is handed over gets a bus. -/
theorem present_ofAdapters? {adapters : Adapters} {i2c : Option I2cLink} {spi : Option SpiLink}
    {buses : Buses} (h : ofAdapters? adapters i2c spi = some buses) :
    buses.present = adapters.present := by
  rw [← present_adapters, adapters_ofAdapters? h]

end Buses

namespace Panel

/-! ## Use -/

theorem present_phaseRun (phase : Phase) (panel : Panel) :
    (phaseRun phase panel).state.buses.present = panel.sideband.buses.present := by
  unfold phaseRun
  split
  · rfl
  · have hrun := (Sideband.agree_run_only panel.sideband.buses.present panel.context
      (panel.config.programs.phase phase) ⟨rfl, rfl⟩).state
    rw [← hrun.1]
    exact hrun.2

/-- What holds however a panel is used: its devices stay with it, and no refusal is forgotten. -/
structure Used (panel last : Panel) : Prop where
  buses : last.sideband.buses.present = panel.sideband.buses.present
  pins : Driven panel.pins last.pins
  supply : panel.supply.Switched last.supply
  lamp : Lamp.Switched panel.backlight last.backlight

namespace Used

variable {panel middle last : Panel}

theorem refl (panel : Panel) : Used panel panel := ⟨rfl, .refl _, .refl _, .refl _⟩

theorem trans (h : Used panel middle) (h' : Used middle last) : Used panel last where
  buses := h'.buses.trans h.buses
  pins := h.pins.trans h'.pins
  supply := h.supply.trans h'.supply
  lamp := h.lamp.trans h'.lamp

theorem presence (h : Used panel last) : last.resources.presence = panel.resources.presence := by
  simp only [Resources.presence, resources, Buses.present_adapters, h.buses, h.pins.present,
    h.lamp.present]

end Used

theorem used_of_ends {panel last : Panel} {call : Call} {result : Except PanelError Unit}
    {events : List Event} (hends : Ends panel call result events last) : Used panel last := by
  have hcut (supply : Supply) :
      supply.Switched (Supply.set false (Supply.set true supply).state).state :=
    (Supply.switched_set true supply).trans (Supply.switched_set false _)
  have hreentered (pins : ControlLines) :
      Driven pins (enterReset (leaveReset pins).state).state :=
    (Driven.leaveReset pins).trans (.enterReset _)
  induction hends with
  | @poweredUp panel | @notPoweredUp panel =>
    exact { Used.refl panel with pins := .setPower true panel.pins }
  | @poweredDown panel => exact { Used.refl panel with pins := .setPower false panel.pins }
  | stillPrepared | stillEnabled | stillDisabled | stillUnprepared => exact .refl _
  | @unsupplied panel =>
    exact { Used.refl panel with supply := Supply.switched_set true panel.supply }
  | @stuck panel =>
    exact { Used.refl panel with
      pins := hreentered panel.pins
      supply := hcut panel.supply }
  | @notPrepared panel =>
    exact { Used.refl panel with
      buses := present_phaseRun .init panel
      pins := hreentered panel.pins
      supply := hcut panel.supply }
  | @prepared panel =>
    exact { Used.refl panel with
      buses := present_phaseRun .init panel
      pins := .leaveReset panel.pins
      supply := Supply.switched_set true panel.supply }
  | @notEnabled panel =>
    exact { Used.refl panel with
      buses := present_phaseRun .enable panel
      pins := .enterReset panel.pins }
  | @unlit panel =>
    exact { Used.refl panel with
      buses := present_phaseRun .enable panel
      pins := .enterReset panel.pins
      lamp := Lamp.switched_setBlank false panel.backlight }
  | @enabled panel =>
    exact { Used.refl panel with
      buses := present_phaseRun .enable panel
      lamp := Lamp.switched_setBlank false panel.backlight }
  | @disabled panel =>
    exact { Used.refl panel with
      buses := present_phaseRun .disable panel
      lamp := Lamp.switched_setBlank true panel.backlight }
  | @unprepared panel =>
    exact { Used.refl panel with
      pins := .enterReset panel.pins
      supply := Supply.switched_set false panel.supply }
  | shutDown _ _ ihd ihu => exact ihd.trans ihu

theorem used_after (calls : List Call) (panel : Panel) : Used panel (after calls panel) :=
  after_kept (fun hends h => h.trans (used_of_ends hends)) calls (.refl panel)

/-- No call that makes a panel safe was refused between the one and the other: none to drive reset
high or prepare low, to switch the supply off, or to darken the backlight. -/
structure Unrefused (panel last : Panel) : Prop where
  pins : last.pins.refusals = panel.pins.refusals
  supply : last.supply.refusals = panel.supply.refusals
  lamp : Lamp.refusals last.backlight = Lamp.refusals panel.backlight

/-- A count that only grows, and has not grown in the end, never did. -/
theorem eq_of_between {before between after : Nat} (h : after = before) (first : before ≤ between)
    (second : between ≤ after) : between = before ∧ after = between := by
  omega

theorem Unrefused.split {panel middle last : Panel} (h : Unrefused panel last)
    (first : Used panel middle) (second : Used middle last) :
    Unrefused panel middle ∧ Unrefused middle last := by
  obtain ⟨hpins, hpins'⟩ := eq_of_between h.pins first.pins.refusals second.pins.refusals
  obtain ⟨hsupply, hsupply'⟩ := eq_of_between h.supply first.supply.refusals second.supply.refusals
  obtain ⟨hlamp, hlamp'⟩ := eq_of_between h.lamp first.lamp.refusals second.lamp.refusals
  exact ⟨⟨hpins, hsupply, hlamp⟩, ⟨hpins', hsupply', hlamp'⟩⟩

/-! ## Safety -/

/-- The flags of a panel tell where its devices are. -/
structure Safe (panel : Panel) : Prop where
  supply : panel.supply.isOn = panel.prepared
  lines : panel.prepared = false → panel.pins.At false true
  backlight : ∀ blanked ∈ Lamp.blanked? panel.backlight, blanked = !panel.enabled

/-- A supply that was switched on and off again. -/
theorem isOn_of_cut {supply : Supply}
    (h : (Supply.set false (Supply.set true supply).state).state.refusals = supply.refusals) :
    (Supply.set false (Supply.set true supply).state).state.isOn = false := by
  have hon := (Supply.switched_set true supply).refusals
  have hoff := (Supply.switched_set false (Supply.set true supply).state).refusals
  exact Supply.isOn_of_ok (Supply.result_of_refusals (Nat.le_antisymm (h ▸ hon) hoff))

/-- Lines that left reset and entered it again. -/
theorem at_reenter {pins : ControlLines}
    (h : (enterReset (leaveReset pins).state).state.refusals = pins.refusals) :
    (enterReset (leaveReset pins).state).state.At false true :=
  ControlLines.at_enterReset (ControlLines.refusals_of_reenter h)

theorem safe_of_ends {panel last : Panel} {call : Call} {result : Except PanelError Unit}
    {events : List Event} (hends : Ends panel call result events last)
    (hu : Unrefused panel last) (h : Safe panel) : Safe last := by
  induction hends with
  | poweredUp | notPoweredUp => exact { h with lines := fun hp => (h.lines hp).setPower true }
  | poweredDown => exact { h with lines := fun hp => (h.lines hp).setPower false }
  | stillPrepared | stillEnabled | stillDisabled | stillUnprepared => exact h
  | unsupplied _ hs => exact { h with supply := (Supply.isOn_of_error hs).2.2.trans h.supply }
  | stuck hprepared | notPrepared hprepared =>
    exact {
      supply := (isOn_of_cut hu.supply).trans hprepared.symm
      lines := fun _ => at_reenter hu.pins
      backlight := h.backlight }
  | prepared _ hs =>
    exact {
      supply := Supply.isOn_of_ok hs
      lines := fun hp => by cases hp
      backlight := h.backlight }
  | notEnabled => exact { h with lines := fun _ => ControlLines.at_enterReset hu.pins }
  | @unlit panel _ _ _ hb =>
    have hkept := (Lamp.blanked_of_error hb).2
    exact {
      supply := h.supply
      lines := fun _ => ControlLines.at_enterReset hu.pins
      backlight := fun blanked hblanked => h.backlight blanked (hkept ▸ hblanked) }
  | enabled _ _ hb =>
    exact {
      supply := h.supply
      lines := h.lines
      backlight := Lamp.blanked_of_ok hb }
  | disabled =>
    exact {
      supply := h.supply
      lines := h.lines
      backlight := Lamp.blanked_of_ok (Lamp.result_of_refusals hu.lamp) }
  | unprepared =>
    exact {
      supply := Supply.isOn_of_ok (Supply.result_of_refusals hu.supply)
      lines := fun _ => ControlLines.at_enterReset hu.pins
      backlight := h.backlight }
  | shutDown hd hcut ihd ihu =>
    obtain ⟨hfirst, hsecond⟩ := hu.split (used_of_ends hd) (used_of_ends hcut)
    exact ihu hsecond (ihd hfirst h)

theorem safe_of_run {calls : List Call} {panel : Panel} (hu : Unrefused panel (after calls panel))
    (h : Safe panel) : Safe (after calls panel) := by
  induction calls generalizing panel with
  | nil => exact h
  | cons call rest ih =>
    have hends := perform_ends call panel
    obtain ⟨hfirst, hsecond⟩ := hu.split (used_of_ends hends) (used_after rest _)
    exact ih hsecond (safe_of_ends hends hfirst h)

/-- A call to prepare that fails leaves the lines and the supply where they were. -/
theorem levels_of_failed_prepare {panel last : Panel} {e : PanelError} {events : List Event}
    (hends : Ends panel .prepare (.error e) events last) (hu : Unrefused panel last)
    (h : Safe panel) : last.levels = panel.levels := by
  have hpresent := (used_of_ends hends).pins.present
  -- In reset before and after, with the supply off.
  have hundone {pins : ControlLines} {supply : Supply} (hlast : last.pins = pins)
      (hsupply : last.supply = supply) (hpower : pins.power = panel.pins.power)
      (hprepared : panel.prepared = false) (hoff : supply.isOn = false)
      (hat : pins.At false true) : last.levels = panel.levels := by
    have hbefore := h.lines hprepared
    have hprepare : Line.level pins.prepare = Line.level panel.pins.prepare :=
      Line.level_congr hat.prepare hbefore.prepare (hlast ▸ congrFun hpresent .prepare)
    have hreset : Line.level pins.reset = Line.level panel.pins.reset :=
      Line.level_congr hat.reset hbefore.reset (hlast ▸ congrFun hpresent .reset)
    simp only [levels, ControlLines.levels, hlast, hsupply, hpower, hprepare, hreset, hoff,
      h.supply, hprepared]
  generalize hresult : (Except.error e : Except PanelError Unit) = result at hends
  cases hends with
  | stillPrepared | prepared => cases hresult
  | unsupplied _ hs => simp only [levels, (Supply.isOn_of_error hs).2.2]
  | stuck hprepared | notPrepared hprepared =>
    refine hundone rfl rfl ?_ hprepared (isOn_of_cut hu.supply) (at_reenter hu.pins)
    rw [ControlLines.power_enterReset, ControlLines.power_leaveReset]

theorem Safe.off {panel : Panel} (h : Safe panel) (hprepared : panel.prepared = false)
    (henabled : panel.enabled = false) : panel.resources.Off where
  supply := h.supply.trans hprepared
  lines := h.lines hprepared
  backlight := fun blanked hblanked => by
    rw [h.backlight blanked hblanked, henabled]
    rfl

theorem presence_of_bind {config : Config} {r : Resources} {panel : Panel} {driven : List Event}
    (h : bind config r = (.ok panel, driven)) : panel.resources.presence = r.presence := by
  obtain ⟨timing, buses, hcheck, hinit, hpanel⟩ := bind_eq_ok h
  have hbuses := Buses.present_ofAdapters? (check_eq_ok hcheck).2.2
  have hpins := (ControlLines.driven_initialise hinit).present
  rw [hpanel]
  simp only [Resources.presence, resources, Buses.present_adapters, hbuses, hpins]

theorem safe_of_bind {config : Config} {r : Resources} {panel : Panel} {driven : List Event}
    (h : bind config r = (.ok panel, driven)) (off : r.supply.isOn = false)
    (dark : ∀ blanked ∈ Lamp.blanked? r.backlight, blanked = true) : Safe panel := by
  obtain ⟨timing, buses, -, hinit, hpanel⟩ := bind_eq_ok h
  have hat := ControlLines.at_initialise hinit
  rw [hpanel]
  exact ⟨off, fun _ => hat, dark⟩

/-- Take a panel bound to a supply that is off and to a backlight that is dark, and any run of calls
in which nothing fails that would make the panel safe. Its supply is on just when it is prepared,
its lines are in reset when it is not, and its backlight is lit just when it is enabled. To prepare
it in vain changes no level. A shutdown takes it down to both flags, and with everything off and in
reset; so the host gets it back from a release, and every device with it. -/
theorem safe_after (config : Config) (r : Resources) (panel : Panel) (driven : List Event)
    (bound : bind config r = (.ok panel, driven)) (off : r.supply.isOn = false)
    (dark : ∀ blanked ∈ Lamp.blanked? r.backlight, blanked = true) (calls : List Call)
    (unrefused : Unrefused panel (after calls panel)) :
    Safe (after calls panel) ∧
    (∀ e, (perform .prepare (after calls panel)).result = .error e →
      Unrefused panel (perform .prepare (after calls panel)).state →
      (perform .prepare (after calls panel)).state.levels = (after calls panel).levels) ∧
    (let down := (perform .shutdown (after calls panel)).state
     down.prepared = false ∧ down.enabled = false ∧
     (Unrefused panel down → down.resources.Off) ∧
     (release (after calls panel)).1 = down.resources) ∧
    (release (after calls panel)).1.presence = r.presence := by
  have hstart := safe_of_bind bound off dark
  have hused := used_after calls panel
  have hsafe := safe_of_run unrefused hstart
  refine ⟨hsafe, ?_, ?_, ?_⟩
  · intro e he hu
    have hends := perform_ends .prepare (after calls panel)
    rw [EndsWith, he] at hends
    exact levels_of_failed_prepare hends (hu.split hused (used_of_ends hends)).2 hsafe
  · have hends := perform_ends .shutdown (after calls panel)
    obtain ⟨henabled, hprepared⟩ := flags_of_shutdown hends
    refine ⟨hprepared, henabled, fun hu => ?_, rfl⟩
    have hdown := (hu.split hused (used_of_ends hends)).2
    exact (safe_of_ends hends hdown hsafe).off hprepared henabled
  · rw [release_eq, ← presence_of_bind bound]
    exact (used_after (calls ++ [.shutdown]) panel).presence

/-- Every device fails once, and the panel gets enabled in the end. -/
theorem safe_after_faulty : (after attempts faulty).enabled = true ∧ Safe (after attempts faulty) ∧
    (release (after attempts faulty)).1.Off := by
  have hrun : Unrefused faulty (after attempts faulty) := by
    constructor <;> decide +kernel
  have hdown : Unrefused faulty (perform .shutdown (after attempts faulty)).state := by
    constructor <;> decide +kernel
  obtain ⟨hsafe, -, ⟨-, -, hoff, hback⟩, -⟩ :=
    safe_after sleeper faultyResources faulty _ bind_faulty rfl (by decide) attempts hrun
  exact ⟨by decide +kernel, hsafe, hback ▸ hoff hdown⟩

end Panel

end PanelDriver

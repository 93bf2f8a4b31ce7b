import PanelDriver.Proofs.Panel.Transitions

/-!
Where the lines of an enabled panel are. When pins and supply do not fail, an enabled panel has its
supply on; but it is out of reset only if no call to enable has failed since it was prepared. A
failed call to enable puts the panel back into reset, the flag stays up, and neither preparing nor
enabling again drives the pins (`lines_of_enabled`).
-/

namespace PanelDriver

open ControlLines (enterReset leaveReset setPower setPrepare setReset)

/-! ## Devices that never fail -/

/-- No call on the pin fails. -/
def Pin.NeverFails (pin : Pin) : Prop :=
  ∀ schedule ∈ pin.schedule, ∀ fails ∈ schedule, fails = false

/-- No call on a pin of the panel fails. -/
structure ControlLines.NeverFail (pins : ControlLines) : Prop where
  power : ∀ pin ∈ pins.power, pin.NeverFails
  prepare : ∀ pin ∈ pins.prepare, pin.NeverFails
  reset : ∀ pin ∈ pins.reset, pin.NeverFails

/-- No call on the supply fails. -/
structure SupplyScript.NeverFails (script : SupplyScript) : Prop where
  neverOn : script.neverOn = false
  on : ∀ fails ∈ script.onFailures, fails = false
  off : ∀ fails ∈ script.offFailures, fails = false

def Supply.NeverFails (supply : Supply) : Prop := ∀ script ∈ supply.script, script.NeverFails

theorem Pin.set_of_neverFails {pin : Pin} (h : pin.NeverFails) (name : PinName) (high : Bool) :
    (Pin.set name high pin).result = .ok () ∧ (Pin.set name high pin).state.NeverFails := by
  obtain ⟨schedule, level, refused⟩ := pin
  cases schedule with
  | none => exact ⟨rfl, h⟩
  | some schedule =>
    have hall := h schedule rfl
    simp only [Pin.set, headD_of_forall_eq hall, Bool.false_eq_true, ↓reduceIte]
    refine ⟨trivial, fun rest hrest fails hfails => ?_⟩
    rw [← Option.some.inj hrest] at hfails
    exact hall fails (List.mem_of_mem_tail hfails)

theorem Supply.set_of_neverFails {supply : Supply} (h : supply.NeverFails) (on : Bool) :
    (Supply.set on supply).result = .ok () ∧ (Supply.set on supply).state.NeverFails ∧
      (Supply.set on supply).state.isOn = on := by
  obtain ⟨script, calls⟩ := supply
  cases script with
  | none => exact ⟨rfl, h, rfl⟩
  | some script =>
    obtain ⟨hnever, hon, hoff⟩ := h script rfl
    have hnext : ∃ rest : SupplyScript, script.next on = (true, rest) ∧ rest.NeverFails := by
      cases on with
      | true =>
        refine ⟨{ script with onFailures := script.onFailures.tail }, ?_, hnever,
          fun fails hf => hon fails (List.mem_of_mem_tail hf), hoff⟩
        simp only [SupplyScript.next, hnever, headD_of_forall_eq hon]
        rfl
      | false =>
        refine ⟨{ script with offFailures := script.offFailures.tail }, ?_, hnever, hon,
          fun fails hf => hoff fails (List.mem_of_mem_tail hf)⟩
        simp only [SupplyScript.next, headD_of_forall_eq hoff]
        rfl
    obtain ⟨rest, hrest, hquiet⟩ := hnext
    simp only [Supply.set, hrest]
    refine ⟨trivial, ?_, rfl⟩
    intro other hother
    rw [← Option.some.inj hother]
    exact hquiet

/-! ## Lines -/

theorem Line.set_of_neverFails {line : Line} (h : ∀ pin ∈ line, pin.NeverFails) (name : PinName)
    (high : Bool) : (Line.set name high line).result = .ok () ∧
      ∀ pin ∈ (Line.set name high line).state, pin.NeverFails := by
  cases line with
  | none => exact ⟨rfl, h⟩
  | some pin =>
    obtain ⟨hok, hlast⟩ := Pin.set_of_neverFails (h pin rfl) name high
    refine ⟨hok, fun other hother => ?_⟩
    rw [← Option.some.inj hother]
    exact hlast

namespace ControlLines

variable {pins : ControlLines}

theorem NeverFail.setPower (h : pins.NeverFail) (high : Bool) :
    (setPower high pins).state.NeverFail := by
  rw [setPower_eq]
  exact ⟨(Line.set_of_neverFails h.power .power high).2, h.prepare, h.reset⟩

theorem NeverFail.setPrepare (h : pins.NeverFail) (high : Bool) :
    (setPrepare high pins).result = .ok () ∧ (setPrepare high pins).state.NeverFail := by
  obtain ⟨hok, hlast⟩ := Line.set_of_neverFails h.prepare .prepare high
  rw [setPrepare_eq]
  exact ⟨hok, h.power, hlast, h.reset⟩

theorem NeverFail.setReset (h : pins.NeverFail) (high : Bool) :
    (setReset high pins).result = .ok () ∧ (setReset high pins).state.NeverFail := by
  obtain ⟨hok, hlast⟩ := Line.set_of_neverFails h.reset .reset high
  rw [setReset_eq]
  exact ⟨hok, h.power, h.prepare, hlast⟩

theorem enterReset_of_neverFail (h : pins.NeverFail) :
    (enterReset pins).state.NeverFail ∧ (enterReset pins).state.At false true := by
  obtain ⟨hreset, hmiddle⟩ := h.setReset true
  obtain ⟨hprepare, hlast⟩ := hmiddle.setPrepare false
  rw [enterReset_eq]
  exact ⟨hlast, at_of_ok hreset hprepare⟩

theorem leaveReset_of_neverFail (h : pins.NeverFail) :
    (leaveReset pins).result = .ok () ∧ (leaveReset pins).state.NeverFail ∧
      (leaveReset pins).state.At true false := by
  obtain ⟨hprepare, hmiddle⟩ := h.setPrepare true
  obtain ⟨hreset, hlast⟩ := hmiddle.setReset false
  rw [leaveReset_of_ok hprepare]
  refine ⟨hreset, hlast, ?_, reset_of_ok hreset⟩
  rw [setReset_eq]
  exact prepare_of_ok hprepare

theorem initialise_of_neverFail {last : ControlLines} {events : List Event} (h : pins.NeverFail)
    (hinit : initialise pins = ⟨.ok (), last, events⟩) : last.NeverFail := by
  obtain ⟨-, -, rfl⟩ := initialise_eq_ok hinit
  exact ((h.setReset true).2.setPrepare false).2.setPower false

end ControlLines

/-! ## Runs -/

namespace Panel

/-- A host enables a panel only while it is prepared, and gives it up only while it is not
enabled. -/
def Allowed (panel : Panel) : Call → Prop
  | .enable => panel.prepared = true
  | .unprepare => panel.enabled = false
  | _ => True

/-- The calls of a run are allowed when they are made. -/
def Disciplined : List Call → Panel → Prop
  | [], _ => True
  | call :: rest, panel => panel.Allowed call ∧ Disciplined rest (perform call panel).state

instance Allowed.decidable (panel : Panel) : (call : Call) → Decidable (panel.Allowed call)
  | .enable => inferInstanceAs (Decidable (panel.prepared = true))
  | .unprepare => inferInstanceAs (Decidable (panel.enabled = false))
  | .powerUp | .prepare | .disable | .powerDown | .shutdown => .isTrue trivial

instance Disciplined.decidable :
    (calls : List Call) → (panel : Panel) → Decidable (Disciplined calls panel)
  | [], _ => .isTrue trivial
  | call :: rest, panel =>
    have := Disciplined.decidable rest (perform call panel).state
    inferInstanceAs (Decidable (panel.Allowed call ∧ Disciplined rest (perform call panel).state))

/-- Whether a panel that is still prepared after a call is down: it was down before, or the call was
one to enable it and failed. -/
def falls (before : Bool) : Call → Except PanelError Unit → Panel → Bool
  | .enable, .error _, panel => panel.prepared
  | _, _, panel => panel.prepared && before

theorem falls_ok (before : Bool) (call : Call) (panel : Panel) :
    falls before call (.ok ()) panel = (panel.prepared && before) := by
  cases call <;> rfl

theorem falls_of_ne {call : Call} (h : call ≠ .enable) (before : Bool)
    (result : Except PanelError Unit) (panel : Panel) :
    falls before call result panel = (panel.prepared && before) := by
  cases call with
  | enable => exact absurd rfl h
  | _ => rfl

/-- Whether a call to enable has failed since the panel was prepared. -/
def fallen (before : Bool) : List Call → Panel → Bool
  | [], _ => before
  | call :: rest, panel =>
    let o := perform call panel
    fallen (falls before call o.result o.state) rest o.state

/-- What holds of a panel on pins and a supply that never fail. -/
structure Standing (down : Bool) (panel : Panel) : Prop where
  pins : panel.pins.NeverFail
  supply : panel.supply.NeverFails
  enabled : panel.enabled = true → panel.prepared = true
  fallen : down = true → panel.prepared = true
  powered : panel.prepared = true → panel.supply.isOn = true
  lines : panel.prepared = true → panel.pins.At (!down) down

namespace Standing

variable {down : Bool} {panel : Panel}

theorem prepared_and (h : Standing down panel) : (panel.prepared && down) = down := by
  cases down with
  | false => simp
  | true => simp [h.fallen rfl]

theorem not_enabled (h : Standing down panel) (hprepared : panel.prepared = false) :
    panel.enabled = false := by
  cases henabled : panel.enabled with
  | false => rfl
  | true => exact absurd (h.enabled henabled) (by simp [hprepared])

theorem setPower (h : Standing down panel) (high : Bool) :
    Standing down { panel with pins := (ControlLines.setPower high panel.pins).state } := by
  exact ⟨h.pins.setPower high, h.supply, h.enabled, h.fallen, h.powered,
    fun hp => (h.lines hp).setPower high⟩

theorem not_down (h : Standing down panel) (hprepared : panel.prepared = false) :
    down = false := by
  have hdown := h.prepared_and
  rw [hprepared] at hdown
  exact hdown.symm

end Standing

/-- A panel that is not prepared stands, whatever its lines show. -/
theorem standing_of_unprepared {panel : Panel} (hpins : panel.pins.NeverFail)
    (hsupply : panel.supply.NeverFails) (henabled : panel.enabled = false)
    (h : panel.prepared = false) : Standing false panel :=
  ⟨hpins, hsupply, by simp [henabled], by simp, by simp [h], by simp [h]⟩

/-- Whether a panel is down can be told from the call before and from what it was. -/
theorem standing_of_ends {before : Bool} {panel last : Panel} {call : Call}
    {result : Except PanelError Unit} {events : List Event} (h : Standing before panel)
    (hallowed : panel.Allowed call) (hends : Ends panel call result events last) :
    Standing (falls before call result last) last := by
  induction hends generalizing before with
  | poweredUp | notPoweredUp =>
    rw [falls_of_ne (by decide), h.prepared_and]
    exact h.setPower true
  | poweredDown =>
    rw [falls_of_ne (by decide), h.prepared_and]
    exact h.setPower false
  | stillPrepared | stillEnabled | stillDisabled | stillUnprepared =>
    rw [falls_ok, h.prepared_and]
    exact h
  | unsupplied _ hs =>
    obtain ⟨hok, -⟩ := Supply.set_of_neverFails h.supply true
    rw [hok] at hs
    cases hs
  | stuck hprepared | notPrepared hprepared =>
    obtain ⟨-, hup, -⟩ := ControlLines.leaveReset_of_neverFail h.pins
    obtain ⟨hdown, -⟩ := ControlLines.enterReset_of_neverFail hup
    obtain ⟨-, hon, -⟩ := Supply.set_of_neverFails h.supply true
    obtain ⟨-, hoff, -⟩ := Supply.set_of_neverFails hon false
    rw [falls_of_ne (by decide)]
    simp only [hprepared, Bool.false_and]
    exact standing_of_unprepared hdown hoff (h.not_enabled hprepared) rfl
  | prepared hprepared =>
    obtain ⟨-, hup, hat⟩ := ControlLines.leaveReset_of_neverFail h.pins
    obtain ⟨-, hsupply, hon⟩ := Supply.set_of_neverFails h.supply true
    rw [falls_ok, h.not_down hprepared, Bool.and_false]
    exact ⟨hup, hsupply, fun _ => rfl, fun _ => rfl, fun _ => hon, fun _ => hat⟩
  | @notEnabled panel e | @unlit panel e =>
    -- The flag stays up while the lines go down.
    have hprepared : panel.prepared = true := hallowed
    obtain ⟨hdown, hat⟩ := ControlLines.enterReset_of_neverFail h.pins
    have hfallen {last : Panel} (hlast : last.prepared = true) (hs : Standing true last) :
        Standing (falls before .enable (.error e) last) last := by
      have hfalls : falls before .enable (.error e) last = true := hlast
      rwa [hfalls]
    exact hfallen hprepared
      ⟨hdown, h.supply, h.enabled, fun _ => hprepared, h.powered, fun _ => hat⟩
  | @enabled panel =>
    have hprepared : panel.prepared = true := hallowed
    rw [falls_ok, h.prepared_and]
    exact ⟨h.pins, h.supply, fun _ => hprepared, h.fallen, h.powered, h.lines⟩
  | disabled =>
    rw [falls_ok, h.prepared_and]
    exact ⟨h.pins, h.supply, by simp, h.fallen, h.powered, h.lines⟩
  | @unprepared panel =>
    have henabled : panel.enabled = false := hallowed
    obtain ⟨hdown, -⟩ := ControlLines.enterReset_of_neverFail h.pins
    obtain ⟨-, hoff, -⟩ := Supply.set_of_neverFails h.supply false
    rw [falls_ok, Bool.false_and]
    exact standing_of_unprepared hdown hoff henabled rfl
  | shutDown hd hu ihd ihu =>
    have hlast := ihu (ihd h trivial) (enabled_of_disable hd)
    have hprepared := prepared_of_unprepare hu
    rw [falls_of_ne (by decide), hprepared, Bool.false_and] at hlast ⊢
    exact hlast

theorem standing_after {before : Bool} {panel : Panel} (h : Standing before panel)
    {calls : List Call} (hcalls : Disciplined calls panel) :
    Standing (fallen before calls panel) (after calls panel) := by
  induction calls generalizing before panel with
  | nil => exact h
  | cons call rest ih =>
    obtain ⟨hallowed, hrest⟩ := hcalls
    exact ih (standing_of_ends h hallowed (perform_ends call panel)) hrest

theorem standing_bind {config : Config} {r : Resources} {panel : Panel} {events : List Event}
    (h : bind config r = (.ok panel, events)) (hpins : r.pins.NeverFail)
    (hsupply : r.supply.NeverFails) : Standing false panel := by
  obtain ⟨timing, buses, -, hinit, hpanel⟩ := bind_eq_ok h
  have hnever := ControlLines.initialise_of_neverFail hpins hinit
  rw [hpanel]
  exact standing_of_unprepared hnever hsupply rfl rfl

/-- Take a panel bound to pins and a supply that never fail, and any run of calls in which it is
enabled only while prepared, and given up only while not enabled; buses and backlight may fail at
any time. Whenever the panel is enabled its supply is on. Its lines are those of a panel out of
reset unless a call to enable has failed since it was prepared; then they are those of a panel in
reset. -/
theorem lines_of_enabled (config : Config) (r : Resources) (panel : Panel) (events : List Event)
    (bound : bind config r = (.ok panel, events)) (pins : r.pins.NeverFail)
    (supply : r.supply.NeverFails) (calls : List Call) (disciplined : Disciplined calls panel)
    (enabled : (after calls panel).enabled = true) :
    (after calls panel).supply.isOn = true ∧
    (fallen false calls panel = false → (after calls panel).pins.At true false) ∧
    (fallen false calls panel = true → (after calls panel).pins.At false true) := by
  have h := standing_after (standing_bind bound pins supply) disciplined
  have hprepared := h.enabled enabled
  have hlines := h.lines hprepared
  refine ⟨h.powered hprepared, ?_, ?_⟩
  · intro hup
    rwa [hup] at hlines
  · intro hdown
    rwa [hdown] at hlines

/-! ## A call to enable that is made again -/

/-- A panel with a prepare and a reset line, whose backlight refuses the first call. -/
def reluctant : Panel where
  config := bare
  timing := .ofSpans 0 ⟨0, 0, 0, 0⟩ ⟨0, 0, 0, 0⟩ 0
  sideband := {}
  pins := { prepare := some { level := some false }, reset := some { level := some true } }
  supply := {}
  backlight := some (.scripted { failures := [true] })

/-- The resources that it is bound to. -/
def reluctantResources : Resources where
  pins := { prepare := some {}, reset := some {} }
  backlight := some (.scripted { failures := [true] })

theorem bind_reluctant : bind bare reluctantResources = (.ok reluctant, []) := by rfl

theorem neverFail_reluctant : reluctantResources.pins.NeverFail := by
  refine ⟨by simp [reluctantResources], ?_, ?_⟩ <;> simp [reluctantResources, Pin.NeverFails]

theorem neverFails_reluctant : reluctantResources.supply.NeverFails := by
  simp [reluctantResources, Supply.NeverFails]

theorem disciplined_reluctant : Disciplined [.prepare, .enable, .enable] reluctant := by
  refine ⟨trivial, ?_, ?_, trivial⟩ <;> rfl

theorem lines_of_enabled_reluctant :
    (after [.prepare, .enable, .enable] reluctant).enabled = true ∧
    (after [.prepare, .enable, .enable] reluctant).supply.isOn = true ∧
    (after [.prepare, .enable, .enable] reluctant).pins.At false true := by
  have henabled : (after [.prepare, .enable, .enable] reluctant).enabled = true := by rfl
  obtain ⟨hon, -, hdown⟩ := lines_of_enabled bare reluctantResources reluctant [] bind_reluctant
    neverFail_reluctant neverFails_reluctant _ disciplined_reluctant henabled
  exact ⟨henabled, hon, hdown (by rfl)⟩

/-- So an enabled panel need not be out of reset, even on pins that never fail. -/
theorem enabled_in_reset : ¬∀ (config : Config) (r : Resources) (panel : Panel)
    (events : List Event), bind config r = (.ok panel, events) → r.pins.NeverFail →
    r.supply.NeverFails → ∀ calls, Disciplined calls panel → (after calls panel).enabled = true →
      (after calls panel).supply.isOn = true ∧ (after calls panel).pins.At true false := by
  intro hlaw
  obtain ⟨-, hprepare, -⟩ := hlaw bare reluctantResources reluctant [] bind_reluctant
    neverFail_reluctant neverFails_reluctant _ disciplined_reluctant (by rfl)
  have hlevel := hprepare { level := some false } (by rfl)
  cases hlevel

end Panel

end PanelDriver

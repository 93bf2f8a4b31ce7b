import PanelDriver.Panel.Basic

/-!
The life of a bound panel: powered, prepared, enabled, and back. `prepare` and `enable` undo what
they did when they fail; `disable` and `unprepare` go through to their ends whatever fails on the
way. Calls may come in any order; those that would change nothing do nothing.
-/

namespace PanelDriver.Panel

def onPins (x : Action PanelError ControlLines Unit) : Action PanelError Panel Unit :=
  x.on (·.pins) fun pins panel => { panel with pins }

def setSupply (on : Bool) : Action PanelError Panel Unit :=
  (Supply.set on).on (·.supply) fun supply panel => { panel with supply }

/-- Without a backlight there is nothing to blank. -/
def setBlank (blank : Bool) : Action PanelError Panel Unit :=
  (Backlight.setBlank blank).onSome (·.backlight) fun backlight panel =>
    { panel with backlight := some backlight }

/-- Waits out a settle time; a time of zero is no wait. -/
def wait (delay : PanelDelays → UInt32) : Action PanelError Panel Unit := do
  let ms := delay (← Action.state).config.desc.delays
  if ms = 0 then pure () else Action.record (.delayMs ms)

def context (panel : Panel) : Context := ⟨panel.timing, panel.config.dsi.lanes⟩

/-- Runs the programs of a phase; a phase without programs leaves the packer alone, too. -/
def runPrograms (phase : Phase) : Action PanelError Panel Unit := do
  let panel ← Action.state
  let programs := panel.config.programs.phase phase
  if programs.isEmpty then pure () else
    (Sideband.run panel.context programs).on (·.sideband)
      fun sideband panel => { panel with sideband }

def powerUp : Action PanelError Panel Unit := do
  onPins (ControlLines.setPower true)
  wait (·.powerUp)

/-- Out of reset, and through the programs that come first. -/
def wake : Action PanelError Panel Unit := do
  onPins ControlLines.leaveReset
  wait (·.prepare)
  runPrograms .init

def cutSupply : Action PanelError Panel Unit := do
  onPins ControlLines.enterReset
  (setSupply false).ignore

def prepare : Action PanelError Panel Unit := do
  if (← Action.state).prepared then pure () else
    setSupply true
    wake.orElse fun e => do
      cutSupply
      Action.fail e
    Action.update fun panel => { panel with prepared := true }

/-- Through the programs before the light, and the light on. -/
def light : Action PanelError Panel Unit := do
  runPrograms .enable
  wait (·.enable)
  setBlank false

def enable : Action PanelError Panel Unit := do
  if (← Action.state).enabled then pure () else
    light.orElse fun e => do
      onPins ControlLines.enterReset
      Action.fail e
    Action.update fun panel => { panel with enabled := true }

def disable : Action PanelError Panel Unit := do
  if (← Action.state).enabled then
    (setBlank true).ignore
    wait (·.disable)
    (runPrograms .disable).ignore
    Action.update fun panel => { panel with enabled := false }
  else pure ()

def unprepare : Action PanelError Panel Unit := do
  if (← Action.state).prepared then
    wait (·.unprepare)
    cutSupply
    Action.update fun panel => { panel with prepared := false }
  else pure ()

def powerDown : Action PanelError Panel Unit := do
  wait (·.powerDown)
  onPins (ControlLines.setPower false)

def shutdown : Action PanelError Panel Unit := do
  disable.ignore
  unprepare.ignore

/-- The calls a host makes on a bound panel. -/
inductive Call
  | powerUp | prepare | enable | disable | unprepare | powerDown | shutdown
  deriving DecidableEq, Repr

def perform : Call → Action PanelError Panel Unit
  | .powerUp => Panel.powerUp
  | .prepare => Panel.prepare
  | .enable => Panel.enable
  | .disable => Panel.disable
  | .unprepare => Panel.unprepare
  | .powerDown => Panel.powerDown
  | .shutdown => Panel.shutdown

/-- Shuts a panel down and hands its resources back. -/
def release (panel : Panel) : Resources × List Event :=
  let o := shutdown panel
  (o.state.resources, o.events)

end PanelDriver.Panel

import PanelDriver.Advertised
import PanelDriver.Config
import PanelDriver.Device.Control
import PanelDriver.Execution

/-!
A panel bound to its devices, and how it is bound. Binding checks the configuration, then whether
the devices it names are there, then whether every device has its configuration; only then are pins
driven. A bound panel is in reset, with both flags down.
-/

namespace PanelDriver

structure ControlLines where
  power : Option Pin := none
  prepare : Option Pin := none
  /-- High is in reset. -/
  reset : Option Pin := none
  deriving DecidableEq, Repr

namespace ControlLines

/-- A pin that is missing accepts every level. -/
def setPower (high : Bool) : Action PanelError ControlLines Unit :=
  (Pin.set .power high).onSome (·.power) fun pin pins => { pins with power := some pin }

def setPrepare (high : Bool) : Action PanelError ControlLines Unit :=
  (Pin.set .prepare high).onSome (·.prepare) fun pin pins => { pins with prepare := some pin }

def setReset (high : Bool) : Action PanelError ControlLines Unit :=
  (Pin.set .reset high).onSome (·.reset) fun pin pins => { pins with reset := some pin }

/-- Reset first, then the prepare line, whether or not the pins follow. -/
def enterReset : Action PanelError ControlLines Unit := do
  (setReset true).ignore
  (setPrepare false).ignore

/-- The levels before the panel is used for the first time. -/
def initialise : Action PanelError ControlLines Unit := do
  setReset true
  setPrepare false
  setPower false

/-- The levels of a panel that is about to take commands. -/
def leaveReset : Action PanelError ControlLines Unit := do
  setPrepare true
  setReset false

end ControlLines

/-- Everything a host hands over, and gets back in the end. -/
structure Resources where
  adapters : Adapters := {}
  pins : ControlLines := {}
  supply : Supply := {}
  backlight : Option Backlight := none
  deriving DecidableEq, Repr

structure Panel where
  config : Config
  /-- The mode that programs take their timing fields from. -/
  timing : VideoTiming
  sideband : Sideband
  pins : ControlLines
  supply : Supply
  backlight : Option Backlight
  prepared : Bool := false
  enabled : Bool := false
  deriving DecidableEq, Repr

/-- A refusal hands the resources back. -/
structure Refusal where
  error : PanelError
  resources : Resources
  deriving DecidableEq, Repr

namespace Panel

/-- The resources of a panel as they are now. -/
def resources (panel : Panel) : Resources where
  adapters := panel.sideband.buses.adapters
  pins := panel.pins
  supply := panel.supply
  backlight := panel.backlight

/-- A device that the configuration names is missing. -/
def mustWait (config : Config) (r : Resources) : Bool :=
  (config.i2c.isSome && r.adapters.i2c.isNone) || (config.spi.isSome && r.adapters.spi.isNone) ||
    (config.requireBacklight && r.backlight.isNone)

/-- The mode and the buses of a panel, or why it cannot be bound; no device is touched. -/
def check (config : Config) (r : Resources) : Except PanelError (VideoTiming × Buses) := do
  config.validate
  let some timing := config.activeTiming | .error .invalidConfig
  if mustWait config r then .error .defer
  let some buses := Buses.ofAdapters? r.adapters config.i2c config.spi | .error .invalidConfig
  pure (timing, buses)

/-- Binds a panel, or hands the resources back; with the events of the pins that were driven. -/
def bind (config : Config) (r : Resources) : Except Refusal Panel × List Event :=
  match check config r with
  | .error e => (.error ⟨e, r⟩, [])
  | .ok (timing, buses) =>
    match ControlLines.initialise r.pins with
    | ⟨.error e, pins, events⟩ => (.error ⟨e, { r with adapters := buses.adapters, pins }⟩, events)
    | ⟨.ok (), pins, events⟩ =>
      (.ok {
        config, timing, pins
        sideband := { buses }
        supply := r.supply
        backlight := r.backlight }, events)

end Panel

end PanelDriver

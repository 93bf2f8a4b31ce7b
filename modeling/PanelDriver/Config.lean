import PanelDriver.Catalogue
import PanelDriver.Program.Phase

/-!
What a host decides about one panel, apart from its devices. The checks come in a fixed order: lane
count, I2C address, a mode to drive, programs.
-/

namespace PanelDriver

structure Config where
  desc : Description
  /-- The mode to drive; without one, the default mode of the description. -/
  timing : Option VideoTiming := none
  dsi : DsiLink := {}
  i2c : Option I2cLink := none
  spi : Option SpiLink := none
  programs : PhasePrograms := {}
  requireBacklight : Bool := false
  deriving DecidableEq, Repr

namespace Config

/-- A panel on a DSI link, with the link it needs. -/
def ofDsi (panel : DsiPanel) : Config := { desc := panel.desc, dsi := panel.link }

/-- The mode that programs take their timing fields from. -/
def activeTiming (config : Config) : Option VideoTiming :=
  config.timing.or config.desc.defaultMode

/-- What can be checked without knowing the devices. -/
def validate (config : Config) : Except PanelError Unit :=
  if !config.dsi.lanesValid then .error .invalidConfig
  else if config.i2c.any (!·.addressValid) then .error .invalidConfig
  else if config.activeTiming.isNone then .error .invalidConfig
  else config.programs.validate

end Config

end PanelDriver

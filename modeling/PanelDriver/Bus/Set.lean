import PanelDriver.Bus.I2c
import PanelDriver.Bus.Mipi
import PanelDriver.Bus.Spi

/-!
The devices a host hands over, and the buses made of them. An I2C or SPI device without its
configuration is refused; a configuration without its device is not used.
-/

namespace PanelDriver

structure Adapters where
  dsi : Option DsiHost := none
  i2c : Option I2cMaster := none
  spi : Option SpiDevice := none
  deriving DecidableEq, Repr

structure Buses where
  i2c : Option I2cBus := none
  mipi : Option MipiBus := none
  spi : Option SpiBus := none
  deriving DecidableEq, Repr

namespace Buses

/-- Pairs a device with its configuration; nothing if either is missing. -/
def pair {δ κ β : Type} (make : δ → κ → β) : Option δ → Option κ → Option β
  | some device, some config => some (make device config)
  | _, _ => none

def ofAdapters? (adapters : Adapters) (i2c : Option I2cLink) (spi : Option SpiLink) :
    Option Buses :=
  if (adapters.i2c.isSome && i2c.isNone) || (adapters.spi.isSome && spi.isNone) then none
  else some {
    i2c := pair I2cBus.mk adapters.i2c i2c
    mipi := adapters.dsi.map MipiBus.mk
    spi := pair SpiBus.mk adapters.spi spi }

/-- The devices, without their configurations. -/
def adapters (buses : Buses) : Adapters where
  dsi := buses.mipi.map (·.host)
  i2c := buses.i2c.map (·.master)
  spi := buses.spi.map (·.device)

end Buses

end PanelDriver

/-!
Parameters of the links between host and panel: the DSI link, and the I2C and SPI side-band devices.
-/

namespace PanelDriver

/-- Pixels on the DSI video stream. -/
inductive PixelFormat
  | rgb888
  /-- Loosely packed: 18 bits in 24. -/
  | rgb666
  | rgb666Packed
  | rgb565
  deriving DecidableEq, Repr

def PixelFormat.bitsPerPixel : PixelFormat → Nat
  | .rgb888 | .rgb666 => 24
  | .rgb666Packed => 18
  | .rgb565 => 16

structure VideoModeFlags where
  video : Bool := false
  burst : Bool := false
  /-- Sync pulses rather than sync events. -/
  syncPulse : Bool := false
  /-- Horizontal sync end packets. -/
  hse : Bool := false
  clockNonContinuous : Bool := false
  skipEot : Bool := false
  hfpDisable : Bool := false
  hbpDisable : Bool := false
  hsaDisable : Bool := false
  deriving DecidableEq, Repr

/-- A multiple of zero leaves the choice to the host. -/
structure DsiLink where
  lanes : UInt8 := 4
  format : PixelFormat := .rgb888
  modeFlags : VideoModeFlags := {}
  minHsClockMultiple : UInt32 := 0
  mipiDsiMultiple : UInt32 := 0
  deriving DecidableEq, Repr

def DsiLink.lanesValid (link : DsiLink) : Bool := 1 ≤ link.lanes && link.lanes ≤ 4

/-- A frequency of zero is the adapter's own. -/
structure I2cLink where
  address : UInt8
  maxFrequency : UInt32 := 0
  deriving DecidableEq, Repr

/-- The address fits seven bits. -/
def I2cLink.addressValid (config : I2cLink) : Bool := config.address ≤ 0x7f

/-- With nine-bit framing every byte follows a bit that tells data from commands. -/
structure SpiLink where
  maxFrequency : UInt32 := 1000000
  nineBit : Bool := false
  deriving DecidableEq, Repr

end PanelDriver

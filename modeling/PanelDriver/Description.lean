import PanelDriver.Timing.Range
import PanelDriver.Link

/-!
What a datasheet fixes about a panel: its modes, its size, the format its bus expects and the times
it needs between the steps of its life. Ranges come before exact modes wherever modes are counted
or picked.
-/

namespace PanelDriver

/-- Settle times in milliseconds; a zero is not waited for. -/
structure PanelDelays where
  powerUp : UInt32 := 0
  prepare : UInt32 := 0
  enable : UInt32 := 0
  disable : UInt32 := 0
  unprepare : UInt32 := 0
  powerDown : UInt32 := 0
  deriving DecidableEq, Repr

/-- Parallel RGB by its width, LVDS by the number of pairs and the bit mapping. -/
inductive BusFormat
  | rgb888x24 | rgb666x18 | rgb565x16 | rgb666Spwg | rgb888Spwg | rgb888Jeida
  deriving DecidableEq, Repr

namespace BusFormat

/-- The media bus format code that display hosts use. -/
def code : BusFormat → Nat
  | .rgb666x18 => 0x1009
  | .rgb888x24 => 0x100a
  | .rgb666Spwg => 0x1010
  | .rgb888Spwg => 0x1011
  | .rgb888Jeida => 0x1012
  | .rgb565x16 => 0x1017

/-- Bits per colour component. -/
def bpc : BusFormat → Nat
  | .rgb888x24 | .rgb888Spwg | .rgb888Jeida => 8
  | .rgb666x18 | .rgb666Spwg => 6
  | .rgb565x16 => 5

end BusFormat

/-- The clock edge on which a panel samples data. -/
inductive ClockEdge
  | unspecified | posedge | negedge
  deriving DecidableEq, Repr

structure BusFlags where
  de : Polarity := .unspecified
  pixdata : ClockEdge := .unspecified
  deriving DecidableEq, Repr

structure Description where
  name : String
  /-- The `vendor,model` identifier. -/
  compatible : String
  modes : List VideoTiming := []
  timings : List DisplayTiming := []
  /-- Bits per colour component, zero if unknown. -/
  bpc : UInt8 := 0
  widthMm : UInt32 := 0
  heightMm : UInt32 := 0
  delays : PanelDelays := {}
  busFormat : Option BusFormat := none
  busFlags : BusFlags := {}
  deriving DecidableEq, Repr

namespace Description

def modeCount (desc : Description) : Nat := desc.timings.length + desc.modes.length

def sizeMm (desc : Description) : UInt32 × UInt32 := (desc.widthMm, desc.heightMm)

/-- The typical mode of the first range, else the first exact mode. -/
def defaultMode (desc : Description) : Option VideoTiming :=
  match desc.timings with
  | range :: _ => some range.typicalMode
  | [] => desc.modes.head?

end Description

/-- A panel on a DSI link, with the link it needs. -/
structure DsiPanel where
  desc : Description
  link : DsiLink
  deriving DecidableEq, Repr

end PanelDriver

import PanelDriver.Timing.Video

/-!
Timings as datasheets give them, each parameter with a least, a typical and a greatest value, and
the mode made of the typical ones. Its refresh rate is the pixel clock over the pixels of a frame,
rounded to the nearest integer, a half upwards, in saturating 64-bit words.
-/

namespace PanelDriver

structure TimingEntry where
  min : UInt32
  typ : UInt32
  max : UInt32
  deriving DecidableEq, Repr

namespace TimingEntry

/-- A parameter without tolerance. -/
def fixed (value : UInt32) : TimingEntry := ⟨value, value, value⟩

def contains (entry : TimingEntry) (value : UInt32) : Bool :=
  entry.min ≤ value && value ≤ entry.max

end TimingEntry

structure DisplayFlags where
  hsync : Polarity := .unspecified
  vsync : Polarity := .unspecified
  de : Polarity := .unspecified
  deriving DecidableEq, Repr

/-- Ranges of a panel's timing; the pixel clock is in Hz. -/
structure DisplayTiming where
  pixelclock : TimingEntry
  hactive : TimingEntry
  hfrontPorch : TimingEntry
  hbackPorch : TimingEntry
  hsyncLen : TimingEntry
  vactive : TimingEntry
  vfrontPorch : TimingEntry
  vbackPorch : TimingEntry
  vsyncLen : TimingEntry
  flags : DisplayFlags := {}
  deriving DecidableEq, Repr

namespace DisplayTiming

/-- The pixels of a frame. -/
def frameSize (htotal vtotal : UInt32) : UInt64 := .ofNatClamp (htotal.toNat * vtotal.toNat)

/-- The pixel clock and half a frame more; what it has of whole frames is the rate, rounded. -/
def halfFrameAhead (pixelclock : UInt32) (frame : UInt64) : UInt64 :=
  .ofNatClamp (pixelclock.toNat + (frame / 2).toNat)

/-- Frames per second, nearest integer; zero if a frame has no pixels. -/
def refreshRate (pixelclock htotal vtotal : UInt32) : UInt32 :=
  let frame := frameSize htotal vtotal
  .ofNatClamp (halfFrameAhead pixelclock frame / frame).toNat

def typicalMode (t : DisplayTiming) : VideoTiming :=
  let mode := VideoTiming.ofSpans (t.pixelclock.typ / 1000)
    ⟨t.hactive.typ, t.hfrontPorch.typ, t.hsyncLen.typ, t.hbackPorch.typ⟩
    ⟨t.vactive.typ, t.vfrontPorch.typ, t.vsyncLen.typ, t.vbackPorch.typ⟩ 0
  { mode with
    vrefresh := refreshRate t.pixelclock.typ mode.htotal mode.vtotal
    hsync := t.flags.hsync
    vsync := t.flags.vsync }

end DisplayTiming

end PanelDriver

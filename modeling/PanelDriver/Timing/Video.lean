/-!
Fixed video modes. A mode is a chain of positions on each axis,
`display ≤ sync start ≤ sync end ≤ total`, counted from the start of the active area. Datasheets
give the spans between them; sums of spans stop at the largest 32-bit word, and a span read back
from positions that are out of order is zero.
-/

namespace PanelDriver

/-- Signal polarity; the host picks one that is not specified. -/
inductive Polarity
  | unspecified | activeHigh | activeLow
  deriving DecidableEq, Repr, Inhabited

namespace Saturating

def add (a b : UInt32) : UInt32 := .ofNatClamp (a.toNat + b.toNat)
def sub (a b : UInt32) : UInt32 := .ofNatClamp (a.toNat - b.toNat)

theorem toNat_clamp (n : Nat) : (UInt32.ofNatClamp n).toNat = min n (UInt32.size - 1) := by
  by_cases h : n < UInt32.size
  · rw [UInt32.toNat_ofNatClamp_of_lt h]; omega
  · rw [UInt32.toNat_ofNatClamp_of_le (by omega)]; omega

theorem toNat_add (a b : UInt32) : (add a b).toNat = min (a.toNat + b.toNat) (UInt32.size - 1) :=
  toNat_clamp _

theorem toNat_sub (a b : UInt32) : (sub a b).toNat = a.toNat - b.toNat := by
  have := a.toNat_lt_size
  rw [sub, toNat_clamp]; omega

end Saturating

/-- The spans of one axis. -/
structure Spans where
  active : UInt32
  frontPorch : UInt32
  sync : UInt32
  backPorch : UInt32
  deriving DecidableEq, Repr

/-- A mode: the clock in kHz, positions in pixels and lines, the refresh rate in Hz. -/
structure VideoTiming where
  clock : UInt32
  hdisplay : UInt32
  hsyncStart : UInt32
  hsyncEnd : UInt32
  htotal : UInt32
  vdisplay : UInt32
  vsyncStart : UInt32
  vsyncEnd : UInt32
  vtotal : UInt32
  vrefresh : UInt32
  hsync : Polarity := .unspecified
  vsync : Polarity := .unspecified
  deriving DecidableEq, Repr

/-- The quantities of a mode that a program can place into a command. -/
inductive TimingField
  | hsync | hbackPorch | hactive | hfrontPorch | vsync | vbackPorch | vactive | vfrontPorch
  deriving DecidableEq, Repr

namespace TimingField

/-- Horizontal fields first, each axis as sync, back porch, active, front porch. -/
def all : List TimingField :=
  [hsync, hbackPorch, hactive, hfrontPorch, vsync, vbackPorch, vactive, vfrontPorch]

end TimingField

namespace VideoTiming

def ofSpans (clock : UInt32) (h v : Spans) (vrefresh : UInt32) : VideoTiming :=
  let hsyncStart := Saturating.add h.active h.frontPorch
  let hsyncEnd := Saturating.add hsyncStart h.sync
  let vsyncStart := Saturating.add v.active v.frontPorch
  let vsyncEnd := Saturating.add vsyncStart v.sync
  { clock
    hdisplay := h.active
    hsyncStart
    hsyncEnd
    htotal := Saturating.add hsyncEnd h.backPorch
    vdisplay := v.active
    vsyncStart
    vsyncEnd
    vtotal := Saturating.add vsyncEnd v.backPorch
    vrefresh }

def withSync (t : VideoTiming) (hsync vsync : Polarity) : VideoTiming := { t with hsync, vsync }

def field (t : VideoTiming) : TimingField → UInt32
  | .hsync => Saturating.sub t.hsyncEnd t.hsyncStart
  | .hbackPorch => Saturating.sub t.htotal t.hsyncEnd
  | .hactive => t.hdisplay
  | .hfrontPorch => Saturating.sub t.hsyncStart t.hdisplay
  | .vsync => Saturating.sub t.vsyncEnd t.vsyncStart
  | .vbackPorch => Saturating.sub t.vtotal t.vsyncEnd
  | .vactive => t.vdisplay
  | .vfrontPorch => Saturating.sub t.vsyncStart t.vdisplay

/-- Width and height of the active area. -/
def activeSize (t : VideoTiming) : UInt32 × UInt32 := (t.hdisplay, t.vdisplay)

/-- The positions are in order on both axes. -/
def isConsistent (t : VideoTiming) : Bool :=
  t.hdisplay ≤ t.hsyncStart && t.hsyncStart ≤ t.hsyncEnd && t.hsyncEnd ≤ t.htotal &&
    t.vdisplay ≤ t.vsyncStart && t.vsyncStart ≤ t.vsyncEnd && t.vsyncEnd ≤ t.vtotal

end VideoTiming

end PanelDriver

import PanelDriver.Proofs.Timing.Spans
import PanelDriver.Timing.Range

/-!
The refresh rate of a typical mode. No word on the way to it is ever too small, so it is the pixel
clock over the pixels of a frame, rounded in exact numbers: the nearest integer, and of two nearest
ones the greater (`refresh_nearest`).
-/

namespace PanelDriver

/-- A quotient with half the divisor added first is off by no more than half the divisor, and has
gone up where it is off by just that. -/
theorem div_nearest (n : Nat) {d : Nat} (h : 0 < d) :
    2 * ((((n + d / 2) / d * d : Nat) : Int) - n).natAbs ≤ d ∧
    (2 * ((((n + d / 2) / d * d : Nat) : Int) - n).natAbs = d → n < (n + d / 2) / d * d) := by
  have hdiv : (n + d / 2) / d * d + (n + d / 2) % d = n + d / 2 := Nat.div_add_mod' _ _
  have hmod := Nat.mod_lt (n + d / 2) h
  generalize (n + d / 2) / d * d = rounded at *
  omega

namespace DisplayTiming

variable (pixelclock htotal vtotal : UInt32)

/-- The greatest totals make a frame of less than 2^64 pixels. -/
theorem toNat_frameSize : (frameSize htotal vtotal).toNat = htotal.toNat * vtotal.toNat := by
  apply UInt64.toNat_ofNatClamp_of_lt
  have hfactor := htotal.toNat_lt_size
  have vfactor := vtotal.toNat_lt_size
  calc htotal.toNat * vtotal.toNat ≤ (UInt32.size - 1) * (UInt32.size - 1) :=
        Nat.mul_le_mul (by omega) (by omega)
    _ < UInt64.size := by decide

/-- Half a frame leaves room for the clock. -/
theorem toNat_halfFrameAhead (frame : UInt64) :
    (halfFrameAhead pixelclock frame).toNat = pixelclock.toNat + frame.toNat / 2 := by
  have hhalf : (frame / 2).toNat = frame.toNat / 2 := by rw [UInt64.toNat_div]; rfl
  have hclock := pixelclock.toNat_lt
  have hframe := frame.toNat_lt
  rw [halfFrameAhead, hhalf]
  apply UInt64.toNat_ofNatClamp_of_lt
  show _ < 2 ^ 64
  omega

/-- No rate is greater than the clock. -/
theorem toNat_refreshRate : (refreshRate pixelclock htotal vtotal).toNat =
    (pixelclock.toNat + htotal.toNat * vtotal.toNat / 2) / (htotal.toNat * vtotal.toNat) := by
  rw [refreshRate]
  simp only [UInt64.toNat_div, toNat_halfFrameAhead, toNat_frameSize]
  generalize htotal.toNat * vtotal.toNat = frame
  have hclock := pixelclock.toNat_lt
  apply UInt32.toNat_ofNatClamp_of_lt
  show _ < 2 ^ 32
  rcases Nat.eq_zero_or_pos frame with rfl | hframe
  · rw [Nat.div_zero]
    decide
  · apply Nat.div_lt_of_lt_mul
    omega

/-- The rate and the polarities of a mode do not matter to its order. -/
theorem isConsistent_typicalMode (t : DisplayTiming) : t.typicalMode.isConsistent = true :=
  VideoTiming.isConsistent_ofSpans (t.pixelclock.typ / 1000)
    ⟨t.hactive.typ, t.hfrontPorch.typ, t.hsyncLen.typ, t.hbackPorch.typ⟩
    ⟨t.vactive.typ, t.vfrontPorch.typ, t.vsyncLen.typ, t.vbackPorch.typ⟩ 0

/-- The typical mode is in order. Nothing on the way to its refresh rate saturates, not even where
its totals do: the pixels of a frame, the clock with half of them added and the quotient are what
they are in exact numbers, and the quotient is the rate. The rate of a frame without pixels is zero;
any other is an integer nearest to the clock over the pixels of a frame, and a tie goes up. -/
theorem refresh_nearest (t : DisplayTiming) :
    let mode := t.typicalMode
    let clock := t.pixelclock.typ
    let size := frameSize mode.htotal mode.vtotal
    let frame := mode.htotal.toNat * mode.vtotal.toNat
    mode.isConsistent = true ∧
    size.toNat = frame ∧
    (halfFrameAhead clock size).toNat = clock.toNat + frame / 2 ∧
    (halfFrameAhead clock size / size).toNat = mode.vrefresh.toNat ∧
    mode.vrefresh.toNat = (clock.toNat + frame / 2) / frame ∧
    (frame = 0 → mode.vrefresh = 0) ∧
    (0 < frame →
      2 * (((mode.vrefresh.toNat * frame : Nat) : Int) - clock.toNat).natAbs ≤ frame ∧
      (2 * (((mode.vrefresh.toNat * frame : Nat) : Int) - clock.toNat).natAbs = frame →
        clock.toNat < mode.vrefresh.toNat * frame)) := by
  intro mode clock size frame
  have hsize : size.toNat = frame := toNat_frameSize _ _
  have hahead : (halfFrameAhead clock size).toNat = clock.toNat + frame / 2 := by
    rw [toNat_halfFrameAhead, hsize]
  have hrate : mode.vrefresh.toNat = (clock.toNat + frame / 2) / frame := toNat_refreshRate _ _ _
  refine ⟨t.isConsistent_typicalMode, hsize, hahead, ?_, hrate, fun hzero => ?_, fun hpos => ?_⟩
  · rw [UInt64.toNat_div, hahead, hsize, hrate]
  · apply UInt32.toNat_inj.mp
    rw [hrate, hzero, Nat.div_zero]
    rfl
  · rw [hrate]
    exact div_nearest clock.toNat hpos

/-- Two pixels a frame at three a second, which is a tie. -/
def tied : DisplayTiming where
  pixelclock := .fixed 3
  hactive := .fixed 2
  hfrontPorch := .fixed 0
  hbackPorch := .fixed 0
  hsyncLen := .fixed 0
  vactive := .fixed 1
  vfrontPorch := .fixed 0
  vbackPorch := .fixed 0
  vsyncLen := .fixed 0

theorem refresh_nearest_tied :
    tied.typicalMode.vrefresh = 2 ∧
    2 * (((tied.typicalMode.vrefresh.toNat * 2 : Nat) : Int) - 3).natAbs = 2 ∧
    3 < tied.typicalMode.vrefresh.toNat * 2 ∧
    { tied with vactive := .fixed 0 }.typicalMode.vrefresh = 0 := by
  obtain ⟨-, -, -, -, -, -, hnearest⟩ := refresh_nearest tied
  obtain ⟨-, -, -, -, -, hzero, -⟩ := refresh_nearest { tied with vactive := .fixed 0 }
  exact ⟨by decide, by decide, (hnearest (by decide)).2 (by decide), hzero (by decide)⟩

end DisplayTiming

end PanelDriver

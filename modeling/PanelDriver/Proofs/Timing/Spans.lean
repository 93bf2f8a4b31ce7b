import PanelDriver.Timing.Video

/-!
A mode laid out from spans, and the spans read back from it as its fields. Laid out, a mode is in
order and shows no more than it was asked for; it shows all of an axis just when the axis ends
within the 32-bit words. Read from a mode in order, the spans fill the axis and lay out the same
mode (`spans_round_trip`).
-/

namespace PanelDriver

/-! ## Saturating words -/

namespace Saturating

variable {start stop span : UInt32}

theorem le_add (start span : UInt32) : start ≤ add start span := by
  have hbound := start.toNat_lt_size
  rw [UInt32.le_iff_toNat_le, toNat_add]
  omega

/-- A span behind a start, read back from its ends. -/
theorem sub_add_le (start span : UInt32) : sub (add start span) start ≤ span := by
  rw [UInt32.le_iff_toNat_le, toNat_sub, toNat_add]
  omega

theorem sub_add_eq (h : start.toNat + span.toNat < UInt32.size) :
    sub (add start span) start = span := by
  apply UInt32.toNat_inj.mp
  rw [toNat_sub, toNat_add]
  omega

theorem add_sub_eq (h : start ≤ stop) : add start (sub stop start) = stop := by
  have hbound := stop.toNat_lt_size
  rw [UInt32.le_iff_toNat_le] at h
  apply UInt32.toNat_inj.mp
  rw [toNat_add, toNat_sub]
  omega

end Saturating

/-! ## Spans of an axis -/

namespace Spans

/-- The length of the axis; it may be more than a word holds. -/
def length (s : Spans) : Nat :=
  s.active.toNat + s.frontPorch.toNat + s.sync.toNat + s.backPorch.toNat

/-- The spans between the positions of an axis. -/
def between (display syncStart syncEnd total : UInt32) : Spans where
  active := display
  frontPorch := Saturating.sub syncStart display
  sync := Saturating.sub syncEnd syncStart
  backPorch := Saturating.sub total syncEnd

/-- Spans that end within the words are found again between the positions they were laid out to. -/
theorem between_layout {s : Spans} (h : s.length < UInt32.size) :
    let syncStart := Saturating.add s.active s.frontPorch
    let syncEnd := Saturating.add syncStart s.sync
    between s.active syncStart syncEnd (Saturating.add syncEnd s.backPorch) = s := by
  intro syncStart syncEnd
  unfold length at h
  have hstart : syncStart.toNat = s.active.toNat + s.frontPorch.toNat := by
    rw [Saturating.toNat_add]
    omega
  have hend : syncEnd.toNat = syncStart.toNat + s.sync.toNat := by
    rw [Saturating.toNat_add]
    omega
  have hfront : Saturating.sub syncStart s.active = s.frontPorch :=
    Saturating.sub_add_eq (by omega)
  have hsync : Saturating.sub syncEnd syncStart = s.sync := Saturating.sub_add_eq (by omega)
  have hback : Saturating.sub (Saturating.add syncEnd s.backPorch) syncEnd = s.backPorch :=
    Saturating.sub_add_eq (by omega)
  rw [between, hfront, hsync, hback]

/-- Spans that fill an axis are no longer than its last position. -/
theorem eq_iff_length_lt {s shown : Spans} {total : UInt32} (hfull : shown.length = total.toNat)
    (hlaid : s.length < UInt32.size → shown = s) : shown = s ↔ s.length < UInt32.size := by
  refine ⟨?_, hlaid⟩
  rintro rfl
  rw [hfull]
  exact total.toNat_lt_size

end Spans

/-- The span that a field is made of, with the spans `h` and `v` of the axes. -/
def TimingField.span (h v : Spans) : TimingField → UInt32
  | .hsync => h.sync
  | .hbackPorch => h.backPorch
  | .hactive => h.active
  | .hfrontPorch => h.frontPorch
  | .vsync => v.sync
  | .vbackPorch => v.backPorch
  | .vactive => v.active
  | .vfrontPorch => v.frontPorch

namespace VideoTiming

/-- The horizontal spans as the fields tell them. -/
def horizontal (t : VideoTiming) : Spans where
  active := t.field .hactive
  frontPorch := t.field .hfrontPorch
  sync := t.field .hsync
  backPorch := t.field .hbackPorch

/-- The vertical spans as the fields tell them. -/
def vertical (t : VideoTiming) : Spans where
  active := t.field .vactive
  frontPorch := t.field .vfrontPorch
  sync := t.field .vsync
  backPorch := t.field .vbackPorch

/-- What lies between the ends of a field; less than nothing where they are out of order. -/
def distance (t : VideoTiming) : TimingField → Int
  | .hsync => t.hsyncEnd.toNat - t.hsyncStart.toNat
  | .hbackPorch => t.htotal.toNat - t.hsyncEnd.toNat
  | .hactive => t.hdisplay.toNat
  | .hfrontPorch => t.hsyncStart.toNat - t.hdisplay.toNat
  | .vsync => t.vsyncEnd.toNat - t.vsyncStart.toNat
  | .vbackPorch => t.vtotal.toNat - t.vsyncEnd.toNat
  | .vactive => t.vdisplay.toNat
  | .vfrontPorch => t.vsyncStart.toNat - t.vdisplay.toNat

variable {t : VideoTiming}

/-- No field wraps. -/
theorem toNat_field (t : VideoTiming) (f : TimingField) :
    ((t.field f).toNat : Int) = max (t.distance f) 0 := by
  cases f <;> simp only [field, distance, Saturating.toNat_sub] <;> omega

theorem isConsistent_iff : t.isConsistent = true ↔ ∀ f, 0 ≤ t.distance f := by
  simp only [isConsistent, Bool.and_eq_true, decide_eq_true_eq, UInt32.le_iff_toNat_le]
  constructor
  · rintro ⟨⟨⟨⟨⟨hfront, hsync⟩, hback⟩, vfront⟩, vsync⟩, vback⟩ f
    cases f <;> simp only [distance] <;> omega
  · intro h
    have hfront := h .hfrontPorch
    have hsync := h .hsync
    have hback := h .hbackPorch
    have vfront := h .vfrontPorch
    have vsync := h .vsync
    have vback := h .vbackPorch
    simp only [distance] at hfront hsync hback vfront vsync vback
    omega

/-- The spans of a mode in order fill its axes. -/
theorem length_of_isConsistent (h : t.isConsistent = true) :
    t.horizontal.length = t.htotal.toNat ∧ t.vertical.length = t.vtotal.toNat := by
  have hfield (f : TimingField) : ((t.field f).toNat : Int) = t.distance f := by
    have hnonneg := isConsistent_iff.mp h f
    rw [toNat_field]
    omega
  have hactive := hfield .hactive
  have hfront := hfield .hfrontPorch
  have hsync := hfield .hsync
  have hback := hfield .hbackPorch
  have vactive := hfield .vactive
  have vfront := hfield .vfrontPorch
  have vsync := hfield .vsync
  have vback := hfield .vbackPorch
  simp only [distance] at hactive hfront hsync hback vactive vfront vsync vback
  simp only [Spans.length, horizontal, vertical]
  omega

/-! ## Modes laid out from spans -/

variable (clock : UInt32) (h v : Spans) (vrefresh : UInt32)

theorem isConsistent_ofSpans : (ofSpans clock h v vrefresh).isConsistent = true := by
  simp only [isConsistent, ofSpans, Saturating.le_add, decide_true, Bool.and_self]

theorem field_ofSpans_le (f : TimingField) : (ofSpans clock h v vrefresh).field f ≤ f.span h v := by
  cases f with
  | hactive | vactive => exact UInt32.le_refl _
  | _ => exact Saturating.sub_add_le _ _

/-- A mode in order is laid out again from its spans. -/
theorem ofSpans_spans (ordered : t.isConsistent = true) :
    (ofSpans t.clock t.horizontal t.vertical t.vrefresh).withSync t.hsync t.vsync = t := by
  simp only [isConsistent, Bool.and_eq_true, decide_eq_true_eq] at ordered
  obtain ⟨⟨⟨⟨⟨hfront, hsync⟩, hback⟩, vfront⟩, vsync⟩, vback⟩ := ordered
  simp only [ofSpans, withSync, horizontal, vertical, field, Saturating.add_sub_eq hfront,
    Saturating.add_sub_eq hsync, Saturating.add_sub_eq hback, Saturating.add_sub_eq vfront,
    Saturating.add_sub_eq vsync, Saturating.add_sub_eq vback]

/-- Laid out from any spans, a mode is in order, no field is longer than the span it was asked for,
and those of an axis are just these spans if and only if the axis ends within the 32-bit words. The
fields of a mode in order fill its axes, and they lay out the same mode. In any mode, in order or
not, a field is the distance between its ends, or zero where that is less than nothing. -/
theorem spans_round_trip :
    (∀ (clock : UInt32) (h v : Spans) (vrefresh : UInt32),
      (ofSpans clock h v vrefresh).isConsistent = true ∧
      (∀ f, (ofSpans clock h v vrefresh).field f ≤ f.span h v) ∧
      ((ofSpans clock h v vrefresh).horizontal = h ↔ h.length < UInt32.size) ∧
      ((ofSpans clock h v vrefresh).vertical = v ↔ v.length < UInt32.size)) ∧
    (∀ t : VideoTiming, t.isConsistent = true →
      t.horizontal.length = t.htotal.toNat ∧ t.vertical.length = t.vtotal.toNat ∧
      (ofSpans t.clock t.horizontal t.vertical t.vrefresh).withSync t.hsync t.vsync = t) ∧
    ∀ (t : VideoTiming) (f : TimingField), ((t.field f).toNat : Int) = max (t.distance f) 0 := by
  refine ⟨fun clock h v vrefresh => ?_, fun t ordered => ?_, toNat_field⟩
  · have ordered := isConsistent_ofSpans clock h v vrefresh
    obtain ⟨hlength, vlength⟩ := length_of_isConsistent ordered
    exact ⟨ordered, field_ofSpans_le clock h v vrefresh,
      Spans.eq_iff_length_lt hlength Spans.between_layout,
      Spans.eq_iff_length_lt vlength Spans.between_layout⟩
  · obtain ⟨hlength, vlength⟩ := length_of_isConsistent ordered
    exact ⟨hlength, vlength, ofSpans_spans ordered⟩

/-- A mode that ends at the last position of its horizontal axis. -/
def longest : VideoTiming where
  clock := 9000
  hdisplay := 480
  hsyncStart := 482
  hsyncEnd := 482
  htotal := 0xffffffff
  vdisplay := 0
  vsyncStart := 2
  vsyncEnd := 12
  vtotal := 14
  vrefresh := 60
  vsync := .activeLow

theorem spans_round_trip_longest : longest.isConsistent = true ∧
    longest.horizontal.length = 0xffffffff ∧
    (ofSpans 9000 ⟨480, 2, 0, 0xfffffe1d⟩ ⟨0, 2, 10, 2⟩ 60).withSync .unspecified .activeLow =
      longest := by
  have ordered : longest.isConsistent = true := by decide
  obtain ⟨-, hback, -⟩ := spans_round_trip
  obtain ⟨hlength, -, hsame⟩ := hback longest ordered
  exact ⟨ordered, hlength, hsame⟩

end VideoTiming

end PanelDriver

import PanelDriver.Description
import PanelDriver.Record.Value

/-!
The written forms of timings and descriptions.
-/

namespace PanelDriver

def Polarity.label : Polarity → String
  | .unspecified => "Unspecified"
  | .activeHigh => "ActiveHigh"
  | .activeLow => "ActiveLow"

def TimingField.label : TimingField → String
  | .hsync => "HSync"
  | .hbackPorch => "HBackPorch"
  | .hactive => "HActive"
  | .hfrontPorch => "HFrontPorch"
  | .vsync => "VSync"
  | .vbackPorch => "VBackPorch"
  | .vactive => "VActive"
  | .vfrontPorch => "VFrontPorch"

def ClockEdge.label : ClockEdge → String
  | .unspecified => "Unspecified"
  | .posedge => "Posedge"
  | .negedge => "Negedge"

def BusFormat.label : BusFormat → String
  | .rgb888x24 => "Rgb888_1x24"
  | .rgb666x18 => "Rgb666_1x18"
  | .rgb565x16 => "Rgb565_1x16"
  | .rgb666Spwg => "Rgb666_1x7x3Spwg"
  | .rgb888Spwg => "Rgb888_1x7x4Spwg"
  | .rgb888Jeida => "Rgb888_1x7x4Jeida"

namespace Record

instance : Record Polarity where
  toValue p := .text p.label
  ofValue? := choice? [.unspecified, .activeHigh, .activeLow] Polarity.label
  ofValue?_toValue p := by cases p <;> rfl

instance : Record TimingField where
  toValue f := .text f.label
  ofValue? := choice? TimingField.all TimingField.label
  ofValue?_toValue f := by cases f <;> rfl

instance : Record ClockEdge where
  toValue e := .text e.label
  ofValue? := choice? [.unspecified, .posedge, .negedge] ClockEdge.label
  ofValue?_toValue e := by cases e <;> rfl

instance : Record BusFormat where
  toValue f := .text f.label
  ofValue? := choice?
    [.rgb888x24, .rgb666x18, .rgb565x16, .rgb666Spwg, .rgb888Spwg, .rgb888Jeida] BusFormat.label
  ofValue?_toValue f := by cases f <;> rfl

instance : Record VideoTiming where
  toValue t := .object [
    ("clock", toValue t.clock), ("hdisplay", toValue t.hdisplay),
    ("hsync_start", toValue t.hsyncStart), ("hsync_end", toValue t.hsyncEnd),
    ("htotal", toValue t.htotal), ("vdisplay", toValue t.vdisplay),
    ("vsync_start", toValue t.vsyncStart), ("vsync_end", toValue t.vsyncEnd),
    ("vtotal", toValue t.vtotal), ("vrefresh", toValue t.vrefresh),
    ("hsync", toValue t.hsync), ("vsync", toValue t.vsync)]
  ofValue? v := do
    match ← v.fields? ["clock", "hdisplay", "hsync_start", "hsync_end", "htotal", "vdisplay",
      "vsync_start", "vsync_end", "vtotal", "vrefresh", "hsync", "vsync"] with
    | [clock, hdisplay, hsyncStart, hsyncEnd, htotal, vdisplay, vsyncStart, vsyncEnd, vtotal,
        vrefresh, hsync, vsync] =>
      pure {
        clock := ← ofValue? clock
        hdisplay := ← ofValue? hdisplay
        hsyncStart := ← ofValue? hsyncStart
        hsyncEnd := ← ofValue? hsyncEnd
        htotal := ← ofValue? htotal
        vdisplay := ← ofValue? vdisplay
        vsyncStart := ← ofValue? vsyncStart
        vsyncEnd := ← ofValue? vsyncEnd
        vtotal := ← ofValue? vtotal
        vrefresh := ← ofValue? vrefresh
        hsync := ← ofValue? hsync
        vsync := ← ofValue? vsync }
    | _ => none
  ofValue?_toValue _ := by simp [Value.fields?, List.lookup_cons, ofValue?_toValue]

instance : Record TimingEntry where
  toValue e := .object [("min", toValue e.min), ("typ", toValue e.typ), ("max", toValue e.max)]
  ofValue? v := do
    match ← v.fields? ["min", "typ", "max"] with
    | [min, typ, max] => pure ⟨← ofValue? min, ← ofValue? typ, ← ofValue? max⟩
    | _ => none
  ofValue?_toValue _ := by simp [Value.fields?, List.lookup_cons, ofValue?_toValue]

instance : Record DisplayFlags where
  toValue f := .object [("hsync", toValue f.hsync), ("vsync", toValue f.vsync), ("de", toValue f.de)]
  ofValue? v := do
    match ← v.fields? ["hsync", "vsync", "de"] with
    | [hsync, vsync, de] => pure ⟨← ofValue? hsync, ← ofValue? vsync, ← ofValue? de⟩
    | _ => none
  ofValue?_toValue _ := by simp [Value.fields?, List.lookup_cons, ofValue?_toValue]

instance : Record DisplayTiming where
  toValue t := .object [
    ("pixelclock", toValue t.pixelclock), ("hactive", toValue t.hactive),
    ("hfront_porch", toValue t.hfrontPorch), ("hback_porch", toValue t.hbackPorch),
    ("hsync_len", toValue t.hsyncLen), ("vactive", toValue t.vactive),
    ("vfront_porch", toValue t.vfrontPorch), ("vback_porch", toValue t.vbackPorch),
    ("vsync_len", toValue t.vsyncLen), ("flags", toValue t.flags)]
  ofValue? v := do
    match ← v.fields? ["pixelclock", "hactive", "hfront_porch", "hback_porch", "hsync_len",
      "vactive", "vfront_porch", "vback_porch", "vsync_len", "flags"] with
    | [pixelclock, hactive, hfrontPorch, hbackPorch, hsyncLen, vactive, vfrontPorch, vbackPorch,
        vsyncLen, flags] =>
      pure {
        pixelclock := ← ofValue? pixelclock
        hactive := ← ofValue? hactive
        hfrontPorch := ← ofValue? hfrontPorch
        hbackPorch := ← ofValue? hbackPorch
        hsyncLen := ← ofValue? hsyncLen
        vactive := ← ofValue? vactive
        vfrontPorch := ← ofValue? vfrontPorch
        vbackPorch := ← ofValue? vbackPorch
        vsyncLen := ← ofValue? vsyncLen
        flags := ← ofValue? flags }
    | _ => none
  ofValue?_toValue _ := by simp [Value.fields?, List.lookup_cons, ofValue?_toValue]

instance : Record PanelDelays where
  toValue d := .object [
    ("power_up", toValue d.powerUp), ("prepare", toValue d.prepare), ("enable", toValue d.enable),
    ("disable", toValue d.disable), ("unprepare", toValue d.unprepare),
    ("power_down", toValue d.powerDown)]
  ofValue? v := do
    match ← v.fields? ["power_up", "prepare", "enable", "disable", "unprepare", "power_down"] with
    | [powerUp, prepare, enable, disable, unprepare, powerDown] =>
      pure {
        powerUp := ← ofValue? powerUp
        prepare := ← ofValue? prepare
        enable := ← ofValue? enable
        disable := ← ofValue? disable
        unprepare := ← ofValue? unprepare
        powerDown := ← ofValue? powerDown }
    | _ => none
  ofValue?_toValue _ := by simp [Value.fields?, List.lookup_cons, ofValue?_toValue]

instance : Record BusFlags where
  toValue f := .object [("de", toValue f.de), ("pixdata", toValue f.pixdata)]
  ofValue? v := do
    match ← v.fields? ["de", "pixdata"] with
    | [de, pixdata] => pure ⟨← ofValue? de, ← ofValue? pixdata⟩
    | _ => none
  ofValue?_toValue _ := by simp [Value.fields?, List.lookup_cons, ofValue?_toValue]

end Record

/-- The written form of a description, which is never read back. -/
def Description.toValue (d : Description) : Value := .object [
  ("name", .text d.name), ("compatible", .text d.compatible),
  ("modes", .list (d.modes.map Record.toValue)),
  ("timings", .list (d.timings.map Record.toValue)),
  ("bpc", .int d.bpc.toNat), ("width_mm", Record.toValue d.widthMm),
  ("height_mm", Record.toValue d.heightMm), ("delays", Record.toValue d.delays),
  ("bus_format", (d.busFormat.map Record.toValue).getD .null),
  ("bus_flags", Record.toValue d.busFlags)]

end PanelDriver

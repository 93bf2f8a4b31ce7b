import PanelDriver.Description

/-!
Panels that are known by their identifier: those on a parallel RGB or LVDS link, and those on a DSI
link. No identifier is listed twice.
-/

namespace PanelDriver.Catalogue

def ampireAm480272 : Description where
  name := "Ampire AM-480272H3TMQW-T01H"
  compatible := "ampire,am-480272h3tmqw-t01h"
  modes := [(VideoTiming.ofSpans 9000 ⟨480, 2, 41, 2⟩ ⟨272, 2, 10, 2⟩ 60).withSync
    .activeHigh .activeHigh]
  bpc := 8
  widthMm := 105
  heightMm := 67
  busFormat := some .rgb888x24

/-- The whole blanking interval of a line is sync. -/
def ampireAm800480 : Description where
  name := "Ampire AM800480R3TMQWA1H"
  compatible := "ampire,am800480r3tmqwa1h"
  modes := [(VideoTiming.ofSpans 33333 ⟨800, 0, 255, 0⟩ ⟨480, 2, 45, 0⟩ 60).withSync
    .activeHigh .activeHigh]
  bpc := 6
  widthMm := 152
  heightMm := 91
  busFormat := some .rgb666x18

def auoB101aw03 : Description where
  name := "AUO B101AW03"
  compatible := "auo,b101aw03"
  modes := [VideoTiming.ofSpans 51450 ⟨1024, 156, 8, 156⟩ ⟨600, 16, 6, 16⟩ 60]
  bpc := 6
  widthMm := 223
  heightMm := 125

def auoB101ean01 : Description where
  name := "AUO B101EAN01"
  compatible := "auo,b101ean01"
  modes := [VideoTiming.ofSpans 72500 ⟨1280, 119, 32, 21⟩ ⟨800, 4, 20, 8⟩ 60]
  bpc := 6
  widthMm := 217
  heightMm := 136

def auoB101xtn01 : Description where
  name := "AUO B101XTN01"
  compatible := "auo,b101xtn01"
  modes := [(VideoTiming.ofSpans 72000 ⟨1366, 20, 70, 0⟩ ⟨768, 14, 42, 0⟩ 60).withSync
    .activeLow .activeLow]
  bpc := 6
  widthMm := 223
  heightMm := 125

def auoG133han01 : Description where
  name := "AUO G133HAN01"
  compatible := "auo,g133han01"
  timings := [{
    pixelclock := ⟨134000000, 141200000, 149000000⟩
    hactive := .fixed 1920
    hfrontPorch := ⟨39, 58, 77⟩
    hbackPorch := ⟨59, 88, 117⟩
    hsyncLen := ⟨28, 42, 56⟩
    vactive := .fixed 1080
    vfrontPorch := ⟨3, 8, 11⟩
    vbackPorch := ⟨5, 14, 19⟩
    vsyncLen := ⟨4, 14, 19⟩ }]
  bpc := 8
  widthMm := 293
  heightMm := 165
  delays := { prepare := 200, enable := 50, disable := 50, unprepare := 1000 }
  busFormat := some .rgb888Jeida

/-- One geometry at 60 Hz and, to save power, at 48 Hz. -/
def boeNv101wxmn51 : Description where
  name := "BOE NV101WXMN51"
  compatible := "boe,nv101wxmn51"
  modes := [
    VideoTiming.ofSpans 71900 ⟨1280, 48, 32, 80⟩ ⟨800, 3, 5, 24⟩ 60,
    VideoTiming.ofSpans 57500 ⟨1280, 48, 32, 80⟩ ⟨800, 3, 5, 24⟩ 48]
  bpc := 8
  widthMm := 217
  heightMm := 136
  delays := { prepare := 210, enable := 50, unprepare := 160 }

def edtEtm0700g0dh6 : Description where
  name := "EDT ETM0700G0DH6"
  compatible := "edt,etm0700g0dh6"
  modes := [(VideoTiming.ofSpans 33260 ⟨800, 40, 128, 88⟩ ⟨480, 10, 2, 33⟩ 60).withSync
    .activeLow .activeLow]
  bpc := 6
  widthMm := 152
  heightMm := 91
  busFormat := some .rgb666x18
  busFlags := { de := .activeHigh, pixdata := .negedge }

/-- The datasheet's least horizontal blanking is not reliable; with a sync length from 58 on, the
blanking is at least 60. -/
def hannstarHsd070pww1 : Description where
  name := "HannStar HSD070PWW1"
  compatible := "hannstar,hsd070pww1"
  timings := [{
    pixelclock := ⟨64300000, 71100000, 82000000⟩
    hactive := .fixed 1280
    hfrontPorch := ⟨1, 1, 10⟩
    hbackPorch := ⟨1, 1, 10⟩
    hsyncLen := ⟨58, 158, 661⟩
    vactive := .fixed 800
    vfrontPorch := ⟨1, 1, 10⟩
    vbackPorch := ⟨1, 1, 10⟩
    vsyncLen := ⟨1, 21, 203⟩
    flags := { de := .activeHigh } }]
  bpc := 6
  widthMm := 151
  heightMm := 94
  busFormat := some .rgb666Spwg

def panasonicVvx10f004b00 : DsiPanel where
  desc := {
    name := "Panasonic VVX10F004B00"
    compatible := "panasonic,vvx10f004b00"
    modes := [VideoTiming.ofSpans 157200 ⟨1920, 154, 16, 32⟩ ⟨1200, 17, 2, 16⟩ 60]
    bpc := 8
    widthMm := 217
    heightMm := 136 }
  link := {
    lanes := 4
    format := .rgb888
    modeFlags := { video := true, syncPulse := true, clockNonContinuous := true } }

/-- The panels on a parallel RGB or LVDS link. -/
def panels : List Description :=
  [ampireAm480272, ampireAm800480, auoB101aw03, auoB101ean01, auoB101xtn01, auoG133han01,
    boeNv101wxmn51, edtEtm0700g0dh6, hannstarHsd070pww1]

def dsiPanels : List DsiPanel := [panasonicVvx10f004b00]

def find? (compatible : String) : Option Description :=
  panels.find? fun desc => desc.compatible == compatible

def findDsi? (compatible : String) : Option DsiPanel :=
  dsiPanels.find? fun panel => panel.desc.compatible == compatible

end PanelDriver.Catalogue

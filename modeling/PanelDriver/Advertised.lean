import PanelDriver.Description

/-!
What a display host is told about a panel: every mode, and the properties that never change. A mode
is preferred when it is the only one of its list.
-/

namespace PanelDriver

structure AdvertisedMode where
  timing : VideoTiming
  preferred : Bool
  deriving DecidableEq, Repr

structure DisplayProperties where
  bpc : UInt8
  sizeMm : UInt32 × UInt32
  busFormat : Option BusFormat
  busFlags : BusFlags
  deriving DecidableEq, Repr

namespace Description

/-- The typical mode of every range, then every exact mode. -/
def advertised (desc : Description) : List AdvertisedMode :=
  desc.timings.map (fun range => ⟨range.typicalMode, desc.timings.length == 1⟩) ++
    desc.modes.map fun mode => ⟨mode, desc.modes.length == 1⟩

/-- Writes each entry over the next slot, until the entries or the slots are used up. -/
def overwrite {α : Type} : List α → List α → List α
  | _ :: slots, entry :: entries => entry :: overwrite slots entries
  | slots, _ => slots

/-- Lays the ranges over the front of `slots`, as many as there are slots, and tells how many
ranges the panel has. -/
def copyTimings (desc : Description) (slots : List DisplayTiming) : List DisplayTiming × Nat :=
  (overwrite slots desc.timings, desc.timings.length)

def displayProperties (desc : Description) : DisplayProperties :=
  ⟨desc.bpc, desc.sizeMm, desc.busFormat, desc.busFlags⟩

end Description

end PanelDriver

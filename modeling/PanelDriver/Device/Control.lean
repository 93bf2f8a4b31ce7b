import PanelDriver.Action
import PanelDriver.Error

/-!
What a panel is switched with: pins, a supply and a backlight, silent or scripted. A call that the
script lets fail records nothing and switches nothing. A supply keeps the calls made on it, and is
on when the last call it accepted was to switch on; pins and backlights keep what they were asked
for in calls that failed.
-/

namespace PanelDriver

/-- The schedule has `true` for each call that fails; a silent pin has none. A pin keeps the level
it was last driven to. -/
structure Pin where
  schedule : Option (List Bool) := none
  level : Option Bool := none
  /-- The levels of calls that failed, the newest first. -/
  refused : List Bool := []
  deriving DecidableEq, Repr

namespace Pin

def set (name : PinName) (high : Bool) : Action PanelError Pin Unit := fun pin =>
  match pin.schedule with
  | none => ⟨.ok (), { pin with level := some high }, []⟩
  | some schedule =>
    if schedule.headD false then
      ⟨.error .gpio,
        { pin with schedule := some schedule.tail, refused := high :: pin.refused }, []⟩
    else
      ⟨.ok (), { pin with schedule := some schedule.tail, level := some high }, [.pin name high]⟩

end Pin

structure SupplyScript where
  /-- Every call to switch on fails. -/
  neverOn : Bool := false
  onFailures : List Bool := []
  offFailures : List Bool := []
  deriving DecidableEq, Repr

structure SupplyCall where
  on : Bool
  accepted : Bool
  deriving DecidableEq, Repr

/-- Without a script, a supply that accepts every call in silence. The newest call comes first. -/
structure Supply where
  script : Option SupplyScript := none
  calls : List SupplyCall := []
  deriving DecidableEq, Repr

namespace SupplyScript

/-- Whether the next call to switch on or off is accepted, and the script after it. -/
def next (s : SupplyScript) : Bool → Bool × SupplyScript
  | true => (!(s.neverOn || s.onFailures.headD false), { s with onFailures := s.onFailures.tail })
  | false => (!s.offFailures.headD false, { s with offFailures := s.offFailures.tail })

end SupplyScript

namespace Supply

/-- The last accepted call, if there is one, was to switch on. -/
def lastOn : List SupplyCall → Bool
  | [] => false
  | call :: earlier => if call.accepted then call.on else lastOn earlier

def isOn (s : Supply) : Bool := lastOn s.calls

def set (on : Bool) : Action PanelError Supply Unit := fun s =>
  match s.script with
  | none => ⟨.ok (), { s with calls := ⟨on, true⟩ :: s.calls }, []⟩
  | some script =>
    match script.next on with
    | (true, script) => ⟨.ok (), ⟨some script, ⟨on, true⟩ :: s.calls⟩, [.supply on]⟩
    | (false, script) => ⟨.error .regulator, ⟨some script, ⟨on, false⟩ :: s.calls⟩, []⟩

end Supply

structure BacklightScript where
  failures : List Bool := []
  blanked : Bool := true
  /-- What calls that failed were to do, the newest first. -/
  refused : List Bool := []
  deriving DecidableEq, Repr

inductive Backlight
  | silent
  | scripted (script : BacklightScript)
  deriving DecidableEq, Repr

namespace Backlight

def blanked? : Backlight → Option Bool
  | silent => none
  | scripted s => some s.blanked

def setBlank (blank : Bool) : Action PanelError Backlight Unit
  | silent => ⟨.ok (), silent, []⟩
  | scripted s =>
    if s.failures.headD false then
      ⟨.error .backlight,
        scripted { s with failures := s.failures.tail, refused := blank :: s.refused }, []⟩
    else
      ⟨.ok (), scripted { s with failures := s.failures.tail, blanked := blank },
        [.backlight blank]⟩

end Backlight

end PanelDriver

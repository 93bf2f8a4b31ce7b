import PanelDriver.Bytes

/-!
The record of what devices were asked to do, in order. Only calls that a device carried out or put
on its wires leave an event; a silent device leaves none.
-/

namespace PanelDriver

/-- The control lines of a panel, and one spare line of a test bench. -/
inductive PinName
  | power | prepare | reset | spare
  deriving DecidableEq, Repr

inductive Event
  | dcsWrite (data : Bytes)
  | genericWrite (data : Bytes)
  | dcsRead (command : UInt8) (length : Nat)
  | genericRead (params : Bytes) (length : Nat)
  | returnSize (size : UInt16)
  | lowPower (on : Bool)
  | i2cWrite (address : UInt8) (data : Bytes)
  | i2cWriteRead (address : UInt8) (data : Bytes) (length : Nat)
  | spiWrite (data : Bytes)
  /-- A full-duplex transfer, by the bytes sent. -/
  | spiTransfer (data : Bytes)
  | delayMs (ms : UInt32)
  | delayNs (ns : UInt64)
  | supply (on : Bool)
  | backlight (blank : Bool)
  | pin (name : PinName) (high : Bool)
  deriving DecidableEq, Repr

namespace Event

def isDelay : Event → Bool
  | .delayMs _ | .delayNs _ => true
  | _ => false

/-- Everything but the delays. -/
def traffic (events : List Event) : List Event := events.filter fun e => !e.isDelay

end Event

def PinName.label : PinName → String
  | .power => "power"
  | .prepare => "prepare"
  | .reset => "reset"
  | .spare => "pin"

end PanelDriver

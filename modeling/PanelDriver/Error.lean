/-!
What can go wrong: faults that a device reports, by the family of its bus, and the errors of the
panel driver itself. A fault determines its bus, so a transfer error cannot name another one.
-/

namespace PanelDriver

inductive BusKind
  | i2c | mipi | spi
  deriving DecidableEq, Repr

inductive I2cFault
  | bus | arbitrationLoss | addressNotAcknowledged | dataNotAcknowledged | notAcknowledged
  | overrun | other
  deriving DecidableEq, Repr

inductive SpiFault
  | overrun | modeFault | frameFormat | chipSelect | other
  deriving DecidableEq, Repr

/-- `protocol` is the error report that follows a bus turnaround; it is often a stale one, which a
second read clears. -/
inductive DsiFault
  | protocol | timeout | other
  deriving DecidableEq, Repr

inductive BusFault
  | i2c (fault : I2cFault)
  | dsi (fault : DsiFault)
  | spi (fault : SpiFault)
  deriving DecidableEq, Repr

inductive PanelError
  /-- The step at `offset` runs past the end of its program. -/
  | truncated (offset : Nat)
  | unknownOpcode (offset : Nat) (op : UInt8)
  /-- More bytes than a transmit buffer or a program holds. -/
  | overflow
  /-- Whole bytes stored behind a bit count that is no multiple of eight. -/
  | misaligned
  | transfer (fault : BusFault)
  | mismatch
  /-- A device that the configuration names is not there yet. -/
  | defer
  | gpio | regulator | backlight
  | invalidConfig
  deriving DecidableEq, Repr

/-- The classes of error that a host tells apart. -/
inductive ErrorClass
  | invalidArgument | busError | mismatch | defer
  deriving DecidableEq, Repr

def BusKind.label : BusKind → String
  | .i2c => "i2c"
  | .mipi => "mipi"
  | .spi => "spi"

def I2cFault.label : I2cFault → String
  | .bus => "Bus"
  | .arbitrationLoss => "ArbitrationLoss"
  | .addressNotAcknowledged => "NoAcknowledge(Address)"
  | .dataNotAcknowledged => "NoAcknowledge(Data)"
  | .notAcknowledged => "NoAcknowledge(Unknown)"
  | .overrun => "Overrun"
  | .other => "Other"

def SpiFault.label : SpiFault → String
  | .overrun => "Overrun"
  | .modeFault => "ModeFault"
  | .frameFormat => "FrameFormat"
  | .chipSelect => "ChipSelectFault"
  | .other => "Other"

def DsiFault.label : DsiFault → String
  | .protocol => "Protocol"
  | .timeout => "Timeout"
  | .other => "Other"

def DsiFault.message : DsiFault → String
  | .protocol => "DSI protocol error report"
  | .timeout => "DSI transfer timeout"
  | .other => "DSI transfer error"

namespace BusFault

def bus : BusFault → BusKind
  | .i2c _ => .i2c
  | .dsi _ => .mipi
  | .spi _ => .spi

def label : BusFault → String
  | .i2c fault => "I2c(" ++ fault.label ++ ")"
  | .dsi fault => "Dsi(" ++ fault.label ++ ")"
  | .spi fault => "Spi(" ++ fault.label ++ ")"

end BusFault

namespace ErrorClass

def label : ErrorClass → String
  | .invalidArgument => "InvalidArgument"
  | .busError => "BusError"
  | .mismatch => "Mismatch"
  | .defer => "Defer"

end ErrorClass

namespace PanelError

/-- Two hexadecimal digits, in lower case. -/
def hexByte (byte : UInt8) : String :=
  String.ofList [Nat.digitChar (byte.toNat / 16), Nat.digitChar (byte.toNat % 16)]

def message : PanelError → String
  | .truncated offset => "Program truncated in step at byte " ++ toString offset
  | .unknownOpcode offset op =>
    "Unknown opcode 0x" ++ hexByte op ++ " at byte " ++ toString offset
  | .overflow => "Command exceeds the transmit scratch buffer"
  | .misaligned => "Byte store on a bit-packed buffer"
  | .transfer fault => fault.bus.label ++ " transfer failed: " ++ fault.label
  | .mismatch => "Read-back did not match"
  | .defer => "Required adapter not available yet"
  | .gpio => "GPIO error"
  | .regulator => "Regulator error"
  | .backlight => "Backlight error"
  | .invalidConfig => "Invalid panel configuration"

def errorClass : PanelError → ErrorClass
  | .truncated _ | .unknownOpcode _ _ | .overflow | .misaligned | .invalidConfig => .invalidArgument
  | .transfer _ | .gpio | .regulator | .backlight => .busError
  | .mismatch => .mismatch
  | .defer => .defer

/-- The error's name without its details. -/
def label : PanelError → String
  | .truncated _ => "Truncated"
  | .unknownOpcode _ _ => "UnknownOpcode"
  | .overflow => "Overflow"
  | .misaligned => "Misaligned"
  | .transfer _ => "Bus"
  | .mismatch => "Mismatch"
  | .defer => "Defer"
  | .gpio => "Gpio"
  | .regulator => "Regulator"
  | .backlight => "Backlight"
  | .invalidConfig => "InvalidConfig"

end PanelError

end PanelDriver

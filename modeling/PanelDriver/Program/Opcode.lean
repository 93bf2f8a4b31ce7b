import PanelDriver.Timing.Video

/-!
The first byte of a step. Its top bit asks for generic rather than DCS packets, and operations that
send no packet ignore it; the other seven bits choose the operation. A lane filter is matched on the
whole byte, so with the top bit set it is no opcode.
-/

namespace PanelDriver

inductive Opcode
  /-- A write of `length` bytes that follow at once. -/
  | inlineWrite (generic : Bool) (length : UInt8)
  /-- A write whose length is in the next byte. -/
  | longWrite (generic : Bool)
  /-- A write from the scratch buffer. -/
  | scratchWrite (generic : Bool)
  | delay
  | returnSize
  /-- A read of `length` bytes that are compared. -/
  | read (generic : Bool) (length : UInt8)
  | laneFilter (lanes : UInt8)
  | constant
  | timing (field : TimingField)
  deriving DecidableEq, Repr

namespace Opcode

def genericFlag : UInt8 := 0x80

/-- The longest inline write; inline writes are their own lengths. -/
def maxInline : UInt8 := 0x3b
def delayCode : UInt8 := 0x3c
def returnSizeCode : UInt8 := 0x3d
def longWriteCode : UInt8 := 0x3e
def scratchWriteCode : UInt8 := 0x3f
/-- A read of one byte; longer reads follow. -/
def readCode : UInt8 := 0x40
def maxRead : UInt8 := 8
/-- The filter for one lane; those for more lanes follow. -/
def laneFilterCode : UInt8 := 0x48
def maxLanes : UInt8 := 4
def constantCode : UInt8 := 0x4c
/-- The first timing field; the others follow in order. -/
def timingCode : UInt8 := 0x4d

def decode? (byte : UInt8) : Option Opcode :=
  let generic := byte &&& genericFlag != 0
  let code := byte &&& ~~~genericFlag
  if laneFilterCode ≤ code ∧ code < laneFilterCode + maxLanes then
    if generic then none else some (laneFilter (code - laneFilterCode + 1))
  else if code ≤ maxInline then some (inlineWrite generic code)
  else if code = delayCode then some delay
  else if code = returnSizeCode then some returnSize
  else if code = longWriteCode then some (longWrite generic)
  else if code = scratchWriteCode then some (scratchWrite generic)
  else if code < readCode + maxRead then some (read generic (code - readCode + 1))
  else if code = constantCode then some constant
  else TimingField.all[(code - timingCode).toNat]?.map timing

def flag (generic : Bool) : UInt8 := if generic then genericFlag else 0

/-- The byte of an operation. Inline writes, reads and lane filters have one only within their
bounds. -/
def encode? : Opcode → Option UInt8
  | inlineWrite generic length =>
    if length ≤ maxInline then some (length ||| flag generic) else none
  | longWrite generic => some (longWriteCode ||| flag generic)
  | scratchWrite generic => some (scratchWriteCode ||| flag generic)
  | delay => some delayCode
  | returnSize => some returnSizeCode
  | read generic length =>
    if 1 ≤ length ∧ length ≤ maxRead then some (readCode + length - 1 ||| flag generic) else none
  | laneFilter lanes =>
    if 1 ≤ lanes ∧ lanes ≤ maxLanes then some (laneFilterCode + lanes - 1) else none
  | constant => some constantCode
  | timing field => some (timingCode + .ofNat (TimingField.all.idxOf field))

/-- The step sends a payload. -/
def isWrite : Opcode → Bool
  | inlineWrite _ _ | longWrite _ | scratchWrite _ => true
  | _ => false

end Opcode

end PanelDriver

import PanelDriver.Bytes
import PanelDriver.Program.Opcode

/-!
The steps of a program, and the pieces they are written in. A short write carries its length in the
opcode, a longer one in a byte of its own; a payload of more than 255 bytes cannot be written, nor
can a read of no or more than eight bytes, nor a filter for no or more than four lanes.
-/

namespace PanelDriver

/-- What a read asks for: one DCS command byte, or two parameters of a generic request. -/
inductive Query
  | dcs (command : UInt8)
  | generic (first second : UInt8)
  deriving DecidableEq, Repr

namespace Query

def isGeneric : Query → Bool
  | dcs _ => false
  | generic _ _ => true

def bytes : Query → Bytes
  | dcs command => [command]
  | generic first second => [first, second]

end Query

inductive Step
  | write (generic : Bool) (payload : Bytes)
  /-- Sends the front of the scratch buffer. -/
  | writeScratch (generic : Bool) (length : UInt8)
  | delay (ms : UInt8)
  /-- Bounds the size of replies. -/
  | returnSize (size : UInt8)
  /-- Reads as many bytes as are expected and compares them. -/
  | read (query : Query) (expected : Bytes)
  /-- Skips the next step unless so many lanes are active. -/
  | laneFilter (lanes : UInt8)
  /-- Places `length` bits of a value into the scratch buffer from bit `start` on. -/
  | constant (start length : UInt8) (value : UInt32)
  /-- Places a field of the video timing, its lowest `dropped` bits left out. -/
  | timing (field : TimingField) (start length dropped : UInt8)
  deriving DecidableEq, Repr

namespace Step

def isFilter : Step → Bool
  | laneFilter _ => true
  | _ => false

/-- The four bytes of a word, lowest first. -/
def wordBytes (value : UInt32) : Bytes :=
  [value.toUInt8, (value >>> 8).toUInt8, (value >>> 16).toUInt8, (value >>> 24).toUInt8]

/-- The word of four bytes, lowest first. -/
def word (b0 b1 b2 b3 : UInt8) : UInt32 :=
  b0.toUInt32 ||| b1.toUInt32 <<< 8 ||| b2.toUInt32 <<< 16 ||| b3.toUInt32 <<< 24

/-- The operation of a step and the pieces of its body. -/
def parts? : Step → Option (Opcode × List Bytes)
  | write generic payload =>
    if payload.length ≤ Opcode.maxInline.toNat then
      some (.inlineWrite generic (.ofNat payload.length), [payload])
    else if payload.length ≤ 255 then
      some (.longWrite generic, [[.ofNat payload.length], payload])
    else none
  | writeScratch generic length => some (.scratchWrite generic, [[length]])
  | delay ms => some (.delay, [[ms]])
  | returnSize size => some (.returnSize, [[size]])
  | read query expected =>
    if expected.length ≤ Opcode.maxRead.toNat then
      some (.read query.isGeneric (.ofNat expected.length), [query.bytes, expected])
    else none
  | laneFilter lanes => some (.laneFilter lanes, [])
  | constant start length value => some (.constant, [[start, length], wordBytes value])
  | timing field start length dropped => some (.timing field, [[start, length, dropped]])

/-- The pieces a step is written in, the first one its opcode. -/
def pieces? (step : Step) : Option (List Bytes) :=
  match step.parts? with
  | some (op, body) => op.encode?.map fun byte => [byte] :: body
  | none => none

def encode? (step : Step) : Option Bytes := step.pieces?.map List.flatten

end Step

end PanelDriver

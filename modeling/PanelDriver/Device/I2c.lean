import PanelDriver.Action
import PanelDriver.Error

/-!
I2C masters, silent or scripted. One entry of the fault schedule belongs to each transaction; the
transaction is recorded and its buffers are filled even if it then fails.
-/

namespace PanelDriver

structure I2cScript where
  replies : List Bytes := []
  faults : List (Option I2cFault) := []
  deriving DecidableEq, Repr

/-- A part of a transaction: bytes sent, or a buffer to fill. -/
inductive I2cPart
  | write (data : Bytes)
  | read (buffer : Bytes)
  deriving DecidableEq, Repr

inductive I2cMaster
  | silent
  | scripted (script : I2cScript)
  deriving DecidableEq, Repr

namespace I2cScript

/-- The result of the next transaction, and the script after it. -/
def next (s : I2cScript) : Except I2cFault Unit × I2cScript :=
  (reported (s.faults.headD none), { s with faults := s.faults.tail })

def write (address : UInt8) (data : Bytes) : Action I2cFault I2cScript Unit := fun s =>
  ⟨s.next.1, s.next.2, [.i2cWrite address data]⟩

def writeRead (address : UInt8) (data : Bytes) : Action I2cFault (I2cScript × Bytes) Unit :=
  fun (s, buffer) =>
    ⟨s.next.1, ({ s.next.2 with replies := s.replies.tail },
      Bytes.fit buffer.length (s.replies.headD [])), [.i2cWriteRead address data buffer.length]⟩

/-- Goes through the parts of a transaction: a read is recorded together with the bytes sent last
before it, and bytes sent after all reads as a write of their own. -/
def runParts (address : UInt8) :
    Option Bytes → List Bytes → List I2cPart → List I2cPart × List Bytes × List Event
  | none, replies, [] => ([], replies, [])
  | some data, replies, [] => ([], replies, [.i2cWrite address data])
  | _, replies, .write data :: rest =>
    let (parts, left, events) := runParts address (some data) replies rest
    (.write data :: parts, left, events)
  | sent, replies, .read buffer :: rest =>
    let (parts, left, events) := runParts address none replies.tail rest
    (.read (Bytes.fit buffer.length (replies.headD [])) :: parts, left,
      .i2cWriteRead address (sent.getD []) buffer.length :: events)

def transaction (address : UInt8) : Action I2cFault (I2cScript × List I2cPart) Unit :=
  fun (s, parts) =>
    let (parts, left, events) := runParts address none s.replies parts
    ⟨s.next.1, ({ s.next.2 with replies := left }, parts), events⟩

/-- A write is the transaction of one part. -/
theorem transaction_write (address : UInt8) (data : Bytes) (s : I2cScript) :
    transaction address (s, [.write data]) =
      ⟨(write address data s).result, ((write address data s).state, [.write data]),
        (write address data s).events⟩ := rfl

/-- A write and a read in one are the transaction of those two parts. -/
theorem transaction_writeRead (address : UInt8) (data buffer : Bytes) (s : I2cScript) :
    transaction address (s, [.write data, .read buffer]) =
      ⟨(writeRead address data (s, buffer)).result,
        ((writeRead address data (s, buffer)).state.1,
          [.write data, .read (writeRead address data (s, buffer)).state.2]),
        (writeRead address data (s, buffer)).events⟩ := rfl

end I2cScript

namespace I2cMaster

def write (address : UInt8) (data : Bytes) : Action I2cFault I2cMaster Unit
  | silent => ⟨.ok (), silent, []⟩
  | scripted s =>
    let o := I2cScript.write address data s
    ⟨o.result, scripted o.state, o.events⟩

/-- Sends `data` and fills a buffer after a repeated start. -/
def writeRead (address : UInt8) (data : Bytes) : Action I2cFault (I2cMaster × Bytes) Unit
  | (silent, buffer) => ⟨.ok (), (silent, buffer), []⟩
  | (scripted s, buffer) =>
    let o := I2cScript.writeRead address data (s, buffer)
    ⟨o.result, (scripted o.state.1, o.state.2), o.events⟩

end I2cMaster

end PanelDriver

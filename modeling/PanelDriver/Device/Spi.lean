import PanelDriver.Action
import PanelDriver.Error

/-!
SPI devices, silent or scripted, with a fault schedule as on I2C. A transfer fills its whole receive
window from the script; a silent device leaves the window as it is.
-/

namespace PanelDriver

structure SpiScript where
  replies : List Bytes := []
  faults : List (Option SpiFault) := []
  deriving DecidableEq, Repr

inductive SpiPart
  | write (data : Bytes)
  /-- Sends bytes while filling a window. -/
  | transfer (window sent : Bytes)
  /-- Sends bytes and puts what comes back into their place. -/
  | exchange (data : Bytes)
  | read (window : Bytes)
  | delayNs (ns : UInt32)
  deriving DecidableEq, Repr

inductive SpiDevice
  | silent
  | scripted (script : SpiScript)
  deriving DecidableEq, Repr

namespace SpiScript

/-- The result of the next transaction, and the script after it. -/
def next (s : SpiScript) : Except SpiFault Unit × SpiScript :=
  (reported (s.faults.headD none), { s with faults := s.faults.tail })

def write (data : Bytes) : Action SpiFault SpiScript Unit := fun s =>
  ⟨s.next.1, s.next.2, [.spiWrite data]⟩

def transfer (sent : Bytes) : Action SpiFault (SpiScript × Bytes) Unit := fun (s, window) =>
  ⟨s.next.1, ({ s.next.2 with replies := s.replies.tail },
    Bytes.fit window.length (s.replies.headD [])), [.spiTransfer sent]⟩

/-- Goes through the parts of a transaction. Reading without sending is not recorded. -/
def runParts : List Bytes → List SpiPart → List SpiPart × List Bytes × List Event
  | replies, [] => ([], replies, [])
  | replies, .write data :: rest =>
    let (parts, left, events) := runParts replies rest
    (.write data :: parts, left, .spiWrite data :: events)
  | replies, .transfer window sent :: rest =>
    let (parts, left, events) := runParts replies.tail rest
    (.transfer (Bytes.fit window.length (replies.headD [])) sent :: parts, left,
      .spiTransfer sent :: events)
  | replies, .exchange data :: rest =>
    let (parts, left, events) := runParts replies.tail rest
    (.exchange (Bytes.fit data.length (replies.headD [])) :: parts, left,
      .spiTransfer data :: events)
  | replies, .read window :: rest =>
    let (parts, left, events) := runParts replies.tail rest
    (.read (Bytes.fit window.length (replies.headD [])) :: parts, left, events)
  | replies, .delayNs ns :: rest =>
    let (parts, left, events) := runParts replies rest
    (.delayNs ns :: parts, left, .delayNs ns.toUInt64 :: events)

def transaction : Action SpiFault (SpiScript × List SpiPart) Unit := fun (s, parts) =>
  let (parts, left, events) := runParts s.replies parts
  ⟨s.next.1, ({ s.next.2 with replies := left }, parts), events⟩

/-- A write is the transaction of one part. -/
theorem transaction_write (data : Bytes) (s : SpiScript) :
    transaction (s, [.write data]) =
      ⟨(write data s).result, ((write data s).state, [.write data]), (write data s).events⟩ := rfl

/-- A transfer is the transaction of one part. -/
theorem transaction_transfer (sent window : Bytes) (s : SpiScript) :
    transaction (s, [.transfer window sent]) =
      ⟨(transfer sent (s, window)).result,
        ((transfer sent (s, window)).state.1,
          [.transfer (transfer sent (s, window)).state.2 sent]),
        (transfer sent (s, window)).events⟩ := rfl

end SpiScript

namespace SpiDevice

def write (data : Bytes) : Action SpiFault SpiDevice Unit
  | silent => ⟨.ok (), silent, []⟩
  | scripted s =>
    let o := SpiScript.write data s
    ⟨o.result, scripted o.state, o.events⟩

/-- Sends `sent` while filling a window of the same length. -/
def transfer (sent : Bytes) : Action SpiFault (SpiDevice × Bytes) Unit
  | (silent, window) => ⟨.ok (), (silent, window), []⟩
  | (scripted s, window) =>
    let o := SpiScript.transfer sent (s, window)
    ⟨o.result, (scripted o.state.1, o.state.2), o.events⟩

end SpiDevice

end PanelDriver

import PanelDriver.Packer

/-!
The packer as it lies in memory: bytes to be sent, bytes received, and how many bits wait. A bit is
written over what an older stream has left in its place, and so are the ones that fill up the last
byte of a frame, which lie beyond the waiting bits. Sizes are numbers of 64 bits. Where an index
lies outside of a buffer there is no result; no sequence of calls gets there.
-/

namespace PanelDriver

/-! ## Sizes -/

namespace Size

/-- The largest number of 64 bits. -/
def max : Nat := 0xffffffffffffffff

def checked (n : Nat) : Option Nat := if n ≤ max then some n else none

def saturated (n : Nat) : Nat := min n max

end Size

/-! ## Bits in their places -/

namespace Bits

/-- A one at place `n % 8` of a byte, counted from its highest bit. -/
def mask (n : Nat) : UInt8 := 0x80 >>> UInt8.ofNat (n % 8)

def isSet (b : UInt8) (n : Nat) : Bool := b &&& mask n != 0

def set (b : UInt8) (n : Nat) (bit : Bool) : UInt8 :=
  if bit then b ||| mask n else b &&& ~~~mask n

end Bits

structure BitBuffer where
  sent : Vector UInt8 64 := .replicate 64 0
  window : Vector UInt8 64 := .replicate 64 0
  cursor : Nat := 0
  deriving DecidableEq, Repr

namespace BitBuffer

def isEmpty (b : BitBuffer) : Bool := b.cursor == 0

def fits (b : BitBuffer) (bits : Nat) : Bool :=
  (Size.checked (b.cursor + bits)).any (· ≤ Packer.capacity)

/-- Old bytes stay where they are. -/
def reset (b : BitBuffer) : BitBuffer := { b with cursor := 0 }

/-! ## Storing -/

def putBit (b : BitBuffer) (bit : Bool) : Option BitBuffer :=
  if h : b.cursor / 8 < 64 then
    some { b with
      sent := b.sent.set (b.cursor / 8) (Bits.set b.sent[b.cursor / 8] b.cursor bit)
      cursor := b.cursor + 1 }
  else none

/-- The highest bit first. -/
def putByte (b : BitBuffer) (value : UInt8) : Option BitBuffer :=
  [7, 6, 5, 4, 3, 2, 1, 0].foldlM (fun b shift => b.putBit (value >>> shift &&& 1 != 0)) b

def putOnes : Nat → BitBuffer → Option BitBuffer
  | 0, b => some b
  | n + 1, b => do putOnes n (← b.putBit true)

/-- Bytes behind a tag each, when `tag` comes before the first one; later tags are ones. -/
def putTagged : Bool → Bytes → BitBuffer → Option BitBuffer
  | _, [], b => some b
  | tag, value :: rest, b => do putTagged true rest (← (← b.putBit tag).putByte value)

/-- Lays bytes over a buffer from `start` on. -/
def overlay (start : Nat) (bytes : Bytes) (buffer : Vector UInt8 64) : Option (Vector UInt8 64) :=
  if start + bytes.length ≤ 64 then
    some (.ofFn fun i =>
      if start ≤ i.val then (bytes[i.val - start]?).getD (buffer.get i) else buffer.get i)
  else none

/-- Whole bytes, which must start where a byte starts. -/
def storeBytes (b : BitBuffer) (bytes : Bytes) : Option (Except PanelError Unit × BitBuffer) :=
  if b.cursor % 8 ≠ 0 then some (.error .misaligned, b)
  else if b.fits (Size.saturated (bytes.length * 8)) then do
    let sent ← overlay (b.cursor / 8) bytes b.sent
    some (.ok (), { b with sent, cursor := b.cursor + bytes.length * 8 })
  else some (.error .overflow, b)

/-- One command in nine-bit framing. -/
def storeNineBit (b : BitBuffer) (bytes : Bytes) : Option (Except PanelError Unit × BitBuffer) :=
  if b.fits (Size.saturated (bytes.length * Packer.nineBitWidth)) then do
    some (.ok (), ← putTagged false bytes b)
  else some (.error .overflow, b)

def storeOnes (b : BitBuffer) (bits : Nat) : Option (Except PanelError Unit × BitBuffer) :=
  if b.fits bits then do some (.ok (), ← putOnes bits b)
  else some (.error .overflow, b)

/-! ## Frames -/

/-- Bytes of the frame. -/
def frameLength (b : BitBuffer) : Nat := (b.cursor + 7) / 8

/-- Ones behind the waiting bits, up to the end of the last byte; they do not wait. -/
def pad (b : BitBuffer) : Option BitBuffer := do
  let filled ← putOnes (b.frameLength * 8 - b.cursor) b
  some { filled with cursor := b.cursor }

/-- The first bytes of a buffer. -/
def front (length : Nat) (buffer : Vector UInt8 64) : Option Bytes :=
  if length ≤ 64 then some (buffer.toList.take length) else none

def frame (b : BitBuffer) : Option (Bytes × BitBuffer) := do
  let filled ← b.pad
  some (← front filled.frameLength filled.sent, filled)

/-- The frame, and a part of the window that is as long, into which `incoming` is put as far as it
fits. -/
def exchange (b : BitBuffer) (incoming : Bytes) : Option ((Bytes × Bytes) × BitBuffer) := do
  let (frame, filled) ← b.frame
  let window ← overlay 0 (incoming.take filled.frameLength) filled.window
  some ((frame, ← front filled.frameLength window), { filled with window })

/-! ## The window -/

/-- Puts bytes into the window from `start` on; what lies beyond its end is dropped. -/
def receive (b : BitBuffer) (start : Nat) (bytes : Bytes) : Option BitBuffer := do
  some { b with window := ← overlay (min start 64) (bytes.take (64 - start)) b.window }

def windowBit (b : BitBuffer) (n : Nat) : Option Bool :=
  (b.window[n / 8]?).map (Bits.isSet · n)

/-- Eight bits, each put behind those before it. -/
def windowByte (b : BitBuffer) (start : Nat) : Option UInt8 :=
  (List.range 8).foldlM (fun value k => do
    let bit ← b.windowBit (start + k)
    some (value <<< 1 ||| bit.toUInt8)) 0

/-- `length` bytes out of the window from bit `start` on. -/
def extract (b : BitBuffer) (start length : Nat) : Option (Except PanelError Bytes) :=
  match (Size.checked (length * 8)).bind fun bits => Size.checked (bits + start) with
  | none => some (.error .overflow)
  | some last =>
    if Packer.capacity < last then some (.error .overflow)
    else ((List.range length).mapM fun j => b.windowByte (start + 8 * j)).map .ok

/-- Bytes out of the window from bit `start` on, one for each place of a destination. -/
def copyOut (b : BitBuffer) : Nat → Bytes → Option Bytes
  | _, [] => some []
  | start, _ :: rest => do some ((← b.windowByte start) :: (← copyOut b (start + 8) rest))

/-- Copies bytes out of the window over a destination. -/
def extractInto (b : BitBuffer) (start : Nat) (destination : Bytes) :
    Option (Except PanelError Unit × Bytes) :=
  match (Size.checked (destination.length * 8)).bind fun bits => Size.checked (bits + start) with
  | none => some (.error .overflow, destination)
  | some last =>
    if Packer.capacity < last then some (.error .overflow, destination)
    else (b.copyOut start destination).map fun bytes => (.ok (), bytes)

end BitBuffer

/-! ## Calls -/

/-- A call on a packer. -/
inductive PackerCall
  | storeBytes (bytes : Bytes)
  | storeNineBit (bytes : Bytes)
  | storeOnes (bits : Nat)
  | fits (bits : Nat)
  | reset
  | frame
  | exchange (incoming : Bytes)
  | receive (start : Nat) (bytes : Bytes)
  | extract (start length : Nat)
  deriving DecidableEq, Repr

inductive PackerAnswer
  | done
  | stored (result : Except PanelError Unit)
  | fits (room : Bool)
  | frame (bytes : Bytes)
  | exchanged (sent received : Bytes)
  | extracted (result : Except PanelError Bytes)
  deriving Repr

def BitBuffer.call (b : BitBuffer) : PackerCall → Option (PackerAnswer × BitBuffer)
  | .storeBytes bytes => do
    let (result, b) ← b.storeBytes bytes
    some (.stored result, b)
  | .storeNineBit bytes => do
    let (result, b) ← b.storeNineBit bytes
    some (.stored result, b)
  | .storeOnes bits => do
    let (result, b) ← b.storeOnes bits
    some (.stored result, b)
  | .fits bits => some (.fits (b.fits bits), b)
  | .reset => some (.done, b.reset)
  | .frame => do
    let (frame, b) ← b.frame
    some (.frame frame, b)
  | .exchange incoming => do
    let ((sent, received), b) ← b.exchange incoming
    some (.exchanged sent received, b)
  | .receive start bytes => do some (.done, ← b.receive start bytes)
  | .extract start length => do some (.extracted (← b.extract start length), b)

namespace Packer

/-- A store that is refused changes nothing. -/
def afterStore (p : Packer) : Except PanelError Packer → PackerAnswer × Packer
  | .ok q => (.stored (.ok ()), q)
  | .error e => (.stored (.error e), p)

def call (p : Packer) : PackerCall → PackerAnswer × Packer
  | .storeBytes bytes => p.afterStore (p.pushBytes bytes)
  | .storeNineBit bytes => p.afterStore (p.pushNineBit bytes)
  | .storeOnes bits => p.afterStore (p.pushOnes bits)
  | .fits bits => (.fits (p.fits bits), p)
  | .reset => (.done, p.reset)
  | .frame => (.frame p.frame, p)
  | .exchange incoming =>
    let filled := p.receive 0 (incoming.take p.frameLength)
    (.exchanged p.frame filled.received, filled)
  | .receive start bytes => (.done, p.receive start bytes)
  | .extract start length => (.extracted (p.readWindow start length), p)

end Packer

end PanelDriver

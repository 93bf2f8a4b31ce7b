import PanelDriver.Bits
import PanelDriver.Error

/-!
Bits waiting to be sent, and the window that received bytes are put into. Nine-bit framing sets a
bit before every byte, so what waits need not end at a byte; a frame fills its last byte up with
ones. Neither a frame nor a refused store changes the waiting bits, and emptying them leaves the
window as it is.
-/

namespace PanelDriver

structure Packer where
  pending : List Bool := []
  window : Vector UInt8 64 := .replicate 64 0
  deriving DecidableEq, Repr

namespace Packer

/-- Bytes in the receive window, and in the longest frame. -/
def windowBytes : Nat := 64

/-- Bits that can wait. -/
def capacity : Nat := windowBytes * 8

/-- Bits that a byte takes up in nine-bit framing. -/
def nineBitWidth : Nat := 9

def cursor (p : Packer) : Nat := p.pending.length

def isEmpty (p : Packer) : Bool := p.cursor == 0

def fits (p : Packer) (bits : Nat) : Bool := p.cursor + bits ≤ capacity

def reset (p : Packer) : Packer := { p with pending := [] }

def store (p : Packer) (bits : List Bool) : Except PanelError Packer :=
  if p.fits bits.length then .ok { p with pending := p.pending ++ bits } else .error .overflow

/-- Whole bytes, which must start where a byte starts. -/
def pushBytes (p : Packer) (bytes : Bytes) : Except PanelError Packer :=
  if p.cursor % 8 = 0 then p.store (Bits.ofBytes bytes) else .error .misaligned

/-- One command in nine-bit framing: the bit before the first byte is zero, before others one. -/
def nineBit : Bytes → List Bool
  | [] => []
  | command :: data => false :: Bits.ofByte command ++ data.flatMap fun b => true :: Bits.ofByte b

def pushNineBit (p : Packer) (bytes : Bytes) : Except PanelError Packer := p.store (nineBit bytes)

/-- Ones, for as long as the other side is sending. -/
def pushOnes (p : Packer) (bits : Nat) : Except PanelError Packer :=
  if p.fits bits then .ok { p with pending := p.pending ++ List.replicate bits true }
  else .error .overflow

/-- Bytes of the frame. -/
def frameLength (p : Packer) : Nat := (p.cursor + 7) / 8

/-- The waiting bits as bytes. -/
def frame (p : Packer) : Bytes :=
  (List.range p.frameLength).map fun i => Bits.byte fun k => p.pending.getD (8 * i + k) true

/-- The part of the window that a transfer of the frame fills. -/
def received (p : Packer) : Bytes := p.window.toList.take p.frameLength

/-- Puts bytes into the window from `start` on; what lies beyond its end is dropped. -/
def receive (p : Packer) (start : Nat) (bytes : Bytes) : Packer :=
  { p with window := .ofFn fun i =>
      if start ≤ i.val then (bytes[i.val - start]?).getD p.window[i] else p.window[i] }

def windowBit (p : Packer) (n : Nat) : Bool :=
  (p.window[n / 8]?.getD 0).toNat.testBit (7 - n % 8)

/-- `length` bytes out of the window from bit `start` on. -/
def readWindow (p : Packer) (start length : Nat) : Except PanelError Bytes :=
  if start + 8 * length ≤ capacity then
    .ok ((List.range length).map fun j => Bits.byte fun k => p.windowBit (start + 8 * j + k))
  else .error .overflow

@[simp] theorem cursor_reset (p : Packer) : p.reset.cursor = 0 := rfl

theorem store_eq (p : Packer) (bits : List Bool) :
    p.store bits = if p.pending.length + bits.length ≤ 512 then
      .ok { p with pending := p.pending ++ bits } else .error .overflow := by
  have hfits : p.fits bits.length = true ↔ p.pending.length + bits.length ≤ 512 :=
    decide_eq_true_iff
  simp only [store, hfits]

@[simp] theorem length_frame (p : Packer) : p.frame.length = p.frameLength := by simp [frame]

@[simp] theorem length_received (p : Packer) : p.received.length = min p.frameLength 64 := by
  simp [received]

theorem length_nineBit (bytes : Bytes) : (nineBit bytes).length = 9 * bytes.length := by
  have tagged (data : Bytes) : (data.flatMap fun b => true :: Bits.ofByte b).length =
      9 * data.length := by
    induction data with
    | nil => rfl
    | cons b rest ih =>
      simp only [List.flatMap_cons, List.length_append, List.length_cons, Bits.length_ofByte, ih]
      omega
  cases bytes with
  | nil => rfl
  | cons command data =>
    simp only [nineBit, List.cons_append, List.length_cons, List.length_append, Bits.length_ofByte,
      tagged]
    omega

end Packer

end PanelDriver

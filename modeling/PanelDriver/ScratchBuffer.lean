import PanelDriver.BitBuffer
import PanelDriver.Scratch
import PanelDriver.Timing.Video

/-!
The scratch buffer as it lies in memory. A value is placed in rounds, one for each byte that it
touches: a round puts as many of the value's lowest bits into the byte as it has room for, and drops
them from the value. The rounds end when no bits are left to be placed, or behind the last byte; as each
places at least one bit, they do end. There is no result where a word is shifted by its whole width
or more, or where a mask is no byte; no placement gets there.
-/

namespace PanelDriver

/-! ## Words -/

namespace Word

/-- Words are shifted by less than their width. -/
def shiftLeft (word amount : UInt32) : Option UInt32 :=
  if amount < 32 then some (word <<< amount) else none

def shiftRight (word amount : UInt32) : Option UInt32 :=
  if amount < 32 then some (word >>> amount) else none

/-- The byte that a word is. -/
def toByte (word : UInt32) : Option UInt8 := if word < 256 then some word.toUInt8 else none

end Word

/-! ## Rounds -/

abbrev ScratchBuffer := Vector UInt8 32

/-- A value that is being placed: where its next bit goes, how many bits are left to be placed, and
the value without those that are. -/
structure Placing where
  buffer : ScratchBuffer
  bit : Nat
  remaining : UInt32
  value : UInt32
  deriving DecidableEq, Repr

namespace Placing

/-- Where the next bit lies in its byte. -/
def shift (p : Placing) : UInt32 := .ofNat (p.bit % 8)

/-- How many bits a round places: those left, as far as the byte has room for them. -/
def width (p : Placing) : UInt32 := min (Saturating.sub 8 p.shift) p.remaining

/-- One round, on the byte of the next bit. -/
def round (p : Placing) (h : p.bit / 8 < 32) : Option Placing := do
  let mask ← Word.shiftLeft (← Word.shiftRight 0xff (Saturating.sub 8 p.width)) p.shift
  let bits := (← Word.shiftLeft p.value p.shift) &&& mask
  let byte := p.buffer[p.bit / 8] &&& ~~~(← Word.toByte mask) ||| (← Word.toByte bits)
  some {
    buffer := p.buffer.set (p.bit / 8) byte
    bit := Size.saturated (p.bit + p.width.toNat)
    remaining := Saturating.sub p.remaining p.width
    value := (Word.shiftRight p.value p.width).getD 0 }

theorem toNat_shift (p : Placing) : p.shift.toNat = p.bit % 8 :=
  UInt32.toNat_ofNat_of_lt' (Nat.lt_trans (Nat.mod_lt _ (by decide)) (by decide : 8 < UInt32.size))

theorem toNat_width (p : Placing) : p.width.toNat = min (8 - p.bit % 8) p.remaining.toNat := by
  have hroom : (Saturating.sub 8 p.shift).toNat = 8 - p.bit % 8 := by
    rw [Saturating.toNat_sub, toNat_shift]
    rfl
  rw [← hroom]
  show (if Saturating.sub 8 p.shift ≤ p.remaining then _ else _ : UInt32).toNat = _
  split
  · next h => exact (Nat.min_eq_left (UInt32.le_iff_toNat_le.mp h)).symm
  · next h =>
    exact (Nat.min_eq_right (Nat.le_of_not_le fun hle => h (UInt32.le_iff_toNat_le.mpr hle))).symm

/-- There is room for a bit in every byte. -/
theorem remaining_lt_of_round {p q : Placing} {h : p.bit / 8 < 32} (hround : p.round h = some q)
    (hleft : 0 < p.remaining) : q.remaining.toNat < p.remaining.toNat := by
  have hpos : 0 < p.remaining.toNat := UInt32.lt_iff_toNat_lt.mp hleft
  simp only [round, Option.bind_eq_bind, Option.bind_eq_some_iff] at hround
  obtain ⟨_, -, _, -, _, -, _, -, _, -, hq⟩ := hround
  rw [← Option.some.inj hq, Saturating.toNat_sub, toNat_width]
  omega

/-- All rounds. -/
def rounds (p : Placing) : Option ScratchBuffer :=
  if _ : 0 < p.remaining then
    if h : p.bit / 8 < 32 then
      match _ : p.round h with
      | some q => q.rounds
      | none => none
    else some p.buffer
  else some p.buffer
termination_by p.remaining.toNat
decreasing_by exact remaining_lt_of_round ‹p.round h = some q› ‹0 < p.remaining›

end Placing

/-- Puts the lowest `length` bits of `value` at bit `start`. -/
def ScratchBuffer.place (buffer : ScratchBuffer) (start length : UInt8) (value : UInt32) :
    Option ScratchBuffer :=
  Placing.rounds ⟨buffer, start.toNat, length.toUInt32, value⟩

end PanelDriver

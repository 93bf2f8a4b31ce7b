import PanelDriver.Bytes

/-!
The scratch buffer of a program: 256 bits in 32 bytes, bit 0 the lowest of the first byte.
Placing a value replaces a run of bits and drops what would lie beyond the end.
-/

namespace PanelDriver

abbrev Scratch := BitVec 256

namespace Scratch

def byteCount : Nat := 32
def bitCount : Nat := 8 * byteCount

/-- Ones at the `length` bits from `start` on. -/
def mask (start length : Nat) : Scratch := (BitVec.allOnes 256 >>> (256 - length)) <<< start

/-- Puts the lowest `length` bits of `value` at bit `start`; a value has zeros beyond its bits. -/
def place (s : Scratch) (start length : UInt8) (value : UInt32) : Scratch :=
  let mask := mask start.toNat length.toNat
  (s &&& ~~~mask) ||| ((value.toBitVec.setWidth 256 <<< start.toNat) &&& mask)

def toBytes (s : Scratch) : Bytes :=
  (List.range byteCount).map fun i => .ofBitVec (s.extractLsb' (8 * i) 8)

/-- The buffer that starts with `bytes` and is zero after them. -/
def ofBytes (bytes : Bytes) : Scratch :=
  bytes.foldr (fun b rest => rest <<< 8 ||| b.toBitVec.setWidth 256) 0

@[simp] theorem length_toBytes (s : Scratch) : s.toBytes.length = 32 := by
  simp [toBytes, byteCount]

end Scratch

end PanelDriver

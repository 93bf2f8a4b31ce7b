/-!
Byte strings, the one way in which a device's reply is laid into a buffer, which is to cut it off at
the buffer's end or to fill it up with zeros, and the comparison of short replies as numbers.
-/

namespace PanelDriver

abbrev Bytes := List UInt8

namespace Bytes

def zeros (n : Nat) : Bytes := List.replicate n 0

/-- The first `n` bytes of `data`, with zeros where `data` is too short. -/
def fit (n : Nat) (data : Bytes) : Bytes := data.take n ++ zeros (n - data.length)

/-- The first `n` bytes, provided that there are so many. -/
def take? (n : Nat) (data : Bytes) : Option Bytes :=
  if n ≤ data.length then some (data.take n) else none

/-- Bytes as a number, the lowest byte first. -/
def number (data : Bytes) : UInt64 := data.foldr (fun b rest => b.toUInt64 + 256 * rest) 0

/-- Whether the first eight bytes are other numbers; where bytes are missing, they are zeros. -/
def differ (data other : Bytes) : Bool := number (fit 8 data) != number (fit 8 other)

@[simp] theorem length_zeros (n : Nat) : (zeros n).length = n := by simp [zeros]

@[simp] theorem length_fit (n : Nat) (data : Bytes) : (fit n data).length = n := by
  simp [fit]; omega

theorem take?_eq_some_iff {n : Nat} {data front : Bytes} :
    take? n data = some front ↔ front.length = n ∧ ∃ rest, data = front ++ rest := by
  unfold take?
  constructor
  · intro h
    split at h <;> simp at h
    subst h
    exact ⟨by simp; omega, data.drop n, by simp⟩
  · rintro ⟨rfl, rest, rfl⟩
    simp

end Bytes

end PanelDriver

import PanelDriver.Bytes

/-!
Bytes as runs of eight bits, the most significant bit first.
-/

namespace PanelDriver.Bits

/-- The byte of eight bits, the first one worth 128. -/
def byte (bit : Nat → Bool) : UInt8 :=
  .ofNat ((List.range 8).foldl (fun value k => 2 * value + (bit k).toNat) 0)

def ofByte (b : UInt8) : List Bool := (List.range 8).map fun k => b.toNat.testBit (7 - k)

def ofBytes (bytes : Bytes) : List Bool := bytes.flatMap ofByte

@[simp] theorem length_ofByte (b : UInt8) : (ofByte b).length = 8 := by simp [ofByte]

@[simp] theorem length_ofBytes (bytes : Bytes) : (ofBytes bytes).length = 8 * bytes.length := by
  induction bytes with
  | nil => rfl
  | cons b rest ih =>
    simp only [ofBytes, List.flatMap_cons, List.length_append, length_ofByte] at ih ⊢
    simp only [List.length_cons]; omega

theorem ofByte_byte (bit : Nat → Bool) : ofByte (byte bit) = (List.range 8).map bit := by
  have all : ∀ b0 b1 b2 b3 b4 b5 b6 b7 : Bool,
      ofByte (.ofNat ([b0, b1, b2, b3, b4, b5, b6, b7].foldl
        (fun value b => 2 * value + b.toNat) 0)) = [b0, b1, b2, b3, b4, b5, b6, b7] := by
    decide +kernel
  exact all (bit 0) (bit 1) (bit 2) (bit 3) (bit 4) (bit 5) (bit 6) (bit 7)

theorem byte_ofByte (b : UInt8) : (byte fun k => (ofByte b).getD k true) = b := by
  have all : ∀ n < 256, (byte fun k => (ofByte (.ofNat n)).getD k true) = .ofNat n := by
    decide +kernel
  have hn : b.toNat < 256 := b.toNat_lt
  simpa using all b.toNat hn

theorem byte_congr {f g : Nat → Bool} (h : ∀ k < 8, f k = g k) : byte f = byte g := by
  have hlist : (List.range 8).map f = (List.range 8).map g :=
    List.map_congr_left fun k hk => h k (List.mem_range.mp hk)
  have hbytes : ofByte (byte f) = ofByte (byte g) := by rw [ofByte_byte, ofByte_byte, hlist]
  rw [← byte_ofByte (byte f), hbytes, byte_ofByte]

/-- Runs of eight bits, one after another, are one long run. -/
theorem flatMap_range_eight {α : Type} (f : Nat → α) (n : Nat) :
    ((List.range n).flatMap fun i => (List.range 8).map fun k => f (8 * i + k)) =
      (List.range (8 * n)).map f := by
  induction n with
  | zero => rfl
  | succ n ih =>
    have hrange : List.range (n + 1) = List.range n ++ [n] := List.range_succ
    rw [hrange, List.flatMap_append, ih, Nat.mul_succ, List.range_add, List.map_append]
    simp

end PanelDriver.Bits

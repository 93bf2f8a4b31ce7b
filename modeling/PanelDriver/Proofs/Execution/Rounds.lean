import PanelDriver.Proofs.Execution.LastWrite
import PanelDriver.ScratchBuffer

/-!
Placing a value in the scratch buffer as it lies in memory. A round puts the value's lowest bits
into one byte and keeps the other bits of the buffer (`Placing.round_eq`); what is left of the value
is what the later rounds have to place. So all rounds together replace just the bits between the
start and the end of the placement, as far as the buffer has them (`place_bits`).
-/

namespace PanelDriver

/-! ## One byte -/

namespace Word

theorem toByte_of_lt {word : UInt32} (h : word.toNat < 256) :
    toByte word = some word.toUInt8 ∧ word.toUInt8.toNat = word.toNat :=
  ⟨if_pos (UInt32.lt_iff_toNat_lt.mpr h), by rw [UInt32.toNat_toUInt8, Nat.mod_eq_of_lt h]⟩

/-- Ones at `width` bits of a byte, from bit `shift` on. -/
theorem exists_mask {shift width : UInt32} (h : shift.toNat < 8)
    (hwidth : shift.toNat + width.toNat ≤ 8) :
    ∃ mask, (shiftRight 0xff (Saturating.sub 8 width)).bind (shiftLeft · shift) = some mask ∧
      mask.toNat < 256 ∧ ∀ k < 8,
        mask.toNat.testBit k = decide (shift.toNat ≤ k ∧ k < shift.toNat + width.toNat) := by
  have all : ∀ shift < 8, ∀ width < 9, shift + width ≤ 8 →
      let mask := (0xff : UInt32) >>> Saturating.sub 8 (.ofNat width) <<< .ofNat shift
      (shiftRight 0xff (Saturating.sub 8 (.ofNat width))).bind (shiftLeft · (.ofNat shift)) =
        some mask ∧ mask.toNat < 256 ∧
      ∀ k < 8, mask.toNat.testBit k = decide (shift ≤ k ∧ k < shift + width) := by
    decide
  have hmask := all shift.toNat h width.toNat (by omega) hwidth
  simp only [UInt32.ofNat_toNat] at hmask
  exact ⟨_, hmask⟩

theorem shiftLeft_of_lt (word : UInt32) {shift : UInt32} (h : shift.toNat < 8) :
    ∃ shifted, shiftLeft word shift = some shifted ∧ ∀ k < 8, shifted.toNat.testBit k =
      (decide (shift.toNat ≤ k) && word.toNat.testBit (k - shift.toNat)) := by
  have hlt : shift < 32 := by
    rw [UInt32.lt_iff_toNat_lt]
    exact Nat.lt_trans h (by decide)
  refine ⟨_, if_pos hlt, fun k hk => ?_⟩
  have hword : k < 32 := by omega
  have hmod : shift.toNat % 32 = shift.toNat := by omega
  rw [UInt32.toNat_shiftLeft, hmod, Nat.testBit_mod_two_pow, Nat.testBit_shiftLeft,
    decide_eq_true hword, Bool.true_and]

end Word

/-- A byte with the bits under a mask replaced. -/
theorem testBit_merge (byte mask bits : UInt8) {k : Nat} (hk : k < 8) :
    (byte &&& ~~~mask ||| bits).toNat.testBit k =
      (byte.toNat.testBit k && !mask.toNat.testBit k || bits.toNat.testBit k) := by
  have hnot : (~~~mask).toNat.testBit k = !mask.toNat.testBit k := by
    have hsub : (~~~mask).toNat = 2 ^ 8 - (mask.toNat + 1) := by
      rw [UInt8.toNat_not]
      simp only [UInt8.size]
      omega
    rw [hsub, Nat.testBit_two_pow_sub_succ mask.toNat_lt, decide_eq_true hk, Bool.true_and]
  rw [UInt8.toNat_or, Nat.testBit_or, UInt8.toNat_and, Nat.testBit_and, hnot]

/-! ## Rounds -/

namespace ScratchBuffer

def bit (buffer : ScratchBuffer) (n : Nat) : Bool := Bytes.bit buffer.toList n

theorem bit_set (buffer : ScratchBuffer) {i : Nat} (hi : i < 32) (byte : UInt8) (n : Nat) :
    bit (buffer.set i byte) n = if n / 8 = i then byte.toNat.testBit (n % 8) else buffer.bit n := by
  have hlength : i < buffer.toList.length := by simpa using hi
  rw [bit, Bytes.bit, Vector.toList_set, List.getD_eq_getElem?_getD]
  split
  · next h =>
    rw [h, List.getElem?_set_self hlength]
    rfl
  · next h =>
    rw [List.getElem?_set_ne (Ne.symm h), ← List.getD_eq_getElem?_getD]
    rfl

theorem testBit_getElem (buffer : ScratchBuffer) {n : Nat} (hn : n / 8 < 32) :
    buffer[n / 8].toNat.testBit (n % 8) = buffer.bit n := by
  simp [bit, Bytes.bit, List.getD_eq_getElem?_getD, hn]

end ScratchBuffer

namespace Placing

/-- A byte has room for all bits of a round. -/
theorem shift_add_width_le (p : Placing) : p.bit % 8 + p.width.toNat ≤ 8 := by
  rw [toNat_width]
  omega

/-- The byte of the next bit, with the value's lowest bits put into it. -/
theorem exists_byte (p : Placing) (old : UInt8) :
    ∃ mask bits maskByte bitsByte,
      (Word.shiftRight 0xff (Saturating.sub 8 p.width)).bind (Word.shiftLeft · p.shift) =
        some mask ∧
      Word.shiftLeft p.value p.shift = some bits ∧
      Word.toByte mask = some maskByte ∧ Word.toByte (bits &&& mask) = some bitsByte ∧
      ∀ k < 8, (old &&& ~~~maskByte ||| bitsByte).toNat.testBit k =
        if p.bit % 8 ≤ k ∧ k < p.bit % 8 + p.width.toNat then
          p.value.toNat.testBit (k - p.bit % 8)
        else old.toNat.testBit k := by
  have hshift : p.shift.toNat < 8 := by
    rw [toNat_shift]
    exact Nat.mod_lt _ (by decide)
  have hroom : p.shift.toNat + p.width.toNat ≤ 8 := by
    rw [toNat_shift]
    exact p.shift_add_width_le
  obtain ⟨mask, hmask, hsmall, hones⟩ := Word.exists_mask hshift hroom
  obtain ⟨bits, hshifted, hbits⟩ := Word.shiftLeft_of_lt p.value hshift
  have hand : (bits &&& mask).toNat < 256 := by
    rw [UInt32.toNat_and]
    exact Nat.lt_of_le_of_lt Nat.and_le_right hsmall
  obtain ⟨hmaskByte, hmaskNat⟩ := Word.toByte_of_lt hsmall
  obtain ⟨hbitsByte, hbitsNat⟩ := Word.toByte_of_lt hand
  refine ⟨mask, bits, _, _, hmask, hshifted, hmaskByte, hbitsByte, fun k hk => ?_⟩
  rw [testBit_merge _ _ _ hk, hmaskNat, hbitsNat, UInt32.toNat_and, Nat.testBit_and, hones k hk,
    hbits k hk, toNat_shift]
  by_cases hcovers : p.bit % 8 ≤ k ∧ k < p.bit % 8 + p.width.toNat
  · simp [hcovers]
  · simp [hcovers]

/-- A round places the lowest bits of the value and goes on with the others. -/
theorem round_eq (p : Placing) (h : p.bit / 8 < 32) :
    ∃ q, p.round h = some q ∧ q.bit = p.bit + p.width.toNat ∧
      q.remaining.toNat = p.remaining.toNat - p.width.toNat ∧
      q.value.toNat = p.value.toNat >>> p.width.toNat ∧
      ∀ n, q.buffer.bit n = if p.bit ≤ n ∧ n < p.bit + p.width.toNat then
        p.value.toNat.testBit (n - p.bit) else p.buffer.bit n := by
  have hroom := p.shift_add_width_le
  have hmax : p.bit + p.width.toNat ≤ Size.max := by
    simp only [Size.max]
    omega
  have hshort : p.width.toNat < 32 := by omega
  obtain ⟨mask, bits, maskByte, bitsByte, hmask, hbits, hmaskByte, hbitsByte, hbyte⟩ :=
    p.exists_byte p.buffer[p.bit / 8]
  obtain ⟨ones, hones, hmask⟩ := Option.bind_eq_some_iff.mp hmask
  have hround : p.round h = some ⟨p.buffer.set (p.bit / 8)
      (p.buffer[p.bit / 8] &&& ~~~maskByte ||| bitsByte), p.bit + p.width.toNat,
      Saturating.sub p.remaining p.width, p.value >>> p.width⟩ := by
    have hvalue : Word.shiftRight p.value p.width = some (p.value >>> p.width) :=
      if_pos (UInt32.lt_iff_toNat_lt.mpr hshort)
    simp only [round, hones, hmask, hbits, hmaskByte, hbitsByte, hvalue, Option.bind_eq_bind,
      Option.bind_some, Option.getD_some, Size.saturated, Nat.min_eq_left hmax]
  refine ⟨_, hround, rfl, Saturating.toNat_sub _ _, ?_, fun n => ?_⟩
  · rw [UInt32.toNat_shiftRight, Nat.mod_eq_of_lt hshort]
  · simp only
    rw [ScratchBuffer.bit_set _ h]
    by_cases hsame : n / 8 = p.bit / 8
    · have hplace : n % 8 - p.bit % 8 = n - p.bit := by omega
      have hcovers : (p.bit % 8 ≤ n % 8 ∧ n % 8 < p.bit % 8 + p.width.toNat) ↔
          (p.bit ≤ n ∧ n < p.bit + p.width.toNat) := by omega
      have hold : p.buffer[p.bit / 8].toNat.testBit (n % 8) = p.buffer.bit n := by
        rw [← ScratchBuffer.testBit_getElem p.buffer (hsame ▸ h)]
        simp only [hsame]
      rw [if_pos hsame, hbyte _ (Nat.mod_lt n (by decide)), hplace, hold]
      simp only [hcovers]
    · have houtside : ¬(p.bit ≤ n ∧ n < p.bit + p.width.toNat) := by omega
      rw [if_neg hsame, if_neg houtside]

/-- All rounds together place what is left of the value, as far as the buffer has bits. -/
theorem rounds_eq (p : Placing) :
    ∃ laid, p.rounds = some laid ∧ ∀ n, laid.bit n =
      if p.bit ≤ n ∧ n < min (p.bit + p.remaining.toNat) 256 then
        p.value.toNat.testBit (n - p.bit)
      else p.buffer.bit n := by
  fun_induction rounds p with
  | case1 p hleft hbyte q hround ih =>
    obtain ⟨laid, hlaid, hbits⟩ := ih
    obtain ⟨_, hround', hbit, hremaining, hvalue, hbuffer⟩ := p.round_eq hbyte
    obtain rfl := Option.some.inj (hround'.symm.trans hround)
    have hroom := p.shift_add_width_le
    have hwidth : p.width.toNat ≤ p.remaining.toNat := by
      rw [toNat_width]
      exact Nat.min_le_right _ _
    refine ⟨laid, hlaid, fun n => ?_⟩
    rw [hbits n, hbuffer, hbit, hremaining, hvalue, Nat.testBit_shiftRight]
    split
    · next hlater =>
      have hplace : p.width.toNat + (n - (p.bit + p.width.toNat)) = n - p.bit := by omega
      rw [if_pos (by omega), hplace]
    · next hlater =>
      by_cases hnow : p.bit ≤ n ∧ n < p.bit + p.width.toNat
      · rw [if_pos hnow, if_pos (by omega)]
      · rw [if_neg hnow, if_neg (by omega)]
  | case2 p hleft hbyte hround =>
    obtain ⟨q, hround', -⟩ := p.round_eq hbyte
    rw [hround] at hround'
    cases hround'
  | case3 p hleft hbyte =>
    refine ⟨p.buffer, rfl, fun n => ?_⟩
    rw [if_neg (by omega)]
  | case4 p hnone =>
    have hzero : p.remaining.toNat = 0 :=
      Nat.eq_zero_of_not_pos fun hpos => hnone (UInt32.lt_iff_toNat_lt.mpr hpos)
    refine ⟨p.buffer, rfl, fun n => ?_⟩
    rw [if_neg (by omega)]

end Placing

/-! ## The buffer as one number -/

namespace Bytes

theorem bit_cons (b : UInt8) (rest : Bytes) (n : Nat) :
    bit (b :: rest) n = if n < 8 then b.toNat.testBit n else bit rest (n - 8) := by
  unfold bit
  split
  · next h => rw [Nat.div_eq_of_lt h, Nat.mod_eq_of_lt h, List.getD_cons_zero]
  · next h =>
    have hdiv : n / 8 = (n - 8) / 8 + 1 := by omega
    have hmod : n % 8 = (n - 8) % 8 := by omega
    rw [hdiv, hmod, List.getD_cons_succ]

/-- Bytes with the same bits are the same. -/
theorem ext_bit {data other : Bytes} (hlength : data.length = other.length)
    (h : ∀ n < 8 * data.length, bit data n = bit other n) : data = other := by
  induction data generalizing other with
  | nil => exact (List.length_eq_zero_iff.mp hlength.symm).symm
  | cons b rest ih =>
    cases other with
    | nil => cases hlength
    | cons c more =>
      rw [List.length_cons] at h
      have hfirst : b = c := by
        apply UInt8.toNat_inj.mp
        apply Nat.eq_of_testBit_eq
        intro k
        rcases Nat.lt_or_ge k 8 with hk | hk
        · have hbit := h k (by omega)
          rwa [bit_cons, bit_cons, if_pos hk, if_pos hk] at hbit
        · have hout : ∀ value : UInt8, value.toNat.testBit k = false := fun value =>
            Nat.testBit_lt_two_pow
              (Nat.lt_of_lt_of_le value.toNat_lt (Nat.pow_le_pow_right (by decide) hk))
          rw [hout, hout]
      have hrest : rest = more := by
        refine ih (Nat.succ.inj hlength) fun n hn => ?_
        have hbit := h (n + 8) (by omega)
        rwa [bit_cons, bit_cons, if_neg (by omega), if_neg (by omega), Nat.add_sub_cancel] at hbit
      rw [hfirst, hrest]

end Bytes

namespace Scratch

theorem getLsbD_ofBytes (bytes : Bytes) {n : Nat} (hn : n < 256) :
    (ofBytes bytes).getLsbD n = bytes.bit n := by
  induction bytes generalizing n with
  | nil =>
    have hzero : Bytes.bit [] n = false := Nat.zero_testBit (n % 8)
    rw [hzero]
    exact BitVec.getLsbD_zero
  | cons b rest ih =>
    show (ofBytes rest <<< 8 ||| b.toBitVec.setWidth 256).getLsbD n = _
    have hbyte : b.toBitVec.getLsbD n = b.toNat.testBit n := rfl
    rw [Bytes.bit_cons, BitVec.getLsbD_or, BitVec.getLsbD_shiftLeft, BitVec.getLsbD_setWidth,
      hbyte]
    split
    · next h => simp [h, hn]
    · next h =>
      have hout : b.toNat.testBit n = false := Nat.testBit_lt_two_pow
        (Nat.lt_of_lt_of_le b.toNat_lt (Nat.pow_le_pow_right (by decide) (Nat.not_lt.mp h)))
      rw [ih (by omega), hout]
      simp [h, hn]

theorem bit_toBytes (s : Scratch) {n : Nat} (hn : n < 256) : s.toBytes.bit n = s.getLsbD n := by
  have hbit : Bytes.bit (s.toBytes.take 32) n = s.getLsbD n := bit_take_toBytes s (by omega) hn
  rwa [List.take_of_length_le (Nat.le_of_eq s.length_toBytes)] at hbit

end Scratch

/-- However much is placed, and wherever, the rounds come to an end, no word is shifted by its width
or more, every mask is a byte, and no byte is looked for beyond the end of the buffer. After them
the bits from `start` on are those of the value, up to `length` of them and to the end of the
buffer; beyond its 32 bits the value has zeros. All other bits are as before. So the buffer is the
one that programs are run with. -/
theorem place_bits (buffer : ScratchBuffer) (start length : UInt8) (value : UInt32) :
    ∃ laid, buffer.place start length value = some laid ∧
      (∀ n, laid.bit n =
        if start.toNat ≤ n ∧ n < min (start.toNat + length.toNat) 256 then
          value.toNat.testBit (n - start.toNat)
        else buffer.bit n) ∧
      laid.toList = ((Scratch.ofBytes buffer.toList).place start length value).toBytes := by
  obtain ⟨laid, hlaid, hbits⟩ :=
    Placing.rounds_eq ⟨buffer, start.toNat, length.toUInt32, value⟩
  simp only [UInt8.toNat_toUInt32] at hbits
  refine ⟨laid, hlaid, hbits, ?_⟩
  refine Bytes.ext_bit (by simp) fun n hn => ?_
  have hn : n < 256 := by simpa using hn
  have hplaced : n < start.toNat + length.toNat ↔ n < min (start.toNat + length.toNat) 256 := by
    omega
  rw [Scratch.bit_toBytes _ hn, Scratch.getLsbD_place _ _ _ _ hn, Scratch.getLsbD_ofBytes _ hn]
  simp only [hplaced]
  exact hbits n

end PanelDriver

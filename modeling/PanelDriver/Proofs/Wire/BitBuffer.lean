import PanelDriver.BitBuffer
import PanelDriver.Proofs.Wire.Framing

/-!
The packer in memory and the packer of waiting bits. The bits that wait are in front in the buffer,
whatever an older stream has left behind them, and every call finds them there: it gives the answer
of the packer of waiting bits, and its indices are never outside of a buffer (`Models.run`).
-/

namespace PanelDriver

/-! ## Bits of bytes -/

namespace Bits

theorem isSet_eq (b : UInt8) (n : Nat) : isSet b n = b.toNat.testBit (7 - n % 8) := by
  have all : ∀ value < 256, ∀ k < 8,
      (UInt8.ofNat value &&& 0x80 >>> UInt8.ofNat k != 0) = value.testBit (7 - k) := by
    decide +kernel
  have hmod : n % 8 < 8 := Nat.mod_lt n (by decide)
  simpa [isSet, mask] using all b.toNat b.toNat_lt (n % 8) hmod

theorem testBit_set (b : UInt8) (n : Nat) (bit : Bool) {k : Nat} (hk : k < 8) :
    (set b n bit).toNat.testBit (7 - k) =
      if k = n % 8 then bit else b.toNat.testBit (7 - k) := by
  have all : ∀ j < 8, ∀ k < 8,
      ((0x80 : UInt8) >>> UInt8.ofNat j).toNat.testBit (7 - k) = decide (k = j) ∧
      (~~~((0x80 : UInt8) >>> UInt8.ofNat j)).toNat.testBit (7 - k) = !decide (k = j) := by
    decide
  have hmod : n % 8 < 8 := Nat.mod_lt n (by decide)
  obtain ⟨hmask, hrest⟩ := all (n % 8) hmod k hk
  cases bit with
  | true =>
    rw [set, if_pos rfl, UInt8.toNat_or, Nat.testBit_or, mask, hmask]
    by_cases h : k = n % 8 <;> simp [h]
  | false =>
    rw [set, if_neg Bool.false_ne_true, UInt8.toNat_and, Nat.testBit_and, mask, hrest]
    by_cases h : k = n % 8 <;> simp [h]

theorem ofBytes_append (bytes more : Bytes) :
    ofBytes (bytes ++ more) = ofBytes bytes ++ ofBytes more := List.flatMap_append

theorem getElem?_ofBytes (bytes : Bytes) (n : Nat) :
    (ofBytes bytes)[n]? = bytes[n / 8]?.map fun b => b.toNat.testBit (7 - n % 8) := by
  induction bytes generalizing n with
  | nil => rfl
  | cons b rest ih =>
    have hcons : ofBytes (b :: rest) = ofByte b ++ ofBytes rest := rfl
    rw [hcons]
    rcases Nat.lt_or_ge n 8 with h | h
    · have hdiv : n / 8 = 0 := Nat.div_eq_of_lt h
      have hmod : n % 8 = n := Nat.mod_eq_of_lt h
      have hlt : n < (ofByte b).length := by
        rw [length_ofByte]
        exact h
      rw [List.getElem?_append_left hlt, hdiv, hmod]
      simp [ofByte, h]
    · have hdiv : n / 8 = (n - 8) / 8 + 1 := by omega
      have hmod : n % 8 = (n - 8) % 8 := by omega
      rw [List.getElem?_append_right (by simpa using h), length_ofByte, ih, hdiv, hmod,
        List.getElem?_cons_succ]

theorem ofBytes_inj {bytes more : Bytes} (h : ofBytes bytes = ofBytes more) : bytes = more := by
  induction bytes generalizing more with
  | nil =>
    have hlength := congrArg List.length h
    rw [length_ofBytes, length_ofBytes, List.length_nil] at hlength
    exact (List.length_eq_zero_iff.mp (by omega)).symm
  | cons b rest ih =>
    cases more with
    | nil =>
      have hlength := congrArg List.length h
      rw [length_ofBytes, length_ofBytes, List.length_nil, List.length_cons] at hlength
      omega
    | cons c more =>
      obtain ⟨hfirst, hrest⟩ := List.append_inj h (by rw [length_ofByte, length_ofByte])
      rw [← byte_ofByte b, hfirst, byte_ofByte, ih hrest]

theorem ofBytes_take (bytes : Bytes) {n : Nat} (h : n ≤ bytes.length) :
    ofBytes (bytes.take n) = (ofBytes bytes).take (8 * n) := by
  have hlength : (ofBytes (bytes.take n)).length = 8 * n := by
    rw [length_ofBytes, List.length_take, Nat.min_eq_left h]
  conv => rhs; rw [← List.take_append_drop n bytes, ofBytes_append]
  rw [← hlength, List.take_left]

end Bits

/-! ## Storing bits -/

namespace BitBuffer

/-- All bits that are in the buffer, waiting or left over. -/
def tape (b : BitBuffer) : List Bool := Bits.ofBytes b.sent.toList

@[simp] theorem length_tape (b : BitBuffer) : b.tape.length = 512 := by simp [tape]

/-- Puts bits into place, one after another. -/
def putBits (bits : List Bool) (b : BitBuffer) : Option BitBuffer := bits.foldlM putBit b

theorem putBits_append (bits more : List Bool) (b : BitBuffer) :
    putBits (bits ++ more) b = (putBits bits b).bind (putBits more) := List.foldlM_append

theorem putBits_cons (bit : Bool) (bits : List Bool) (b : BitBuffer) :
    putBits (bit :: bits) b = (b.putBit bit).bind (putBits bits) := List.foldlM_cons

theorem putByte_eq (b : BitBuffer) (value : UInt8) :
    b.putByte value = putBits (Bits.ofByte value) b := by
  have all : ∀ value < 256, ∀ k < 8,
      (UInt8.ofNat value >>> UInt8.ofNat k &&& 1 != 0) = value.testBit k := by
    decide +kernel
  have hbit (k : Nat) (hk : k < 8) :
      (value >>> UInt8.ofNat k &&& 1 != 0) = value.toNat.testBit k := by
    simpa using all value.toNat value.toNat_lt k hk
  have hbits : Bits.ofByte value =
      [7, 6, 5, 4, 3, 2, 1, 0].map fun shift => value >>> shift &&& 1 != 0 := by
    have hrange : Bits.ofByte value = [7, 6, 5, 4, 3, 2, 1, 0].map value.toNat.testBit := rfl
    rw [hrange]
    simp [← hbit]
  rw [putByte, putBits, hbits, List.foldlM_map]

theorem putOnes_eq (n : Nat) (b : BitBuffer) :
    putOnes n b = putBits (List.replicate n true) b := by
  induction n generalizing b with
  | zero => rfl
  | succ n ih =>
    rw [List.replicate_succ, putBits_cons]
    show (b.putBit true).bind (putOnes n) = _
    exact congrArg _ (funext ih)

/-- The bits of tagged bytes. -/
def taggedBits : Bool → Bytes → List Bool
  | _, [] => []
  | tag, value :: rest => tag :: Bits.ofByte value ++ taggedBits true rest

theorem taggedBits_true (bytes : Bytes) :
    taggedBits true bytes = bytes.flatMap fun b => true :: Bits.ofByte b := by
  induction bytes with
  | nil => rfl
  | cons b rest ih => rw [taggedBits, ih, List.flatMap_cons]

theorem taggedBits_false (bytes : Bytes) : taggedBits false bytes = Packer.nineBit bytes := by
  cases bytes with
  | nil => rfl
  | cons b rest => rw [taggedBits, taggedBits_true, Packer.nineBit]

theorem putTagged_eq (tag : Bool) (bytes : Bytes) (b : BitBuffer) :
    putTagged tag bytes b = putBits (taggedBits tag bytes) b := by
  induction bytes generalizing tag b with
  | nil => rfl
  | cons value rest ih =>
    show ((b.putBit tag).bind fun b => (b.putByte value).bind (putTagged true rest)) = _
    rw [taggedBits, List.cons_append, putBits_cons]
    congr 1
    funext b
    rw [putBits_append, putByte_eq]
    congr 1
    exact funext (ih true)

/-- The bits wait in the buffer: they are in front, and the cursor is behind them. -/
structure Holds (b : BitBuffer) (bits : List Bool) : Prop where
  cursor : b.cursor = bits.length
  front : bits <+: b.tape

/-- One bit is put over the bit that is there. -/
theorem putBit_eq {b : BitBuffer} (bit : Bool) (h : b.cursor < 512) :
    ∃ sent, b.putBit bit = some { b with sent, cursor := b.cursor + 1 } ∧
      Bits.ofBytes sent.toList = b.tape.set b.cursor bit := by
  have hdiv : b.cursor / 8 < 64 := by omega
  refine ⟨_, dif_pos hdiv, ?_⟩
  apply List.ext_getElem?
  intro n
  have hlength : b.sent.toList.length = 64 := by simp
  have hmod : n % 8 < 8 := Nat.mod_lt n (by decide)
  rw [Vector.toList_set, Bits.getElem?_ofBytes]
  rcases Nat.lt_trichotomy (b.cursor / 8) (n / 8) with hbyte | hbyte | hbyte
  · have hne : b.cursor ≠ n := by omega
    rw [List.getElem?_set_ne (by omega), List.getElem?_set_ne hne, tape, Bits.getElem?_ofBytes]
  · -- The byte is the one that changes, and its other bits stay.
    rw [← hbyte, List.getElem?_set_self (by omega), Option.map_some, Bits.testBit_set _ _ _ hmod]
    by_cases hn : b.cursor = n
    · rw [if_pos (by rw [hn]), hn, List.getElem?_set_self (by rw [length_tape]; omega)]
    · rw [if_neg (by omega), List.getElem?_set_ne hn, tape, Bits.getElem?_ofBytes, ← hbyte]
      simp [hdiv]
  · have hne : b.cursor ≠ n := by omega
    rw [List.getElem?_set_ne (by omega), List.getElem?_set_ne hne, tape, Bits.getElem?_ofBytes]

namespace Holds

variable {b : BitBuffer} {bits : List Bool}

theorem length_le (h : b.Holds bits) : bits.length ≤ 512 := by
  have hle := h.front.length_le
  rwa [length_tape] at hle

theorem putBit (h : b.Holds bits) (bit : Bool) (hroom : bits.length < 512) :
    ∃ b', b.putBit bit = some b' ∧ b'.Holds (bits ++ [bit]) ∧ b'.window = b.window := by
  obtain ⟨rest, htape⟩ := h.front
  have hcursor : b.cursor < 512 := h.cursor ▸ hroom
  obtain ⟨sent, hput, hsent⟩ := putBit_eq bit hcursor
  refine ⟨_, hput, ⟨?_, ?_⟩, rfl⟩
  · simp [h.cursor]
  · cases rest with
    | nil =>
      have hlength := congrArg List.length htape
      rw [length_tape, List.append_nil] at hlength
      omega
    | cons old rest =>
      refine ⟨rest, ?_⟩
      rw [tape, hsent, ← htape, h.cursor]
      simp

theorem putBits (h : b.Holds bits) (more : List Bool) (hroom : bits.length + more.length ≤ 512) :
    ∃ b', BitBuffer.putBits more b = some b' ∧ b'.Holds (bits ++ more) ∧ b'.window = b.window := by
  induction more generalizing b bits with
  | nil => exact ⟨b, rfl, by rwa [List.append_nil], rfl⟩
  | cons bit more ih =>
    rw [List.length_cons] at hroom
    obtain ⟨b', hput, hholds, hwindow⟩ := h.putBit bit (by omega)
    obtain ⟨b'', hrest, hholds', hwindow'⟩ := ih hholds (by simp; omega)
    refine ⟨b'', ?_, ?_, hwindow'.trans hwindow⟩
    · rw [putBits_cons, hput]
      exact hrest
    · rwa [List.append_assoc] at hholds'

theorem reset (b : BitBuffer) : b.reset.Holds [] := ⟨rfl, List.nil_prefix⟩

end Holds

/-! ## Stores -/

theorem fits_iff (b : BitBuffer) (n : Nat) : b.fits n = true ↔ b.cursor + n ≤ 512 := by
  have hcapacity : Packer.capacity = 512 := rfl
  have hmax : 512 ≤ Size.max := by decide
  rw [fits, Size.checked]
  split
  · rw [Option.any_some, decide_eq_true_iff, hcapacity]
  · rw [Option.any_none]
    constructor
    · intro h
      cases h
    · intro h
      omega

theorem toList_overlay {start : Nat} {bytes : Bytes} (buffer : Vector UInt8 64)
    (h : start + bytes.length ≤ 64) :
    ∃ laid, overlay start bytes buffer = some laid ∧ laid.toList =
      buffer.toList.take start ++ bytes ++ buffer.toList.drop (start + bytes.length) := by
  refine ⟨_, if_pos h, ?_⟩
  have hget (i : Fin 64) : buffer.get i = buffer[i] := rfl
  have hmin : min start 64 = start := by omega
  apply List.ext_getElem
  · simp
    omega
  · intro n hn _
    rcases Nat.lt_or_ge n start with hfront | hstart
    · simp [hget, hmin, hfront, Nat.not_le.mpr hfront]
    · rcases Nat.lt_or_ge (n - start) bytes.length with hlaid | hback
      · simp [hget, hmin, hstart, hlaid]
      · have hplace : start + bytes.length + (n - start - bytes.length) = n := by omega
        simp [hget, List.getElem_append, hmin, hstart, Nat.not_lt.mpr hback, hplace]

end BitBuffer

namespace Packer

theorem pushOnes_eq_store (p : Packer) (n : Nat) :
    p.pushOnes n = p.store (List.replicate n true) := by
  rw [store, List.length_replicate]
  rfl

theorem fits_iff (p : Packer) (n : Nat) : p.fits n = true ↔ p.cursor + n ≤ 512 :=
  decide_eq_true_iff

/-- A size that is cut off is still too large. -/
theorem fits_saturated (p : Packer) (n : Nat) : p.fits (Size.saturated n) = p.fits n := by
  have hmax : 512 < Size.max := by decide
  rw [Bool.eq_iff_iff, fits_iff, fits_iff, Size.saturated]
  omega

end Packer

namespace BitBuffer

/-- The buffer and the packer hold the same waiting bits and the same window. -/
structure Models (b : BitBuffer) (p : Packer) : Prop where
  holds : b.Holds p.pending
  window : b.window = p.window

/-- A store does what it does to the packer; where it is refused, nothing changes. -/
def Stores (b : BitBuffer) (stored : Option (Except PanelError Unit × BitBuffer)) :
    Except PanelError Packer → Prop
  | .ok q => ∃ b', stored = some (.ok (), b') ∧ b'.Models q
  | .error e => stored = some (.error e, b)

namespace Models

variable {b : BitBuffer} {p : Packer}

theorem cursor (h : b.Models p) : b.cursor = p.cursor := h.holds.cursor

theorem isEmpty (h : b.Models p) : b.isEmpty = p.isEmpty := by
  rw [BitBuffer.isEmpty, h.cursor, Packer.isEmpty]

theorem fits (h : b.Models p) (bits : Nat) : b.fits bits = p.fits bits := by
  rw [Bool.eq_iff_iff, fits_iff, h.cursor, Packer.fits_iff]

theorem reset (h : b.Models p) : b.reset.Models p.reset := ⟨.reset b, h.window⟩

/-- Bits that fit come behind the waiting ones, others are refused. -/
theorem store (h : b.Models p) {bits : List Bool}
    {stored : Option (Except PanelError Unit × BitBuffer)}
    (hroom : p.cursor + bits.length ≤ 512 →
      ∃ b', stored = some (.ok (), b') ∧ b'.Holds (p.pending ++ bits) ∧ b'.window = b.window)
    (hfull : ¬p.cursor + bits.length ≤ 512 → stored = some (.error .overflow, b)) :
    b.Stores stored (p.store bits) := by
  rw [Packer.store_eq]
  split
  · next hfits =>
    obtain ⟨b', hstored, hholds, hwindow⟩ := hroom hfits
    exact ⟨b', hstored, hholds, hwindow.trans h.window⟩
  · next hfits => exact hfull hfits

theorem storeNineBit (h : b.Models p) (bytes : Bytes) :
    b.Stores (b.storeNineBit bytes) (p.pushNineBit bytes) := by
  have hlength := Packer.length_nineBit bytes
  have hfits : b.fits (Size.saturated (bytes.length * Packer.nineBitWidth)) = true ↔
      p.cursor + (Packer.nineBit bytes).length ≤ 512 := by
    rw [h.fits, Packer.fits_saturated, Packer.fits_iff, hlength, Nat.mul_comm]
    rfl
  apply h.store
  · intro hroom
    obtain ⟨b', hput, hholds, hwindow⟩ := h.holds.putBits (Packer.nineBit bytes) hroom
    refine ⟨b', ?_, hholds, hwindow⟩
    rw [BitBuffer.storeNineBit, if_pos (hfits.mpr hroom), putTagged_eq, taggedBits_false, hput]
    rfl
  · intro hfull
    rw [BitBuffer.storeNineBit, if_neg (mt hfits.mp hfull)]

theorem storeOnes (h : b.Models p) (n : Nat) : b.Stores (b.storeOnes n) (p.pushOnes n) := by
  have hfits : b.fits n = true ↔ p.cursor + (List.replicate n true).length ≤ 512 := by
    rw [h.fits, Packer.fits_iff, List.length_replicate]
  rw [Packer.pushOnes_eq_store]
  apply h.store
  · intro hroom
    obtain ⟨b', hput, hholds, hwindow⟩ := h.holds.putBits (List.replicate n true) hroom
    refine ⟨b', ?_, hholds, hwindow⟩
    rw [BitBuffer.storeOnes, if_pos (hfits.mpr hroom), putOnes_eq, hput]
    rfl
  · intro hfull
    rw [BitBuffer.storeOnes, if_neg (mt hfits.mp hfull)]

/-- Bytes laid over the buffer come behind waiting bits that end where a byte ends. -/
theorem holds_overlay (h : b.Models p) (haligned : p.cursor % 8 = 0) {bytes : Bytes}
    (hroom : p.cursor + 8 * bytes.length ≤ 512) :
    ∃ sent, overlay (b.cursor / 8) bytes b.sent = some sent ∧
      BitBuffer.Holds { b with sent, cursor := b.cursor + bytes.length * 8 }
        (p.pending ++ Bits.ofBytes bytes) := by
  have hcursor := h.cursor
  have hbound : b.cursor / 8 + bytes.length ≤ 64 := by omega
  obtain ⟨sent, hlaid, hlist⟩ := toList_overlay b.sent hbound
  refine ⟨sent, hlaid, ?_, ?_⟩
  · have hlength : p.pending.length = p.cursor := rfl
    simp only [List.length_append, Bits.length_ofBytes]
    omega
  · have hfront : Bits.ofBytes (b.sent.toList.take (b.cursor / 8)) = p.pending := by
      rw [Bits.ofBytes_take _ (by simp; omega), List.prefix_iff_eq_take.mp h.holds.front]
      congr 1
      rw [h.cursor]
      have hlength : p.pending.length = p.cursor := rfl
      omega
    rw [tape, hlist, Bits.ofBytes_append, Bits.ofBytes_append, hfront]
    exact List.prefix_append _ _

theorem storeBytes (h : b.Models p) (bytes : Bytes) :
    b.Stores (b.storeBytes bytes) (p.pushBytes bytes) := by
  have hlength := Bits.length_ofBytes bytes
  by_cases haligned : p.cursor % 8 = 0
  · have haligned' : ¬b.cursor % 8 ≠ 0 := by
      rw [h.cursor]
      omega
    have hfits : b.fits (Size.saturated (bytes.length * 8)) = true ↔
        p.cursor + (Bits.ofBytes bytes).length ≤ 512 := by
      rw [h.fits, Packer.fits_saturated, Packer.fits_iff, hlength, Nat.mul_comm]
    rw [Packer.pushBytes, if_pos haligned]
    apply h.store
    · intro hroom
      rw [hlength] at hroom
      obtain ⟨sent, hlaid, hholds⟩ := h.holds_overlay haligned hroom
      refine ⟨_, ?_, hholds, rfl⟩
      rw [BitBuffer.storeBytes, if_neg haligned', if_pos (hfits.mpr (hlength ▸ hroom)), hlaid]
      rfl
    · intro hfull
      rw [BitBuffer.storeBytes, if_neg haligned', if_neg (mt hfits.mp hfull)]
  · have haligned' : b.cursor % 8 ≠ 0 := by
      rw [h.cursor]
      exact haligned
    rw [Packer.pushBytes, if_neg haligned]
    exact if_pos haligned'

end Models

/-! ## Frames and the window -/

theorem front_eq {n : Nat} (h : n ≤ 64) (buffer : Vector UInt8 64) :
    front n buffer = some (buffer.toList.take n) := if_pos h

namespace Models

variable {b : BitBuffer} {p : Packer}

theorem frameLength (h : b.Models p) : b.frameLength = p.frameLength := by
  rw [BitBuffer.frameLength, h.cursor]
  rfl

theorem frameLength_le (h : b.Models p) : p.frameLength ≤ 64 := by
  have hle : p.cursor ≤ 512 := h.holds.length_le
  rw [Packer.frameLength]
  omega

/-- The ones behind the waiting bits fill up the frame, and leave the waiting bits as they are. -/
theorem frame (h : b.Models p) :
    ∃ b', b.frame = some (p.frame, b') ∧ b'.Models p := by
  have hle : p.cursor ≤ 512 := h.holds.length_le
  have hlength : p.pending.length = p.cursor := rfl
  have hframe : p.cursor ≤ 8 * p.frameLength := by
    rw [Packer.frameLength]
    omega
  have hcount : b.frameLength * 8 - b.cursor = 8 * p.frameLength - p.cursor := by
    rw [h.frameLength, h.cursor, Nat.mul_comm]
  have hbound := h.frameLength_le
  let ones := List.replicate (8 * p.frameLength - p.cursor) true
  have hones : (p.pending ++ ones).length = 8 * p.frameLength := by
    rw [List.length_append, List.length_replicate]
    omega
  obtain ⟨full, hput, hholds, hwindow⟩ := h.holds.putBits ones
    (by rw [← List.length_append, hones]; omega)
  let filled : BitBuffer := { full with cursor := b.cursor }
  have hfilled : filled.Models p :=
    ⟨⟨h.cursor, (List.prefix_append _ _).trans hholds.front⟩, hwindow.trans h.window⟩
  have hpad : b.pad = some filled := by
    rw [pad, hcount, putOnes_eq]
    show (BitBuffer.putBits ones b).bind _ = _
    rw [hput]
    rfl
  have hbytes : filled.sent.toList.take p.frameLength = p.frame := by
    apply Bits.ofBytes_inj
    rw [Bits.ofBytes_take _ (by simp; omega), Packer.ofBytes_frame]
    calc full.tape.take (8 * p.frameLength)
        = full.tape.take (p.pending ++ ones).length := by rw [hones]
      _ = p.pending ++ ones := (List.prefix_iff_eq_take.mp hholds.front).symm
  refine ⟨filled, ?_, hfilled⟩
  rw [BitBuffer.frame, hpad]
  show (front filled.frameLength filled.sent).bind _ = _
  rw [hfilled.frameLength, front_eq hbound, hbytes]
  rfl

/-- Bytes laid over the window are received. -/
theorem overlay_window (h : b.Models p) {start : Nat} {bytes : Bytes}
    (hroom : start + bytes.length ≤ 64) :
    overlay start bytes b.window = some (p.receive start bytes).window := by
  rw [overlay, if_pos hroom, h.window]
  rfl

theorem of_window (h : b.Models p) (window : Vector UInt8 64) :
    BitBuffer.Models { b with window } { p with window } := ⟨⟨h.holds.cursor, h.holds.front⟩, rfl⟩

theorem exchange (h : b.Models p) (incoming : Bytes) :
    let filled := p.receive 0 (incoming.take p.frameLength)
    ∃ b', b.exchange incoming = some ((p.frame, filled.received), b') ∧ b'.Models filled := by
  intro filled
  have hbound := h.frameLength_le
  obtain ⟨b', hframe, hmodels⟩ := h.frame
  have hlaid : overlay 0 (incoming.take b'.frameLength) b'.window = some filled.window := by
    rw [hmodels.frameLength]
    exact hmodels.overlay_window (by simp; omega)
  have hlength : filled.frameLength = p.frameLength := by
    simp only [filled, Packer.frameLength, Packer.cursor, Packer.receive]
  have hreceived : front b'.frameLength filled.window = some filled.received := by
    rw [hmodels.frameLength, front_eq hbound, Packer.received, hlength]
  refine ⟨{ b' with window := filled.window }, ?_, hmodels.of_window filled.window⟩
  simp only [BitBuffer.exchange, hframe, hlaid, hreceived, Option.bind_eq_bind, Option.bind_some]

/-- What lies beyond the end of the window is dropped. -/
theorem receive (h : b.Models p) (start : Nat) (bytes : Bytes) :
    ∃ b', b.receive start bytes = some b' ∧ b'.Models (p.receive start bytes) := by
  have hwindow : (p.receive (min start 64) (bytes.take (64 - start))).window =
      (p.receive start bytes).window := by
    ext i hi
    have hfits : ∀ k < 64 - start, (bytes.take (64 - start))[k]? = bytes[k]? :=
      fun k hk => List.getElem?_take_of_lt hk
    simp only [Packer.receive, Vector.getElem_ofFn]
    rcases Nat.lt_or_ge i start with hlt | hge
    · have hmin : ¬min start 64 ≤ i := by omega
      rw [if_neg hmin, if_neg (Nat.not_le.mpr hlt)]
    · have hmin : min start 64 = start := by omega
      rw [hmin, hfits (i - start) (by omega)]
  refine ⟨{ b with window := (p.receive start bytes).window }, ?_, h.of_window _⟩
  rw [BitBuffer.receive, h.overlay_window (by simp; omega), hwindow]
  rfl

theorem windowBit (h : b.Models p) {n : Nat} (hn : n < 512) :
    b.windowBit n = some (p.windowBit n) := by
  have hbyte : n / 8 < 64 := by omega
  rw [BitBuffer.windowBit, h.window, Packer.windowBit]
  simp [hbyte, Bits.isSet_eq]

theorem windowByte (h : b.Models p) {start : Nat} (hstart : start + 8 ≤ 512) :
    b.windowByte start = some (Bits.byte fun k => p.windowBit (start + k)) := by
  have all : ∀ b0 b1 b2 b3 b4 b5 b6 b7 : Bool,
      let bits := [b0, b1, b2, b3, b4, b5, b6, b7]
      bits.foldl (fun (value : UInt8) b => value <<< 1 ||| b.toUInt8) 0 =
        .ofNat (bits.foldl (fun value b => 2 * value + b.toNat) 0) := by
    decide +kernel
  have hbit (k : Nat) (hk : k < 8) :
      b.windowBit (start + k) = some (p.windowBit (start + k)) := h.windowBit (by omega)
  have hrange : List.range 8 = [0, 1, 2, 3, 4, 5, 6, 7] := rfl
  simp only [BitBuffer.windowByte, hrange, List.foldlM_cons, List.foldlM_nil, hbit, Nat.reduceLT,
    Option.bind_eq_bind, Option.bind_some, Option.pure_def, Option.some.injEq]
  exact all _ _ _ _ _ _ _ _

theorem mapM_eq_some {α β : Type} {f : α → Option β} {g : α → β} {l : List α}
    (h : ∀ a ∈ l, f a = some (g a)) : l.mapM f = some (l.map g) := by
  induction l with
  | nil => rfl
  | cons a l ih =>
    rw [List.mapM_cons, h a List.mem_cons_self, ih fun x hx => h x (List.mem_cons_of_mem _ hx)]
    rfl

theorem extract (h : b.Models p) (start length : Nat) :
    b.extract start length = some (p.readWindow start length) := by
  have hmax : 512 < Size.max := by decide
  have hcapacity : Packer.capacity = 512 := rfl
  rw [Packer.readWindow, hcapacity]
  by_cases hfits : start + 8 * length ≤ 512
  · have hbytes : ∀ j ∈ List.range length, b.windowByte (start + 8 * j) =
        some (Bits.byte fun k => p.windowBit (start + 8 * j + k)) := by
      intro j hj
      have hlt : j < length := List.mem_range.mp hj
      exact h.windowByte (by omega)
    have hchecked : (Size.checked (length * 8)).bind (fun bits => Size.checked (bits + start)) =
        some (length * 8 + start) := by
      rw [Size.checked, if_pos (by omega), Option.bind_some, Size.checked, if_pos (by omega)]
    have hlast : ¬512 < length * 8 + start := by omega
    rw [if_pos hfits, BitBuffer.extract, hchecked, mapM_eq_some hbytes]
    simp only [hcapacity, hlast, ↓reduceIte, Option.map_some]
  · -- Either the size itself is too large, or the place where the bytes would end.
    have hchecked : ∀ last, (Size.checked (length * 8)).bind
        (fun bits => Size.checked (bits + start)) = some last → 512 < last := by
      intro last hlast
      obtain ⟨bits, hbits, hlast⟩ := Option.bind_eq_some_iff.mp hlast
      simp only [Size.checked, Option.ite_none_right_eq_some, Option.some.injEq] at hbits hlast
      omega
    rw [if_neg hfits, BitBuffer.extract]
    split
    · rfl
    · next last hlast => exact if_pos (hchecked last hlast)

end Models

/-- What a store tells, and what is in the buffer then, refused or not. -/
theorem Stores.exists_eq {b : BitBuffer} {p : Packer} (h : b.Models p)
    {stored : Option (Except PanelError Unit × BitBuffer)} {x : Except PanelError Packer}
    (hstored : b.Stores stored x) :
    ∃ b', stored = some (x.map fun _ => (), b') ∧ b'.Models (x.toOption.getD p) := by
  cases x with
  | ok q => exact hstored
  | error e => exact ⟨b, hstored, h⟩

/-- The answer to a store that does what it does to the packer. -/
theorem Stores.answer {b : BitBuffer} {p : Packer} (h : b.Models p)
    {stored : Option (Except PanelError Unit × BitBuffer)} {x : Except PanelError Packer}
    (hstored : b.Stores stored x) :
    ∃ b', (stored.bind fun (result, b) => some (PackerAnswer.stored result, b)) =
      some ((p.afterStore x).1, b') ∧ b'.Models (p.afterStore x).2 := by
  obtain ⟨b', rfl, hmodels⟩ := hstored.exists_eq h
  cases x with
  | ok q => exact ⟨b', rfl, hmodels⟩
  | error e => exact ⟨b', rfl, hmodels⟩

/-- Every call gives the answer that the packer gives. -/
theorem Models.call {b : BitBuffer} {p : Packer} (h : b.Models p) (call : PackerCall) :
    ∃ b', b.call call = some ((p.call call).1, b') ∧ b'.Models (p.call call).2 := by
  cases call with
  | storeBytes bytes => exact Stores.answer h (h.storeBytes bytes)
  | storeNineBit bytes => exact Stores.answer h (h.storeNineBit bytes)
  | storeOnes bits => exact Stores.answer h (h.storeOnes bits)
  | fits bits =>
    refine ⟨b, ?_, h⟩
    rw [BitBuffer.call, h.fits]
    rfl
  | reset => exact ⟨b.reset, rfl, h.reset⟩
  | frame =>
    obtain ⟨b', hframe, hmodels⟩ := h.frame
    refine ⟨b', ?_, hmodels⟩
    rw [BitBuffer.call, hframe]
    rfl
  | exchange incoming =>
    obtain ⟨b', hexchange, hmodels⟩ := h.exchange incoming
    refine ⟨b', ?_, hmodels⟩
    rw [BitBuffer.call, hexchange]
    rfl
  | receive start bytes =>
    obtain ⟨b', hreceive, hmodels⟩ := h.receive start bytes
    refine ⟨b', ?_, hmodels⟩
    rw [BitBuffer.call, hreceive]
    rfl
  | extract start length =>
    refine ⟨b, ?_, h⟩
    rw [BitBuffer.call, h.extract start length]
    rfl

/-- Makes calls one after another. -/
def run : List PackerCall → BitBuffer → Option (List PackerAnswer × BitBuffer)
  | [], b => some ([], b)
  | call :: rest, b => do
    let (answer, b) ← b.call call
    let (later, b) ← run rest b
    some (answer :: later, b)

end BitBuffer

/-- Makes calls one after another. -/
def Packer.run : List PackerCall → Packer → List PackerAnswer × Packer
  | [], p => ([], p)
  | call :: rest, p =>
    let (later, last) := run rest (p.call call).2
    ((p.call call).1 :: later, last)

namespace BitBuffer

theorem Models.run {b : BitBuffer} {p : Packer} (h : b.Models p) (calls : List PackerCall) :
    ∃ b', BitBuffer.run calls b = some ((Packer.run calls p).1, b') ∧
      b'.Models (Packer.run calls p).2 := by
  induction calls generalizing b p with
  | nil => exact ⟨b, rfl, h⟩
  | cons call rest ih =>
    obtain ⟨b', hcall, hmodels⟩ := h.call call
    obtain ⟨b'', hrun, hlast⟩ := ih hmodels
    refine ⟨b'', ?_, hlast⟩
    simp only [BitBuffer.run, hcall, hrun, Option.bind_eq_bind, Option.bind_some, Packer.run]

theorem models_new : BitBuffer.Models {} {} := ⟨⟨rfl, List.nil_prefix⟩, rfl⟩

/-- The ones that an older stream has left are written over. -/
example : ((run [.storeOnes 20, .frame, .reset, .storeNineBit [0xb0]] {}).bind
    fun (_, b) => b.frame.map Prod.fst) = some [0x58, 0x7f] := by
  decide

end BitBuffer

end PanelDriver

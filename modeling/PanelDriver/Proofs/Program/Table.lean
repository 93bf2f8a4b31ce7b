import PanelDriver.Program.Basic

/-!
The table of operations as a relation: which byte stands for an operation, and which bytes are a
step. A step has more than one form, as a short write may carry its length in a byte of its own and
operations that send no packet ignore the top bit. Reading is tied to the table both ways: what is
read stands in the table (`writtenAs_of_stepAt`), and what stands in the table is read, whatever
follows it (`stepAt_of_writtenAs`).
-/

namespace PanelDriver

theorem Bytes.take?_append {front : Bytes} {n : Nat} (rest : Bytes) (h : front.length = n) :
    take? n (front ++ rest) = some front :=
  take?_eq_some_iff.mpr ⟨h, rest, rfl⟩

/-! ## Opcodes -/

/-- The byte of a timing field, without the top bit. -/
def TimingField.code : TimingField → UInt8
  | .hsync => 0x4d
  | .hbackPorch => 0x4e
  | .hactive => 0x4f
  | .hfrontPorch => 0x50
  | .vsync => 0x51
  | .vbackPorch => 0x52
  | .vactive => 0x53
  | .vfrontPorch => 0x54

namespace Opcode

/-- The bytes of an operation. Where no packet is sent, the top bit is ignored. -/
def WrittenAs : Opcode → UInt8 → Prop
  | inlineWrite generic length, byte => length ≤ 0x3b ∧ byte = length ||| flag generic
  | longWrite generic, byte => byte = 0x3e ||| flag generic
  | scratchWrite generic, byte => byte = 0x3f ||| flag generic
  | delay, byte => byte = 0x3c ∨ byte = 0xbc
  | returnSize, byte => byte = 0x3d ∨ byte = 0xbd
  | read generic length, byte =>
    (1 ≤ length ∧ length ≤ 8) ∧ byte = (0x3f + length) ||| flag generic
  | laneFilter lanes, byte => (1 ≤ lanes ∧ lanes ≤ 4) ∧ byte = 0x47 + lanes
  | constant, byte => byte = 0x4c ∨ byte = 0xcc
  | timing field, byte => byte = field.code ∨ byte = field.code ||| 0x80

instance (op : Opcode) (byte : UInt8) : Decidable (op.WrittenAs byte) :=
  match op with
  | inlineWrite _ _ | read _ _ | laneFilter _ => inferInstanceAs (Decidable (_ ∧ _))
  | longWrite _ | scratchWrite _ => inferInstanceAs (Decidable (_ = _))
  | delay | returnSize | constant | timing _ => inferInstanceAs (Decidable (_ ∨ _))

/-- A byte of some operation: up to the last timing field, whatever the top bit, but lane filters
have no form with the top bit. -/
def IsCode (byte : UInt8) : Prop := byte &&& 0x7f ≤ 0x54 ∧ ¬(0xc8 ≤ byte ∧ byte ≤ 0xcb)

instance (byte : UInt8) : Decidable (IsCode byte) := inferInstanceAs (Decidable (_ ∧ _))

theorem isSome_decode? (byte : UInt8) : (decode? byte).isSome = decide (IsCode byte) := by
  have all : ∀ n < 256, (decode? (.ofNat n)).isSome = decide (IsCode (.ofNat n)) := by
    decide +kernel
  have hn : byte.toNat < 256 := byte.toNat_lt
  simpa using all byte.toNat hn

/-- The operation of a byte is the one that the table has for it. -/
theorem decode?_eq_some_iff {byte : UInt8} {op : Opcode} :
    decode? byte = some op ↔ op.WrittenAs byte := by
  constructor
  · intro h
    have all : ∀ n < 256, ∀ o ∈ decode? (.ofNat n), o.WrittenAs (.ofNat n) := by decide +kernel
    have hbyte := all byte.toNat byte.toNat_lt
    rw [UInt8.ofNat_toNat] at hbyte
    exact hbyte op h
  · intro h
    cases op with
    | inlineWrite generic length =>
      have small : ∀ g : Bool, ∀ n < 60,
          decode? (.ofNat n ||| flag g) = some (inlineWrite g (.ofNat n)) := by decide
      obtain ⟨hlength, rfl⟩ := h
      have hn : length.toNat ≤ 59 := UInt8.le_iff_toNat_le.mp hlength
      simpa using small generic length.toNat (by omega)
    | read generic length =>
      have small : ∀ g : Bool, ∀ n < 9, 1 ≤ n →
          decode? ((0x3f + .ofNat n) ||| flag g) = some (read g (.ofNat n)) := by decide
      obtain ⟨⟨hpos, hlength⟩, rfl⟩ := h
      have hlo : 1 ≤ length.toNat := UInt8.le_iff_toNat_le.mp hpos
      have hhi : length.toNat ≤ 8 := UInt8.le_iff_toNat_le.mp hlength
      simpa using small generic length.toNat (by omega) hlo
    | laneFilter lanes =>
      have small : ∀ n < 5, 1 ≤ n →
          decode? (0x47 + .ofNat n) = some (laneFilter (.ofNat n)) := by decide
      obtain ⟨⟨hpos, hlanes⟩, rfl⟩ := h
      have hlo : 1 ≤ lanes.toNat := UInt8.le_iff_toNat_le.mp hpos
      have hhi : lanes.toNat ≤ 4 := UInt8.le_iff_toNat_le.mp hlanes
      simpa using small lanes.toNat (by omega) hlo
    | longWrite generic | scratchWrite generic =>
      obtain rfl : byte = _ := h
      cases generic <;> rfl
    | delay | returnSize | constant =>
      rcases h with rfl | rfl <;> rfl
    | timing field =>
      rcases h with rfl | rfl <;> cases field <;> rfl

end Opcode

/-! ## Steps -/

namespace Step

/-- The bytes of a step: the byte of its operation, then the body. -/
inductive WrittenAs : Step → Bytes → Prop
  | inlineWrite {generic : Bool} {length code : UInt8} {payload : Bytes}
      (hcode : (Opcode.inlineWrite generic length).WrittenAs code)
      (hlength : payload.length = length.toNat) :
      WrittenAs (.write generic payload) (code :: payload)
  | longWrite {generic : Bool} {length code : UInt8} {payload : Bytes}
      (hcode : (Opcode.longWrite generic).WrittenAs code)
      (hlength : payload.length = length.toNat) :
      WrittenAs (.write generic payload) (code :: length :: payload)
  | scratchWrite {generic : Bool} {length code : UInt8}
      (hcode : (Opcode.scratchWrite generic).WrittenAs code) :
      WrittenAs (.writeScratch generic length) [code, length]
  | delay {ms code : UInt8} (hcode : Opcode.delay.WrittenAs code) :
      WrittenAs (.delay ms) [code, ms]
  | returnSize {size code : UInt8} (hcode : Opcode.returnSize.WrittenAs code) :
      WrittenAs (.returnSize size) [code, size]
  | read {query : Query} {length code : UInt8} {expected : Bytes}
      (hcode : (Opcode.read query.isGeneric length).WrittenAs code)
      (hlength : expected.length = length.toNat) :
      WrittenAs (.read query expected) (code :: query.bytes ++ expected)
  | laneFilter {lanes code : UInt8} (hcode : (Opcode.laneFilter lanes).WrittenAs code) :
      WrittenAs (.laneFilter lanes) [code]
  | constant {start length b0 b1 b2 b3 code : UInt8} (hcode : Opcode.constant.WrittenAs code) :
      WrittenAs (.constant start length (word b0 b1 b2 b3)) [code, start, length, b0, b1, b2, b3]
  | timing {field : TimingField} {start length dropped code : UInt8}
      (hcode : (Opcode.timing field).WrittenAs code) :
      WrittenAs (.timing field start length dropped) [code, start, length, dropped]

/-- The operation of a step and the rest of its bytes. -/
theorem WrittenAs.exists_code {step : Step} {bytes : Bytes} (h : step.WrittenAs bytes) :
    ∃ (op : Opcode) (code : UInt8) (body : Bytes), bytes = code :: body ∧ op.WrittenAs code ∧
      ∀ rest, op.step? (body ++ rest) = some (step, body.length) := by
  cases h with
  | inlineWrite hcode hlength =>
    refine ⟨_, _, _, rfl, hcode, fun rest => ?_⟩
    simp [Opcode.step?, Bytes.take?_append, hlength]
  | longWrite hcode hlength =>
    refine ⟨_, _, _, rfl, hcode, fun rest => ?_⟩
    simp [Opcode.step?, Bytes.take?_append, hlength, Nat.add_comm]
  | @read query length code expected hcode hlength =>
    refine ⟨_, _, _, rfl, hcode, fun rest => ?_⟩
    cases query <;>
      simp [Query.isGeneric, Query.bytes, Opcode.step?, Bytes.take?_append, hlength] <;> omega
  | scratchWrite hcode | delay hcode | returnSize hcode | laneFilter hcode | constant hcode
  | timing hcode => exact ⟨_, _, _, rfl, hcode, fun _ => rfl⟩

/-- What an operation reads stands in the table. -/
theorem writtenAs_of_step? {op : Opcode} {code : UInt8} {body : Bytes} {step : Step} {size : Nat}
    (hcode : op.WrittenAs code) (h : op.step? body = some (step, size)) :
    size ≤ body.length ∧ step.WrittenAs (code :: body.take size) := by
  revert h
  fun_cases Opcode.step? op body with
  | case1 generic length =>
    simp only [Option.map_eq_some_iff, Prod.mk.injEq]
    rintro ⟨payload, ht, rfl, rfl⟩
    obtain ⟨hlength, rest, rfl⟩ := Bytes.take?_eq_some_iff.mp ht
    rw [List.take_left' hlength]
    exact ⟨by simp [hlength], .inlineWrite hcode hlength⟩
  | case2 generic length body =>
    simp only [Option.map_eq_some_iff, Prod.mk.injEq]
    rintro ⟨payload, ht, rfl, rfl⟩
    obtain ⟨hlength, rest, rfl⟩ := Bytes.take?_eq_some_iff.mp ht
    rw [Nat.add_comm, List.take_succ_cons, List.take_left' hlength]
    exact ⟨by simp [hlength], .longWrite hcode hlength⟩
  | case6 length command body =>
    simp only [Option.map_eq_some_iff, Prod.mk.injEq]
    rintro ⟨expected, ht, rfl, rfl⟩
    obtain ⟨hlength, rest, rfl⟩ := Bytes.take?_eq_some_iff.mp ht
    rw [Nat.add_comm, List.take_succ_cons, List.take_left' hlength]
    exact ⟨by simp [hlength], @WrittenAs.read (.dcs command) _ _ _ hcode hlength⟩
  | case7 length first second body =>
    simp only [Option.map_eq_some_iff, Prod.mk.injEq]
    rintro ⟨expected, ht, rfl, rfl⟩
    obtain ⟨hlength, rest, rfl⟩ := Bytes.take?_eq_some_iff.mp ht
    rw [Nat.add_comm, List.take_succ_cons, List.take_succ_cons, List.take_left' hlength]
    exact ⟨by simp [hlength], @WrittenAs.read (.generic first second) _ _ _ hcode hlength⟩
  | case11 => simp
  | case3 =>
    rintro ⟨⟩
    exact ⟨by simp, .scratchWrite hcode⟩
  | case4 =>
    rintro ⟨⟩
    exact ⟨by simp, .delay hcode⟩
  | case5 =>
    rintro ⟨⟩
    exact ⟨by simp, .returnSize hcode⟩
  | case8 =>
    rintro ⟨⟩
    exact ⟨by simp, .laneFilter hcode⟩
  | case9 =>
    rintro ⟨⟩
    exact ⟨by simp, .constant hcode⟩
  | case10 =>
    rintro ⟨⟩
    exact ⟨by simp, .timing hcode⟩

/-- No body is longer than 257 bytes. -/
theorem exists_step?_of_length (op : Opcode) {body : Bytes} (h : 257 ≤ body.length) :
    ∃ found, op.step? body = some found := by
  have taken (n : UInt8) {data : Bytes} (hdata : 255 ≤ data.length) :
      Bytes.take? n.toNat data = some (data.take n.toNat) := by
    have hn : n.toNat < 256 := n.toNat_lt
    exact if_pos (by omega)
  match body, h with
  | b0 :: b1 :: b2 :: b3 :: b4 :: b5 :: rest, h =>
    simp only [List.length_cons] at h
    cases op with
    | inlineWrite generic length | longWrite generic =>
      simp only [Opcode.step?]
      rw [taken _ (by simp only [List.length_cons]; omega)]
      exact ⟨_, rfl⟩
    | read generic length =>
      cases generic <;>
      · simp only [Opcode.step?]
        rw [taken _ (by simp only [List.length_cons]; omega)]
        exact ⟨_, rfl⟩
    | scratchWrite | delay | returnSize | laneFilter | constant | timing => exact ⟨_, rfl⟩

/-- Where an operation reads nothing, its body runs past the end: with more bytes it would be a
step. -/
theorem exists_more_of_step?_eq_none {op : Opcode} {code : UInt8} {body : Bytes}
    (hcode : op.WrittenAs code) (h : op.step? body = none) :
    ∃ (more : Bytes) (step : Step), more ≠ [] ∧ step.WrittenAs (code :: body ++ more) := by
  have hroom : 257 ≤ (body ++ Bytes.zeros 257).length := by simp
  obtain ⟨⟨step, size⟩, hfound⟩ := exists_step?_of_length op hroom
  obtain ⟨hsize, hstep⟩ := writtenAs_of_step? hcode hfound
  have hlong : body.length < size := by
    refine Nat.lt_of_not_le fun hshort => ?_
    rw [List.take_append_of_le_length hshort] at hstep
    obtain ⟨op', code', body', hbytes, hcode', hread⟩ := hstep.exists_code
    obtain ⟨rfl, rfl⟩ := List.cons.inj hbytes
    have hop : op' = op := Option.some.inj
      ((Opcode.decode?_eq_some_iff.mpr hcode').symm.trans (Opcode.decode?_eq_some_iff.mpr hcode))
    have hbody := hread (body.drop size)
    rw [List.take_append_drop, hop, h] at hbody
    cases hbody
  refine ⟨(Bytes.zeros 257).take (size - body.length), step, ?_, ?_⟩
  · intro hnil
    have hlength := congrArg List.length hnil
    simp only [List.length_append, Bytes.length_zeros, List.length_take, List.length_nil] at *
    omega
  · rw [List.take_append, List.take_of_length_le (by omega)] at hstep
    exact hstep

end Step

namespace Program

/-- What is wrong with bytes at `offset` that do not start with a step: no operation has their first
byte, or its body runs past the end, so that more bytes would make them a step. -/
inductive Broken (offset : Nat) : Bytes → PanelError → Prop
  | unknownOpcode {code : UInt8} {rest : Bytes} (hcode : ¬Opcode.IsCode code) :
      Broken offset (code :: rest) (.unknownOpcode offset code)
  | truncated {code : UInt8} {rest more : Bytes} {step : Step} (hcode : Opcode.IsCode code)
      (hmore : more ≠ []) (hstep : step.WrittenAs (code :: rest ++ more)) :
      Broken offset (code :: rest) (.truncated offset)

/-- What stands in the table is read, whatever follows it. -/
theorem stepAt_of_writtenAs {step : Step} {code : UInt8} {body : Bytes} (offset : Nat)
    (rest : Bytes) (h : step.WrittenAs (code :: body)) :
    stepAt offset code (body ++ rest) = .ok (step, body.length) := by
  obtain ⟨op, code', body', hbytes, hcode, hread⟩ := h.exists_code
  obtain ⟨rfl, rfl⟩ := List.cons.inj hbytes
  simp only [stepAt, Opcode.decode?_eq_some_iff.mpr hcode, hread rest]

/-- What is read stands in the table. -/
theorem writtenAs_of_stepAt {offset : Nat} {code : UInt8} {body : Bytes} {step : Step} {size : Nat}
    (h : stepAt offset code body = .ok (step, size)) :
    size ≤ body.length ∧ step.WrittenAs (code :: body.take size) := by
  unfold stepAt at h
  cases hd : Opcode.decode? code with
  | none => simp [hd] at h
  | some op =>
    cases hs : op.step? body with
    | none => simp [hd, hs] at h
    | some found =>
      simp only [hd, hs, Except.ok.injEq] at h
      subst found
      exact Step.writtenAs_of_step? (Opcode.decode?_eq_some_iff.mp hd) hs

theorem broken_of_stepAt {offset : Nat} {code : UInt8} {body : Bytes} {e : PanelError}
    (h : stepAt offset code body = .error e) : Broken offset (code :: body) e := by
  have hsome := Opcode.isSome_decode? code
  unfold stepAt at h
  cases hd : Opcode.decode? code with
  | none =>
    have hcode : ¬Opcode.IsCode code := by simpa [hd] using hsome
    obtain rfl : _ = e := by simpa [hd] using h
    exact .unknownOpcode hcode
  | some op =>
    have hcode : Opcode.IsCode code := by simpa [hd] using hsome
    cases hs : op.step? body with
    | none =>
      obtain rfl : _ = e := by simpa [hd, hs] using h
      obtain ⟨more, step, hmore, hstep⟩ :=
        Step.exists_more_of_step?_eq_none (Opcode.decode?_eq_some_iff.mp hd) hs
      exact .truncated hcode hmore hstep
    | some found => simp [hd, hs] at h

end Program

end PanelDriver

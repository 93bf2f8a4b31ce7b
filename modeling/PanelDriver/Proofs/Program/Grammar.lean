import PanelDriver.Proofs.Program.Tiling

/-!
Programs as sequences of encoded steps. The encoding of a step is one of its forms
(`writtenAs_of_encode?`), and no form is shorter (`WrittenAs.width_le`). So the encodings of any
steps, one after another, are a program with just these steps, and take up no more bytes than any
other such program.
-/

namespace PanelDriver

/-- An operation is encoded as a byte that stands for it. -/
theorem Opcode.writtenAs_of_encode? {op : Opcode} {byte : UInt8} (h : op.encode? = some byte) :
    op.WrittenAs byte := by
  cases op with
  | inlineWrite generic length =>
    obtain ⟨hlength, hbyte⟩ := Option.ite_none_right_eq_some.mp h
    exact ⟨hlength, (Option.some.inj hbyte).symm⟩
  | read generic length =>
    obtain ⟨hlength, hbyte⟩ := Option.ite_none_right_eq_some.mp h
    have hcode : readCode + length - 1 = 0x3f + length := by grind [readCode]
    exact ⟨hlength, by rw [← hcode]; exact (Option.some.inj hbyte).symm⟩
  | laneFilter lanes =>
    obtain ⟨hlanes, hbyte⟩ := Option.ite_none_right_eq_some.mp h
    have hcode : laneFilterCode + lanes - 1 = 0x47 + lanes := by grind [laneFilterCode]
    exact ⟨hlanes, by rw [← hcode]; exact (Option.some.inj hbyte).symm⟩
  | longWrite generic | scratchWrite generic => exact (Option.some.inj h).symm
  | timing field =>
    obtain rfl := Option.some.inj h
    cases field <;> exact .inl rfl
  | delay | returnSize | constant => exact .inl (Option.some.inj h).symm

namespace Step

/-- The bounds within which a step has an encoding. -/
def Encodable : Step → Prop
  | write _ payload => payload.length ≤ 255
  | read _ expected => 1 ≤ expected.length ∧ expected.length ≤ 8
  | laneFilter lanes => 1 ≤ lanes.toNat ∧ lanes.toNat ≤ 4
  | _ => True

/-- Bytes of the encoding of a step. -/
def width : Step → Nat
  | write _ payload => payload.length + if payload.length ≤ 59 then 1 else 2
  | writeScratch _ _ | delay _ | returnSize _ => 2
  | read query expected => 1 + query.bytes.length + expected.length
  | laneFilter _ => 1
  | constant _ _ _ => 7
  | timing _ _ _ _ => 4

/-- Bytes of the encodings of steps. -/
def totalWidth : List Step → Nat
  | [] => 0
  | step :: rest => step.width + totalWidth rest

theorem totalWidth_le_append (steps later : List Step) :
    totalWidth steps ≤ totalWidth (steps ++ later) := by
  induction steps with
  | nil => exact Nat.zero_le _
  | cons step rest ih => exact Nat.add_le_add_left ih _

theorem encode?_of_parts {step : Step} {op : Opcode} {body : List Bytes} {byte : UInt8}
    (hp : step.parts? = some (op, body)) (ho : op.encode? = some byte) :
    step.encode? = some (byte :: body.flatten) := by
  simp [encode?, pieces?, hp, ho]

theorem exists_parts_of_encode? {step : Step} {bytes : Bytes} (h : step.encode? = some bytes) :
    ∃ op body byte, step.parts? = some (op, body) ∧ op.encode? = some byte ∧
      bytes = byte :: body.flatten := by
  unfold encode? pieces? at h
  cases hp : step.parts? with
  | none => simp [hp] at h
  | some parts =>
    obtain ⟨op, body⟩ := parts
    cases ho : op.encode? with
    | none => simp [hp, ho] at h
    | some byte =>
      refine ⟨op, body, byte, rfl, ho, ?_⟩
      simpa [hp, ho, eq_comm] using h

theorem word_wordBytes (value : UInt32) :
    word value.toUInt8 (value >>> 8).toUInt8 (value >>> 16).toUInt8 (value >>> 24).toUInt8 =
      value := by
  apply UInt32.toBitVec_inj.mp
  apply BitVec.eq_of_getLsbD_eq
  intro i hi
  simp only [word, UInt32.toBitVec_or, UInt32.toBitVec_shiftLeft, UInt8.toBitVec_toUInt32,
    UInt32.toBitVec_toUInt8, UInt32.toBitVec_shiftRight, BitVec.getLsbD_or,
    BitVec.getLsbD_setWidth]
  simp only [UInt32.toBitVec_ofNat, BitVec.reduceMod, BitVec.shiftLeft_eq',
    BitVec.getLsbD_shiftLeft, BitVec.getLsbD_setWidth, BitVec.ushiftRight_eq',
    BitVec.getLsbD_ushiftRight, BitVec.reduceToNat]
  -- bit i comes from byte i / 8, and from that byte only
  grind

/-- A step is encoded in one of its forms. -/
theorem writtenAs_of_encode? {step : Step} {bytes : Bytes} (h : step.encode? = some bytes) :
    step.WrittenAs bytes := by
  obtain ⟨op, body, byte, hp, ho, rfl⟩ := exists_parts_of_encode? h
  have hcode := Opcode.writtenAs_of_encode? ho
  cases step with
  | write generic payload =>
    simp only [parts?] at hp
    split at hp
    · rename_i hshort
      have hlength : (UInt8.ofNat payload.length).toNat = payload.length :=
        UInt8.toNat_ofNat_of_lt' (Nat.lt_of_le_of_lt hshort (by decide))
      obtain ⟨rfl, rfl⟩ : _ = op ∧ _ = body := by simpa using hp
      simpa using WrittenAs.inlineWrite hcode hlength.symm
    · simp only [Option.ite_none_right_eq_some, Option.some.injEq, Prod.mk.injEq] at hp
      obtain ⟨hlong, rfl, rfl⟩ := hp
      have hlength : (UInt8.ofNat payload.length).toNat = payload.length :=
        UInt8.toNat_ofNat_of_lt' (Nat.lt_of_le_of_lt hlong (by decide))
      simpa using WrittenAs.longWrite hcode hlength.symm
  | read query expected =>
    simp only [parts?, Option.ite_none_right_eq_some, Option.some.injEq, Prod.mk.injEq] at hp
    obtain ⟨hshort, rfl, rfl⟩ := hp
    have hlength : (UInt8.ofNat expected.length).toNat = expected.length :=
      UInt8.toNat_ofNat_of_lt' (Nat.lt_of_le_of_lt hshort (by decide))
    simpa using WrittenAs.read hcode hlength.symm
  | constant start length value =>
    simp only [parts?, Option.some.injEq, Prod.mk.injEq] at hp
    obtain ⟨rfl, rfl⟩ := hp
    have hstep : (constant start length (word _ _ _ _)).WrittenAs
        (byte :: start :: length :: wordBytes value) := .constant hcode
    rwa [word_wordBytes] at hstep
  | writeScratch | delay | returnSize | laneFilter | timing =>
    simp only [parts?, Option.some.injEq, Prod.mk.injEq] at hp
    obtain ⟨rfl, rfl⟩ := hp
    constructor
    exact hcode

/-- Every step within its bounds has an encoding, of its width. -/
theorem encode?_of_encodable {step : Step} (h : step.Encodable) :
    ∃ bytes, step.encode? = some bytes ∧ bytes.length = step.width := by
  cases step with
  | write generic payload =>
    have hlong : payload.length ≤ 255 := h
    by_cases hshort : payload.length ≤ 59
    · have hle : UInt8.ofNat payload.length ≤ Opcode.maxInline := by
        rw [UInt8.le_iff_toNat_le, UInt8.toNat_ofNat_of_lt' (show _ < 256 by omega)]
        exact hshort
      have hp : (write generic payload).parts? =
          some (.inlineWrite generic (.ofNat payload.length), [payload]) := if_pos hshort
      refine ⟨_, encode?_of_parts hp (if_pos hle), ?_⟩
      simp [width, hshort]
    · have hp : (write generic payload).parts? =
          some (.longWrite generic, [[.ofNat payload.length], payload]) :=
        (if_neg hshort).trans (if_pos hlong)
      refine ⟨_, encode?_of_parts hp rfl, ?_⟩
      simp [width, hshort]
  | read query expected =>
    obtain ⟨hpos, hshort⟩ : 1 ≤ expected.length ∧ expected.length ≤ 8 := h
    have hle : 1 ≤ UInt8.ofNat expected.length ∧ UInt8.ofNat expected.length ≤ Opcode.maxRead := by
      rw [UInt8.le_iff_toNat_le, UInt8.le_iff_toNat_le,
        UInt8.toNat_ofNat_of_lt' (show _ < 256 by omega)]
      exact ⟨hpos, hshort⟩
    have hp : (read query expected).parts? =
        some (.read query.isGeneric (.ofNat expected.length), [query.bytes, expected]) :=
      if_pos hshort
    refine ⟨_, encode?_of_parts hp (if_pos hle), ?_⟩
    simp [width]
    omega
  | laneFilter lanes =>
    have hle : 1 ≤ lanes ∧ lanes ≤ Opcode.maxLanes := by
      rw [UInt8.le_iff_toNat_le, UInt8.le_iff_toNat_le]
      exact h
    exact ⟨_, encode?_of_parts rfl (if_pos hle), rfl⟩
  | writeScratch generic length => exact ⟨_, encode?_of_parts rfl rfl, rfl⟩
  | delay ms => exact ⟨_, encode?_of_parts rfl rfl, rfl⟩
  | returnSize size => exact ⟨_, encode?_of_parts rfl rfl, rfl⟩
  | constant start length value => exact ⟨_, encode?_of_parts rfl rfl, rfl⟩
  | timing field start length dropped => exact ⟨_, encode?_of_parts rfl rfl, rfl⟩

/-- A step that is written in any form is within its bounds. -/
theorem WrittenAs.encodable {step : Step} {bytes : Bytes} (h : step.WrittenAs bytes) :
    step.Encodable := by
  cases h with
  | inlineWrite hcode hlength =>
    have hle := UInt8.le_iff_toNat_le.mp hcode.1
    exact Nat.le_trans (Nat.le_of_eq hlength) (Nat.le_trans hle (by decide))
  | longWrite _ hlength =>
    exact Nat.le_trans (Nat.le_of_eq hlength) (Nat.le_of_lt_succ (UInt8.toNat_lt _))
  | read hcode hlength =>
    simp only [Encodable, hlength]
    exact ⟨UInt8.le_iff_toNat_le.mp hcode.1.1, UInt8.le_iff_toNat_le.mp hcode.1.2⟩
  | laneFilter hcode =>
    exact ⟨UInt8.le_iff_toNat_le.mp hcode.1.1, UInt8.le_iff_toNat_le.mp hcode.1.2⟩
  | scratchWrite | delay | returnSize | constant | timing => trivial

/-- No form of a step is shorter than its encoding. -/
theorem WrittenAs.width_le {step : Step} {bytes : Bytes} (h : step.WrittenAs bytes) :
    step.width ≤ bytes.length := by
  cases h with
  | inlineWrite hcode hlength =>
    have hle : _ ≤ 59 := UInt8.le_iff_toNat_le.mp hcode.1
    simp only [width, hlength, List.length_cons, hle, ↓reduceIte]
    exact Nat.le_refl _
  | longWrite =>
    simp only [width, List.length_cons]
    split <;> omega
  | read =>
    simp only [width, List.cons_append, List.length_cons, List.length_append]
    omega
  | scratchWrite | delay | returnSize | laneFilter | constant | timing => exact Nat.le_refl _

end Step

namespace Program

/-- The program that consists of the encodings of steps, one after another. -/
def ofSteps (steps : List Step) : Program := ⟨steps.flatMap fun step => step.encode?.getD []⟩

theorem ofSteps_cons {step : Step} {bytes : Bytes} (rest : List Step)
    (h : step.encode? = some bytes) :
    (ofSteps (step :: rest)).bytes = bytes ++ (ofSteps rest).bytes := by
  simp [ofSteps, h]

/-- The encodings of steps are tiles of their widths. -/
theorem exists_tiles_ofSteps {steps : List Step} (h : ∀ step ∈ steps, step.Encodable) :
    ∃ tiles, (ofSteps steps).bytes = Tile.join tiles ∧
      Tile.sizes tiles = steps.map fun step => (step, step.width) := by
  induction steps with
  | nil => exact ⟨[], rfl, rfl⟩
  | cons step rest ih =>
    obtain ⟨bytes, hbytes, hwidth⟩ := Step.encode?_of_encodable (h step List.mem_cons_self)
    obtain ⟨tiles, hjoin, hsizes⟩ := ih fun s hs => h s (List.mem_cons_of_mem _ hs)
    refine ⟨⟨step, bytes, Step.writtenAs_of_encode? hbytes⟩ :: tiles, ?_, ?_⟩
    · rw [ofSteps_cons rest hbytes, hjoin]
      rfl
    · rw [List.map_cons, ← hsizes, ← hwidth]
      rfl

theorem length_ofSteps {steps : List Step} (h : ∀ step ∈ steps, step.Encodable) :
    (ofSteps steps).length = Step.totalWidth steps := by
  unfold length
  induction steps with
  | nil => rfl
  | cons step rest ih =>
    obtain ⟨bytes, hbytes, hwidth⟩ := Step.encode?_of_encodable (h step List.mem_cons_self)
    have hrest := ih fun s hs => h s (List.mem_cons_of_mem _ hs)
    rw [ofSteps_cons rest hbytes, List.length_append, hrest, hwidth, Step.totalWidth]

/-- Such a program has just these steps, each where its encoding begins. -/
theorem items_ofSteps {steps : List Step} (h : ∀ step ∈ steps, step.Encodable) :
    (ofSteps steps).items = placed 0 (steps.map fun step => (step, step.width)) := by
  obtain ⟨tiles, hjoin, hsizes⟩ := exists_tiles_ofSteps h
  rw [items_of_bytes_eq_join hjoin, hsizes]

theorem steps_ofSteps {steps : List Step} (h : ∀ step ∈ steps, step.Encodable) :
    (ofSteps steps).steps = .ok steps := by
  rw [steps_of_items_eq_placed (items_ofSteps h), List.map_map]
  simp [Function.comp_def]

theorem totalWidth_le_length_join (tiles : List Tile) :
    Step.totalWidth (tiles.map (·.step)) ≤ (Tile.join tiles).length := by
  induction tiles with
  | nil => exact Nat.le_refl _
  | cons tile rest ih =>
    have hwidth := tile.written.width_le
    have hjoin : Tile.join (tile :: rest) = tile.bytes ++ Tile.join rest := rfl
    rw [List.map_cons, Step.totalWidth, hjoin, List.length_append]
    omega

/-- The steps of a valid program are within their bounds, and their encodings take up no more bytes
than the program. -/
theorem encodable_of_steps {program : Program} {steps : List Step} (h : program.steps = .ok steps) :
    (∀ step ∈ steps, step.Encodable) ∧ Step.totalWidth steps ≤ program.length := by
  obtain ⟨tiles, rest, hbytes, ⟨rfl, hitems⟩ | ⟨e, -, hitems⟩⟩ := exists_items_eq program
  · have hsteps : steps = tiles.map (·.step) := by
      rw [steps_of_items_eq_placed hitems, Tile.sizes, List.map_map] at h
      exact (Except.ok.inj h).symm
    subst hsteps
    constructor
    · intro step hstep
      obtain ⟨tile, -, rfl⟩ := List.mem_map.mp hstep
      exact tile.written.encodable
    · rw [length, hbytes, List.append_nil]
      exact totalWidth_le_length_join tiles
  · rw [Program.steps, hitems, collect_placed] at h
    cases h

end Program

end PanelDriver

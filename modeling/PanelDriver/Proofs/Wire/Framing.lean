import PanelDriver.Packer

/-!
Nine-bit frames as a panel reads them. A frame is read in groups of a tag bit and a byte, and the
groups are cut into commands before every tag that is zero. A frame of waiting commands reads back
as just these commands (`cut_deframe`), and frames that start with a command can be read one by one
or all together (`cut_flatMap_deframe`).
-/

namespace PanelDriver

namespace Packer

/-- The bits of a frame: the waiting ones, and ones up to the end of the last byte. -/
theorem ofBytes_frame (p : Packer) :
    Bits.ofBytes p.frame =
      p.pending ++ List.replicate (8 * p.frameLength - p.cursor) true := by
  have hbits : Bits.ofBytes p.frame =
      (List.range (8 * p.frameLength)).map fun n => p.pending.getD n true := by
    rw [Bits.ofBytes, frame, List.flatMap_map, ← Bits.flatMap_range_eight]
    simp only [Bits.ofByte_byte]
  rw [hbits]
  have hlength : p.pending.length ≤ 8 * p.frameLength := by
    simp only [frameLength, cursor]; omega
  apply List.ext_getElem
  · simp [cursor]; omega
  · intro n hn _
    by_cases h : n < p.pending.length
    · simp [h]
    · simp [h, List.getElem_append_right (Nat.le_of_not_lt h)]

end Packer

namespace Wire

/-- A tag bit and the byte after it. -/
abbrev Group := Bool × UInt8

/-- The group that starts at bit `n`. -/
def groupAt (bits : List Bool) (n : Nat) : Group :=
  (bits.getD n true, Bits.byte fun k => bits.getD (n + 1 + k) true)

/-- As many groups as are whole. -/
def groups (bits : List Bool) : List Group :=
  (List.range (bits.length / 9)).map fun i => groupAt bits (9 * i)

def deframe (frame : Bytes) : List Group := groups (Bits.ofBytes frame)

/-- The bits of a frame after its last whole group. -/
def leftOver (frame : Bytes) : List Bool :=
  (Bits.ofBytes frame).drop (9 * (8 * frame.length / 9))

/-- Cuts groups into commands, when `command` is what has been read of the first one. -/
def cutFrom (command : Bytes) : List Group → List Bytes
  | [] => [command]
  | (true, b) :: rest => cutFrom (command ++ [b]) rest
  | (false, b) :: rest => command :: cutFrom [b] rest

/-- Cuts groups into commands: one starts at every tag that is zero. -/
def cut : List Group → List Bytes
  | [] => []
  | (_, b) :: rest => cutFrom [b] rest

/-- The groups of a command. -/
def tagged : Bytes → List Group
  | [] => []
  | b :: data => (false, b) :: data.map fun d => (true, d)

theorem groupAt_append_right (front rest : List Bool) (n : Nat) :
    groupAt (front ++ rest) (front.length + n) = groupAt rest n := by
  simp [groupAt, List.getElem?_append_right, Nat.add_assoc]

theorem groupAt_zero (tag : Bool) (b : UInt8) (rest : List Bool) :
    groupAt (tag :: Bits.ofByte b ++ rest) 0 = (tag, b) := by
  have hbits : (Bits.byte fun k => (tag :: Bits.ofByte b ++ rest).getD (0 + 1 + k) true) =
      Bits.byte fun k => (Bits.ofByte b).getD k true := by
    apply Bits.byte_congr
    intro k hk
    have hlt : k < (Bits.ofByte b).length := by simpa using hk
    simp [Nat.add_comm 1 k, List.getElem?_append_left hlt]
  simp only [groupAt, hbits, Bits.byte_ofByte]
  rfl

/-- The first group, and the groups of the bits after it. -/
theorem groups_cons (tag : Bool) (b : UInt8) (rest : List Bool) :
    groups (tag :: Bits.ofByte b ++ rest) = (tag, b) :: groups rest := by
  have hlength : (tag :: Bits.ofByte b ++ rest).length / 9 = rest.length / 9 + 1 := by
    simp; omega
  have hshift (i : Nat) :
      groupAt (tag :: Bits.ofByte b ++ rest) (9 * (i + 1)) = groupAt rest (9 * i) := by
    have h := groupAt_append_right (tag :: Bits.ofByte b) rest (9 * i)
    rw [← h]
    congr 1
    simp; omega
  rw [groups, hlength, List.range_succ_eq_map, List.map_cons, List.map_map]
  refine congr (congrArg _ ?_) (List.map_congr_left fun i _ => ?_)
  · simpa using groupAt_zero tag b rest
  · exact hshift i

theorem groups_nil {bits : List Bool} (h : bits.length < 9) : groups bits = [] := by
  simp [groups, Nat.div_eq_of_lt h]

theorem groups_nineBit (command : Bytes) (rest : List Bool) :
    groups (Packer.nineBit command ++ rest) = tagged command ++ groups rest := by
  have data (bytes : Bytes) (rest : List Bool) :
      groups ((bytes.flatMap fun b => true :: Bits.ofByte b) ++ rest) =
        bytes.map (fun b => (true, b)) ++ groups rest := by
    induction bytes with
    | nil => rfl
    | cons b bytes ih =>
      rw [List.flatMap_cons, List.append_assoc, groups_cons, ih]
      rfl
  cases command with
  | nil => rfl
  | cons b bytes =>
    rw [Packer.nineBit, List.append_assoc, groups_cons, data]
    rfl

theorem groups_commands (commands : List Bytes) (rest : List Bool) :
    groups (commands.flatMap Packer.nineBit ++ rest) = commands.flatMap tagged ++ groups rest := by
  induction commands with
  | nil => rfl
  | cons command commands ih =>
    rw [List.flatMap_cons, List.append_assoc, groups_nineBit, ih, List.flatMap_cons,
      List.append_assoc]

/-! ## Cutting -/

/-- The first group, if there is one, starts a command. -/
def Starts (gs : List Group) : Prop := ∀ g ∈ gs.head?, g.1 = false

theorem starts_flatMap {frames : List Bytes} (h : ∀ frame ∈ frames, Starts (deframe frame)) :
    Starts (frames.flatMap deframe) := by
  induction frames with
  | nil => simp [Starts]
  | cons frame rest ih =>
    have hrest := ih fun f hf => h f (List.mem_cons_of_mem _ hf)
    have hfirst := h frame List.mem_cons_self
    rw [List.flatMap_cons]
    cases hd : deframe frame with
    | nil => exact hrest
    | cons g gs =>
      rw [hd] at hfirst
      exact hfirst

theorem cutFrom_append (command : Bytes) (xs : List Group) {ys : List Group} (h : Starts ys) :
    cutFrom command (xs ++ ys) = cutFrom command xs ++ cut ys := by
  induction xs generalizing command with
  | nil =>
    cases ys with
    | nil => rfl
    | cons g rest =>
      obtain ⟨tag, b⟩ := g
      have htag : tag = false := h (tag, b) rfl
      subst tag
      rfl
  | cons g rest ih =>
    obtain ⟨tag, b⟩ := g
    cases tag <;> simp only [List.cons_append, cutFrom, ih]

theorem cut_append (xs : List Group) {ys : List Group} (h : Starts ys) :
    cut (xs ++ ys) = cut xs ++ cut ys := by
  cases xs with
  | nil => rfl
  | cons g rest => exact cutFrom_append [g.2] rest h

/-- Frames that start with a command can be cut one by one. -/
theorem cut_flatMap_deframe {frames : List Bytes} (h : ∀ frame ∈ frames, Starts (deframe frame)) :
    cut (frames.flatMap deframe) = frames.flatMap fun frame => cut (deframe frame) := by
  induction frames with
  | nil => rfl
  | cons frame rest ih =>
    have hrest : ∀ f ∈ rest, Starts (deframe f) := fun f hf => h f (List.mem_cons_of_mem _ hf)
    rw [List.flatMap_cons, cut_append _ (starts_flatMap hrest), ih hrest, List.flatMap_cons]

theorem cutFrom_data (command data : Bytes) :
    cutFrom command (data.map fun d => (true, d)) = [command ++ data] := by
  induction data generalizing command with
  | nil => simp [cutFrom]
  | cons d data ih => simp [cutFrom, ih]

theorem cut_tagged {command : Bytes} (h : command ≠ []) : cut (tagged command) = [command] := by
  cases command with
  | nil => exact absurd rfl h
  | cons b data => exact cutFrom_data [b] data

theorem starts_commands {commands : List Bytes} : Starts (commands.flatMap tagged) := by
  induction commands with
  | nil => simp [Starts]
  | cons command rest ih =>
    cases command with
    | nil => exact ih
    | cons b data => simp [Starts, tagged]

theorem cut_commands {commands : List Bytes} (h : ∀ command ∈ commands, command ≠ []) :
    cut (commands.flatMap tagged) = commands := by
  induction commands with
  | nil => rfl
  | cons command rest ih =>
    rw [List.flatMap_cons, cut_append _ starts_commands, cut_tagged (h command List.mem_cons_self),
      ih fun c hc => h c (List.mem_cons_of_mem _ hc)]
    rfl

/-! ## Frames of commands -/

/-- A frame of whole commands: short enough for one transfer, it starts with a command, and after
its last group the line is high. -/
structure SoundFrame (frame : Bytes) : Prop where
  length_pos : 1 ≤ frame.length
  length_le : frame.length ≤ 64
  starts : (deframe frame).head?.map Prod.fst = some false
  idle : ∀ bit ∈ leftOver frame, bit = true

theorem length_commands (commands : List Bytes) :
    (commands.flatMap Packer.nineBit).length = 9 * commands.flatten.length := by
  induction commands with
  | nil => rfl
  | cons command rest ih =>
    rw [List.flatMap_cons, List.length_append, ih, Packer.length_nineBit, List.flatten_cons,
      List.length_append, Nat.mul_add]

section Frame

variable {p : Packer} {commands : List Bytes} (hp : p.pending = commands.flatMap Packer.nineBit)

include hp

theorem deframe_frame : deframe p.frame = commands.flatMap tagged := by
  have hones : (List.replicate (8 * p.frameLength - p.cursor) true).length < 9 := by
    simp only [List.length_replicate, Packer.frameLength]; omega
  rw [deframe, Packer.ofBytes_frame, hp, groups_commands, groups_nil hones, List.append_nil]

/-- A frame of waiting commands reads back as these commands. -/
theorem cut_deframe (hne : ∀ command ∈ commands, command ≠ []) :
    cut (deframe p.frame) = commands := by
  rw [deframe_frame hp, cut_commands hne]

theorem leftOver_frame : leftOver p.frame = List.replicate (8 * p.frameLength - p.cursor) true := by
  have hcursor : p.cursor = 9 * commands.flatten.length := by
    rw [Packer.cursor, hp, length_commands]
  have hwhole : 9 * (8 * p.frame.length / 9) = p.pending.length := by
    rw [Packer.length_frame, Packer.frameLength, ← Packer.cursor, hcursor]
    omega
  rw [leftOver, Packer.ofBytes_frame, hwhole, List.drop_left]

theorem soundFrame_frame (hne : ∀ command ∈ commands, command ≠ []) (hsome : commands ≠ [])
    (hroom : p.cursor ≤ Packer.capacity) : SoundFrame p.frame := by
  have hframe := deframe_frame hp
  cases commands with
  | nil => exact absurd rfl hsome
  | cons command rest =>
    have hcommand := hne command List.mem_cons_self
    cases command with
    | nil => exact absurd rfl hcommand
    | cons b data =>
      have hlength : 9 ≤ p.cursor := by
        rw [Packer.cursor, hp, length_commands]
        simp only [List.flatten_cons, List.cons_append, List.length_cons]
        omega
      simp only [Packer.capacity, Packer.windowBytes] at hroom
      refine ⟨?_, ?_, ?_, ?_⟩
      · rw [Packer.length_frame, Packer.frameLength]; omega
      · rw [Packer.length_frame, Packer.frameLength]; omega
      · rw [hframe]; rfl
      · rw [leftOver_frame hp]
        exact fun bit hbit => List.eq_of_mem_replicate hbit

end Frame

end Wire

end PanelDriver

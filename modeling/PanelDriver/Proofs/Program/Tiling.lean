import PanelDriver.Program.Reader
import PanelDriver.Proofs.Program.Table

/-!
The items of a program are its grammar. A program falls into the bytes of its steps, one after
another from the first byte on, and a rest that starts with no step; it is valid if nothing is left,
and otherwise its one error says what is wrong where the rest begins (`items_tiled`).
-/

namespace PanelDriver

/-- A step with the bytes that it is written as. -/
structure Tile where
  step : Step
  bytes : Bytes
  written : step.WrittenAs bytes

namespace Tile

def join (tiles : List Tile) : Bytes := tiles.flatMap (·.bytes)

def sizes (tiles : List Tile) : List (Step × Nat) := tiles.map fun t => (t.step, t.bytes.length)

theorem length_pos (t : Tile) : 0 < t.bytes.length := by
  obtain ⟨op, code, body, hbytes, -⟩ := t.written.exists_code
  rw [hbytes]
  exact Nat.succ_pos _

end Tile

namespace Program

/-- The program is made of written steps and nothing else. -/
def Written (program : Program) : Prop := ∃ tiles, program.bytes = Tile.join tiles

/-- Steps of these sizes, one after another from `offset` on. -/
def placed : Nat → List (Step × Nat) → List Item
  | _, [] => []
  | offset, (step, size) :: rest => .ok (offset, step) :: placed (offset + size) rest

/-- The places of steps. -/
def offsets (items : List Item) : List Nat := items.filterMap fun
  | .ok (offset, _) => some offset
  | .error _ => none

@[simp] theorem length_placed (offset : Nat) (sized : List (Step × Nat)) :
    (placed offset sized).length = sized.length := by
  fun_induction placed offset sized with
  | case1 => rfl
  | case2 offset step size rest ih => simp [ih]

theorem collect_placed (offset : Nat) (sized : List (Step × Nat)) (rest : List Item) :
    collect (placed offset sized ++ rest) = (collect rest).map (sized.map Prod.fst ++ ·) := by
  fun_induction placed offset sized with
  | case1 => cases h : collect rest <;> simp [h, Except.map]
  | case2 offset step size sized ih =>
    rw [List.cons_append, collect, ih]
    cases collect rest <;> rfl

theorem le_of_mem_offsets {offset n : Nat} {sized : List (Step × Nat)}
    (h : n ∈ offsets (placed offset sized)) : offset ≤ n := by
  fun_induction placed offset sized with
  | case1 => simp [offsets] at h
  | case2 offset step size rest ih =>
    rcases List.mem_cons.mp h with rfl | h
    · exact Nat.le_refl _
    · exact Nat.le_trans (Nat.le_add_right _ _) (ih h)

/-- No two tiles have the same place. -/
theorem pairwise_offsets (offset : Nat) (tiles : List Tile) :
    (offsets (placed offset (Tile.sizes tiles))).Pairwise (· < ·) := by
  induction tiles generalizing offset with
  | nil => exact List.Pairwise.nil
  | cons tile rest ih =>
    refine List.pairwise_cons.mpr ⟨fun n hn => ?_, ih (offset + tile.bytes.length)⟩
    have hpos := tile.length_pos
    have hle := le_of_mem_offsets hn
    omega

/-- A written step reads back, whatever follows it. -/
theorem itemsFrom_tile (offset : Nat) (tile : Tile) (rest : Bytes) :
    itemsFrom offset 0 (tile.bytes ++ rest) =
      .ok (offset, tile.step) :: itemsFrom (offset + tile.bytes.length) 0 rest := by
  obtain ⟨step, bytes, hwritten⟩ := tile
  obtain ⟨op, code, body, rfl, -⟩ := hwritten.exists_code
  rw [List.cons_append, itemsFrom, stepAt_of_writtenAs offset rest hwritten]
  simp only
  rw [itemsFrom_skip, List.drop_left, List.length_cons, Nat.add_assoc, Nat.add_comm 1]

theorem itemsFrom_join (offset : Nat) (tiles : List Tile) (rest : Bytes) :
    itemsFrom offset 0 (Tile.join tiles ++ rest) =
      placed offset (Tile.sizes tiles) ++ itemsFrom (offset + (Tile.join tiles).length) 0 rest := by
  induction tiles generalizing offset with
  | nil => rfl
  | cons tile others ih =>
    have hjoin : Tile.join (tile :: others) = tile.bytes ++ Tile.join others := rfl
    rw [hjoin, List.append_assoc, itemsFrom_tile, ih, List.length_append, ← Nat.add_assoc]
    rfl

/-- Any bytes are tiles and a rest, which is empty or broken. -/
theorem exists_tiles (offset : Nat) (bytes : Bytes) : ∃ tiles rest,
    bytes = Tile.join tiles ++ rest ∧
      (rest = [] ∨ ∃ e, Broken (offset + (Tile.join tiles).length) rest e ∧
        itemsFrom (offset + (Tile.join tiles).length) 0 rest = [.error e]) := by
  match bytes with
  | [] => exact ⟨[], [], rfl, .inl rfl⟩
  | code :: body =>
    cases hstep : stepAt offset code body with
    | error e =>
      refine ⟨[], code :: body, rfl, .inr ⟨e, broken_of_stepAt hstep, ?_⟩⟩
      simp [Tile.join, itemsFrom, hstep]
    | ok found =>
      obtain ⟨step, size⟩ := found
      obtain ⟨hsize, hwritten⟩ := writtenAs_of_stepAt hstep
      let tile : Tile := ⟨step, code :: body.take size, hwritten⟩
      obtain ⟨tiles, rest, hbytes, hrest⟩ :=
        exists_tiles (offset + tile.bytes.length) (body.drop size)
      have hjoin : Tile.join (tile :: tiles) = tile.bytes ++ Tile.join tiles := rfl
      refine ⟨tile :: tiles, rest, ?_, ?_⟩
      · rw [hjoin, List.append_assoc, ← hbytes]
        simp [tile]
      · rwa [hjoin, List.length_append, ← Nat.add_assoc]
termination_by bytes.length

/-- The items of any program are tiles in their places, followed by an error if they leave a
rest. -/
theorem exists_items_eq (program : Program) : ∃ tiles rest,
    program.bytes = Tile.join tiles ++ rest ∧
      ((rest = [] ∧ program.items = placed 0 (Tile.sizes tiles)) ∨
        ∃ e, Broken (Tile.join tiles).length rest e ∧
          program.items = placed 0 (Tile.sizes tiles) ++ [.error e]) := by
  obtain ⟨tiles, rest, hbytes, hrest⟩ := exists_tiles 0 program.bytes
  rw [Nat.zero_add] at hrest
  refine ⟨tiles, rest, hbytes, ?_⟩
  rw [items, hbytes, itemsFrom_join, Nat.zero_add]
  rcases hrest with rfl | ⟨e, hbroken, he⟩
  · exact .inl ⟨rfl, by simp [itemsFrom]⟩
  · exact .inr ⟨e, hbroken, by rw [he]⟩

theorem items_of_bytes_eq_join {program : Program} {tiles : List Tile}
    (h : program.bytes = Tile.join tiles) : program.items = placed 0 (Tile.sizes tiles) := by
  have hitems := itemsFrom_join 0 tiles []
  rw [List.append_nil] at hitems
  rw [items, h, hitems]
  simp [itemsFrom]

theorem steps_of_items_eq_placed {program : Program} {sized : List (Step × Nat)}
    (h : program.items = placed 0 sized) : program.steps = .ok (sized.map Prod.fst) := by
  have hcollect := collect_placed 0 sized []
  rw [List.append_nil] at hcollect
  rw [steps, h, hcollect]
  simp [collect, Except.map]

/-- The items of a program are the steps that it is made of, each at the place where its bytes
begin, for as long as there are steps. A program that is written out of steps has no other items.
Any other program has one error more, the last item: where the tiles end, the first byte is that of
no operation, or the body of the step runs past the end of the program. Whether the program is
valid, and how many steps it has, is read off that; and a reader gives these items, one with each
call, and then nothing for good. -/
theorem items_tiled (program : Program) : ∃ (tiles : List Tile) (rest : Bytes),
    program.bytes = Tile.join tiles ++ rest ∧
    (offsets program.items).Pairwise (· < ·) ∧
    ((program.Written ∧ rest = [] ∧ program.items = placed 0 (Tile.sizes tiles) ∧
        program.validate = .ok () ∧ program.stepCount = .ok program.items.length) ∨
      (¬program.Written ∧ ∃ e, Broken (Tile.join tiles).length rest e ∧
        program.items = placed 0 (Tile.sizes tiles) ++ [.error e] ∧
        program.validate = .error e ∧ program.stepCount = .error e)) ∧
    ∀ n, (Reader.mk program 0 false).call n = program.items[n]? := by
  have hreader (n : Nat) : (Reader.mk program 0 false).call n = program.items[n]? :=
    Reader.call_eq_remaining _ n
  obtain ⟨tiles, rest, hbytes, ⟨rfl, hitems⟩ | ⟨e, hbroken, hitems⟩⟩ := exists_items_eq program
  · have hsteps := steps_of_items_eq_placed hitems
    refine ⟨tiles, [], hbytes, ?_, .inl ⟨⟨tiles, by simpa using hbytes⟩, rfl, hitems, ?_, ?_⟩,
      hreader⟩
    · rw [hitems]
      exact pairwise_offsets 0 tiles
    · simp [validate, hsteps, Except.map]
    · simp [stepCount, hsteps, hitems, Except.map]
  · have hsteps : program.steps = .error e := by
      rw [steps, hitems, collect_placed]
      rfl
    have hwritten : ¬program.Written := by
      rintro ⟨others, hothers⟩
      have hok := steps_of_items_eq_placed (items_of_bytes_eq_join hothers)
      rw [hsteps] at hok
      cases hok
    refine ⟨tiles, rest, hbytes, ?_, .inr ⟨hwritten, e, hbroken, hitems, ?_, ?_⟩, hreader⟩
    · rw [hitems]
      simpa [offsets] using pairwise_offsets 0 tiles
    · simp [validate, hsteps, Except.map]
    · simp [stepCount, hsteps, Except.map]

end Program

end PanelDriver

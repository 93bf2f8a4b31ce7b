import PanelDriver.Proofs.Program.Tiling

/-!
Programs cut off at a place. What is read at a place does not depend on what follows, so a program
that is cut off where one of its items begins has just the items before that one.
-/

namespace PanelDriver

/-- The place that an error names. -/
def PanelError.place? : PanelError → Option Nat
  | .truncated offset | .unknownOpcode offset _ => some offset
  | _ => none

namespace Program

/-- The program up to `offset`. -/
def before (program : Program) (offset : Nat) : Program := ⟨program.bytes.take offset⟩

theorem Broken.place?_eq {offset : Nat} {rest : Bytes} {e : PanelError}
    (h : Broken offset rest e) : e.place? = some offset := by
  cases h <;> rfl

/-- Where nothing is left, nothing is broken. -/
theorem Broken.ne_nil {offset : Nat} {rest : Bytes} {e : PanelError} (h : Broken offset rest e) :
    rest ≠ [] := by
  cases h <;> exact List.cons_ne_nil _ _

/-- Cut off behind some of its tiles, a program has just these. -/
theorem items_before_join {program : Program} {tiles : List Tile} {rest : Bytes}
    (h : program.bytes = Tile.join tiles ++ rest) :
    (program.before (Tile.join tiles).length).items = placed 0 (Tile.sizes tiles) := by
  apply items_of_bytes_eq_join
  rw [before, h, List.take_left]

/-- A step among the items of tiles is the step of one of them, and the items before it are those of
the tiles before that one. -/
theorem exists_tile_of_placed_eq {n offset : Nat} {step : Step} {tiles : List Tile}
    {last front back : List Item} (hlast : ∀ item ∈ last, ∀ found, item ≠ .ok found)
    (h : placed n (Tile.sizes tiles) ++ last = front ++ .ok (offset, step) :: back) :
    ∃ done tile later, tiles = done ++ tile :: later ∧ front = placed n (Tile.sizes done) ∧
      offset = n + (Tile.join done).length := by
  induction tiles generalizing n front with
  | nil =>
    have hmem : Except.ok (offset, step) ∈ last := by
      have hnil : last = front ++ .ok (offset, step) :: back := h
      rw [hnil]
      exact List.mem_append_right _ List.mem_cons_self
    exact absurd rfl (hlast _ hmem _)
  | cons tile rest ih =>
    have hcons : placed n (Tile.sizes (tile :: rest)) =
        .ok (n, tile.step) :: placed (n + tile.bytes.length) (Tile.sizes rest) := rfl
    rw [hcons] at h
    cases front with
    | nil =>
      obtain ⟨hitem, -⟩ := List.cons.inj h
      cases hitem
      exact ⟨[], tile, rest, rfl, rfl, rfl⟩
    | cons item front =>
      obtain ⟨rfl, htail⟩ := List.cons.inj h
      obtain ⟨done, found, later, rfl, rfl, hoffset⟩ := ih htail
      refine ⟨tile :: done, found, later, rfl, rfl, ?_⟩
      have hjoin : Tile.join (tile :: done) = tile.bytes ++ Tile.join done := rfl
      rw [hoffset, hjoin, List.length_append, Nat.add_assoc]

/-- Cut off at a step, a program has just the items before that step. -/
theorem items_before_step {program : Program} {front back : List Item} {offset : Nat} {step : Step}
    (h : program.items = front ++ .ok (offset, step) :: back) :
    (program.before offset).items = front := by
  obtain ⟨tiles, rest, hbytes, hitems⟩ := exists_items_eq program
  have hsplit : ∃ last : List Item, (∀ item ∈ last, ∀ found, item ≠ .ok found) ∧
      program.items = placed 0 (Tile.sizes tiles) ++ last := by
    rcases hitems with ⟨-, hitems⟩ | ⟨e, -, hitems⟩
    · exact ⟨[], by simp, by rw [hitems, List.append_nil]⟩
    · exact ⟨[.error e], by simp, hitems⟩
  obtain ⟨last, hlast, hitems⟩ := hsplit
  rw [hitems] at h
  obtain ⟨done, tile, later, rfl, rfl, rfl⟩ := exists_tile_of_placed_eq hlast h
  have hjoin : program.bytes =
      Tile.join done ++ (tile.bytes ++ Tile.join later ++ rest) := by
    rw [hbytes]
    simp [Tile.join]
  rw [Nat.zero_add]
  exact items_before_join hjoin

/-- A program with an error, cut off at the place of the error, has the items before it. -/
theorem exists_of_validate_error {program : Program} {e : PanelError}
    (h : program.validate = .error e) : ∃ tiles offset, e.place? = some offset ∧
      offset < program.length ∧ (program.before offset).items = placed 0 (Tile.sizes tiles) ∧
      program.items = placed 0 (Tile.sizes tiles) ++ [.error e] := by
  obtain ⟨tiles, rest, hbytes, ⟨rfl, hitems⟩ | ⟨e', hbroken, hitems⟩⟩ := exists_items_eq program
  · rw [validate, steps_of_items_eq_placed hitems] at h
    cases h
  · have he : e' = e := by
      rw [validate, steps, hitems, collect_placed] at h
      exact Except.error.inj h
    subst he
    refine ⟨tiles, _, hbroken.place?_eq, ?_, items_before_join hbytes, hitems⟩
    have hrest := List.length_pos_iff.mpr hbroken.ne_nil
    rw [length, hbytes, List.length_append]
    omega

end Program

end PanelDriver

import PanelDriver.Proofs.Program.Tiling

/-!
Programs put one behind the other. What is read at a place depends on the bytes from there on only,
and not on the place itself, so the second program brings the items that it has on its own, moved on
by the bytes before them. An error of the first program decides what becomes of them: a byte that
stands for no operation ends the reading for good, and a step that runs past the end goes on into
the second program (`items_append`).
-/

namespace PanelDriver

/-- The error, `n` bytes further on. -/
def PanelError.moved (n : Nat) : PanelError → PanelError
  | .truncated offset => .truncated (n + offset)
  | .unknownOpcode offset op => .unknownOpcode (n + offset) op
  | e => e

namespace Program

instance : Append Program where
  append first second := ⟨first.bytes ++ second.bytes⟩

/-- The item, `n` bytes further on. -/
def moved (n : Nat) : Item → Item
  | .ok (offset, step) => .ok (n + offset, step)
  | .error e => .error (e.moved n)

/-- The steps among items that begin before `offset`, with their places. -/
def stepsBefore (offset : Nat) (items : List Item) : List (Nat × Step) := items.filterMap fun
  | .ok (place, step) => if place < offset then some (place, step) else none
  | .error _ => none

/-! ## Places -/

theorem stepAt_add (n offset : Nat) (byte : UInt8) (body : Bytes) :
    stepAt (n + offset) byte body = (stepAt offset byte body).mapError (·.moved n) := by
  unfold stepAt
  cases Opcode.decode? byte with
  | none => rfl
  | some op =>
    simp only
    cases op.step? body with
    | none => rfl
    | some found => rfl

theorem itemsFrom_add (n offset inBody : Nat) (bytes : Bytes) :
    itemsFrom (n + offset) inBody bytes = (itemsFrom offset inBody bytes).map (moved n) := by
  fun_induction itemsFrom offset inBody bytes with
  | case1 => simp [itemsFrom]
  | case2 offset inBody byte rest ih => rw [itemsFrom, Nat.add_assoc, ih]
  | case3 offset byte rest e hstep =>
    rw [itemsFrom, stepAt_add, hstep]
    rfl
  | case4 offset byte rest step size hstep ih =>
    rw [itemsFrom, stepAt_add, hstep, List.map_cons, ← ih, ← Nat.add_assoc]
    rfl

theorem itemsFrom_eq_map (offset : Nat) (bytes : Bytes) :
    itemsFrom offset 0 bytes = (items ⟨bytes⟩).map (moved offset) := itemsFrom_add offset 0 0 bytes

theorem le_of_mem_moved {n offset : Nat} {step : Step} {items : List Item}
    (h : Except.ok (offset, step) ∈ items.map (moved n)) : n ≤ offset := by
  obtain ⟨item, -, hitem⟩ := List.mem_map.mp h
  cases item with
  | error e => cases hitem
  | ok found =>
    obtain ⟨place, other⟩ := found
    obtain ⟨rfl, -⟩ := Prod.mk.inj (Except.ok.inj hitem)
    exact Nat.le_add_right n place

/-! ## Steps before a place -/

theorem stepsBefore_append (offset : Nat) (items more : List Item) :
    stepsBefore offset (items ++ more) = stepsBefore offset items ++ stepsBefore offset more :=
  List.filterMap_append

/-- Nothing that is moved on by `n` bytes begins before them. -/
theorem stepsBefore_moved (n : Nat) (items : List Item) :
    stepsBefore n (items.map (moved n)) = [] := by
  refine List.filterMap_eq_nil_iff.mpr fun item hitem => ?_
  cases item with
  | error e => rfl
  | ok found =>
    obtain ⟨offset, step⟩ := found
    exact if_neg (Nat.not_lt.mpr (le_of_mem_moved hitem))

/-- All tiles begin before the place where they end. -/
theorem map_stepsBefore_placed (offset : Nat) (tiles : List Tile) :
    (stepsBefore (offset + (Tile.join tiles).length) (placed offset (Tile.sizes tiles))).map .ok =
      placed offset (Tile.sizes tiles) := by
  induction tiles generalizing offset with
  | nil => rfl
  | cons tile rest ih =>
    have hpos := tile.length_pos
    have hjoin : offset + (Tile.join (tile :: rest)).length =
        offset + tile.bytes.length + (Tile.join rest).length := by
      rw [Tile.join, List.flatMap_cons, List.length_append, ← Nat.add_assoc]
      rfl
    have hplaced : placed offset (Tile.sizes (tile :: rest)) =
        .ok (offset, tile.step) :: placed (offset + tile.bytes.length) (Tile.sizes rest) := rfl
    have hbefore : offset < offset + tile.bytes.length + (Tile.join rest).length := by omega
    rw [hplaced, hjoin, stepsBefore, List.filterMap_cons]
    simp only [hbefore, ↓reduceIte, List.map_cons]
    exact congrArg _ (ih (offset + tile.bytes.length))

/-! ## Two programs -/

/-- The reading goes on where the tiles of the first program end, with what is left of it. -/
theorem items_append_of_bytes_eq {p : Program} {tiles : List Tile} {rest : Bytes}
    (h : p.bytes = Tile.join tiles ++ rest) (q : Program) :
    (p ++ q).items = placed 0 (Tile.sizes tiles) ++
      ((⟨rest⟩ : Program) ++ q).items.map (moved (Tile.join tiles).length) := by
  have hbytes : (p ++ q).bytes = Tile.join tiles ++ (rest ++ q.bytes) := by
    rw [← List.append_assoc, ← h]
    rfl
  rw [items, hbytes, itemsFrom_join, Nat.zero_add, itemsFrom_eq_map]
  rfl

/-- Where no operation begins, nothing is read any more, whatever follows. -/
theorem items_append_of_not_isCode {code : UInt8} (hcode : ¬Opcode.IsCode code) (rest : Bytes)
    (q : Program) : ((⟨code :: rest⟩ : Program) ++ q).items = [.error (.unknownOpcode 0 code)] := by
  have hdecode : Opcode.decode? code = none := by
    have hsome := Opcode.isSome_decode? code
    rw [decide_eq_false hcode] at hsome
    simpa using hsome
  show itemsFrom 0 0 (code :: (rest ++ q.bytes)) = _
  simp [itemsFrom, stepAt, hdecode]

theorem collect_moved (n : Nat) (items : List Item) :
    collect (items.map (moved n)) = (collect items).mapError (·.moved n) := by
  induction items with
  | nil => rfl
  | cons item rest ih =>
    cases item with
    | error e => rfl
    | ok found =>
      rw [List.map_cons, moved, collect, ih, collect]
      cases collect rest <;> rfl

/-- The items of a valid program are its tiles. -/
theorem exists_tiles_of_validate {program : Program} (h : program.validate = .ok ()) :
    ∃ tiles, program.bytes = Tile.join tiles ∧ program.items = placed 0 (Tile.sizes tiles) := by
  obtain ⟨tiles, rest, hbytes, ⟨rfl, hitems⟩ | ⟨e, -, hitems⟩⟩ := exists_items_eq program
  · exact ⟨tiles, by rw [hbytes, List.append_nil], hitems⟩
  · rw [validate, steps, hitems, collect_placed] at h
    cases h

/-- The tiles of any other program leave a rest, which is broken as its error says. -/
theorem exists_rest_of_validate {program : Program} {e : PanelError}
    (h : program.validate = .error e) : ∃ tiles rest, program.bytes = Tile.join tiles ++ rest ∧
      Broken (Tile.join tiles).length rest e ∧
      program.items = placed 0 (Tile.sizes tiles) ++ [.error e] := by
  obtain ⟨tiles, rest, hbytes, ⟨rfl, hitems⟩ | ⟨e', hbroken, hitems⟩⟩ := exists_items_eq program
  · rw [validate, steps_of_items_eq_placed hitems] at h
    cases h
  · rw [validate, steps, hitems, collect_placed] at h
    obtain rfl : e' = e := Except.error.inj h
    exact ⟨tiles, rest, hbytes, hbroken, hitems⟩

section Append

variable {p : Program} (q : Program)

theorem items_append_of_validate (h : p.validate = .ok ()) :
    (p ++ q).items = p.items ++ q.items.map (moved p.length) := by
  obtain ⟨tiles, hbytes, hitems⟩ := exists_tiles_of_validate h
  have hrest : p.bytes = Tile.join tiles ++ [] := by rw [hbytes, List.append_nil]
  rw [items_append_of_bytes_eq hrest, hitems, length, hbytes]
  rfl

/-- The steps of the second program come behind those of the first, or its error, moved on. -/
theorem steps_append (h : p.validate = .ok ()) :
    (p ++ q).steps = (do return (← p.steps) ++ (← q.steps.mapError (·.moved p.length))) := by
  obtain ⟨tiles, -, hitems⟩ := exists_tiles_of_validate h
  rw [steps, items_append_of_validate q h, hitems, collect_placed, collect_moved,
    steps_of_items_eq_placed hitems, steps]
  cases collect q.items <;> rfl

theorem validate_append (h : p.validate = .ok ()) :
    (p ++ q).validate = q.validate.mapError (·.moved p.length) := by
  obtain ⟨tiles, -, hitems⟩ := exists_tiles_of_validate h
  rw [validate, steps_append q h, steps_of_items_eq_placed hitems, validate]
  cases q.steps <;> rfl

theorem stepCount_append (h : p.validate = .ok ()) :
    (p ++ q).stepCount =
      (do return (← p.stepCount) + (← q.stepCount.mapError (·.moved p.length))) := by
  obtain ⟨tiles, -, hitems⟩ := exists_tiles_of_validate h
  rw [stepCount, steps_append q h, stepCount, stepCount, steps_of_items_eq_placed hitems]
  cases q.steps with
  | error e => rfl
  | ok later => exact congrArg Except.ok List.length_append

theorem items_append_of_unknownOpcode {offset : Nat} {code : UInt8}
    (h : p.validate = .error (.unknownOpcode offset code)) : (p ++ q).items = p.items := by
  obtain ⟨tiles, rest, hbytes, hbroken, hitems⟩ := exists_rest_of_validate h
  cases hbroken with
  | @unknownOpcode code rest hcode =>
    rw [items_append_of_bytes_eq hbytes, items_append_of_not_isCode hcode, hitems]
    rfl

/-- What a step that is cut off becomes depends on what follows; the steps before it stay. -/
theorem items_append_of_truncated {offset : Nat} (h : p.validate = .error (.truncated offset)) :
    p.items = (stepsBefore offset p.items).map .ok ++ [.error (.truncated offset)] ∧
    (p ++ q).items = (stepsBefore offset p.items).map .ok ++
      ((⟨p.bytes.drop offset⟩ : Program) ++ q).items.map (moved offset) := by
  obtain ⟨tiles, rest, hbytes, hbroken, hitems⟩ := exists_rest_of_validate h
  obtain rfl : offset = (Tile.join tiles).length := by
    cases hbroken
    rfl
  have hbefore := map_stepsBefore_placed 0 tiles
  rw [Nat.zero_add] at hbefore
  have hsteps : stepsBefore (Tile.join tiles).length p.items =
      stepsBefore (Tile.join tiles).length (placed 0 (Tile.sizes tiles)) := by
    rw [hitems, stepsBefore_append]
    exact List.append_nil _
  have hrest : p.bytes.drop (Tile.join tiles).length = rest := by rw [hbytes, List.drop_left]
  rw [hsteps, hbefore, hrest]
  exact ⟨hitems, items_append_of_bytes_eq hbytes q⟩

end Append

/-- Behind a valid program come the items of the second one, moved on by the length of the first; so
the number of steps is the sum, and the two together are valid if the second one is, and otherwise
have its error, moved on. Behind a byte that stands for no operation nothing is read. Where a step
is cut off, the steps before it are all that is certain: they are what begins before its place in
the two together, and from there on the reading goes on with what is left of the first program and
the second one. -/
theorem items_append (p q : Program) :
    (p.validate = .ok () →
      (p ++ q).items = p.items ++ q.items.map (moved p.length) ∧
      (p ++ q).stepCount =
        (do return (← p.stepCount) + (← q.stepCount.mapError (·.moved p.length))) ∧
      (p ++ q).validate = q.validate.mapError (·.moved p.length)) ∧
    (∀ offset code, p.validate = .error (.unknownOpcode offset code) →
      (p ++ q).items = p.items) ∧
    (∀ offset, p.validate = .error (.truncated offset) →
      p.items = (stepsBefore offset p.items).map .ok ++ [.error (.truncated offset)] ∧
      stepsBefore offset (p ++ q).items = stepsBefore offset p.items ∧
      (p ++ q).items = (stepsBefore offset p.items).map .ok ++
        ((⟨p.bytes.drop offset⟩ : Program) ++ q).items.map (moved offset)) := by
  refine ⟨fun h => ?_, fun offset code h => ?_, fun offset h => ?_⟩
  · exact ⟨items_append_of_validate q h, stepCount_append q h, validate_append q h⟩
  · exact items_append_of_unknownOpcode q h
  · obtain ⟨hitems, happend⟩ := items_append_of_truncated q h
    refine ⟨hitems, ?_, happend⟩
    rw [happend, stepsBefore_append, stepsBefore_moved, List.append_nil]
    conv => rhs; rw [hitems, stepsBefore_append]
    exact (List.append_nil _).symm

/-- A write of one byte, once alone, once before a byte that is no operation, and once before a
write that is cut off. Behind the last one the second program is the rest of that write and a
delay. -/
theorem items_append_cut :
    let whole : Program := ⟨[0x01, 0x29]⟩
    let unknown : Program := ⟨[0x01, 0x29, 0x7f]⟩
    let cut : Program := ⟨[0x01, 0x29, 0x02, 0xb0]⟩
    let later : Program := ⟨[0x11, 0x3c, 0x05]⟩
    whole.validate = .ok () ∧ (whole ++ later).validate = .error (.truncated 2) ∧
    unknown.validate = .error (.unknownOpcode 2 0x7f) ∧ (unknown ++ later).items = unknown.items ∧
    cut.validate = .error (.truncated 2) ∧
    stepsBefore 2 (cut ++ later).items = [(0, .write false [0x29])] ∧
    (cut ++ later).items = [.ok (0, .write false [0x29]), .ok (2, .write false [0xb0, 0x11]),
      .ok (5, .delay 0x05)] := by
  intro whole unknown cut later
  have hwhole : whole.validate = .ok () := rfl
  have hunknown : unknown.validate = .error (.unknownOpcode 2 0x7f) := rfl
  have hcut : cut.validate = .error (.truncated 2) := rfl
  obtain ⟨-, hbefore, hitems⟩ := (items_append cut later).2.2 2 hcut
  exact ⟨hwhole, ((items_append whole later).1 hwhole).2.2.trans rfl, hunknown,
    (items_append unknown later).2.1 2 0x7f hunknown, hcut, hbefore.trans rfl, hitems.trans rfl⟩

end Program

end PanelDriver

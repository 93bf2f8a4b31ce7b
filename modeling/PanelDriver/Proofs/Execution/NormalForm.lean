import PanelDriver.Proofs.Execution.LaneFilter

/-!
A step can be written in several forms, so different programs may have the same steps. Given to a
builder again, the steps of all of them come out as one program, their normal form: it has these
steps, no program with these steps is shorter, and it runs on every bus as the others do
(`reencode_normalises`).
-/

namespace PanelDriver.Program

/-- The steps of a program, given to a builder again. -/
def reencode (capacity : Nat) (program : Program) : Except PanelError Program := do
  ((← program.steps).foldl Builder.add ({} : Builder capacity)).build

/-- A program is empty just when it has no steps. -/
theorem isEmpty_eq_of_steps {program : Program} {steps : List Step}
    (h : program.steps = .ok steps) : program.isEmpty = steps.isEmpty := by
  cases steps with
  | cons step rest => exact isEmpty_of_steps h (List.cons_ne_nil step rest)
  | nil =>
    obtain ⟨tiles, rest, hbytes, ⟨rfl, hitems⟩ | ⟨e, -, hitems⟩⟩ := exists_items_eq program
    · rw [steps_of_items_eq_placed hitems] at h
      have hsizes : Tile.sizes tiles = [] := List.map_eq_nil_iff.mp (Except.ok.inj h)
      have htiles : tiles = [] := List.map_eq_nil_iff.mp hsizes
      rw [isEmpty, hbytes, htiles]
      rfl
    · rw [Program.steps, hitems, collect_placed] at h
      cases h

/-- No program with these steps is shorter than their encodings. -/
theorem length_ofSteps_le {program : Program} {steps : List Step}
    (h : program.steps = .ok steps) : (ofSteps steps).length ≤ program.length := by
  obtain ⟨hbounds, hwidth⟩ := encodable_of_steps h
  rw [length_ofSteps hbounds]
  exact hwidth

/-- The encodings of the steps of a valid program have the same steps again. -/
theorem steps_ofSteps_of_steps {program : Program} {steps : List Step}
    (h : program.steps = .ok steps) : (ofSteps steps).steps = .ok steps :=
  steps_ofSteps (encodable_of_steps h).1

theorem reencode_eq {program : Program} {steps : List Step} {capacity : Nat}
    (h : program.steps = .ok steps) (room : (ofSteps steps).length ≤ capacity) :
    program.reencode capacity = .ok (ofSteps steps) := by
  rw [reencode, h]
  exact Builder.build_of_fits (encodable_of_steps h).1 room

/-- Different steps of valid programs have different encodings. -/
theorem ofSteps_inj {p q : Program} {steps others : List Step} (hp : p.steps = .ok steps)
    (hq : q.steps = .ok others) (h : ofSteps steps = ofSteps others) : steps = others := by
  have hsteps := steps_ofSteps_of_steps hp
  rw [h, steps_ofSteps_of_steps hq] at hsteps
  exact (Except.ok.inj hsteps).symm

/-- All that counts in a run are the steps. -/
theorem run_ofSteps {β : Type} [SidebandBus β] {program : Program} {steps : List Step}
    (h : program.steps = .ok steps) (ctx : Context) :
    (program.run ctx : Action PanelError (Channel β) Unit) = (ofSteps steps).run ctx := by
  have hsteps := steps_ofSteps_of_steps h
  refine run_eq_of_active_eq h hsteps rfl ?_
  rw [isEmpty_eq_of_steps h, isEmpty_eq_of_steps hsteps]

/-- Give the steps of a valid program to a builder with room for the program. It builds a program
with the same steps that takes up no more bytes. Given to a builder again, that one comes out as it
is, and so do all valid programs with these steps, and no others. On every bus it runs just as the
first program does: with the same result and events, and leaving bus and packer the same. -/
theorem reencode_normalises (program : Program) (capacity : Nat)
    (valid : program.validate = .ok ()) (room : program.length ≤ capacity) :
    ∃ (steps : List Step) (normal : Program), program.steps = .ok steps ∧
      program.reencode capacity = .ok normal ∧
      normal.steps = .ok steps ∧ normal.length ≤ program.length ∧
      (∀ capacity', normal.length ≤ capacity' → normal.reencode capacity' = .ok normal) ∧
      (∀ (other : Program) (capacity' : Nat), other.validate = .ok () →
        other.length ≤ capacity' →
        (other.reencode capacity' = .ok normal ↔ other.steps = .ok steps)) ∧
      ∀ (ctx : Context) (β : Type) [SidebandBus β] (channel : Channel β),
        program.run ctx channel = normal.run ctx channel := by
  obtain ⟨steps, hsteps⟩ := validate_eq_ok_iff.mp valid
  have hnormal := steps_ofSteps_of_steps hsteps
  have hshort := length_ofSteps_le hsteps
  refine ⟨steps, ofSteps steps, hsteps, reencode_eq hsteps (Nat.le_trans hshort room), hnormal,
    hshort, fun capacity' hroom => reencode_eq hnormal hroom, ?_, ?_⟩
  · intro other capacity' hvalid hroom
    obtain ⟨others, hothers⟩ := validate_eq_ok_iff.mp hvalid
    rw [reencode_eq hothers (Nat.le_trans (length_ofSteps_le hothers) hroom), hothers]
    constructor
    · intro h
      rw [ofSteps_inj hothers hsteps (Except.ok.inj h)]
    · intro h
      rw [Except.ok.inj h]
  · intro ctx β _ channel
    rw [run_ofSteps hsteps]

/-- A short write that has its length in a byte of its own, and a delay with the flag that it
ignores. -/
theorem reencode_normalises_spelled_out :
    let program : Program := ⟨[0x3e, 0x01, 0xaa, 0xbc, 0x05]⟩
    let normal : Program := ⟨[0x01, 0xaa, 0x3c, 0x05]⟩
    program.validate = .ok () ∧ program.length ≤ 5 ∧ program.reencode 5 = .ok normal ∧
    normal.reencode 4 = .ok normal ∧
    ∀ (ctx : Context) (β : Type) [SidebandBus β] (channel : Channel β),
      program.run ctx channel = normal.run ctx channel := by
  intro program normal
  have hvalid : program.validate = .ok () := rfl
  have hroom : program.length ≤ 5 := Nat.le_refl 5
  have hbuilt : program.reencode 5 = .ok normal := rfl
  obtain ⟨steps, found, -, hfound, -, -, hagain, -, hrun⟩ :=
    reencode_normalises program 5 hvalid hroom
  obtain rfl : normal = found := Except.ok.inj (hbuilt.symm.trans hfound)
  exact ⟨hvalid, hroom, hbuilt, hagain 4 (Nat.le_refl 4), hrun⟩

end PanelDriver.Program

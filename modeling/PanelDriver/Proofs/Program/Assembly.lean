import PanelDriver.Program.Builder
import PanelDriver.Proofs.Program.Grammar

/-!
What a builder makes of the steps it is given. Steps within their bounds, written into a buffer that
is large enough for their encodings, give the program made of those encodings; any other steps
overflow, and the overflow stays (`build_calls`).
-/

namespace PanelDriver.Builder

variable {capacity : Nat}

theorem append_of_fits {b : Builder capacity} {piece : Bytes}
    (h : b.bytes.length + piece.length ≤ capacity) :
    b.append piece = { b with bytes := b.bytes ++ piece } := if_pos h

theorem foldl_append_of_fits {b : Builder capacity} {pieces : List Bytes}
    (h : b.bytes.length + pieces.flatten.length ≤ capacity) :
    pieces.foldl append b = { b with bytes := b.bytes ++ pieces.flatten } := by
  induction pieces generalizing b with
  | nil => simp
  | cons piece rest ih =>
    rw [List.flatten_cons, List.length_append] at h
    rw [List.foldl_cons, append_of_fits (by omega), ih (by rw [List.length_append]; omega)]
    simp

theorem add_of_fits {b : Builder capacity} {step : Step} {bytes : Bytes}
    (hbytes : step.encode? = some bytes) (h : b.bytes.length + bytes.length ≤ capacity) :
    b.add step = { b with bytes := b.bytes ++ bytes } := by
  obtain ⟨pieces, hp, rfl⟩ := Option.map_eq_some_iff.mp hbytes
  simp only [add, hp]
  exact foldl_append_of_fits h

theorem foldl_add_of_fits {b : Builder capacity} {steps : List Step}
    (hs : ∀ step ∈ steps, step.Encodable)
    (h : b.bytes.length + (Program.ofSteps steps).length ≤ capacity) :
    steps.foldl add b = { b with bytes := b.bytes ++ (Program.ofSteps steps).bytes } := by
  unfold Program.length at h
  induction steps generalizing b with
  | nil => simp [Program.ofSteps]
  | cons step rest ih =>
    obtain ⟨bytes, hbytes, -⟩ := Step.encode?_of_encodable (hs step List.mem_cons_self)
    rw [Program.ofSteps_cons rest hbytes, List.length_append] at h
    rw [List.foldl_cons, add_of_fits hbytes (by omega),
      ih (fun s hm => hs s (List.mem_cons_of_mem _ hm)) (by rw [List.length_append]; omega),
      Program.ofSteps_cons rest hbytes, List.append_assoc]

theorem build_of_fits {steps : List Step} (hs : ∀ step ∈ steps, step.Encodable)
    (h : (Program.ofSteps steps).length ≤ capacity) :
    (steps.foldl add ({} : Builder capacity)).build = .ok (Program.ofSteps steps) := by
  have hvalid : (Program.ofSteps steps).validate = .ok () := by
    simp [Program.validate, Program.steps_ofSteps hs, Except.map]
  rw [foldl_add_of_fits hs (by simpa using h)]
  simp [build, hvalid, Except.map]

/-! ## Overflow -/

theorem length_foldl_append_le {b : Builder capacity} (pieces : List Bytes)
    (h : b.bytes.length ≤ capacity) : (pieces.foldl append b).bytes.length ≤ capacity := by
  induction pieces generalizing b with
  | nil => exact h
  | cons piece rest ih => exact ih (append_length_le b piece h)

theorem length_add_le {b : Builder capacity} (step : Step) (h : b.bytes.length ≤ capacity) :
    (b.add step).bytes.length ≤ capacity := by
  unfold add
  split
  · exact length_foldl_append_le _ h
  · exact h

theorem length_foldl_add_le {b : Builder capacity} (steps : List Step)
    (h : b.bytes.length ≤ capacity) : (steps.foldl add b).bytes.length ≤ capacity := by
  induction steps generalizing b with
  | nil => exact h
  | cons step rest ih => exact ih (length_add_le step h)

/-- A builder has not overflowed only if every piece had room. -/
theorem room_of_foldl_append {b : Builder capacity} {pieces : List Bytes}
    (hb : b.bytes.length ≤ capacity) (h : (pieces.foldl append b).overflowed = false) :
    b.overflowed = false ∧ b.bytes.length + pieces.flatten.length ≤ capacity := by
  induction pieces generalizing b with
  | nil => exact ⟨h, hb⟩
  | cons piece rest ih =>
    obtain ⟨hfirst, hroom⟩ := ih (append_length_le b piece hb) h
    by_cases hfits : b.bytes.length + piece.length ≤ capacity
    · rw [append_of_fits hfits] at hfirst hroom
      rw [List.length_append] at hroom
      rw [List.flatten_cons, List.length_append]
      exact ⟨hfirst, by omega⟩
    · simp [append, hfits] at hfirst

theorem room_of_add {b : Builder capacity} {step : Step} (hb : b.bytes.length ≤ capacity)
    (h : (b.add step).overflowed = false) :
    b.overflowed = false ∧ step.Encodable ∧ b.bytes.length + step.width ≤ capacity ∧
      (b.add step).bytes.length = b.bytes.length + step.width := by
  unfold add at h
  cases hp : step.pieces? with
  | none => simp [hp] at h
  | some pieces =>
    rw [hp] at h
    have hencode : step.encode? = some pieces.flatten := by simp [Step.encode?, hp]
    have hencodable := (Step.writtenAs_of_encode? hencode).encodable
    obtain ⟨bytes, hbytes, hwidth⟩ := Step.encode?_of_encodable hencodable
    obtain rfl : pieces.flatten = bytes := Option.some.inj (hencode.symm.trans hbytes)
    obtain ⟨hsound, hroom⟩ := room_of_foldl_append hb h
    rw [add_of_fits hencode hroom, ← hwidth]
    exact ⟨hsound, hencodable, hroom, List.length_append⟩

theorem room_of_foldl_add {b : Builder capacity} {steps : List Step}
    (hb : b.bytes.length ≤ capacity) (h : (steps.foldl add b).overflowed = false) :
    b.overflowed = false ∧ (∀ step ∈ steps, step.Encodable) ∧
      b.bytes.length + Step.totalWidth steps ≤ capacity := by
  induction steps generalizing b with
  | nil => exact ⟨h, by simp, hb⟩
  | cons step rest ih =>
    obtain ⟨hafter, hrest, hroom⟩ := ih (length_add_le step hb) h
    obtain ⟨hsound, hstep, -, hlength⟩ := room_of_add hb hafter
    rw [hlength] at hroom
    exact ⟨hsound, List.forall_mem_cons.mpr ⟨hstep, hrest⟩, by rw [Step.totalWidth]; omega⟩

/-- The steps are within their bounds, and their encodings find room. -/
def Fits (capacity : Nat) (steps : List Step) : Prop :=
  (∀ step ∈ steps, step.Encodable) ∧ Step.totalWidth steps ≤ capacity

theorem build_of_not_fits {steps : List Step} (h : ¬Fits capacity steps) :
    (steps.foldl add ({} : Builder capacity)).build = .error .overflow := by
  cases hb : (steps.foldl add ({} : Builder capacity)).overflowed with
  | true => simp [build, hb]
  | false =>
    obtain ⟨-, hsteps, hroom⟩ := room_of_foldl_add (Nat.zero_le _) hb
    exact absurd ⟨hsteps, by simpa using hroom⟩ h

theorem not_fits_append {steps : List Step} (later : List Step) (h : ¬Fits capacity steps) :
    ¬Fits capacity (steps ++ later) := by
  rintro ⟨hsteps, hroom⟩
  refine h ⟨fun step hs => hsteps step (List.mem_append_left _ hs), ?_⟩
  exact Nat.le_trans (Step.totalWidth_le_append steps later) hroom

/-- What comes of any steps that are given to a builder. If all of them are within their bounds and
their encodings find room, the builder gives the program that has just these steps, one behind the
other. If not, it gives an overflow, whatever it is given after them. In no case are there more
bytes in it than it has room for. -/
theorem build_calls (capacity : Nat) (steps : List Step) :
    let b := steps.foldl add ({} : Builder capacity)
    b.bytes.length ≤ capacity ∧
    ((Fits capacity steps ∧ b.build = .ok ⟨b.bytes⟩ ∧
        Program.items ⟨b.bytes⟩ = Program.placed 0 (steps.map fun step => (step, step.width))) ∨
      (¬Fits capacity steps ∧
        ∀ later : List Step, (later.foldl add b).build = .error .overflow)) := by
  intro b
  refine ⟨length_foldl_add_le steps (Nat.zero_le _), ?_⟩
  by_cases h : Fits capacity steps
  · obtain ⟨hsteps, hroom⟩ := h
    rw [← Program.length_ofSteps hsteps] at hroom
    have hbytes : b.bytes = (Program.ofSteps steps).bytes := by
      simp only [b]
      rw [foldl_add_of_fits hsteps (by simpa using hroom)]
      rfl
    rw [hbytes]
    exact .inl ⟨⟨hsteps, by rwa [← Program.length_ofSteps hsteps]⟩, build_of_fits hsteps hroom,
      Program.items_ofSteps hsteps⟩
  · refine .inr ⟨h, fun later => ?_⟩
    simp only [b]
    rw [← List.foldl_append]
    exact build_of_not_fits (not_fits_append later h)

end PanelDriver.Builder

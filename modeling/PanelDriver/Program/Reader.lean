import PanelDriver.Program.Basic

/-!
Reading a program item by item. A reader keeps its place; it is done behind the last step, and after
an error.
-/

namespace PanelDriver.Program

structure Reader where
  program : Program
  offset : Nat := 0
  failed : Bool := false
  deriving DecidableEq, Repr

namespace Reader

/-- The step at the reader's place, and the place behind it. -/
def decode (r : Reader) : Except PanelError (Step × Nat) :=
  match r.program.bytes.drop r.offset with
  | [] => .error (.truncated r.offset)
  | byte :: body => (stepAt r.offset byte body).map fun (step, size) => (step, r.offset + 1 + size)

/-- The next item, if there is one. -/
def next (r : Reader) : Option Item × Reader :=
  if r.failed || r.program.length ≤ r.offset then (none, r)
  else
    match r.decode with
    | .ok (step, behind) => (some (.ok (r.offset, step)), { r with offset := behind })
    | .error e => (some (.error e), { r with failed := true })

/-- What call number `n` gives, the first one being number zero. -/
def call (r : Reader) : Nat → Option Item
  | 0 => r.next.1
  | n + 1 => call r.next.2 n

/-- The items that are still to come. -/
def remaining (r : Reader) : List Item :=
  if r.failed then [] else itemsFrom r.offset 0 (r.program.bytes.drop r.offset)

theorem next_eq_remaining (r : Reader) :
    r.next.1 = r.remaining.head? ∧ r.next.2.remaining = r.remaining.tail := by
  obtain ⟨⟨bytes⟩, offset, failed⟩ := r
  cases failed with
  | true => exact ⟨rfl, rfl⟩
  | false =>
    cases hdrop : bytes.drop offset with
    | nil =>
      have hend : bytes.length ≤ offset := List.drop_eq_nil_iff.mp hdrop
      simp [next, remaining, length, hend, hdrop, itemsFrom]
    | cons byte body =>
      have hin : ¬bytes.length ≤ offset := fun hend => by
        rw [List.drop_eq_nil_iff.mpr hend] at hdrop
        cases hdrop
      cases hstep : stepAt offset byte body with
      | error e =>
        simp [next, decode, remaining, length, hin, hdrop, itemsFrom, hstep, Except.map]
      | ok found =>
        have hbehind : bytes.drop (offset + 1 + found.2) = body.drop found.2 := by
          rw [← List.drop_drop, ← List.drop_drop, hdrop]
          rfl
        simp [next, decode, remaining, length, hin, hdrop, itemsFrom, hstep, Except.map, hbehind,
          itemsFrom_skip (offset + 1) found.2]

/-- The calls give what remains, and then nothing for good. -/
theorem call_eq_remaining (r : Reader) (n : Nat) : r.call n = r.remaining[n]? := by
  induction n generalizing r with
  | zero => rw [call, (next_eq_remaining r).1, List.head?_eq_getElem?]
  | succ n ih => rw [call, ih, (next_eq_remaining r).2, List.getElem?_tail]

end Reader

end PanelDriver.Program

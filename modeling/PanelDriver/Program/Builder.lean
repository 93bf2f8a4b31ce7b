import PanelDriver.Program.Basic

/-!
Assembling a program into a buffer of fixed capacity. A step is written piece by piece, and a piece
that does not fit is left out as a whole; the builder then counts as overflowed for good, while
later pieces that fit are still written.
-/

namespace PanelDriver

structure Builder (capacity : Nat) where
  bytes : Bytes := []
  overflowed : Bool := false
  deriving DecidableEq, Repr

namespace Builder

variable {capacity : Nat}

def append (b : Builder capacity) (piece : Bytes) : Builder capacity :=
  if b.bytes.length + piece.length ≤ capacity then { b with bytes := b.bytes ++ piece }
  else { b with overflowed := true }

/-- Writes a step; one that has no encoding writes nothing. -/
def add (b : Builder capacity) (step : Step) : Builder capacity :=
  match step.pieces? with
  | some pieces => pieces.foldl append b
  | none => { b with overflowed := true }

def build (b : Builder capacity) : Except PanelError Program :=
  if b.overflowed then .error .overflow else (Program.validate ⟨b.bytes⟩).map fun _ => ⟨b.bytes⟩

theorem append_length_le (b : Builder capacity) (piece : Bytes) (h : b.bytes.length ≤ capacity) :
    (b.append piece).bytes.length ≤ capacity := by
  unfold append
  split <;> simp_all

end Builder

end PanelDriver

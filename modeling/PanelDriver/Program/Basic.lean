import PanelDriver.Error
import PanelDriver.Program.Step

/-!
Programs are byte strings, read from the left as one step after another. The items of a program are
its steps with their places; where the bytes are no step, one error follows the steps before it and
the reading ends. A program is valid when it has no error.
-/

namespace PanelDriver

structure Program where
  bytes : Bytes
  deriving DecidableEq, Repr

/-- A step with the place of its opcode, or what is wrong at that place. -/
abbrev Item := Except PanelError (Nat × Step)

namespace Opcode

set_option maxRecDepth 2000 in
/-- The step whose body is at the front of `body`, with the size of that body. -/
def step? : Opcode → Bytes → Option (Step × Nat)
  | inlineWrite generic length, body =>
    (Bytes.take? length.toNat body).map fun payload => (.write generic payload, length.toNat)
  | longWrite generic, length :: body =>
    (Bytes.take? length.toNat body).map fun payload => (.write generic payload, 1 + length.toNat)
  | scratchWrite generic, length :: _ => some (.writeScratch generic length, 1)
  | delay, ms :: _ => some (.delay ms, 1)
  | returnSize, size :: _ => some (.returnSize size, 1)
  | read false length, command :: body =>
    (Bytes.take? length.toNat body).map fun expected =>
      (.read (.dcs command) expected, 1 + length.toNat)
  | read true length, first :: second :: body =>
    (Bytes.take? length.toNat body).map fun expected =>
      (.read (.generic first second) expected, 2 + length.toNat)
  | laneFilter lanes, _ => some (.laneFilter lanes, 0)
  | constant, start :: length :: b0 :: b1 :: b2 :: b3 :: _ =>
    some (.constant start length (Step.word b0 b1 b2 b3), 6)
  | timing field, start :: length :: dropped :: _ => some (.timing field start length dropped, 3)
  | _, _ => none

end Opcode

namespace Program

def isEmpty (p : Program) : Bool := p.bytes.isEmpty

def length (p : Program) : Nat := p.bytes.length

/-- The step at `offset` that starts with `byte`, with the size of its body. -/
def stepAt (offset : Nat) (byte : UInt8) (body : Bytes) : Except PanelError (Step × Nat) :=
  match Opcode.decode? byte with
  | none => .error (.unknownOpcode offset byte)
  | some op =>
    match op.step? body with
    | none => .error (.truncated offset)
    | some found => .ok found

/-- Items from `offset` on, when `inBody` more bytes belong to the body of the last step. -/
def itemsFrom : Nat → Nat → Bytes → List Item
  | _, _, [] => []
  | offset, inBody + 1, _ :: rest => itemsFrom (offset + 1) inBody rest
  | offset, 0, byte :: rest =>
    match stepAt offset byte rest with
    | .error e => [.error e]
    | .ok (step, size) => .ok (offset, step) :: itemsFrom (offset + 1) size rest

def items (p : Program) : List Item := itemsFrom 0 0 p.bytes

/-- The steps of a list of items, or the first error among them. -/
def collect : List Item → Except PanelError (List Step)
  | [] => .ok []
  | .error e :: _ => .error e
  | .ok (_, step) :: rest => (collect rest).map (step :: ·)

def steps (p : Program) : Except PanelError (List Step) := collect p.items

def validate (p : Program) : Except PanelError Unit := p.steps.map fun _ => ()

def stepCount (p : Program) : Except PanelError Nat := p.steps.map List.length

theorem itemsFrom_skip (offset n : Nat) (bytes : Bytes) :
    itemsFrom offset n bytes = itemsFrom (offset + n) 0 (bytes.drop n) := by
  induction n generalizing offset bytes with
  | zero => simp
  | succ n ih =>
    cases bytes with
    | nil => simp [itemsFrom]
    | cons b rest => simp [itemsFrom, ih, Nat.add_assoc, Nat.add_comm 1 n]

end Program

end PanelDriver

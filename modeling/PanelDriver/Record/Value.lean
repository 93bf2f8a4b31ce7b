/-!
Self-describing values, and the types that are written to them and read back. A record is written
as an object with its fields by name; it is read from an object, whatever else that holds, or from a
list of exactly its fields in order. A variant is written as its name; it is read from the name, or
from an object whose one member has that name and is null.
-/

namespace PanelDriver

inductive Value
  | null
  | bool (b : Bool)
  | int (n : Int)
  /-- A number that is not written as an integer. -/
  | fraction
  | text (s : String)
  | list (items : List Value)
  | object (members : List (String × Value))
  deriving Repr, Inhabited

/-- A written value is read back as what it was. -/
class Record (α : Type) where
  toValue : α → Value
  ofValue? : Value → Option α
  ofValue?_toValue (a : α) : ofValue? (toValue a) = some a

namespace Value

/-- The values of the named fields. -/
def fields? (names : List String) : Value → Option (List Value)
  | object members => names.mapM fun name => members.lookup name
  | list items => if items.length = names.length then some items else none
  | _ => none

def variant? : Value → Option String
  | text name => some name
  | object [(name, null)] => some name
  | _ => none

end Value

namespace Record

instance : Record UInt32 where
  toValue n := .int n.toNat
  ofValue?
    | .int (.ofNat n) => if n < UInt32.size then some (.ofNat n) else none
    | _ => none
  ofValue?_toValue n := by
    show (if n.toNat < UInt32.size then some (UInt32.ofNat n.toNat) else none) = some n
    simp [n.toNat_lt_size]

/-- Reads one of `choices` by the name that `label` gives it. -/
def choice? {α : Type} (choices : List α) (label : α → String) (v : Value) : Option α := do
  let name ← v.variant?
  choices.find? fun a => label a == name

end Record

end PanelDriver

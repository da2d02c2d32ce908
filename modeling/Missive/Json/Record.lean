import Missive.Json.Value

/-! Records in JSON. A record is an object of named fields in any order, where other keys are
ignored and its own keys occur at most once, or an array of the fields in their order. -/

namespace Missive.Json.Value

/-- The field of a name; fails if there are two. -/
def field? (members : List (Option String × Value)) (name : String) : Option (Option Value) :=
  match members.filter (·.1 = some name) with
  | [] => some none
  | [(_, v)] => some (some v)
  | _ => none

/-- The values of a record's fields, in the order of the names; a field may be missing. -/
def record? (names : List String) : Value → Option (List (Option Value))
  | object members => do
    guard (members.all (·.1.isSome))
    names.mapM (field? members)
  | array items => do
    guard (items.length ≤ names.length)
    return items.map some ++ List.replicate (names.length - items.length) none
  | _ => none

/-- A text that must be there. -/
def text? : Option Value → Option String
  | some (string s) => some s
  | _ => none

/-- A text that may be missing or null. -/
def optionalText? : Option Value → Option (Option String)
  | none | some null => some none
  | some (string s) => some (some s)
  | _ => none

/-- The name of a choice without contents: a text, or an object that gives null for it. -/
def choice? : Option Value → Option String
  | some (string s) => some s
  | some (object [(some s, null)]) => some s
  | _ => none

/-- A signed integer of 32 bits. -/
def int32? : Option Value → Option Int32
  | some (integer i) =>
    if Int32.minValue.toInt ≤ i ∧ i ≤ Int32.maxValue.toInt then some (Int32.ofInt i) else none
  | _ => none

end Missive.Json.Value

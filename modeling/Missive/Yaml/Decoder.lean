import Missive.Yaml.Document

/-! Reading typed values from the nodes of a document: texts, truth values, numbers, choices, lists
and records. Small documents whose aliases multiply are refused: aliases are followed at most a
hundred times for each mark of the document. -/

namespace Missive.Yaml

/-- Reads from a document. The state is how many times aliases may still be followed. -/
abbrev Decoder := ReaderT Document (StateT Nat Option)

namespace Decoder

/-- Reads the root of a document. -/
def run {α : Type} (decode : Node → Decoder α) (d : Document) : Option α :=
  StateT.run' (ReaderT.run (decode d.root) d) (100 * d.root.markCount)

/-- Reads the root of the only document in a text. -/
def ofText? {α : Type} (decode : Node → Decoder α) (text : String) : Option α := do
  run decode (← Document.parse? text)

/-- The node itself, or the one an alias stands for. -/
def follow : Node → Decoder Node
  | .alias id => do
    let left ← get
    guard (0 < left)
    set (left - 1)
    return (← read).anchoredNode id
  | node => return node

def scalar (node : Node) : Decoder Scalar := do
  match ← follow node with
  | .scalar s => return s
  | _ => failure

/-- Any scalar is a text, however it is written. -/
def text (node : Node) : Decoder String := Scalar.text <$> scalar node

def isNullWord (text : String) : Bool := ["null", "Null", "NULL", "~"].contains text

/-- A text, or nothing: a plain scalar without tag that is empty or a word for null. With the tag of
null it has to be such a word, and any other tag makes it a text. -/
def optionalText (node : Node) : Decoder (Option String) := do
  let s ← scalar node
  if s.style ≠ .plain then return some s.text
  match s.tag with
  | none => return if s.text = "" ∨ isNullWord s.text then none else some s.text
  | some tag =>
    if tag = Tag.core "null" then
      guard (isNullWord s.text)
      return none
    else return some s.text

/-- A scalar that can be a truth value or a number: a plain one, or a literal block with the tag. -/
def bare (tag : Tag) (node : Node) : Decoder String := do
  let s ← scalar node
  guard (s.style = .plain || (s.style = .literal && s.tag = some tag))
  return s.text

def bool (node : Node) : Decoder Bool := do
  match ← bare (Tag.core "bool") node with
  | "true" | "True" | "TRUE" => return true
  | "false" | "False" | "FALSE" => return false
  | _ => failure

/-- The value of digits in a base up to 16. -/
def digits? (base : Nat) (cs : List Char) : Option Nat := do
  guard (!cs.isEmpty)
  cs.foldlM (fun n c => do
    let v ← Quoted.hexValue? c
    guard (v < base)
    return n * base + v) 0

/-- An unsigned number: decimal without leading zeros, or after `0x`, `0o` or `0b`; a plus may stand
in front. -/
def unsigned? (cs : List Char) : Option Nat :=
  let body := if cs.head? = some '+' then cs.tail else cs
  match body with
  | '0' :: 'x' :: ds => digits? 16 ds
  | '0' :: 'o' :: ds => digits? 8 ds
  | '0' :: 'b' :: ds => digits? 2 ds
  | '0' :: _ :: _ => none
  | ds => digits? 10 ds

/-- An unsigned number of at most 64 bits. -/
def nat64 (node : Node) : Decoder Nat := do
  let some n := unsigned? (← bare (Tag.core "int") node).toList | failure
  guard (n < UInt64.size)
  return n

/-- The name of a choice without contents: a scalar's text, or its local tag if the scalar is empty
or a word for null. -/
def choice (node : Node) : Decoder String := do
  let s ← scalar node
  match s.tag.bind Tag.localName? with
  | some name =>
    guard (s.style = .plain && (s.text = "" || isNullWord s.text))
    return name
  | none => return s.text

/-- A choice, by the names of its values. -/
def choiceOf {α : Type} (ofName? : String → Option α) (node : Node) : Decoder α := do
  let some a := ofName? (← choice node) | failure
  return a

/-- A plain scalar without text, which stands for an empty collection. -/
def isEmptyPlain (s : Scalar) : Bool := s.style = .plain && s.text = ""

def items (node : Node) : Decoder (List Node) := do
  match ← follow node with
  | .sequence _ items => return items
  | .scalar s =>
    guard (isEmptyPlain s)
    return []
  | _ => failure

/-- The values of a record's fields, in the order of the names; a field may be missing. Other keys
are ignored, but every key is a text, and the record's own keys occur at most once. -/
def record (names : List String) (node : Node) : Decoder (List (Option Node)) := do
  match ← follow node with
  | .mapping _ entries =>
    let members ← entries.mapM fun e => return (← text e.1, e.2)
    names.mapM fun name =>
      match members.filter (·.1 = name) with
      | [] => return none
      | [(_, v)] => return some v
      | _ => failure
  | .scalar s =>
    guard (isEmptyPlain s)
    return names.map fun _ => none
  | _ => failure

/-- A value that may be missing, with a default. -/
def orDefault {α : Type} (default : α) (decode : Node → Decoder α) : Option Node → Decoder α
  | none => return default
  | some node => decode node

end Decoder
end Missive.Yaml

import Missive.Yaml.Layout

/-! The nodes of a YAML document. -/

namespace Missive.Yaml

structure Scalar where
  text : String
  style : Style := .plain
  tag : Option Tag := none
  deriving DecidableEq, Repr

inductive Node where
  | scalar (s : Scalar)
  | sequence (tag : Option Tag) (items : List Node)
  | mapping (tag : Option Tag) (entries : List (Node × Node))
  /-- Stands for the anchored node with a number. -/
  | alias (id : Nat)

namespace Node

mutual

/-- The marks of a node: one for a scalar or an alias, and of a collection its start and its end
with the marks of what is in it. -/
def markCount : Node → Nat
  | .scalar _ | .alias _ => 1
  | .sequence _ items => itemMarkCount items + 2
  | .mapping _ entries => entryMarkCount entries + 2
  termination_by structural node => node

def itemMarkCount : List Node → Nat
  | [] => 0
  | node :: rest => node.markCount + itemMarkCount rest
  termination_by structural nodes => nodes

def entryMarkCount : List (Node × Node) → Nat
  | [] => 0
  | (key, value) :: rest => key.markCount + value.markCount + entryMarkCount rest
  termination_by structural entries => entries

end

/-- The node of a value that is left out. -/
def absent : Node := .scalar { text := "" }

/-- A node with an anchor: the number of the anchor, and the number of tokens from the node on. -/
structure Anchored where
  id : Nat
  ahead : Nat
  node : Node

/-- What the reader of nodes keeps. -/
structure Progress where
  tokens : List Token
  /-- Tag handles and what they stand for. -/
  handles : List (String × Tag)
  /-- Anchor names and their numbers. -/
  anchors : List (String × Nat) := []
  anchored : List Anchored := []

abbrev Reader := StateT Progress Option

def peek : Reader (Option Token) := return (← get).tokens.head?

def advance : Reader Unit := modify fun p => { p with tokens := p.tokens.tail }

def expect (t : Token) : Reader Unit := do
  guard ((← peek) == some t)
  advance

/-- A new anchor gets the number of anchor names so far, also if its name is in use. -/
def declare (name : String) : Reader Nat := do
  let p ← get
  let id := p.anchors.length
  set { p with anchors := (name, id) :: p.anchors.filter (·.1 ≠ name) }
  return id

/-- What a node says about itself before its content. -/
structure Properties where
  anchor : Option String := none
  tag : Option Tag := none

/-- A tag in full, its handle resolved. -/
def resolveTag (handle : String) (suffix : Tag) : Reader Tag := do
  if handle = "" then return suffix
  match (← get).handles.lookup handle with
  | some start => return start ++ suffix
  | none => failure

/-- An anchor and a tag, in either order. -/
def properties : Reader Properties := do
  match ← peek with
  | some (.anchor name) =>
    advance
    match ← peek with
    | some (.tag handle suffix) =>
      advance
      return { anchor := name, tag := some (← resolveTag handle suffix) }
    | _ => return { anchor := name }
  | some (.tag handle suffix) =>
    advance
    match ← peek with
    | some (.anchor name) =>
      advance
      return { anchor := name, tag := some (← resolveTag handle suffix) }
    | _ => return { tag := some (← resolveTag handle suffix) }
  | _ => return {}

/-- Whether one of the tokens comes next. -/
def nextIn (ts : List Token) : Reader Bool := return (← peek).any ts.contains

/-- The token comes next, and is passed. -/
def accept (t : Token) : Reader Bool := do
  if (← peek) == some t then
    advance
    return true
  return false

/-- Reads a node with its properties. `block` admits block collections, `indentless` also a sequence
that is not further in than the key before it. Every round of the readers counts against `n`. -/
def read (n : Nat) (block indentless : Bool) : Reader Node :=
  match n with
  | 0 => failure
  | n + 1 => do
    if let some (.alias name) := ← peek then
      advance
      match (← get).anchors.lookup name with
      | some id => return .alias id
      | none => failure
    let ahead := (← get).tokens.length
    let props ← properties
    let id ← props.anchor.mapM fun name => declare name
    let node ← content block indentless props n
    if let some id := id then
      modify fun p => { p with anchored := { id, ahead, node } :: p.anchored }
    return node
  termination_by structural n
where
  /-- Items of a block sequence, to its end. -/
  blockItems : Nat → Reader (List Node)
    | 0 => failure
    | n + 1 => do
      if ← accept .blockEnd then return []
      expect .blockEntry
      let item ←
        if ← nextIn [.blockEntry, .blockEnd] then pure absent else read n true false
      return item :: (← blockItems n)
    termination_by structural n => n
  /-- Items of a sequence without an indentation of its own. -/
  indentlessItems : Nat → Reader (List Node)
    | 0 => failure
    | n + 1 => do
      if ← accept .blockEntry then
        let item ←
          if ← nextIn [.blockEntry, .key, .value, .blockEnd] then pure absent
          else read n true false
        return item :: (← indentlessItems n)
      return []
    termination_by structural n => n
  /-- Entries of a block mapping, to its end. -/
  blockEntries : Nat → Reader (List (Node × Node))
    | 0 => failure
    | n + 1 => do
      if ← accept .blockEnd then return []
      expect .key
      let part : Reader Node := do
        if ← nextIn [.key, .value, .blockEnd] then pure absent else read n true true
      let key ← part
      let value ← if ← accept .value then part else pure absent
      return (key, value) :: (← blockEntries n)
    termination_by structural n => n
  /-- Items of a flow sequence, to its end. An item may be a mapping of one entry. -/
  flowItems (first : Bool) : Nat → Reader (List Node)
    | 0 => failure
    | n + 1 => do
      if ← accept .flowSequenceEnd then return []
      if !first then expect .flowEntry
      if ← accept .flowSequenceEnd then return []
      let item ←
        if ← accept .key then do
          let key ←
            if ← nextIn [.value, .flowEntry, .flowSequenceEnd] then do
              advance
              pure absent
            else read n false false
          let value ←
            if ← accept .value then
              if ← nextIn [.flowEntry, .flowSequenceEnd] then pure absent
              else read n false false
            else pure absent
          pure (.mapping none [(key, value)])
        else read n false false
      return item :: (← flowItems false n)
    termination_by structural n => n
  /-- Entries of a flow mapping, to its end. -/
  flowEntries (first : Bool) : Nat → Reader (List (Node × Node))
    | 0 => failure
    | n + 1 => do
      if ← accept .flowMappingEnd then return []
      if !first then expect .flowEntry
      if ← accept .flowMappingEnd then return []
      let entry ←
        if ← accept .key then do
          let key ←
            if ← nextIn [.value, .flowEntry, .flowMappingEnd] then pure absent
            else read n false false
          let value ←
            if ← accept .value then
              if ← nextIn [.flowEntry, .flowMappingEnd] then pure absent
              else read n false false
            else pure absent
          pure (key, value)
        else do
          pure (← read n false false, absent)
      return entry :: (← flowEntries false n)
    termination_by structural n => n
  /-- The content of a node. -/
  content (block indentless : Bool) (props : Properties) : Nat → Reader Node
    | 0 => failure
    | n + 1 => do
      if indentless && (← nextIn [.blockEntry]) then
        return .sequence props.tag (← indentlessItems n)
      match ← peek with
      | some (.scalar text style) =>
        advance
        return .scalar { text, style, tag := props.tag }
      | some .flowSequenceStart =>
        advance
        return .sequence props.tag (← flowItems true n)
      | some .flowMappingStart =>
        advance
        return .mapping props.tag (← flowEntries true n)
      | t =>
        if block && t == some .blockSequenceStart then
          advance
          return .sequence props.tag (← blockItems n)
        if block && t == some .blockMappingStart then
          advance
          return .mapping props.tag (← blockEntries n)
        guard (props.anchor.isSome || props.tag.isSome)
        return .scalar { text := "", tag := props.tag }
    termination_by structural n => n

end Node
end Missive.Yaml

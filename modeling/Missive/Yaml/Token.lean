/-! Tokens of YAML text. Indentation shows in them as starts and ends of block collections. The
escapes in a tag spell octets, and these need not be the form of a text; an octet of zero ends the
tag. -/

namespace Missive.Yaml

/-- A tag, or a part of one. -/
structure Tag where
  octets : List UInt8
  deriving DecidableEq, Repr

namespace Tag

instance : Append Tag := ⟨fun a b => ⟨a.octets ++ b.octets⟩⟩

def ofString (text : String) : Tag := ⟨text.toUTF8.toList⟩

def isEmpty (t : Tag) : Bool := t.octets.isEmpty

/-- The part before the first octet of zero. -/
def cut (t : Tag) : Tag := ⟨t.octets.takeWhile (· ≠ 0)⟩

/-- The tag that asks for nothing in particular. -/
def nonSpecific : Tag := ofString "!"

/-- The name after the `!` of a local tag, if it is a text. A mere `!` is its own name. -/
def localName? (t : Tag) : Option String :=
  match t.octets with
  | mark :: name =>
    if mark ≠ '!'.toUInt8 then none
    else String.fromUTF8? ⟨(if name.isEmpty then [mark] else name).toArray⟩
  | [] => none

/-- What the tags of the core types begin with. -/
def coreStart : Tag := ofString "tag:yaml.org,2002:"

/-- The tag of a core type. -/
def core (name : String) : Tag := coreStart ++ ofString name

end Tag
/-- How a scalar is written. -/
inductive Style where
  | plain | singleQuoted | doubleQuoted | literal | folded
  deriving DecidableEq, Repr

inductive Token where
  | versionDirective (major minor : Nat)
  | tagDirective (handle : String) (start : Tag)
  | documentStart | documentEnd
  | blockSequenceStart | blockMappingStart | blockEnd
  | flowSequenceStart | flowSequenceEnd | flowMappingStart | flowMappingEnd
  | blockEntry | flowEntry | key | value
  | alias (name : String)
  | anchor (name : String)
  | tag (handle : String) (suffix : Tag)
  | scalar (text : String) (style : Style)
  deriving DecidableEq, Repr

end Missive.Yaml

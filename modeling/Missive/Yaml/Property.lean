import Missive.Yaml.Cursor
import Missive.Yaml.Scalar
import Missive.Yaml.Token

/-! Anchors, aliases, tags and directives as they are written. -/

namespace Missive.Yaml.Property

/-- A name after `&` or `*`: word characters, and then a gap, a break or one of a few indicators. -/
def name? (c : Cursor) : Option (String × Cursor) := do
  let (name, c) := (c.skip 1).takeWhile isWordChar
  guard (!name.isEmpty)
  guard (endsWord c.peek || c.peek.any "?:,]\x7d%@\x60".toList.contains)
  return (String.ofList name, c)

/-- Characters of tags besides letters, digits and `%` escapes. -/
def isTagChar (verbatim : Bool) (c : Char) : Bool :=
  isWordChar c || ";/?:@&=+$.!~*\x27()".toList.contains c || (verbatim && ",[]".toList.contains c)

/-- The number of a `%` escape at the front. -/
def octet? : List Char → Option (Nat × List Char)
  | '%' :: a :: b :: rest => do return (← Quoted.hexNumber? [a, b], rest)
  | _ => none

/-- So many octets that continue a character. -/
def trail? : Nat → List Char → Option (List UInt8)
  | 0, _ => some []
  | n + 1, cs => do
    let (o, cs) ← octet? cs
    guard (o / 64 = 2)
    return o.toUInt8 :: (← trail? n cs)

/-- The octets in a row of `%` escapes: the first tells how many belong to its character. They need
not encode one. -/
def escaped? (cs : List Char) : Option (List UInt8) := do
  let (o, cs) ← octet? cs
  let extra ←
    if o < 128 then some 0
    else if o / 32 = 6 then some 1
    else if o / 16 = 14 then some 2
    else if o / 8 = 30 then some 3
    else none
  return o.toUInt8 :: (← trail? extra cs)

/-- Octets of a tag, escapes resolved. -/
def tagText (verbatim : Bool) : Nat → List UInt8 → Cursor → Option (Tag × Cursor)
  | 0, text, c => some (⟨text⟩, c)
  | n + 1, text, c =>
    match c.peek with
    | none => some (⟨text⟩, c)
    | some x =>
      if x == '%' then do
        let octets ← escaped? c.rest
        tagText verbatim n (text ++ octets) (c.skip (3 * octets.length))
      else if isTagChar verbatim x then tagText verbatim n (text ++ [x.toUInt8]) (c.skip 1)
      else some (⟨text⟩, c)

def tagText? (verbatim : Bool) (c : Cursor) : Option (Tag × Cursor) :=
  tagText verbatim (c.rest.length + 1) [] c

/-- A `!`, word characters, and a second `!` if there is one. -/
def handle (c : Cursor) : List Char × Cursor :=
  let (word, c) := (c.skip 1).takeWhile isWordChar
  if c.isAt '!' then ('!' :: word ++ ['!'], c.skip 1) else ('!' :: word, c)

/-- A tag as a handle, which may be empty, and a suffix. -/
def tag? (flow : Bool) (c : Cursor) : Option (String × Tag × Cursor) := do
  let (handle, suffix, c) ←
    if c.peekAt 1 == some '<' then do
      let (text, c) ← tagText? true (c.skip 2)
      guard (!text.isEmpty && c.isAt '>')
      some ([], text, c.skip 1)
    else do
      let (h, c) := handle c
      let (text, c) ← tagText? false c
      if 2 ≤ h.length && h.getLast? == some '!' then
        guard (!text.isEmpty)
        some (h, text, c)
      else some (['!'], Tag.ofString (String.ofList h.tail) ++ text, c)
  guard (endsWord c.peek || (flow && c.isAt ','))
  let suffix := suffix.cut
  return if handle == ['!'] && suffix.isEmpty then ("", Tag.nonSpecific, c)
    else (String.ofList handle, suffix, c)

/-- A number of at most nine digits. -/
def versionNumber? (c : Cursor) : Option (Nat × Cursor) := do
  let (digits, c) := c.takeWhile Char.isDigit
  guard (!digits.isEmpty && digits.length ≤ 9)
  return (digits.foldl (fun n d => n * 10 + (d.toNat - '0'.toNat)) 0, c)

/-- The value of a version directive. -/
def version? (c : Cursor) : Option (Token × Cursor) := do
  let (major, c) ← versionNumber? (c.skipWhile isGap)
  guard (c.isAt '.')
  let (minor, c) ← versionNumber? (c.skip 1)
  return (.versionDirective major minor, c)

/-- The value of a tag directive. -/
def tagDirective? (c : Cursor) : Option (Token × Cursor) := do
  let c := c.skipWhile isGap
  guard (c.isAt '!')
  let (h, c) := handle c
  guard (h == ['!'] || h.getLast? == some '!')
  guard (c.peek.any isGap)
  let (start, c) ← tagText? true (c.skipWhile isGap)
  guard (!start.isEmpty && endsWord c.peek)
  return (.tagDirective (String.ofList h) start.cut, c)

/-- A directive with its line. -/
def directive? (c : Cursor) : Option (Token × Cursor) := do
  let (name, c) := (c.skip 1).takeWhile isWordChar
  guard (!name.isEmpty && endsWord c.peek)
  let (token, c) ←
    match String.ofList name with
    | "YAML" => version? c
    | "TAG" => tagDirective? c
    | _ => none
  return (token, ← c.finishLine?)

end Missive.Yaml.Property

import Missive.Yaml.Property

/-! The tokens of a YAML text. Block collections are opened and closed by indentation; a key on one
line is recognized by the colon after it, so its token is put in front of what has been read. -/

namespace Missive.Yaml

/-- A place where a key may have begun. -/
structure KeyMark where
  possible : Bool := false
  /-- Nothing but a key can stand there. -/
  required : Bool := false
  /-- The number of tokens before it. -/
  token : Nat := 0
  cursor : Cursor := ⟨[], 0, 0, 0⟩

/-- The reader of tokens between two of them. -/
structure Layout where
  cursor : Cursor
  tokens : Array Token := #[]
  /-- The indentation of the innermost block collection, `-1` outside all. -/
  indent : Int := -1
  outerIndents : List Int := []
  /-- For the block context and each open flow collection, the innermost first. -/
  keys : List KeyMark := [{}]
  keyAllowed : Bool := true

namespace Layout

/-- A key takes at most so many octets. -/
def maxKeyLength : Nat := 1024

def inFlow (l : Layout) : Bool := 1 < l.keys.length

def column (l : Layout) : Int := l.cursor.column

def push (l : Layout) (t : Token) : Layout := { l with tokens := l.tokens.push t }

/-- Adds a token of `n` characters at the cursor. -/
def take (l : Layout) (n : Nat) (t : Token) : Layout :=
  { l.push t with cursor := l.cursor.skip n }

def insertAt (l : Layout) (i : Nat) (t : Token) : Layout :=
  let ts := l.tokens.toList
  { l with tokens := (ts.take i ++ t :: ts.drop i).toArray }

/-- Passes white space and comments, and a byte order mark at the start of a line. Tabs count as
white space except where a key may begin. -/
def skipToToken : Nat → Layout → Layout
  | 0, l => l
  | n + 1, l =>
    let isSkipped (c : Char) : Bool := c == ' ' || ((l.inFlow || !l.keyAllowed) && c == '\t')
    let c := l.cursor
    let c := if c.column = 0 && c.isAt '\uFEFF' then c.skip 1 else c
    let c := c.skipWhile isSkipped
    let c := if c.isAt '#' then c.skipWhile (!isBreak ·) else c
    if c.peek.any isBreak then
      skipToToken n { l with cursor := c.takeBreak.2, keyAllowed := l.keyAllowed || !l.inFlow }
    else { l with cursor := c }

/-- A key that is on an earlier line, or too long, is none; fails if it has to be one. -/
def refreshKey? (c : Cursor) (k : KeyMark) : Option KeyMark :=
  if k.possible && (k.cursor.line < c.line || k.cursor.index + maxKeyLength < c.index) then
    if k.required then none else some { k with possible := false }
  else some k

def refreshKeys? (l : Layout) : Option Layout := do
  return { l with keys := ← l.keys.mapM (refreshKey? l.cursor) }

/-- Gives up the innermost place where a key may have begun. -/
def dropKey? (l : Layout) : Option Layout :=
  match l.keys with
  | [] => some l
  | k :: outer =>
    if k.possible && k.required then none
    else some { l with keys := { k with possible := false } :: outer }

/-- Notes that a key may begin at the cursor, if one is allowed there. -/
def markKey? (l : Layout) : Option Layout :=
  if l.keyAllowed then do
    let l ← l.dropKey?
    let mark : KeyMark :=
      { possible := true, required := !l.inFlow && l.indent == l.column
        token := l.tokens.size, cursor := l.cursor }
    return { l with keys := mark :: l.keys.tail }
  else some l

/-- Opens a block collection at a column further in, before the token with number `i`. -/
def indentTo (l : Layout) (column : Int) (i : Nat) (start : Token) : Layout :=
  if !l.inFlow && l.indent < column then
    { l.insertAt i start with indent := column, outerIndents := l.indent :: l.outerIndents }
  else l

/-- Closes the given block collections from the inside while they are further in than the column. -/
def closeTo (l : Layout) (column : Int) : List Int → Layout
  | [] => l
  | outer :: rest =>
    if column < l.indent then
      closeTo { l.push .blockEnd with indent := outer, outerIndents := rest } column rest
    else l

/-- Closes the block collections that are further in than the column. -/
def unindentTo (l : Layout) (column : Int) : Layout :=
  if l.inFlow then l else l.closeTo column l.outerIndents

def directive? (l : Layout) : Option Layout := do
  let l ← (l.unindentTo (-1)).dropKey?
  let (token, cursor) ← Property.directive? l.cursor
  return { l.push token with cursor, keyAllowed := false }

def marker? (l : Layout) (t : Token) : Option Layout := do
  let l ← (l.unindentTo (-1)).dropKey?
  return { l.take 3 t with keyAllowed := false }

def openFlow? (l : Layout) (t : Token) : Option Layout := do
  let l ← l.markKey?
  return { l.take 1 t with keys := {} :: l.keys, keyAllowed := true }

def closeFlow? (l : Layout) (t : Token) : Option Layout := do
  let l ← l.dropKey?
  return { l.take 1 t with keys := if l.inFlow then l.keys.tail else l.keys, keyAllowed := false }

def flowEntry? (l : Layout) : Option Layout := do
  let l ← l.dropKey?
  return { l.take 1 .flowEntry with keyAllowed := true }

def blockEntry? (l : Layout) : Option Layout := do
  guard (l.inFlow || l.keyAllowed)
  let l := l.indentTo l.column l.tokens.size .blockSequenceStart
  let l ← l.dropKey?
  return { l.take 1 .blockEntry with keyAllowed := true }

def key? (l : Layout) : Option Layout := do
  guard (l.inFlow || l.keyAllowed)
  let l := l.indentTo l.column l.tokens.size .blockMappingStart
  let l ← l.dropKey?
  return { l.take 1 .key with keyAllowed := !l.inFlow }

/-- A colon. What was read since the place where a key may have begun is its key. -/
def value? (l : Layout) : Option Layout :=
  match l.keys with
  | k :: outer =>
    if k.possible then
      let l := (l.insertAt k.token .key).indentTo k.cursor.column k.token .blockMappingStart
      some { l.take 1 .value with
        keys := { k with possible := false } :: outer, keyAllowed := false }
    else do
      guard (l.inFlow || l.keyAllowed)
      let l := l.indentTo l.column l.tokens.size .blockMappingStart
      return { l.take 1 .value with keyAllowed := !l.inFlow }
  | [] => none

def named? (l : Layout) (token : String → Token) : Option Layout := do
  let l ← l.markKey?
  let (name, cursor) ← Property.name? l.cursor
  return { l.push (token name) with cursor, keyAllowed := false }

def tag? (l : Layout) : Option Layout := do
  let l ← l.markKey?
  let (handle, suffix, cursor) ← Property.tag? l.inFlow l.cursor
  return { l.push (.tag handle suffix) with cursor, keyAllowed := false }

def block? (l : Layout) (folded : Bool) : Option Layout := do
  let l ← l.dropKey?
  let (text, cursor) ← Block.read folded l.indent l.cursor
  return { l.push (.scalar (String.ofList text) (if folded then .folded else .literal)) with
    cursor, keyAllowed := true }

def quoted? (l : Layout) (single : Bool) : Option Layout := do
  let l ← l.markKey?
  let (text, cursor) ← Quoted.read single l.cursor
  return { l.push (.scalar (String.ofList text) (if single then .singleQuoted else .doubleQuoted))
    with cursor, keyAllowed := false }

def plain? (l : Layout) : Option Layout := do
  let l ← l.markKey?
  let (text, cursor, broken) ← Plain.read l.inFlow (l.indent + 1) l.cursor
  return { l.push (.scalar (String.ofList text) .plain) with cursor, keyAllowed := broken }

/-- Whether a plain scalar can begin with the character `x`, which is followed by `next`. -/
def startsPlain (flow : Bool) (x : Char) (next : Option Char) : Bool :=
  if endsWord (some x) then false
  else if x == '-' then !next.any isGap
  else if x == '?' || x == ':' then !flow && !endsWord next
  else !"-?:,[]\x7b\x7d#&*!|>\x27\x22%@\x60".toList.contains x

/-- Reads the token that begins with the character `x`. -/
def token? (l : Layout) (x : Char) : Option Layout :=
  let c := l.cursor
  let next := c.peekAt 1
  let flow := l.inFlow
  if c.column == 0 && x == '%' then l.directive?
  else if c.atMarker '-' then l.marker? .documentStart
  else if c.atMarker '.' then l.marker? .documentEnd
  else if x == '[' then l.openFlow? .flowSequenceStart
  else if x == '\x7b' then l.openFlow? .flowMappingStart
  else if x == ']' then l.closeFlow? .flowSequenceEnd
  else if x == '\x7d' then l.closeFlow? .flowMappingEnd
  else if x == ',' then l.flowEntry?
  else if x == '-' && endsWord next then l.blockEntry?
  else if x == '?' && (flow || endsWord next) then l.key?
  else if x == ':' && (flow || endsWord next) then l.value?
  else if x == '*' then l.named? .alias
  else if x == '&' then l.named? .anchor
  else if x == '!' then l.tag?
  else if x == '|' && !flow then l.block? false
  else if x == '>' && !flow then l.block? true
  else if x == '\x27' then l.quoted? true
  else if x == '\x22' then l.quoted? false
  else if startsPlain flow x next then l.plain?
  else none

/-- Closes what is open at the end of the text. -/
def finish? (l : Layout) : Option Layout :=
  (l.unindentTo (-1)).dropKey?

/-- Reads tokens to the end of the text; there are at most `n`. -/
def readAll : Nat → Layout → Option Layout
  | 0, l => l.finish?
  | n + 1, l => do
    let l ← (skipToToken (l.cursor.rest.length + 1) l).refreshKeys?
    let l := l.unindentTo l.column
    match l.cursor.peek with
    | none => l.finish?
    | some x => readAll n (← l.token? x)

end Layout

/-- The characters that may stand in a YAML text. -/
def isPrintable (c : Char) : Bool :=
  let n := c.toNat
  n == 9 || n == 10 || n == 13 || (0x20 ≤ n && n ≤ 0x7E) || n == 0x85 ||
    (0xA0 ≤ n && n ≤ 0xD7FF) || (0xE000 ≤ n && n ≤ 0xFFFD) || 0x10000 ≤ n

/-- The tokens of a text. -/
def tokens? (text : String) : Option (List Token) := do
  let cs := text.toList
  guard (cs.all isPrintable)
  let l ← Layout.readAll (cs.length + 1) { cursor := { rest := cs } }
  return l.tokens.toList

end Missive.Yaml

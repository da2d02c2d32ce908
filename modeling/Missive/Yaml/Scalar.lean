import Missive.Yaml.Cursor

/-! Scalars as they are written: plain, in quotes, or as a block. Lines are folded: a single break
between words counts as a space, further breaks count as themselves. -/

namespace Missive.Yaml

/-- What stands between two words of a scalar. -/
structure Gap where
  /-- Gaps on the first line. -/
  spaces : List Char := []
  first : List Char := []
  /-- The breaks after the first. -/
  more : List Char := []
  broken : Bool := false

namespace Gap

/-- What the gap contributes to the text. -/
def fold (g : Gap) : List Char :=
  if g.broken then
    if g.first = ['\n'] then (if g.more.isEmpty then [' '] else g.more)
    else g.first ++ g.more
  else g.spaces

/-- Reads gaps and breaks, at most `n` of them. Fails at a gap in a later line that is forbidden. -/
def read (forbidden : Cursor → Bool) : Nat → Gap → Cursor → Option (Gap × Cursor)
  | 0, g, c => some (g, c)
  | n + 1, g, c =>
    match c.peek with
    | none => some (g, c)
    | some x =>
      if isGap x then
        if g.broken then
          if forbidden c then none else read forbidden n g (c.skip 1)
        else read forbidden n { g with spaces := g.spaces ++ [x] } (c.skip 1)
      else if isBreak x then
        let (text, c) := c.takeBreak
        if g.broken then read forbidden n { g with more := g.more ++ text } c
        else read forbidden n { first := text, broken := true } c
      else some (g, c)

end Gap

namespace Plain

/-- The word at the front. In a flow collection its indicators end a word, and a colon right before
one of them is refused. -/
def word? (flow : Bool) : List Char → Option (List Char)
  | [] => some []
  | x :: rest =>
    let next := rest.head?
    if endsWord (some x) then some []
    else if flow && x == ':' && next.any ",?[]\x7b\x7d".toList.contains then none
    else if x == ':' && endsWord next then some []
    else if flow && ",[]\x7b\x7d".toList.contains x then some []
    else (word? flow rest).map (x :: ·)

/-- Reads on after the text so far, which the gap follows. Gives the text, the cursor behind it, and
whether a line was broken last. -/
def readWords (flow : Bool) (indent : Int) :
    Nat → List Char → Gap → Cursor → Option (List Char × Cursor × Bool)
  | 0, text, g, c => some (text, c, g.broken)
  | n + 1, text, g, c =>
    if c.atAnyMarker || c.isAt '#' then some (text, c, g.broken)
    else do
      let word ← word? flow c.rest
      if word.isEmpty then
        return (text, c, g.broken)
      let text := text ++ g.fold ++ word
      let c := c.skip word.length
      if !endsWord c.peek || c.atEnd then
        return (text, c, false)
      let tabTooFarLeft (c : Cursor) : Bool := (c.column : Int) < indent && c.isAt '\t'
      let (g, c) ← Gap.read tabTooFarLeft (c.rest.length + 1) {} c
      if !flow && (c.column : Int) < indent then
        return (text, c, g.broken)
      readWords flow indent n text g c

/-- A plain scalar whose lines are indented by at least `indent` outside flow collections. -/
def read (flow : Bool) (indent : Int) (c : Cursor) : Option (List Char × Cursor × Bool) :=
  readWords flow indent (c.rest.length + 1) [] {} c

end Plain

namespace Quoted

/-- What a backslash and one more character stand for in double quotes. -/
def escaped? : Char → Option Char
  | '0' => some '\x00'
  | 'a' => some '\x07'
  | 'b' => some '\x08'
  | 't' => some '\t'
  | '\t' => some '\t'
  | 'n' => some '\n'
  | 'v' => some '\x0b'
  | 'f' => some '\x0c'
  | 'r' => some '\r'
  | 'e' => some '\x1b'
  | ' ' => some ' '
  | '\x22' => some '\x22'
  | '/' => some '/'
  | '\x5c' => some '\x5c'
  | 'N' => some '\u0085'
  | '_' => some '\u00a0'
  | 'L' => some '\u2028'
  | 'P' => some '\u2029'
  | _ => none

/-- The number of hexadecimal digits after a backslash and a letter. -/
def codeLength? : Char → Option Nat
  | 'x' => some 2
  | 'u' => some 4
  | 'U' => some 8
  | _ => none

def hexValue? (c : Char) : Option Nat :=
  if c.isDigit then some (c.toNat - '0'.toNat)
  else if 'a' ≤ c && c ≤ 'f' then some (c.toNat - 'a'.toNat + 10)
  else if 'A' ≤ c && c ≤ 'F' then some (c.toNat - 'A'.toNat + 10)
  else none

def hexNumber? (cs : List Char) : Option Nat :=
  cs.foldlM (fun n c => (hexValue? c).map (n * 16 + ·)) 0

/-- The character of a code point; surrogates are none. -/
def charOf? (n : Nat) : Option Char :=
  if n.isValidChar then some (Char.ofNat n) else none

/-- The character that an escape at the cursor denotes, and the cursor behind it. -/
def escape? (c : Cursor) : Option (Char × Cursor) := do
  let e ← c.peekAt 1
  match escaped? e with
  | some x => return (x, c.skip 2)
  | none =>
    let n ← codeLength? e
    let digits := (c.rest.drop 2).take n
    guard (digits.length = n)
    let x ← charOf? (← hexNumber? digits)
    return (x, c.skip (2 + n))

/-- The word at the cursor, and whether it ends with an escaped line break. -/
def word? (single : Bool) : Nat → List Char → Cursor → Option (List Char × Bool × Cursor)
  | 0, text, c => some (text, false, c)
  | n + 1, text, c =>
    match c.peek with
    | none => some (text, false, c)
    | some x =>
      if endsWord (some x) then some (text, false, c)
      else if single && x == '\x27' then
        if c.peekAt 1 == some '\x27' then word? single n (text ++ ['\x27']) (c.skip 2)
        else some (text, false, c)
      else if !single && x == '\x22' then some (text, false, c)
      else if !single && x == '\x5c' then
        if (c.peekAt 1).any isBreak then some (text, true, (c.skip 1).takeBreak.2)
        else do
          let (x, c) ← escape? c
          word? single n (text ++ [x]) c
      else word? single n (text ++ [x]) (c.skip 1)

/-- Reads words and gaps up to the closing quote. -/
def readWords (single : Bool) : Nat → List Char → Cursor → Option (List Char × Cursor)
  | 0, _, _ => none
  | n + 1, text, c => do
    guard (!c.atAnyMarker && !c.atEnd)
    let (word, broken, c) ← word? single (c.rest.length + 1) [] c
    let text := text ++ word
    if c.isAt (if single then '\x27' else '\x22') then
      return (text, c.skip 1)
    let (g, c) ← Gap.read (fun _ => false) (c.rest.length + 1) { broken } c
    readWords single n (text ++ g.fold) c

/-- A scalar in quotes, from its opening quote on. -/
def read (single : Bool) (c : Cursor) : Option (List Char × Cursor) :=
  readWords single (c.rest.length + 2) [] (c.skip 1)

end Quoted

namespace Block

/-- What becomes of the breaks at the end. -/
inductive Chomping where
  | strip | clip | keep
  deriving DecidableEq, Repr

def chomping? : Option Char → Option Chomping
  | some '+' => some .keep
  | some '-' => some .strip
  | _ => none

/-- The indentation given by a digit, which is not zero. -/
def indentation? (c : Cursor) : Option (Option Nat × Cursor) :=
  match c.peek with
  | some d =>
    if d.isDigit then
      if d == '0' then none else some (some (d.toNat - '0'.toNat), c.skip 1)
    else some (none, c)
  | none => some (none, c)

/-- The header after its indicator: chomping and indentation, in either order. -/
def header? (c : Cursor) : Option (Chomping × Option Nat × Cursor) := do
  match chomping? c.peek with
  | some chomping =>
    let (indent, c) ← indentation? (c.skip 1)
    return (chomping, indent, c)
  | none =>
    let (indent, c) ← indentation? c
    match indent, chomping? c.peek with
    | some _, some chomping => return (chomping, indent, c.skip 1)
    | _, _ => return (.clip, indent, c)

/-- Passes indentation and empty lines. With no indentation known (`0`), gives the widest one
met. -/
def readBreaks (indent : Nat) :
    Nat → List Char → Nat → Cursor → Option (List Char × Nat × Cursor)
  | 0, breaks, widest, c => some (breaks, widest, c)
  | n + 1, breaks, widest, c =>
    let spaces := (c.rest.takeWhile (· == ' ')).length
    let c := c.skip (if indent = 0 then spaces else min spaces (indent - c.column))
    let widest := max widest c.column
    if (indent = 0 || c.column < indent) && c.isAt '\t' then none
    else if c.peek.any isBreak then
      let (text, c) := c.takeBreak
      readBreaks indent n (breaks ++ text) widest c
    else some (breaks, widest, c)

/-- Reads the lines of a block. `last` is the break before the cursor, `breaks` are those after it,
and `wasGap` tells whether the previous line began with a gap: such lines are not folded. -/
def readLines (folded : Bool) (indent : Nat) : Nat → List Char → List Char → List Char → Bool →
    Cursor → Option (List Char × List Char × List Char × Cursor)
  | 0, text, last, breaks, _, c => some (text, last, breaks, c)
  | n + 1, text, last, breaks, wasGap, c =>
    if c.column = indent && !c.atEnd then do
      let isGapLine := c.peek.any isGap
      let joint :=
        if folded && last = ['\n'] && !wasGap && !isGapLine then
          (if breaks.isEmpty then [' '] else [])
        else last
      let (line, c) := c.takeWhile (!isBreak ·)
      let (last, c) := c.takeBreak
      let text := text ++ joint ++ breaks ++ line
      let (breaks, _, c) ← readBreaks indent (c.rest.length + 1) [] 0 c
      readLines folded indent n text last breaks isGapLine c
    else some (text, last, breaks, c)

/-- A block scalar, from its indicator on, in a collection indented by `outer`. -/
def read (folded : Bool) (outer : Int) (c : Cursor) : Option (List Char × Cursor) := do
  let (chomping, given, c) ← header? (c.skip 1)
  let c ← c.finishLine?
  let base : Nat := outer.toNat
  let (breaks, widest, c) ← readBreaks ((given.map (base + ·)).getD 0) (c.rest.length + 1) [] 0 c
  let indent := (given.map (base + ·)).getD (max widest (max (outer + 1).toNat 1))
  let (text, last, breaks, c) ← readLines folded indent (c.rest.length + 1) [] [] breaks false c
  let text := if chomping = .strip then text else text ++ last
  return (if chomping = .keep then text ++ breaks else text, c)

end Block
end Missive.Yaml

/-! A place in a YAML text, with the counts that indentation and keys are judged by. -/

namespace Missive.Yaml

/-- A space or a tab. -/
def isGap (c : Char) : Bool := c == ' ' || c == '\t'

/-- Line feed, carriage return, next line, line separator, paragraph separator. -/
def isBreak (c : Char) : Bool :=
  c == '\n' || c == '\r' || c == '\u0085' || c == '\u2028' || c == '\u2029'

/-- A letter, digit, underscore or hyphen of ASCII. -/
def isWordChar (c : Char) : Bool := c.isAlphanum || c == '_' || c == '-'

/-- The end of the text, a gap or a break. -/
def endsWord : Option Char → Bool
  | none => true
  | some c => isGap c || isBreak c

/-- The end of the text or a break. -/
def endsLine : Option Char → Bool
  | none => true
  | some c => isBreak c

/-- The length of characters in UTF-8. -/
def octetCount (cs : List Char) : Nat := cs.foldr (fun c n => c.utf8Size + n) 0

structure Cursor where
  rest : List Char
  /-- Octets passed. -/
  index : Nat := 0
  line : Nat := 0
  column : Nat := 0

namespace Cursor

def peek (c : Cursor) : Option Char := c.rest.head?

def peekAt (c : Cursor) (n : Nat) : Option Char := c.rest[n]?

def isAt (c : Cursor) (x : Char) : Bool := c.peek == some x

def atEnd (c : Cursor) : Bool := c.rest.isEmpty

/-- Passes characters of one line. -/
def skip (c : Cursor) (n : Nat) : Cursor :=
  let passed := c.rest.take n
  { c with
    rest := c.rest.drop n
    index := c.index + octetCount passed
    column := c.column + passed.length }

/-- The characters of a class at the cursor, and the cursor behind them. -/
def takeWhile (p : Char → Bool) (c : Cursor) : List Char × Cursor :=
  let cs := c.rest.takeWhile p
  (cs, c.skip cs.length)

def skipWhile (p : Char → Bool) (c : Cursor) : Cursor := (c.takeWhile p).2

/-- Passes a line break, and gives what it stands for: a line feed, except that the two Unicode
separators stand for themselves. Gives nothing where there is no break. -/
def takeBreak (c : Cursor) : List Char × Cursor :=
  let pass (n : Nat) : Cursor := { c.skip n with line := c.line + 1, column := 0 }
  match c.rest with
  | '\r' :: '\n' :: _ => (['\n'], pass 2)
  | x :: _ =>
    if x == '\n' || x == '\r' || x == '\u0085' then (['\n'], pass 1)
    else if x == '\u2028' || x == '\u2029' then ([x], pass 1)
    else ([], c)
  | [] => ([], c)

/-- Whether `---` or `...`, as `x` tells, stands alone at the start of a line here. -/
def atMarker (c : Cursor) (x : Char) : Bool :=
  c.column == 0 && c.isAt x && c.peekAt 1 == some x && c.peekAt 2 == some x &&
    endsWord (c.peekAt 3)

def atAnyMarker (c : Cursor) : Bool := c.atMarker '-' || c.atMarker '.'

/-- Passes the gaps and the comment at the end of a line; fails if something else is there. -/
def finishLine? (c : Cursor) : Option Cursor := do
  let c := c.skipWhile isGap
  let c := if c.isAt '#' then c.skipWhile (!isBreak ·) else c
  guard (endsLine c.peek)
  return c.takeBreak.2

end Cursor
end Missive.Yaml

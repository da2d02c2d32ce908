import Missive.Json.Text

/-! Tokens of JSON text. -/

namespace Missive.Json

inductive Token where
  | openBrace | closeBrace | openBracket | closeBracket | comma | colon
  | null | true | false
  | string (text : String)
  /-- A string literal whose escapes denote no text. -/
  | unpaired
  | integer (value : Int)
  /-- Any other number, as it is written; `-0` is among them. -/
  | decimal (lexeme : String)
  deriving DecidableEq, Repr

namespace Token

def isSpace (c : Char) : Bool := c == ' ' || c == '\t' || c == '\n' || c == '\r'

def digitsValue (ds : List Char) : Nat :=
  ds.foldl (fun n d => n * 10 + (d.toNat - '0'.toNat)) 0

/-- Digits of a whole part: at least one, and no needless zero in front. -/
def isWhole : List Char → Bool
  | [] => Bool.false
  | ['0'] => Bool.true
  | d :: _ => d ≠ '0'

/-- The characters at the front that are digits, and the rest. -/
def spanDigits (cs : List Char) : List Char × List Char :=
  (cs.takeWhile Char.isDigit, cs.dropWhile Char.isDigit)

/-- A point with digits, if there is a point. -/
def fraction? (cs : List Char) : Option (List Char × List Char) :=
  match cs with
  | '.' :: rest =>
    match spanDigits rest with
    | ([], _) => none
    | (ds, rest) => some ('.' :: ds, rest)
  | _ => some ([], cs)

/-- An `e` with a sign, if there is one, and digits, if there is an `e`. -/
def exponent? (cs : List Char) : Option (List Char × List Char) :=
  match cs with
  | e :: rest =>
    if e = 'e' ∨ e = 'E' then
      let (sign, rest) :=
        match rest with
        | '+' :: more => (['+'], more)
        | '-' :: more => (['-'], more)
        | _ => ([], rest)
      match spanDigits rest with
      | ([], _) => none
      | (ds, rest) => some (e :: sign ++ ds, rest)
    else some ([], cs)
  | [] => some ([], [])

/-- The number at the front, after its sign. -/
def number? (negative : Bool) (cs : List Char) : Option (Token × List Char) := do
  let (whole, rest) := spanDigits cs
  guard (isWhole whole)
  let (frac, rest) ← fraction? rest
  let (exp, rest) ← exponent? rest
  let n := digitsValue whole
  if frac.isEmpty && exp.isEmpty && !(negative && n == 0) then
    return (.integer (if negative then -n else n), rest)
  let sign := if negative then ['-'] else []
  return (.decimal (String.ofList (sign ++ whole ++ frac ++ exp)), rest)

/-- The token that starts with the character `c`, and what follows it. -/
def first? (c : Char) (rest : List Char) : Option (Token × List Char) :=
  match c, rest with
  | '\x7b', _ => some (.openBrace, rest)
  | '\x7d', _ => some (.closeBrace, rest)
  | '[', _ => some (.openBracket, rest)
  | ']', _ => some (.closeBracket, rest)
  | ',', _ => some (.comma, rest)
  | ':', _ => some (.colon, rest)
  | '\x22', _ => do
    let (ps, rest) ← pieces rest
    match assemble ps with
    | some cs => return (.string (String.ofList cs), rest)
    | none => return (.unpaired, rest)
  | 'n', 'u' :: 'l' :: 'l' :: rest => some (.null, rest)
  | 't', 'r' :: 'u' :: 'e' :: rest => some (.true, rest)
  | 'f', 'a' :: 'l' :: 's' :: 'e' :: rest => some (.false, rest)
  | '-', _ => number? Bool.true rest
  | _, _ => number? Bool.false (c :: rest)

/-- The tokens of a text of at most `n` characters. -/
def scanWithin : Nat → List Char → Option (List Token)
  | _, [] => some []
  | 0, _ :: _ => none
  | n + 1, c :: rest =>
    if isSpace c then scanWithin n rest
    else do
      let (t, rest) ← first? c rest
      return t :: (← scanWithin n rest)

/-- The tokens of a text, if it has only tokens and spaces. -/
def scan? (cs : List Char) : Option (List Token) :=
  scanWithin cs.length cs

def render : Token → List Char
  | openBrace => ['\x7b']
  | closeBrace => ['\x7d']
  | openBracket => ['[']
  | closeBracket => [']']
  | comma => [',']
  | colon => [':']
  | null => "null".toList
  | true => "true".toList
  | false => "false".toList
  | string s => quote s
  | unpaired => ['\x22', '\x5c', 'u', 'd', '8', '0', '0', '\x22']
  | integer i => (toString i).toList
  | decimal lexeme => lexeme.toList

end Token
end Missive.Json

import Missive.Json.Token

/-! JSON values. Objects keep their members in order, repeated keys included. -/

namespace Missive.Json

inductive Value where
  | null
  | bool (b : Bool)
  | integer (value : Int)
  | decimal (lexeme : String)
  | string (text : String)
  /-- A string whose escapes denote no text. -/
  | unpaired
  | array (items : List Value)
  /-- A key is absent where its escapes denote no text. -/
  | object (members : List (Option String × Value))

namespace Value

def keyOf? : Token → Option (Option String)
  | .string s => some (some s)
  | .unpaired => some none
  | _ => none

mutual

/-- The value at the front of the tokens, nested at most `n` deep in steps, and the rest. -/
def readValue : Nat → List Token → Option (Value × List Token)
  | 0, _ => none
  | n + 1, t :: ts =>
    match t with
    | .null => some (.null, ts)
    | .true => some (.bool true, ts)
    | .false => some (.bool false, ts)
    | .string s => some (.string s, ts)
    | .unpaired => some (.unpaired, ts)
    | .integer i => some (.integer i, ts)
    | .decimal d => some (.decimal d, ts)
    | .openBracket =>
      match ts with
      | .closeBracket :: rest => some (.array [], rest)
      | _ => (readItems n ts).map fun (items, rest) => (.array items, rest)
    | .openBrace =>
      match ts with
      | .closeBrace :: rest => some (.object [], rest)
      | _ => (readMembers n ts).map fun (members, rest) => (.object members, rest)
    | _ => none
  | _ + 1, [] => none

/-- One item or more, with commas between them, and the closing bracket. -/
def readItems : Nat → List Token → Option (List Value × List Token)
  | 0, _ => none
  | n + 1, ts => do
    match ← readValue n ts with
    | (v, .comma :: rest) =>
      let (vs, rest) ← readItems n rest
      return (v :: vs, rest)
    | (v, .closeBracket :: rest) => return ([v], rest)
    | _ => none

/-- One member or more, with commas between them, and the closing brace. -/
def readMembers : Nat → List Token → Option (List (Option String × Value) × List Token)
  | n + 1, k :: .colon :: ts => do
    let key ← keyOf? k
    match ← readValue n ts with
    | (v, .comma :: rest) =>
      let (ms, rest) ← readMembers n rest
      return ((key, v) :: ms, rest)
    | (v, .closeBrace :: rest) => return ([(key, v)], rest)
    | _ => none
  | _, _ => none

end

/-- The value of a token list. Each step of the reader takes at least every second token. -/
def ofTokens? (ts : List Token) : Option Value :=
  match readValue (2 * ts.length) ts with
  | some (v, []) => some v
  | _ => none

/-- Reads a JSON text, with white space around its tokens. -/
def parse? (text : String) : Option Value := do
  ofTokens? (← Token.scan? text.toList)

mutual

/-- The tokens of a value in its compact form. -/
def tokens : Value → List Token
  | null => [.null]
  | bool true => [.true]
  | bool false => [.false]
  | integer i => [.integer i]
  | decimal d => [.decimal d]
  | string s => [.string s]
  | unpaired => [.unpaired]
  | array items => .openBracket :: itemTokens items ++ [.closeBracket]
  | object members => .openBrace :: memberTokens members ++ [.closeBrace]

def itemTokens : List Value → List Token
  | [] => []
  | [v] => tokens v
  | v :: w :: rest => tokens v ++ .comma :: itemTokens (w :: rest)

def memberTokens : List (Option String × Value) → List Token
  | [] => []
  | [(k, v)] => k.elim .unpaired .string :: .colon :: tokens v
  | (k, v) :: m :: rest =>
    k.elim .unpaired .string :: .colon :: tokens v ++ .comma :: memberTokens (m :: rest)

end

/-- The compact form: no spaces, members in order. -/
def render (v : Value) : String :=
  String.ofList (v.tokens.flatMap Token.render)

end Value
end Missive.Json

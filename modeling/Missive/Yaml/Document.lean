import Missive.Yaml.Node

/-! YAML documents: a root node, and the nodes that aliases stand for. -/

namespace Missive.Yaml

structure Document where
  root : Node
  anchored : List Node.Anchored

namespace Document

/-- The tag handles that need no directive. -/
def standardHandles : List (String × Tag) := [("!", Tag.nonSpecific), ("!!", Tag.coreStart)]

/-- Takes the directives in front of a document: at most one version, which is 1.1 or 1.2, and each
tag handle at most once. -/
def directives? (version : Bool) (handles : List (String × Tag)) :
    List Token → Option (List (String × Tag) × List Token)
  | .versionDirective major minor :: rest =>
    if version || major ≠ 1 || (minor ≠ 1 && minor ≠ 2) then none
    else directives? true handles rest
  | .tagDirective handle start :: rest =>
    if handles.any (·.1 = handle) then none
    else directives? version (handles ++ [(handle, start)]) rest
  | rest => some (handles ++ standardHandles, rest)

def isDocumentBound : Token → Bool
  | .versionDirective .. | .tagDirective .. | .documentStart | .documentEnd => true
  | _ => false

/-- Reads the root; each token counts for at most three rounds of the reader. -/
def readRoot? (handles : List (String × Tag)) (ts : List Token) :
    Option (Node × Node.Progress) :=
  (Node.read (3 * ts.length + 3) true false).run { tokens := ts, handles }

/-- The document of the tokens, where there is exactly one. -/
def ofTokens? (ts : List Token) : Option Document := do
  let (handles, body) ← directives? false [] ts
  guard (!body.isEmpty)
  let explicit := body.head? == some .documentStart
  guard (explicit || body.length = ts.length)
  let body := if explicit then body.tail else body
  if explicit && body.head?.all isDocumentBound then
    guard (body.all (· == .documentEnd))
    return { root := .absent, anchored := [] }
  let (root, after) ← readRoot? handles body
  guard (after.tokens.all (· == .documentEnd))
  return { root, anchored := after.anchored }

/-- The document of a text. -/
def parse? (text : String) : Option Document := do
  ofTokens? (← tokens? text)

/-- The node that an alias stands for: of those with its number, the one that begins last. -/
def anchoredNode (d : Document) (id : Nat) : Node :=
  let candidates := d.anchored.filter (·.id = id)
  match candidates.find? fun a => candidates.all (a.ahead ≤ ·.ahead) with
  | some a => a.node
  | none => .absent

end Document
end Missive.Yaml

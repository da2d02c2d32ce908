import Missive.Template

/-! Merging lists from two sources by an identity key: of the elements with one key the first stays,
and the first source comes first. -/

namespace Missive

section

variable {α κ : Type} [DecidableEq κ]

/-- Adds an element unless one with its key is there. -/
def keepFirst (key : α → κ) (kept : List α) (x : α) : List α :=
  if kept.any (key · = key x) then kept else kept ++ [x]

/-- The elements of `primary` and then `secondary`, the first of each key. -/
def merge (key : α → κ) (primary secondary : List α) : List α :=
  (primary ++ secondary).foldl (keepFirst key) []

end

/-- Display names of one scenario count as the same name. -/
def mergeNames (primary secondary : List String) : List String :=
  merge Identifier.ScenarioName.key primary secondary

/-- What two templates for the same use have in common: scenario key, channel and locale. -/
def Template.mergeKey (t : Template) : String × Channel × String :=
  (t.scenarioKey, t.channel, Identifier.LocaleTag.normalize t.locale)

def mergeTemplates (primary secondary : List Template) : List Template :=
  merge Template.mergeKey primary secondary

end Missive

import Missive.Identifier.Error
import Missive.Text.Blank
import Missive.Text.LowerCase
import Missive.Text.Pattern

/-! Scenario names. A name is kept as it is typed, apart from white space around it; two names are
the same scenario when they agree after dropping all white space and case (`ScenarioName.key`). -/

namespace Missive.Identifier.ScenarioName

open Missive.Text

def maxLength : Nat := 255

/-- What may follow the first letter or digit of a name. -/
def isNameChar (c : Char) : Bool :=
  c.isAlphanum || c == ' ' || c == '_' || c == '.' || c == '-'

/-- A letter or digit, then letters, digits, spaces and `_`, `.`, `-`. -/
def pattern : Pattern :=
  .seq (.one Char.isAlphanum) (.star (.one isNameChar))

/-- Accepts a name; white space around it does not count. -/
def check (name : String) : Except Error Unit :=
  let trimmed := strip name
  if trimmed = "" then .error (.blank .scenario)
  else if maxLength < trimmed.length then .error (.scenarioTooLong maxLength trimmed.length)
  else if pattern.accepts trimmed.toList then .ok ()
  else .error (.scenarioCharacters trimmed)

/-- The name without white space and in lower case, letter by letter. -/
def key (name : String) : String :=
  String.ofList (lowerEach (name.toList.filter (!isBlank ·)))

theorem check_strip (name : String) : check (strip name) = check name := by
  simp [check, strip_idem]

end Missive.Identifier.ScenarioName

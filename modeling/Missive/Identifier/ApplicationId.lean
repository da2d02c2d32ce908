import Missive.Identifier.Error
import Missive.Text.Blank
import Missive.Text.Pattern

/-! Application identifiers. They are taken as they are: white space around one is a fault. -/

namespace Missive.Identifier

open Missive.Text

namespace ApplicationId

def isIdChar (c : Char) : Bool :=
  c.isAlphanum || c == '_' || c == '-'

/-- A letter or digit, then at most 127 letters, digits, `_` and `-`. -/
def pattern : Pattern :=
  .seq (.one Char.isAlphanum) (.upTo 127 (.one isIdChar))

def check (id : String) : Except Error Unit :=
  if onlyBlank id then .error (.blank .application)
  else if pattern.accepts id.toList then .ok ()
  else .error (.malformedApplication id)

end ApplicationId

/-- An accepted application identifier. -/
structure ApplicationId where
  text : String
  accepted : ApplicationId.check text = .ok ()
  deriving DecidableEq

def ApplicationId.parse (text : String) : Except Error ApplicationId :=
  match h : check text with
  | .ok () => .ok ⟨text, h⟩
  | .error e => .error e

end Missive.Identifier

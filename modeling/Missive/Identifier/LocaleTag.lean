import Missive.Identifier.Error
import Missive.Text.Blank
import Missive.Text.LowerCase
import Missive.Text.Pattern

/-! Locale tags such as `en_US`, `fr` or `zh-Hant-TW`, and their canonical form in lower case with
hyphens. -/

namespace Missive.Identifier.LocaleTag

open Missive.Text

def isSeparator (c : Char) : Bool := c == '-' || c == '_'

/-- Two or three letters, then groups of a separator and two to eight letters or digits. -/
def pattern : Pattern :=
  .seq (.between 2 1 (.one Char.isAlpha))
    (.star (.seq (.one isSeparator) (.between 2 6 (.one Char.isAlphanum))))

/-- Accepts a tag; white space around it does not count. -/
def check (tag : String) : Except Error Unit :=
  let trimmed := strip tag
  if trimmed = "" then .error (.blank .locale)
  else if pattern.accepts trimmed.toList then .ok ()
  else .error (.malformedLocale trimmed)

def hyphenate (c : Char) : Char := if c = '_' then '-' else c

/-- Cut free of white space around it, in lower case, with hyphens for underscores. -/
def normalize (tag : String) : String :=
  String.ofList ((lowerChars (stripChars tag.toList)).map hyphenate)

end Missive.Identifier.LocaleTag

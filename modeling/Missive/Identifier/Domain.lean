import Missive.Identifier.Error
import Missive.Text.Blank
import Missive.Text.LowerCase
import Missive.Text.Pattern

/-! Tenant domains: labels joined by dots. Letters count without regard to case, so the long s
(U+017F, a form of `s`) and the kelvin sign (U+212A, a form of `k`) are letters too. -/

namespace Missive.Identifier.Domain

open Missive.Text

/-- The greatest length of a domain in bytes of UTF-8. -/
def maxBytes : Nat := 253

def isLabelEnd (c : Char) : Bool :=
  c.isAlphanum || c == '\u017F' || c == '\u212A'

def isLabelChar (c : Char) : Bool :=
  isLabelEnd c || c == '-'

/-- Letters, digits and hyphens, with no hyphen at either end. -/
def label : Pattern :=
  .seq (.one isLabelEnd) (.optional (.seq (.star (.one isLabelChar)) (.one isLabelEnd)))

def pattern : Pattern :=
  .seq label (.star (.seq (.one (· == '.')) label))

/-- Accepts a domain; white space around it does not count. -/
def check (domain : String) : Except Error Unit :=
  let trimmed := strip domain
  if trimmed = "" then .error (.blank .tenant)
  else if maxBytes < trimmed.utf8ByteSize then
    .error (.domainTooLong maxBytes trimmed.utf8ByteSize)
  else if pattern.accepts trimmed.toList then .ok ()
  else .error (.malformedDomain trimmed)

/-- The form in which domains are compared. -/
def normalize (domain : String) : String :=
  lower (strip domain)

end Missive.Identifier.Domain

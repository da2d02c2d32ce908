/-! Why an identifier is refused, and the words for it. -/

namespace Missive.Identifier

/-- The inputs that hold an identifier. -/
inductive Field where
  | scenario | locale | application | tenant
  deriving DecidableEq, Repr

def Field.name : Field → String
  | .scenario => "scenario"
  | .locale => "locale"
  | .application => "application"
  | .tenant => "tenant"

inductive Error where
  /-- Nothing but white space. -/
  | blank (field : Field)
  | scenarioTooLong (limit length : Nat)
  | scenarioCharacters (name : String)
  | malformedLocale (tag : String)
  | malformedApplication (id : String)
  | domainTooLong (limit bytes : Nat)
  | malformedDomain (domain : String)
  deriving DecidableEq, Repr

namespace Error

def message : Error → String
  | blank field => s!"{field.name} must not be blank"
  | scenarioTooLong limit n => s!"invalid scenario name: length must be <= {limit}, got {n}"
  | scenarioCharacters name =>
    s!"invalid scenario name: contains disallowed characters: {name}"
  | malformedLocale tag => s!"invalid locale: {tag}"
  | malformedApplication id => s!"invalid application id: {id}"
  | domainTooLong limit n => s!"invalid tenant domain: length must be <= {limit}, got {n}"
  | malformedDomain domain => s!"invalid tenant domain: {domain}"

/-- A stable code for programs. -/
def code : Error → String
  | blank _ => "BLANK_FIELD"
  | scenarioTooLong .. | scenarioCharacters _ => "INVALID_SCENARIO_NAME"
  | malformedLocale _ => "INVALID_LOCALE"
  | malformedApplication _ => "INVALID_APPLICATION_ID"
  | domainTooLong .. | malformedDomain _ => "INVALID_TENANT_DOMAIN"

/-- The input that is at fault. -/
def field : Error → Field
  | blank field => field
  | scenarioTooLong .. | scenarioCharacters _ => .scenario
  | malformedLocale _ => .locale
  | malformedApplication _ => .application
  | domainTooLong .. | malformedDomain _ => .tenant

end Error
end Missive.Identifier

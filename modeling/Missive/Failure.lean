import Missive.Channel
import Missive.Identifier.Error
import Missive.Store.Error
import Missive.Tenant

/-! Why a call on templates fails, the words for it, and the classes by which callers react. -/

namespace Missive

/-- An input that is refused: which one, and why. -/
structure InputFault where
  field : String
  reason : String
  deriving DecidableEq, Repr

namespace InputFault

def ofIdentifier (e : Identifier.Error) : InputFault := ⟨e.field.name, e.message⟩

def ofChannel (e : Channel.Unsupported) : InputFault :=
  ⟨"channel", s!"unsupported channel: {e.text}"⟩

def blankBody : InputFault := ⟨"body", "must not be blank"⟩

def blankSubject : InputFault := ⟨"subject", "must not be blank for EMAIL templates"⟩

def notForSms (field : String) : InputFault := ⟨field, "is not supported for SMS templates"⟩

def notInDefaultLocale (scenario : String) (channel : Channel) (default got : String) :
    InputFault :=
  ⟨"locale", s!"default template '{scenario}' ({channel}) must use the default locale " ++
    s!"'{default}', got '{got}'"⟩

def duplicateDefault (scenario : String) (channel : Channel) : InputFault :=
  ⟨"scenario", s!"duplicate default template for '{scenario}' ({channel})"⟩

end InputFault

inductive Failure where
  | invalidInput (fault : InputFault)
  | scenarioAlreadyExists (scenario : String) (channel : Channel) (tenant : TenantId)
  | scenarioNotFound (scenario : String) (channel : Channel) (tenant : TenantId)
  | templateNotFound (scenario locale : String) (channel : Channel) (tenant : TenantId)
    (application : Option String)
  /-- A template was found, but its body is blank. -/
  | emptyContent (scenario locale : String) (channel : Channel) (tier : String)
  | storeFailed (context : String) (source : Store.Error)
  | unresolvedTenant (domain : String) (source : Tenant.Error)
  deriving DecidableEq

namespace Failure

/-- How callers are to react. -/
inductive Kind where
  /-- The input is at fault; trying again does not help. -/
  | client
  /-- Nothing is there in any tier. -/
  | notFound
  /-- What was found has no content. -/
  | content
  /-- A store or the tenant directory failed. -/
  | server
  deriving DecidableEq, Repr

def ofIdentifier (e : Identifier.Error) : Failure := .invalidInput (.ofIdentifier e)

def kind : Failure → Kind
  | invalidInput _ | scenarioAlreadyExists .. => .client
  | scenarioNotFound .. | templateNotFound .. => .notFound
  | emptyContent .. => .content
  | storeFailed .. | unresolvedTenant .. => .server

/-- A stable code for programs. -/
def code : Failure → String
  | invalidInput _ => "SYS_NOTIFTMPL_VALIDATION_FAILED"
  | scenarioAlreadyExists .. => "SYS_NOTIFTMPL_SCENARIO_ALREADY_EXISTS"
  | scenarioNotFound .. => "SYS_NOTIFTMPL_SCENARIO_NOT_FOUND"
  | templateNotFound .. => "SYS_NOTIFTMPL_TEMPLATE_NOT_FOUND"
  | emptyContent .. => "SYS_NOTIFTMPL_EMPTY_CONTENT"
  | storeFailed .. => "SYS_NOTIFTMPL_STORE_ERROR"
  | unresolvedTenant .. => "SYS_NOTIFTMPL_TENANT_RESOLUTION_FAILED"

/-- Whether the caller's own data is to blame, empty content included. -/
def isClientClass (f : Failure) : Bool :=
  match f.kind with
  | .client | .content => true
  | .notFound | .server => false

/-- The words of the failure underneath, if there is one. -/
def sourceMessage : Failure → Option String
  | storeFailed _ source => some source.message
  | unresolvedTenant _ source => some source.message
  | _ => none

def message : Failure → String
  | invalidInput fault => s!"invalid {fault.field}: {fault.reason}"
  | scenarioAlreadyExists scenario channel tenant =>
    s!"scenario '{scenario}' already exists for channel {channel} in tenant {tenant}"
  | scenarioNotFound scenario channel tenant =>
    s!"scenario '{scenario}' not found for channel {channel} in tenant {tenant}"
  | templateNotFound scenario locale channel tenant application =>
    let suffix := application.elim "" (", application " ++ ·)
    s!"no {channel} template found for scenario '{scenario}' in locale '{locale}' " ++
      s!"(tenant {tenant}{suffix})"
  | emptyContent scenario locale channel tier =>
    s!"{channel} template for scenario '{scenario}' in locale '{locale}' has an empty body " ++
      s!"({tier} tier)"
  | storeFailed context source => s!"{context}: {source.message}"
  | unresolvedTenant domain source => s!"tenant resolution failed for '{domain}': {source.message}"

end Failure
end Missive

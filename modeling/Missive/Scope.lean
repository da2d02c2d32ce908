import Missive.Identifier.ApplicationId
import Missive.Tenant

/-! Scopes: whom a template belongs to. -/

namespace Missive

open Missive.Identifier

/-- A tenant's organization, or one of its applications. The application's identifier has been
checked; a scope with any other text cannot be written down. -/
structure Scope where
  tenant : TenantId
  application : Option ApplicationId := none
  deriving DecidableEq

namespace Scope

def organization (tenant : TenantId) : Scope := { tenant }

/-- Without an application identifier the scope is the organization. -/
def parse (tenant : TenantId) : Option String → Except Identifier.Error Scope
  | none => .ok (organization tenant)
  | some text => (ApplicationId.parse text).map fun id => { tenant, application := some id }

def applicationText (s : Scope) : Option String := s.application.map ApplicationId.text

def describe (s : Scope) : String :=
  match s.application with
  | some id => s!"tenant {s.tenant} / application {id.text}"
  | none => s!"tenant {s.tenant}"

instance : ToString Scope := ⟨describe⟩

end Scope
end Missive

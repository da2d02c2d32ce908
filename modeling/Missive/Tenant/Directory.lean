import Missive.Cache
import Missive.Dictionary
import Missive.Identifier.Domain
import Missive.Tenant

/-! From tenant domains to tenant numbers: the directory, and a lookup in front of it that remembers
what it has found. -/

namespace Missive.Tenant

open Missive.Identifier

/-- The tenants by domain, in the form in which domains are compared. -/
structure Directory where
  tenants : Dictionary String Tenant := ∅

namespace Directory

/-- Adds a tenant, in place of one with the same domain. -/
def add (d : Directory) (t : Tenant) : Directory :=
  ⟨d.tenants.put (Domain.normalize t.domain) t⟩

def ofList (ts : List Tenant) : Directory := ts.foldl add {}

/-- The number of the active tenant with a domain. Errors repeat the domain as it was given. -/
def resolve (d : Directory) (domain : String) : Except Error TenantId := do
  (Domain.check domain).mapError fun e => .invalidDomain e.message
  match d.tenants.get? (Domain.normalize domain) with
  | none => throw (.notFound domain)
  | some t =>
    match t.status with
    | .active => return t.id
    | .suspended | .deleted => throw (.suspended domain)

end Directory

/-- A directory with a memory for what was found; failures are not remembered. -/
structure Lookup where
  directory : Directory
  retention : Retention
  known : Dictionary String TenantId := ∅

namespace Lookup

/-- A directory that is asked anew each time. -/
def direct (directory : Directory) : Lookup := { directory, retention := .none }

def remember (l : Lookup) (domain : String) (id : TenantId) : Lookup :=
  if l.retention.keepsEntries then { l with known := l.known.put domain id } else l

def resolve (l : Lookup) (domain : String) : Except Error TenantId × Lookup :=
  let form := Domain.normalize domain
  match l.known.get? form with
  | some id => (.ok id, l)
  | none =>
    match l.directory.resolve domain with
    | .ok id => (.ok id, l.remember form id)
    | .error e => (.error e, l)

/-- Forgets a domain. -/
def invalidate (l : Lookup) (domain : String) : Lookup :=
  { l with known := l.known.erase (Domain.normalize domain) }

/-- Adds a tenant to the directory; what is remembered stays. -/
def add (l : Lookup) (t : Tenant) : Lookup := { l with directory := l.directory.add t }

end Lookup
end Missive.Tenant

import Missive.Cache
import Missive.Durable
import Missive.Tenant.Directory

/-! What the operations of the service ask of their surroundings, and the state of the surroundings
in which they are answered. -/

namespace Missive.Service

inductive Request where
  /-- The tenant of a domain. -/
  | tenant (domain : String)
  | store (call : Store.Call)
  | cache (query : Caches.Query)
  deriving DecidableEq

@[reducible] def Request.Answer : Request → Type
  | tenant _ => Except Tenant.Error TenantId
  | store call => call.Answer
  | cache query => query.Reply

/-- A program over all that the service can ask for. -/
abbrev ServiceProgram := Program Request Request.Answer Failure

/-- A program over store calls, as part of an operation. -/
def storing {α : Type} (p : StoreProgram α) : ServiceProgram α :=
  p.embed .store fun _ => id

def caching (query : Caches.Query) : ServiceProgram query.Reply :=
  .perform (.cache query) fun r => .done (.ok r)

def resolveTenant (domain : String) : ServiceProgram TenantId :=
  .perform (.tenant domain) fun answer => .done (answer.mapError (.unresolvedTenant domain))

/-- Store, caches and tenant lookup together. -/
structure State (S : Type) where
  store : S
  caches : Caches
  tenants : Tenant.Lookup

/-- Answers requests with a store of a given kind. -/
def answer {S : Type} (backend : Store.Backend S) :
    Program.Handler Request Request.Answer (State S)
  | .tenant domain, s =>
    let (r, tenants) := s.tenants.resolve domain
    (r, { s with tenants })
  | .store call, s =>
    let (r, store) := backend call s.store
    (r, { s with store })
  | .cache query, s =>
    let (r, caches) := Caches.answer query s.caches
    (r, { s with caches })

end Missive.Service

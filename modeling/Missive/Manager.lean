import Missive.Catalog.BuiltIn
import Missive.Config
import Missive.Service
import Missive.Store.Tree

/-! Putting a service together from a configuration and a tenant directory. -/

namespace Missive

namespace Manager

/-- Why a service cannot be put together. -/
inductive StartupFailure where
  /-- A configured default locale is malformed. -/
  | locales (cause : Failure)
  /-- The built-in templates do not suit the configured default locales. -/
  | defaults (cause : Catalog.BuiltInFailure)

namespace StartupFailure

def cause : StartupFailure → Failure
  | locales cause => cause
  | defaults e => e.cause

def message : StartupFailure → String
  | locales cause => s!"invalid default locale configuration: {cause.message}"
  | defaults e => s!"failed to load built-in default templates: {e.message}"

end StartupFailure

end Manager

/-- A service with the state it starts from. -/
structure Manager where
  service : Service
  state : Service.State Store.AnyStore

namespace Manager

def emptyStore : StoreKind → Store.AnyStore
  | .table => .tables .empty
  | .resourceTree => .forest ∅

/-- A service over an empty store of the configured kind, the built-in defaults, and the tenants of
the directory. -/
def build (config : Config) (directory : Tenant.Directory) : Except StartupFailure Manager := do
  let locales ← (DefaultLocales.parse config.locale.emailDefault config.locale.smsDefault).mapError
    fun e => .locales (.ofIdentifier e)
  let defaults ← (Catalog.builtIn locales).mapError .defaults
  return {
    service := { layers := { defaults, locales }, caches := config.cache.enabled }
    state := {
      store := emptyStore config.store
      caches := { retention := ⟨config.cache.maxCapacity, config.cache.ttlSeconds⟩ }
      tenants := {
        directory
        retention := ⟨config.tenant.cacheMaxCapacity, config.tenant.cacheTtlSeconds⟩ } } }

/-- Does one operation, and gives its outcome and the manager as it is then. -/
def perform (m : Manager) (o : Service.Operation) : Except Failure o.Reply × Manager :=
  let (outcome, state) :=
    (m.service.program o).run (Service.answer Store.AnyStore.backend) m.state
  (outcome, { m with state })

end Manager
end Missive

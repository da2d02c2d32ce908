import Missive.Layers
import Missive.Service.Request

/-! The service: twelve operations on the templates of a tenant, named by its domain. Identifiers
are checked first, then the tenant is looked up, and only then the store is asked. An operation that
has changed the store drops the cached results that may show the change. -/

namespace Missive

open Service Identifier

structure Service where
  layers : Layers
  /-- Whether results are cached. -/
  caches : Bool

namespace Service

/-- What callers can ask of the service; identifiers come as text. -/
inductive Operation where
  | resolve (scenario locale : String) (channel : Channel) (domain : String)
    (application : Option String)
  | templateExists (scenario locale : String) (channel : Channel) (domain : String)
    (application : Option String)
  | scenarioExists (scenario : String) (channel : Channel) (domain : String)
  | listTemplates (scenario : String) (channel : Channel) (domain : String)
    (application : Option String)
  | listAllTemplates (channel : Channel) (domain : String)
  | listScenarios (channel : Channel) (domain : String)
  | addScenario (scenario : String) (channel : Channel) (domain : String)
  | upsert (template : Template) (domain : String) (application : Option String)
  | deleteTemplate (scenario locale : String) (channel : Channel) (domain : String)
    (application : Option String)
  | deleteTemplates (scenario : String) (channel : Channel) (domain : String)
    (application : Option String)
  | deleteScenario (scenario : String) (channel : Channel) (domain : String)
  | addDefaultTemplates (channel : Channel) (domain : String)
  deriving DecidableEq

@[reducible] def Operation.Reply : Operation → Type
  | resolve .. => Template
  | templateExists .. => Bool
  | scenarioExists .. => Bool
  | listTemplates .. => List Template
  | listAllTemplates .. => List Template
  | listScenarios .. => List String
  | addScenario .. => Unit
  | upsert .. => Unit
  | deleteTemplate .. => Bool
  | deleteTemplates .. => Nat
  | deleteScenario .. => Bool
  | addDefaultTemplates .. => Nat

/-- An identifier that is checked before anything is asked for. -/
def checked {α : Type} (parsed : Except Identifier.Error α) : ServiceProgram α :=
  .done (parsed.mapError .ofIdentifier)

def parseApplication : Option String → Except Identifier.Error (Option ApplicationId)
  | none => .ok none
  | some text => (ApplicationId.parse text).map some

/-- Checks the application and looks the tenant up. The scope of both checks the application once
more. -/
def scopeIn (domain : String) (application : Option String) : ServiceProgram Scope := do
  discard (checked (parseApplication application))
  let tenant ← resolveTenant domain
  checked (Scope.parse tenant application)

/-- Checks scenario, locale and application, and looks the tenant up. -/
def request (scenario locale : String) (channel : Channel) (domain : String)
    (application : Option String) : ServiceProgram ResolveRequest := do
  let scenario ← checked (Scenario.parse scenario)
  let locale ← checked (Locale.parse locale)
  let scope ← scopeIn domain application
  return { scenario, locale, channel, scope }

/-- A scope is a tenant with an application that has been checked. -/
theorem scope_parse_eq (tenant : TenantId) (application : Option String) :
    Scope.parse tenant application =
      (parseApplication application).map fun app => { tenant, application := app } := by
  cases application with
  | none => rfl
  | some text =>
    rw [Scope.parse, parseApplication]
    cases ApplicationId.parse text <;> rfl

/-- An application that has been accepted once is accepted again. -/
theorem scopeIn_bind {α : Type} (domain : String) (application : Option String)
    (f : Scope → ServiceProgram α) :
    scopeIn domain application >>= f =
      checked (parseApplication application) >>= fun app =>
        resolveTenant domain >>= fun tenant => f { tenant, application := app } := by
  rw [scopeIn]
  simp only [scope_parse_eq]
  cases parseApplication application with
  | error e => rfl
  | ok app =>
    refine congrArg (Program.perform _) (funext fun answer => ?_)
    cases answer <;> rfl

variable (service : Service)

/-- Drops cached results, if there are any. -/
def invalidate (tenant : TenantId) (op : Cache.Op) : ServiceProgram Unit := do
  if service.caches then
    discard (caching (.once tenant op))

/-- The tenant's cache is looked up once; what comes of looking the template up goes to the cache
that was asked for it. -/
def resolve (scenario locale : String) (channel : Channel) (domain : String)
    (application : Option String) : ServiceProgram Template := do
  let r ← request scenario locale channel domain application
  if !service.caches then
    return (← storing (service.layers.resolve r)).template
  let handle : Handle ← caching (.hold r.scope.tenant)
  let slot : Slot := { key := r.key, locale := r.locale }
  match (← caching (.held handle (.get slot)) : Option Template) with
  | some template => return template
  | none =>
    let ticket : Cache.Ticket ← caching (.held handle .ticket)
    let resolved ← storing (service.layers.resolve r)
    discard (caching (.held handle (.fill ticket slot resolved.template)))
    return resolved.template

def templateExists (scenario locale : String) (channel : Channel) (domain : String)
    (application : Option String) : ServiceProgram Bool := do
  let r ← request scenario locale channel domain application
  storing (service.layers.templateExists r)

def scenarioExists (scenario : String) (channel : Channel) (domain : String) :
    ServiceProgram Bool := do
  let scenario ← checked (Scenario.parse scenario)
  let tenant ← resolveTenant domain
  storing (service.layers.scenarioExists scenario channel tenant)

def listTemplates (scenario : String) (channel : Channel) (domain : String)
    (application : Option String) : ServiceProgram (List Template) := do
  let scenario ← checked (Scenario.parse scenario)
  let scope ← scopeIn domain application
  storing (service.layers.listByScenario scenario channel scope)

def listAllTemplates (channel : Channel) (domain : String) : ServiceProgram (List Template) := do
  let tenant ← resolveTenant domain
  storing (service.layers.listAll channel tenant)

def listScenarios (channel : Channel) (domain : String) : ServiceProgram (List String) := do
  let tenant ← resolveTenant domain
  storing (service.layers.listScenarios channel tenant)

def addScenario (scenario : String) (channel : Channel) (domain : String) :
    ServiceProgram Unit := do
  let scenario ← checked (Scenario.parse scenario)
  let tenant ← resolveTenant domain
  storing (Durable.addScenario scenario channel tenant)

/-- Registers the scenario of a template and writes the template. -/
def registerAndWrite (scenario : Scenario) (template : Template) (scope : Scope) :
    StoreProgram Unit := do
  discard (Durable.ensureScenario scenario template.channel scope.tenant)
  Durable.upsert template scope

/-- Stores a template, registering its scenario first. A scenario that is removed in between is
registered once more. -/
def upsert (template : Template) (domain : String) (application : Option String) :
    ServiceProgram Unit := do
  Program.done template.validateForWrite
  let scenario ← checked (Scenario.parse template.scenario)
  let scope ← scopeIn domain application
  discard (storing (Durable.ensureScenario scenario template.channel scope.tenant))
  match ← (storing (Durable.upsert template scope)).attempt with
  | .ok () => pure ()
  | .error (.scenarioNotFound ..) => storing (registerAndWrite scenario template scope)
  | .error e => throw e
  service.invalidate scope.tenant
    (.invalidate (.of scenario template.channel scope.applicationText))

def deleteTemplate (scenario locale : String) (channel : Channel) (domain : String)
    (application : Option String) : ServiceProgram Bool := do
  let r ← request scenario locale channel domain application
  let deleted ← storing (Durable.delete r.position)
  if deleted then service.invalidate r.scope.tenant (.invalidate r.key)
  return deleted

def deleteTemplates (scenario : String) (channel : Channel) (domain : String)
    (application : Option String) : ServiceProgram Nat := do
  let scenario ← checked (Scenario.parse scenario)
  let scope ← scopeIn domain application
  let count ← storing (Durable.deleteAll scenario channel scope)
  service.invalidate scope.tenant (.invalidate (.of scenario channel scope.applicationText))
  return count

def deleteScenario (scenario : String) (channel : Channel) (domain : String) :
    ServiceProgram Bool := do
  let scenario ← checked (Scenario.parse scenario)
  let tenant ← resolveTenant domain
  let removed ← storing (Durable.removeScenario scenario channel tenant)
  if removed then service.invalidate tenant (.invalidateScenario scenario.key channel)
  return removed

/-- Stores one default in the organization unless its place is taken; tells whether it did. -/
def addDefault (tenant : TenantId) (template : Template) : ServiceProgram Bool := do
  let scenario ← checked (Scenario.parse template.scenario)
  let locale ← checked (Locale.parse template.locale)
  let channel := template.channel
  let scope := Scope.organization tenant
  if ← storing (Durable.isStored { scenario, locale, channel, scope }) then return false
  storing (registerAndWrite scenario template scope)
  service.invalidate tenant (.invalidate (.of scenario channel none))
  return true

/-- Stores several defaults, and counts on from `added`. -/
def addDefaults (tenant : TenantId) (added : Nat) : List Template → ServiceProgram Nat
  | [] => return added
  | template :: rest => do
    let isNew ← service.addDefault tenant template
    addDefaults tenant (if isNew then added + 1 else added) rest

/-- Copies a channel's defaults to a tenant's store; nothing that is there is overwritten. -/
def addDefaultTemplates (channel : Channel) (domain : String) : ServiceProgram Nat := do
  let tenant ← resolveTenant domain
  service.addDefaults tenant 0 (service.layers.defaults.forChannel channel)

/-- The program of an operation. -/
def program : (o : Operation) → ServiceProgram o.Reply
  | .resolve scenario locale channel domain application =>
    service.resolve scenario locale channel domain application
  | .templateExists scenario locale channel domain application =>
    service.templateExists scenario locale channel domain application
  | .scenarioExists scenario channel domain => service.scenarioExists scenario channel domain
  | .listTemplates scenario channel domain application =>
    service.listTemplates scenario channel domain application
  | .listAllTemplates channel domain => service.listAllTemplates channel domain
  | .listScenarios channel domain => service.listScenarios channel domain
  | .addScenario scenario channel domain => Service.addScenario scenario channel domain
  | .upsert template domain application => service.upsert template domain application
  | .deleteTemplate scenario locale channel domain application =>
    service.deleteTemplate scenario locale channel domain application
  | .deleteTemplates scenario channel domain application =>
    service.deleteTemplates scenario channel domain application
  | .deleteScenario scenario channel domain => service.deleteScenario scenario channel domain
  | .addDefaultTemplates channel domain => service.addDefaultTemplates channel domain

end Service
end Missive

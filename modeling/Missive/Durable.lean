import Missive.Store.Call

/-! Requests for templates, and what is asked of the store alone: looking a record up, registering
scenarios, writing and deleting. The operations are programs over store calls; every failed call is
reported with the purpose it was made for. -/

namespace Missive

/-- A checked request for a template. -/
structure ResolveRequest where
  scenario : Scenario
  locale : Locale
  channel : Channel
  scope : Scope
  deriving DecidableEq

namespace ResolveRequest

/-- Checks scenario, locale and application, in this order. -/
def parse (scenario locale : String) (channel : Channel) (tenant : TenantId)
    (application : Option String) : Except Identifier.Error ResolveRequest := do
  let scenario ← Scenario.parse scenario
  let locale ← Locale.parse locale
  let scope ← Scope.parse tenant application
  return { scenario, locale, channel, scope }

def key (r : ResolveRequest) : TemplateKey := .of r.scenario r.channel r.scope.applicationText

/-- The request's place in the store, in a locale of choice. -/
def positionIn (r : ResolveRequest) (locale : Locale) : Store.Position :=
  { scenario := r.scenario, locale, channel := r.channel, scope := r.scope }

def position (r : ResolveRequest) : Store.Position := r.positionIn r.locale

def notFound (r : ResolveRequest) : Failure :=
  .templateNotFound r.scenario.displayName r.locale.tag r.channel r.scope.tenant
    r.scope.applicationText

end ResolveRequest

/-- A program over store calls. -/
abbrev StoreProgram := Program Store.Call Store.Call.Answer Failure

namespace Durable

/-- A store call made for a purpose, which a failure of it tells. -/
def ask (purpose : String) (c : Store.Call) : StoreProgram c.Reply :=
  .perform c fun answer => .done (answer.mapError (.storeFailed purpose))

/-- Whether the store has a template in the very scope and locale. -/
def isStored (r : ResolveRequest) : StoreProgram Bool := do
  let found ← ask s!"checking template '{r.scenario}' in locale '{r.locale}' ({r.scope})"
    (.read r.position)
  return found.isSome

def isRegistered (s : Scenario) (channel : Channel) (tenant : TenantId) : StoreProgram Bool :=
  ask s!"checking scenario '{s}' ({channel}) in tenant {tenant}"
    (.isRegistered s channel tenant)

/-- Registers a scenario in the store, where it must be new. -/
def addScenario (s : Scenario) (channel : Channel) (tenant : TenantId) : StoreProgram Unit := do
  if ← isRegistered s channel tenant then
    throw (.scenarioAlreadyExists s.displayName channel tenant)
  ask s!"adding scenario '{s}' ({channel}) in tenant {tenant}" (.add s channel tenant)

/-- Registers a scenario unless it is registered; tells whether it did. -/
def ensureScenario (s : Scenario) (channel : Channel) (tenant : TenantId) :
    StoreProgram Bool := do
  match ← (addScenario s channel tenant).attempt with
  | .ok () => return true
  | .error (.scenarioAlreadyExists ..) => return false
  | .error e => throw e

/-- What a failed write means: a scenario that is not registered is one that is not found. -/
def writeFailure (t : Template) (scope : Scope) : Store.Error → Failure
  | .unknownScenario _ => .scenarioNotFound t.scenario t.channel scope.tenant
  | e => .storeFailed s!"writing template '{t.scenario}' in locale '{t.locale}' ({scope})" e

/-- Stores a template in its normalized form, after the checks of a write. -/
def upsert (t : Template) (scope : Scope) : StoreProgram Unit := do
  Program.done t.validateForWrite
  let t := t.normalized
  .perform (.write t scope) fun answer => .done (answer.mapError (writeFailure t scope))

/-- Removes one template from the store; tells whether there was one. -/
def delete (p : Store.Position) : StoreProgram Bool :=
  ask s!"deleting template '{p.scenario}' in locale '{p.locale}' ({p.scope})" (.delete p)

/-- Removes a scenario's templates of one scope from the store; tells how many there were. -/
def deleteAll (s : Scenario) (channel : Channel) (scope : Scope) : StoreProgram Nat := do
  if ← isRegistered s channel scope.tenant then
    ask s!"deleting templates of '{s}' ({channel}) in {scope}" (.deleteAll s channel scope)
  else return 0

/-- Removes a scenario with all its templates from the store; tells whether it was registered. -/
def removeScenario (s : Scenario) (channel : Channel) (tenant : TenantId) : StoreProgram Bool :=
  ask s!"removing scenario '{s}' ({channel}) in tenant {tenant}" (.remove s channel tenant)

end Durable
end Missive

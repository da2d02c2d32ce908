import Missive.Catalog
import Missive.Durable
import Missive.Fallback
import Missive.Merge

/-! The store with the catalog of defaults below it, offering what either could offer alone. What
the store has always comes first. -/

namespace Missive

/-- A template with the tier it was found in. -/
structure Resolved where
  template : Template
  tier : Tier
  deriving DecidableEq

/-- A catalog, and the default locales that go with it. -/
structure Layers where
  defaults : Catalog
  locales : DefaultLocales

namespace Layers

variable (layers : Layers)

/-- The template that one tier has for a request. -/
def lookup (r : ResolveRequest) : Tier → StoreProgram (Option Template)
  | .exact => readTier .exact r.locale
  | .defaultLocale => readTier .defaultLocale (layers.locales.forChannel r.channel)
  | .systemDefault => return layers.defaults.get? r.scenario r.channel
  | .unsatisfied => return none
where
  readTier (tier : Tier) (locale : Locale) : StoreProgram (Option Template) :=
    Durable.ask s!"reading {tier} tier for '{r.scenario}' in locale '{locale}' ({r.scope})"
      (.read (r.positionIn locale))

/-- Asks the tiers in turn; the first template found is the answer, and an error if it is blank. -/
def resolveIn (r : ResolveRequest) : List Tier → StoreProgram Resolved
  | [] => throw r.notFound
  | tier :: rest => do
    match ← layers.lookup r tier with
    | none => resolveIn r rest
    | some template =>
      if template.hasContent then
        return { template := template.withUtf8Charset, tier }
      else
        throw (.emptyContent r.scenario.displayName template.locale r.channel tier.name)

def requestedIsDefault (r : ResolveRequest) : Bool :=
  r.locale = layers.locales.forChannel r.channel

/-- The template for a request, from the first tier that has one. -/
def resolve (r : ResolveRequest) : StoreProgram Resolved :=
  layers.resolveIn r (Tier.plan (layers.requestedIsDefault r))

/-- Whether there is a template in the very locale, in the store or among the defaults. -/
def templateExists (r : ResolveRequest) : StoreProgram Bool := do
  if ← Durable.isStored r then return true
  return (layers.defaults.get? r.scenario r.channel).any (·.locale = r.locale.tag)

def scenarioExists (s : Scenario) (channel : Channel) (tenant : TenantId) :
    StoreProgram Bool := do
  if ← Durable.isRegistered s channel tenant then return true
  return layers.defaults.contains s channel

/-- Display names, registered ones before those of the defaults. -/
def listScenarios (channel : Channel) (tenant : TenantId) : StoreProgram (List String) := do
  let names ← Durable.ask s!"listing {channel} scenarios in tenant {tenant}"
    (.listScenarios channel tenant)
  return mergeNames names (layers.defaults.scenarioNames channel)

/-- A merged listing, completed for sending. -/
def finish (stored defaults : List Template) : List Template :=
  (mergeTemplates stored defaults).map Template.withUtf8Charset

/-- The templates of a scenario in all locales; the default counts in every scope. -/
def listByScenario (s : Scenario) (channel : Channel) (scope : Scope) :
    StoreProgram (List Template) := do
  let registered ← Durable.isRegistered s channel scope.tenant
  let default := layers.defaults.get? s channel
  if !registered && default.isNone then
    throw (.scenarioNotFound s.displayName channel scope.tenant)
  let stored ←
    if registered then
      Durable.ask s!"listing templates of '{s}' ({channel}) in {scope}" (.list s channel scope)
    else pure []
  return finish stored default.toList

/-- The organization's templates and the defaults. -/
def listAll (channel : Channel) (tenant : TenantId) : StoreProgram (List Template) := do
  let stored ← Durable.ask s!"listing {channel} templates in tenant {tenant}"
    (.listAll channel tenant)
  return finish stored (layers.defaults.forChannel channel)

end Layers
end Missive

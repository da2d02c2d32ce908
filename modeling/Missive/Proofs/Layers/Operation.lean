import Missive.Layers

/-! The operations of the layers as data, and their runs: any sequence of operations on a store,
each with its outcome. -/

namespace Missive.Layers

inductive Operation where
  | resolve (r : ResolveRequest)
  /-- Whether there is a template in the very locale, stored or among the defaults. -/
  | templateExists (r : ResolveRequest)
  | isStored (r : ResolveRequest)
  | scenarioExists (s : Scenario) (channel : Channel) (tenant : TenantId)
  | listScenarios (channel : Channel) (tenant : TenantId)
  | listByScenario (s : Scenario) (channel : Channel) (scope : Scope)
  | listAll (channel : Channel) (tenant : TenantId)
  /-- Registers a scenario, which must be new. -/
  | addScenario (s : Scenario) (channel : Channel) (tenant : TenantId)
  /-- Registers a scenario unless it is registered. -/
  | ensureScenario (s : Scenario) (channel : Channel) (tenant : TenantId)
  | upsert (template : Template) (scope : Scope)
  | delete (position : Store.Position)
  | deleteAll (s : Scenario) (channel : Channel) (scope : Scope)
  | removeScenario (s : Scenario) (channel : Channel) (tenant : TenantId)

namespace Operation

@[reducible] def Reply : Operation → Type
  | resolve _ => Resolved
  | templateExists _ => Bool
  | isStored _ => Bool
  | scenarioExists .. => Bool
  | listScenarios .. => List String
  | listByScenario .. => List Template
  | listAll .. => List Template
  | addScenario .. => Unit
  | ensureScenario .. => Bool
  | upsert .. => Unit
  | delete _ => Bool
  | deleteAll .. => Nat
  | removeScenario .. => Bool

end Operation

/-- The program of an operation. -/
def program (layers : Layers) : (o : Operation) → StoreProgram o.Reply
  | .resolve r => layers.resolve r
  | .templateExists r => layers.templateExists r
  | .isStored r => Durable.isStored r
  | .scenarioExists s channel tenant => layers.scenarioExists s channel tenant
  | .listScenarios channel tenant => layers.listScenarios channel tenant
  | .listByScenario s channel scope => layers.listByScenario s channel scope
  | .listAll channel tenant => layers.listAll channel tenant
  | .addScenario s channel tenant => Durable.addScenario s channel tenant
  | .ensureScenario s channel tenant => Durable.ensureScenario s channel tenant
  | .upsert template scope => Durable.upsert template scope
  | .delete position => Durable.delete position
  | .deleteAll s channel scope => Durable.deleteAll s channel scope
  | .removeScenario s channel tenant => Durable.removeScenario s channel tenant

/-- An operation with its outcome. -/
abbrev Event := (o : Operation) × Except Failure o.Reply

/-- The operations of a run with their outcomes. -/
def events {S : Type} (layers : Layers) (b : Store.Backend S) : List Operation → S → List Event
  | [], _ => []
  | o :: rest, s =>
    ⟨o, ((layers.program o).run b s).1⟩ :: events layers b rest ((layers.program o).run b s).2

end Missive.Layers

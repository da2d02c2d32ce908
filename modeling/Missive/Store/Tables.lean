import Missive.Dictionary
import Missive.Store.Call

/-! The relational store: a table of scenarios with generated numbers, and two tables of templates
that refer to the scenarios by number, one for organizations and one for applications. -/

namespace Missive.Store

/-- What a scenario is found by. -/
structure ScenarioRef where
  tenant : TenantId
  channel : Channel
  key : String
  deriving DecidableEq

def ScenarioRef.of (s : Scenario) (channel : Channel) (tenant : TenantId) : ScenarioRef :=
  { tenant, channel, key := s.key }

structure ScenarioRow where
  id : Nat
  displayName : String
  deriving DecidableEq

structure Tables where
  /-- The last number that was given to a scenario; numbers are never used again. It is taken for
  granted that fewer than 2^64 are given. -/
  lastId : Nat := 0
  scenarios : Dictionary ScenarioRef ScenarioRow := ∅
  /-- By scenario number and locale. -/
  organization : Dictionary (Nat × String) Template := ∅
  /-- By scenario number, application and locale. -/
  applications : Dictionary (Nat × String × String) Template := ∅

namespace Tables

def empty : Tables := {}

def row? (t : Tables) (s : Scenario) (channel : Channel) (tenant : TenantId) :
    Option ScenarioRow :=
  t.scenarios.get? (.of s channel tenant)

/-- The template in one locale of a scenario, in the organization or an application. -/
def template? (t : Tables) (id : Nat) (application : Option String) (locale : String) :
    Option Template :=
  match application with
  | none => t.organization.get? (id, locale)
  | some app => t.applications.get? (id, app, locale)

/-- The templates of a scenario in the organization or an application. -/
def templatesOf (t : Tables) (id : Nat) (application : Option String) : List Template :=
  match application with
  | none => (t.organization.retain fun k _ => k.1 = id).values
  | some app => (t.applications.retain fun k _ => k.1 = id ∧ k.2.1 = app).values

def putTemplate (t : Tables) (id : Nat) (application : Option String) (template : Template) :
    Tables :=
  match application with
  | none => { t with organization := t.organization.put (id, template.locale) template }
  | some app =>
    { t with applications := t.applications.put (id, app, template.locale) template }

def dropTemplate (t : Tables) (id : Nat) (application : Option String) (locale : String) :
    Tables :=
  match application with
  | none => { t with organization := t.organization.erase (id, locale) }
  | some app => { t with applications := t.applications.erase (id, app, locale) }

def dropTemplatesOf (t : Tables) (id : Nat) (application : Option String) : Tables :=
  match application with
  | none => { t with organization := t.organization.retain fun k _ => k.1 ≠ id }
  | some app =>
    { t with applications := t.applications.retain fun k _ => ¬(k.1 = id ∧ k.2.1 = app) }

/-- Registers a scenario under the next number. -/
def register (t : Tables) (ref : ScenarioRef) (displayName : String) : Tables :=
  { t with
    lastId := t.lastId + 1
    scenarios := t.scenarios.put ref ⟨t.lastId + 1, displayName⟩ }

/-- Removes a scenario's row and every template that refers to it. -/
def unregister (t : Tables) (ref : ScenarioRef) (id : Nat) : Tables :=
  { t with
    scenarios := t.scenarios.erase ref
    organization := t.organization.retain fun k _ => k.1 ≠ id
    applications := t.applications.retain fun k _ => k.1 ≠ id }

/-- The scenarios of one tenant and channel. -/
def rowsOf (t : Tables) (channel : Channel) (tenant : TenantId) : List ScenarioRow :=
  (t.scenarios.retain fun k _ => k.tenant = tenant ∧ k.channel = channel).values

/-- How the tables answer. A template is stored under the display name that its scenario is
registered with; its other fields are stored as they are. -/
def backend : Backend Tables
  | .read p, t =>
    (.ok ((t.row? p.scenario p.channel p.scope.tenant).bind fun row =>
      t.template? row.id p.scope.applicationText p.locale.tag), t)
  | .write template scope, t =>
    match t.scenarios.get? ⟨scope.tenant, template.channel, template.scenarioKey⟩ with
    | none => (.error (.unknownScenario template.scenario), t)
    | some row =>
      (.ok (), t.putTemplate row.id scope.applicationText
        { template with scenario := row.displayName })
  | .delete p, t =>
    match t.row? p.scenario p.channel p.scope.tenant with
    | none => (.ok false, t)
    | some row =>
      (.ok (t.template? row.id p.scope.applicationText p.locale.tag).isSome,
        t.dropTemplate row.id p.scope.applicationText p.locale.tag)
  | .list s channel scope, t =>
    match t.row? s channel scope.tenant with
    | none => (.ok [], t)
    | some row => (.ok (t.templatesOf row.id scope.applicationText), t)
  | .listAll channel tenant, t =>
    (.ok ((t.rowsOf channel tenant).flatMap fun row => t.templatesOf row.id none), t)
  | .deleteAll s channel scope, t =>
    match t.row? s channel scope.tenant with
    | none => (.ok 0, t)
    | some row =>
      (.ok (t.templatesOf row.id scope.applicationText).length,
        t.dropTemplatesOf row.id scope.applicationText)
  | .add s channel tenant, t =>
    let ref := ScenarioRef.of s channel tenant
    (.ok (), if t.scenarios.contains ref then t else t.register ref s.displayName)
  | .isRegistered s channel tenant, t => (.ok (t.row? s channel tenant).isSome, t)
  | .listScenarios channel tenant, t =>
    (.ok ((t.rowsOf channel tenant).map ScenarioRow.displayName), t)
  | .remove s channel tenant, t =>
    match t.row? s channel tenant with
    | none => (.ok false, t)
    | some row => (.ok true, t.unregister (.of s channel tenant) row.id)

end Tables
end Missive.Store

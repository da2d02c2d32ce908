import Missive.Locale
import Missive.Program
import Missive.Scenario
import Missive.Scope
import Missive.Template

/-! The calls that a template store answers. Reading in an application's scope sees the records of
that application only; nothing falls back to the organization here. -/

namespace Missive.Store

/-- The place of one template record. -/
structure Position where
  scenario : Scenario
  locale : Locale
  channel : Channel
  scope : Scope
  deriving DecidableEq

inductive Call where
  /-- The template at a position. -/
  | read (position : Position)
  /-- Stores a template, in place of one at the same position. The scenario has to be registered. -/
  | write (template : Template) (scope : Scope)
  /-- Removes the record at a position; tells whether there was one. -/
  | delete (position : Position)
  /-- The templates of a scenario in one scope. -/
  | list (scenario : Scenario) (channel : Channel) (scope : Scope)
  /-- The organization's templates, of all scenarios. -/
  | listAll (channel : Channel) (tenant : TenantId)
  /-- Removes the templates of a scenario in one scope; tells how many there were. -/
  | deleteAll (scenario : Scenario) (channel : Channel) (scope : Scope)
  /-- Registers a scenario; one that is registered stays as it is. -/
  | add (scenario : Scenario) (channel : Channel) (tenant : TenantId)
  | isRegistered (scenario : Scenario) (channel : Channel) (tenant : TenantId)
  /-- The display names of the registered scenarios. -/
  | listScenarios (channel : Channel) (tenant : TenantId)
  /-- Removes a scenario with its templates in every scope; tells whether it was registered. -/
  | remove (scenario : Scenario) (channel : Channel) (tenant : TenantId)
  deriving DecidableEq

namespace Call

/-- What a call gives when it succeeds. -/
@[reducible] def Reply : Call → Type
  | read _ => Option Template
  | write .. => Unit
  | delete _ => Bool
  | list .. => List Template
  | listAll .. => List Template
  | deleteAll .. => Nat
  | add .. => Unit
  | isRegistered .. => Bool
  | listScenarios .. => List String
  | remove .. => Bool

/-- What comes back from a call. -/
@[reducible] def Answer (c : Call) : Type := Except Error c.Reply

end Call

/-- A store as a machine: how it answers a call in a state. -/
abbrev Backend (S : Type) := Program.Handler Call Call.Answer S

end Missive.Store

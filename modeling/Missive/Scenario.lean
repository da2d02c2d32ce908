import Missive.Channel
import Missive.Identifier.ScenarioName

/-! Scenarios: what a notification is about. -/

namespace Missive

open Missive.Identifier

/-- An accepted scenario name, cut free of white space around it. -/
structure Scenario where
  displayName : String
  accepted : ScenarioName.check displayName = .ok ()
  trimmed : Text.strip displayName = displayName
  deriving DecidableEq

namespace Scenario

def parse (text : String) : Except Identifier.Error Scenario :=
  match h : ScenarioName.check text with
  | .ok () =>
    .ok ⟨Text.strip text, (ScenarioName.check_strip text).trans h, Text.strip_idem text⟩
  | .error e => .error e

/-- What stores, caches and catalogs know the scenario by. -/
def key (s : Scenario) : String := ScenarioName.key s.displayName

/-- Two names of one scenario. -/
def same (a b : Scenario) : Bool := a.key == b.key

instance : ToString Scenario := ⟨displayName⟩

end Scenario

/-- What the results of one scenario are cached under. The tenant is not part of the key: each has a
cache of its own. Nor is the locale. -/
structure TemplateKey where
  scenario : String
  channel : Channel
  application : Option String
  deriving DecidableEq

/-- The key of a scenario, given the text of the application if there is one. -/
def TemplateKey.of (s : Scenario) (channel : Channel) (application : Option String) :
    TemplateKey :=
  { scenario := s.key, channel, application }

end Missive

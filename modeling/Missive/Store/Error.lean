/-! How a store call can fail. -/

namespace Missive.Store

inductive Error where
  | unavailable (reason : String)
  | timeout (operation : String)
  /-- A template was written for a scenario that is not registered. -/
  | unknownScenario (name : String)
  | corrupted (location reason : String)
  deriving DecidableEq, Repr

namespace Error

/-- The store is left locked by a caller that died. -/
def poisoned : Error :=
  .unavailable "lock poisoned: poisoned lock: another task failed inside"

def message : Error → String
  | unavailable reason => s!"store unavailable: {reason}"
  | timeout operation => s!"store operation timed out: {operation}"
  | unknownScenario name => s!"scenario '{name}' is not registered"
  | corrupted location reason => s!"corrupted record at {location}: {reason}"

end Error
end Missive.Store

import Missive.Store.Call

/-! A store under observation: every call is noted, and a script makes chosen calls fail without
reaching the store behind. -/

namespace Missive.Store

/-- The kinds of calls, for scripts. -/
inductive Method where
  | read | write | delete | list | listAll | deleteAll
  | add | isRegistered | listScenarios | remove
  deriving DecidableEq, Repr

def Call.method : Call → Method
  | .read _ => .read
  | .write .. => .write
  | .delete _ => .delete
  | .list .. => .list
  | .listAll .. => .listAll
  | .deleteAll .. => .deleteAll
  | .add .. => .add
  | .isRegistered .. => .isRegistered
  | .listScenarios .. => .listScenarios
  | .remove .. => .remove

/-- What the coming calls of each kind are to meet: `none` lets a call pass, an error makes it fail.
Calls past the end of a list pass. -/
abbrev Script := Method → List (Option Error)

structure Probe (S : Type) where
  store : S
  script : Script := fun _ => []
  /-- The calls made so far, the last one first. -/
  noted : List Call := []

namespace Probe

variable {S : Type}

/-- The script after one call of a kind. -/
def advance (script : Script) (m : Method) : Script :=
  fun m' => if m' = m then (script m').tail else script m'

def backend (inner : Backend S) : Backend (Probe S) := fun c p =>
  let after := { p with script := advance p.script c.method, noted := c :: p.noted }
  match (p.script c.method).head? with
  | some (some e) => (.error e, after)
  | _ =>
    let (answer, store) := inner c p.store
    (answer, { after with store })

end Probe
end Missive.Store

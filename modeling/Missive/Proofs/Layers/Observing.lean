import Missive.Proofs.Layers.Evaluation

/-! Looking without touching: the calls that leave a store as it is, and the operations of the layers
that make no others. -/

namespace Missive

open Store

/-- The call changes nothing. -/
def Store.Call.Observes : Call → Prop
  | .read _ | .list .. | .listAll .. | .isRegistered .. | .listScenarios .. => True
  | .write .. | .delete _ | .deleteAll .. | .add .. | .remove .. => False

theorem Store.Call.Observes.admissible {c : Call} (h : c.Observes) : c.Admissible := by
  cases c with
  | write => cases h
  | _ => trivial

theorem Store.Call.Observes.backend {c : Call} (h : c.Observes) (s : AnyStore) :
    (AnyStore.backend c s).2 = s := by
  cases c with
  | read p => rw [AnyStore.backend_read]
  | list => exact AnyStore.backend_list ..
  | listAll | isRegistered | listScenarios => cases s <;> rfl
  | write | delete | deleteAll | add | remove => cases h

theorem Store.Call.Observes.ledger {c : Call} (h : c.Observes) (l : Ledger) :
    (Ledger.backend c l).2 = l := by
  cases c with
  | write | delete | deleteAll | add | remove => cases h
  | _ => rfl

namespace StoreProgram

/-- None of the program's calls changes anything. -/
inductive Observing {α : Type} : StoreProgram α → Prop where
  | done (x : Except Failure α) : Observing (.done x)
  | call {c next} : c.Observes → (∀ a, Observing (next a)) → Observing (.perform c next)

variable {α β : Type} {p : StoreProgram α}

theorem Observing.bind (h : Observing p) {f : α → StoreProgram β} (hf : ∀ a, Observing (f a)) :
    Observing (p >>= f) := by
  induction h with
  | done x =>
    cases x with
    | ok a => exact hf a
    | error e => exact .done _
  | call hc _ ih => exact .call hc ih

theorem observing_pure (a : α) : Observing (pure a) := .done _

theorem observing_throw (e : Failure) : Observing (throw e : StoreProgram α) := .done _

theorem observing_ask {c : Call} (h : c.Observes) (purpose : String) :
    Observing (Durable.ask purpose c) :=
  .call h fun _ => .done _

theorem ReadsAt.observing {tenant : TenantId} {key : TemplateKey} (h : ReadsAt tenant key p) :
    Observing p := by
  induction h with
  | done x => exact .done x
  | @read _ next _ _ _ herror ih =>
    refine .call trivial fun a => ?_
    cases a with
    | ok found => exact ih found
    | error e =>
      obtain ⟨context, hf⟩ := herror e
      rw [hf]
      exact .done _

end StoreProgram

open StoreProgram

namespace Durable

theorem observing_isStored (r : ResolveRequest) : Observing (isStored r) :=
  (observing_ask (c := .read _) trivial _).bind fun _ => observing_pure _

theorem observing_isRegistered (s : Scenario) (channel : Channel) (tenant : TenantId) :
    Observing (isRegistered s channel tenant) :=
  observing_ask (c := .isRegistered ..) trivial _

end Durable

namespace Layers

variable (layers : Layers)

theorem observing_resolve (r : ResolveRequest) : Observing (layers.resolve r) :=
  (layers.readsAt_resolve r).observing

theorem observing_templateExists (r : ResolveRequest) : Observing (layers.templateExists r) := by
  refine (Durable.observing_isStored r).bind fun stored => ?_
  cases stored <;> exact observing_pure _

theorem observing_scenarioExists (s : Scenario) (channel : Channel) (tenant : TenantId) :
    Observing (layers.scenarioExists s channel tenant) := by
  refine (Durable.observing_isRegistered s channel tenant).bind fun registered => ?_
  cases registered <;> exact observing_pure _

theorem observing_listScenarios (channel : Channel) (tenant : TenantId) :
    Observing (layers.listScenarios channel tenant) :=
  (observing_ask (c := .listScenarios ..) trivial _).bind fun _ => observing_pure _

theorem observing_listByScenario (s : Scenario) (channel : Channel) (scope : Scope) :
    Observing (layers.listByScenario s channel scope) := by
  refine (Durable.observing_isRegistered s channel scope.tenant).bind fun registered => ?_
  cases registered with
  | true => exact (observing_ask (c := .list ..) trivial _).bind fun _ => observing_pure _
  | false =>
    cases layers.defaults.get? s channel with
    | none => exact observing_throw _
    | some default => exact observing_pure _

theorem observing_listAll (channel : Channel) (tenant : TenantId) :
    Observing (layers.listAll channel tenant) :=
  (observing_ask (c := .listAll ..) trivial _).bind fun _ => observing_pure _

end Layers
end Missive

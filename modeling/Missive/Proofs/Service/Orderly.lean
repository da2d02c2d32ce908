import Missive.Proofs.Caches
import Missive.Service

/-! Programs that keep the caches informed. Such a program stores nothing but accepted templates,
and when the answer to a store call tells of a change, the next thing it does is to drop the cached
results that may show it. All operations of the service are of this kind, but for the looking up of
templates, which fills the caches. -/

namespace Missive

open Store

namespace Service

variable {α β : Type}

/-- The program keeps the caches informed. What is `pending` at its start is done first; at its end
what is `left` may be pending. -/
inductive Orderly (left : α → Option News) : Option News → ServiceProgram α → Prop where
  | returns {pending x} : (∀ n, pending = some n → left x = some n) →
      Orderly left pending (.done (.ok x))
  | fails (e : Failure) : Orderly left none (.done (.error e))
  | drops {pending tenant op next} : (∀ n, pending = some n → n = (tenant, op)) →
      op.Invalidates → (∀ a, Orderly left none (next a)) →
      Orderly left pending (.perform (.cache (.once tenant op)) next)
  | asks {domain next} : (∀ a, Orderly left none (next a)) →
      Orderly left none (.perform (.tenant domain) next)
  | calls {c next} : c.Admissible → (∀ a, Orderly left (c.news a) (next a)) →
      Orderly left none (.perform (.store c) next)

/-- Nothing is pending before and after the program. -/
abbrev Quiet (p : ServiceProgram α) : Prop := Orderly (fun _ => none) none p

namespace Orderly

variable {left : α → Option News} {left' : β → Option News} {pending : Option News}
  {p : ServiceProgram α}

theorem weaken (h : Orderly left pending p) : Orderly left none p := by
  cases h with
  | returns => exact .returns (by simp)
  | fails e => exact .fails e
  | drops _ hop hnext => exact .drops (by simp) hop hnext
  | asks hnext => exact .asks hnext
  | calls hc hnext => exact .calls hc hnext

theorem bind (h : Orderly left pending p) {f : α → ServiceProgram β}
    (hf : ∀ x, Orderly left' (left x) (f x)) : Orderly left' pending (p >>= f) := by
  induction h with
  | @returns pending x hpending =>
    cases pending with
    | none => exact (hf x).weaken
    | some n =>
      have hx := hf x
      rwa [hpending n rfl] at hx
  | fails e => exact .fails e
  | drops hpending hop _ ih => exact .drops hpending hop ih
  | asks _ ih => exact .asks ih
  | calls hc _ ih => exact .calls hc ih

/-- Whatever is pending at the end may be so if the value counts as one after which it is. -/
theorem mono {left' : α → Option News} (h : Orderly left pending p)
    (hleft : ∀ x n, left x = some n → left' x = some n) : Orderly left' pending p := by
  induction h with
  | returns hpending => exact .returns fun n hn => hleft _ n (hpending n hn)
  | fails e => exact .fails e
  | drops hpending hop _ ih => exact .drops hpending hop ih
  | asks _ ih => exact .asks ih
  | calls hc _ ih => exact .calls hc ih

theorem attempt (h : Orderly left pending p) :
    Orderly (fun | .ok x => left x | .error _ => none) pending p.attempt := by
  induction h with
  | returns hpending => exact .returns hpending
  | fails e => exact .returns (by simp)
  | drops hpending hop _ ih => exact .drops hpending hop ih
  | asks _ ih => exact .asks ih
  | calls hc _ ih => exact .calls hc ih

end Orderly

theorem quiet_pure (x : α) : Quiet (pure x : ServiceProgram α) := .returns (by simp)

theorem quiet_throw (e : Failure) : Quiet (throw e : ServiceProgram α) := .fails e

theorem quiet_done (x : Except Failure α) : Quiet (.done x) := by
  cases x with
  | ok x => exact quiet_pure x
  | error e => exact quiet_throw e

/-! ### Programs over store calls -/

theorem storing_bind (p : StoreProgram α) (f : α → StoreProgram β) :
    storing (p >>= f) = storing p >>= fun x => storing (f x) := by
  induction p with
  | done x => cases x <;> rfl
  | perform c next ih => exact congrArg (Program.perform (Request.store c)) (funext ih)

theorem storing_attempt (p : StoreProgram α) : storing p.attempt = (storing p).attempt := by
  induction p with
  | done x => rfl
  | perform c next ih => exact congrArg (Program.perform (Request.store c)) (funext ih)

theorem storing_discard (p : StoreProgram α) : storing (discard p) = discard (storing p) :=
  storing_bind p fun _ => pure ()

theorem Orderly.discard {p : ServiceProgram α} (h : Quiet p) : Quiet (discard p) :=
  h.bind fun _ => quiet_pure ()

theorem orderly_perform (c : Call) (h : c.Admissible) (explain : Store.Error → Failure) :
    Orderly (fun x => c.news (.ok x)) none
      (storing (.perform c fun answer => .done (answer.mapError explain))) := by
  refine .calls h fun a => ?_
  cases a with
  | ok x => exact .returns fun _ => id
  | error e =>
    rw [Call.news_error]
    exact .fails _

theorem orderly_ask (c : Call) (h : c.Admissible) (purpose : String) :
    Orderly (fun x => c.news (.ok x)) none (storing (Durable.ask purpose c)) :=
  orderly_perform c h _

/-- Calls that never tell of a change. -/
theorem quiet_ask (c : Call) (h : c.Admissible) (hnews : ∀ a, c.news a = none) (purpose : String) :
    Quiet (storing (Durable.ask purpose c)) :=
  (orderly_ask c h purpose).mono (by simp [hnews])

theorem quiet_isStored (r : ResolveRequest) : Quiet (storing (Durable.isStored r)) := by
  rw [Durable.isStored, storing_bind]
  exact (quiet_ask (.read r.position) trivial (fun _ => rfl) _).bind fun _ => quiet_done _

theorem quiet_isRegistered (s : Scenario) (channel : Channel) (tenant : TenantId) :
    Quiet (storing (Durable.isRegistered s channel tenant)) :=
  quiet_ask (.isRegistered s channel tenant) trivial (fun _ => rfl) _

theorem quiet_addScenario (s : Scenario) (channel : Channel) (tenant : TenantId) :
    Quiet (storing (Durable.addScenario s channel tenant)) := by
  rw [Durable.addScenario, storing_bind]
  apply (quiet_isRegistered s channel tenant).bind
  intro registered
  cases registered with
  | true => exact quiet_throw _
  | false => exact quiet_ask (.add s channel tenant) trivial (fun _ => rfl) _

theorem quiet_ensureScenario (s : Scenario) (channel : Channel) (tenant : TenantId) :
    Quiet (storing (Durable.ensureScenario s channel tenant)) := by
  rw [Durable.ensureScenario, storing_bind, storing_attempt]
  apply (quiet_addScenario s channel tenant).attempt.bind
  intro outcome
  rcases outcome with e | u
  · cases e <;> exact quiet_done _
  · exact quiet_done _

/-- What there is to do after a template has been stored. -/
def written (t : Template) (scope : Scope) : News :=
  (scope.tenant, .invalidate ⟨t.normalized.scenarioKey, t.channel, scope.applicationText⟩)

theorem orderly_upsert (t : Template) (scope : Scope) :
    Orderly (fun _ => some (written t scope)) none (storing (Durable.upsert t scope)) := by
  rw [Durable.upsert, storing_bind]
  cases hvalid : t.validateForWrite with
  | error e => exact .fails e
  | ok u => exact orderly_perform (.write t.normalized scope) (Template.storable_normalized hvalid) _

theorem orderly_registerAndWrite (s : Scenario) (t : Template) (scope : Scope) :
    Orderly (fun _ => some (written t scope)) none (storing (registerAndWrite s t scope)) := by
  rw [registerAndWrite, storing_bind]
  rw [storing_discard]
  exact (quiet_ensureScenario ..).discard.bind fun _ => orderly_upsert t scope

/-! ### The operations -/

theorem quiet_checked (parsed : Except Identifier.Error α) : Quiet (checked parsed) :=
  quiet_done _

theorem quiet_resolveTenant (domain : String) : Quiet (resolveTenant domain) :=
  .asks fun _ => quiet_done _

theorem quiet_scopeIn (domain : String) (application : Option String) :
    Quiet (scopeIn domain application) :=
  (quiet_checked _).discard.bind fun _ => (quiet_resolveTenant _).bind fun _ => quiet_checked _

theorem quiet_request (scenario locale : String) (channel : Channel) (domain : String)
    (application : Option String) : Quiet (request scenario locale channel domain application) :=
  (quiet_checked _).bind fun _ => (quiet_checked _).bind fun _ => (quiet_scopeIn ..).bind fun _ =>
    quiet_pure _

theorem written_eq {t : Template} {s : Scenario} (h : Scenario.parse t.scenario = .ok s)
    (scope : Scope) :
    written t scope = (scope.tenant, .invalidate (.of s t.channel scope.applicationText)) := by
  rw [Scenario.parse] at h
  split at h
  · cases h
    rfl
  · cases h

variable {service : Service}

theorem orderly_invalidate (hcaches : service.caches = true) (tenant : TenantId) (op : Cache.Op)
    (hop : op.Invalidates) :
    Orderly (fun _ => none) (some (tenant, op)) (service.invalidate tenant op) := by
  rw [invalidate, if_pos hcaches]
  exact .drops (by simp) hop fun _ => quiet_pure ()

/-- The dropping of results comes last, but for the value that is returned. -/
theorem orderly_invalidate_pure (hcaches : service.caches = true) (tenant : TenantId)
    (op : Cache.Op) (hop : op.Invalidates) (x : α) :
    Orderly (fun _ => none) (some (tenant, op))
      (service.invalidate tenant op >>= fun _ => pure x) :=
  (orderly_invalidate hcaches tenant op hop).bind fun _ => quiet_pure x

theorem quiet_templateExists (r : ResolveRequest) :
    Quiet (storing (service.layers.templateExists r)) := by
  rw [Layers.templateExists, storing_bind]
  apply (quiet_isStored r).bind
  intro stored
  cases stored <;> exact quiet_done _

theorem quiet_scenarioExists (s : Scenario) (channel : Channel) (tenant : TenantId) :
    Quiet (storing (service.layers.scenarioExists s channel tenant)) := by
  rw [Layers.scenarioExists, storing_bind]
  apply (quiet_isRegistered s channel tenant).bind
  intro registered
  cases registered <;> exact quiet_done _

theorem quiet_listByScenario (s : Scenario) (channel : Channel) (scope : Scope) :
    Quiet (storing (service.layers.listByScenario s channel scope)) := by
  rw [Layers.listByScenario, storing_bind]
  apply (quiet_isRegistered s channel scope.tenant).bind
  intro registered
  cases registered with
  | true =>
    simp only [Bool.not_true, Bool.false_and, Bool.false_eq_true, if_false, if_true, storing_bind]
    exact (quiet_ask (.list s channel scope) trivial (fun _ => rfl) _).bind fun _ => quiet_done _
  | false =>
    cases service.layers.defaults.get? s channel <;> exact quiet_done _

theorem quiet_listScenarios (channel : Channel) (tenant : TenantId) :
    Quiet (storing (service.layers.listScenarios channel tenant)) := by
  rw [Layers.listScenarios, storing_bind]
  exact (quiet_ask (.listScenarios channel tenant) trivial (fun _ => rfl) _).bind fun _ =>
    quiet_done _

theorem quiet_listAll (channel : Channel) (tenant : TenantId) :
    Quiet (storing (service.layers.listAll channel tenant)) := by
  rw [Layers.listAll, storing_bind]
  exact (quiet_ask (.listAll channel tenant) trivial (fun _ => rfl) _).bind fun _ => quiet_done _

theorem quiet_upsert (hcaches : service.caches = true) (t : Template) (domain : String)
    (application : Option String) : Quiet (service.upsert t domain application) := by
  rw [upsert]
  apply (quiet_done _).bind
  intro _
  cases hparse : Scenario.parse t.scenario with
  | error e => exact quiet_throw _
  | ok scenario =>
    change Quiet (scopeIn domain application >>= _)
    refine (quiet_scopeIn domain application).bind fun scope => ?_
    apply (quiet_ensureScenario scenario t.channel scope.tenant).discard.bind
    intro _
    apply (orderly_upsert t scope).attempt.bind
    intro outcome
    have hinvalidate : ∀ u : Unit, Orderly (fun _ => none) (some (written t scope))
        (service.invalidate scope.tenant
          (.invalidate (.of scenario t.channel scope.applicationText))) := by
      intro _
      rw [written_eq hparse]
      exact orderly_invalidate hcaches _ (.invalidate _) trivial
    rcases outcome with e | u
    · cases e with
      | scenarioNotFound =>
        exact (orderly_registerAndWrite scenario t scope).bind hinvalidate
      | _ => exact quiet_throw _
    · exact hinvalidate ()

theorem quiet_deleteTemplate (hcaches : service.caches = true) (scenario locale : String)
    (channel : Channel) (domain : String) (application : Option String) :
    Quiet (service.deleteTemplate scenario locale channel domain application) := by
  rw [deleteTemplate]
  apply (quiet_request scenario locale channel domain application).bind
  intro r
  apply (orderly_ask (.delete r.position) trivial _).bind
  intro deleted
  cases deleted with
  | true =>
    exact orderly_invalidate_pure hcaches _ (.invalidate _) trivial true
  | false => exact quiet_pure false

theorem quiet_deleteTemplates (hcaches : service.caches = true) (scenario : String)
    (channel : Channel) (domain : String) (application : Option String) :
    Quiet (service.deleteTemplates scenario channel domain application) := by
  rw [deleteTemplates]
  refine (quiet_checked _).bind fun s => (quiet_scopeIn domain application).bind fun scope => ?_
  have hdelete : Orderly (fun n => (Call.deleteAll s channel scope).news (.ok n)) none
      (storing (Durable.deleteAll s channel scope)) := by
    rw [Durable.deleteAll, storing_bind]
    apply (quiet_isRegistered s channel scope.tenant).bind
    intro registered
    cases registered with
    | true => exact orderly_ask (.deleteAll s channel scope) trivial _
    | false => exact .returns (by simp)
  apply hdelete.bind
  intro count
  exact orderly_invalidate_pure hcaches _ (.invalidate _) trivial count

theorem quiet_deleteScenario (hcaches : service.caches = true) (scenario : String)
    (channel : Channel) (domain : String) :
    Quiet (service.deleteScenario scenario channel domain) := by
  rw [deleteScenario]
  refine (quiet_checked _).bind fun s => (quiet_resolveTenant domain).bind fun tenant => ?_
  apply (orderly_ask (.remove s channel tenant) trivial _).bind
  intro removed
  cases removed with
  | true =>
    exact orderly_invalidate_pure hcaches _ (.invalidateScenario ..) trivial true
  | false => exact quiet_pure false

theorem quiet_addDefault (hcaches : service.caches = true) (tenant : TenantId) (t : Template) :
    Quiet (service.addDefault tenant t) := by
  rw [addDefault]
  cases hparse : Scenario.parse t.scenario with
  | error e => exact quiet_throw _
  | ok s =>
    change Quiet (checked (Locale.parse t.locale) >>= _)
    refine (quiet_checked _).bind fun locale => (quiet_isStored _).bind fun stored => ?_
    cases stored with
    | true => exact quiet_pure false
    | false =>
      apply (orderly_registerAndWrite s t (.organization tenant)).bind
      intro _
      rw [written_eq hparse]
      exact orderly_invalidate_pure hcaches _ (.invalidate _) trivial true

theorem quiet_addDefaults (hcaches : service.caches = true) (tenant : TenantId) (added : Nat)
    (ts : List Template) : Quiet (service.addDefaults tenant added ts) := by
  induction ts generalizing added with
  | nil => exact quiet_pure added
  | cons t rest ih => exact (quiet_addDefault hcaches tenant t).bind fun _ => ih _

/-- Every operation but the looking up of templates keeps the caches informed. -/
theorem quiet_program (hcaches : service.caches = true) {o : Operation}
    (ho : ∀ scenario locale channel domain application,
      o ≠ .resolve scenario locale channel domain application) : Quiet (service.program o) := by
  cases o with
  | resolve => exact (ho _ _ _ _ _ rfl).elim
  | templateExists =>
    exact (quiet_request ..).bind quiet_templateExists
  | scenarioExists =>
    exact (quiet_checked _).bind fun _ => (quiet_resolveTenant _).bind fun _ =>
      quiet_scenarioExists ..
  | listTemplates =>
    exact (quiet_checked _).bind fun _ => (quiet_scopeIn ..).bind fun _ => quiet_listByScenario ..
  | listAllTemplates => exact (quiet_resolveTenant _).bind fun _ => quiet_listAll ..
  | listScenarios => exact (quiet_resolveTenant _).bind fun _ => quiet_listScenarios ..
  | addScenario =>
    exact (quiet_checked _).bind fun _ => (quiet_resolveTenant _).bind fun _ =>
      quiet_addScenario ..
  | upsert => exact quiet_upsert hcaches ..
  | deleteTemplate => exact quiet_deleteTemplate hcaches ..
  | deleteTemplates => exact quiet_deleteTemplates hcaches ..
  | deleteScenario => exact quiet_deleteScenario hcaches ..
  | addDefaultTemplates =>
    exact (quiet_resolveTenant _).bind fun _ => quiet_addDefaults hcaches ..

end Service
end Missive

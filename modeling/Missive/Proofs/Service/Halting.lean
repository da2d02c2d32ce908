import Missive.Proofs.Layers.Reading
import Missive.Proofs.Service.LookingUp
import Missive.Proofs.Service.Orderly
import Missive.Proofs.Store.Agreement

/-! Operations whose store calls fail. Whatever is answered, the first store call that fails is the
last one, and the outcome reports its error. Only an upsert goes on when its scenario turns out not to
be registered; it starts over, once (`halts_program`). -/

namespace Missive

open Store

def Store.Call.Writes : Call → Prop
  | .write .. => True
  | _ => False

/-- The failure says that the call failed with the error. A write to a scenario that is not registered
is reported as one to a scenario that is not found. -/
def Store.Call.Reports : Call → Store.Error → Failure → Prop
  | .write t scope, .unknownScenario _, f => f = .scenarioNotFound t.scenario t.channel scope.tenant
  | _, e, f => ∃ context, f = .storeFailed context e

theorem Store.Call.reports_of_not_writes {c : Call} (h : ¬c.Writes) (context : String)
    (e : Store.Error) : c.Reports e (.storeFailed context e) := by
  cases c with
  | write => exact absurd trivial h
  | _ => exact ⟨context, rfl⟩

theorem Durable.reports_writeFailure (t : Template) (scope : Scope) (e : Store.Error) :
    Call.Reports (.write t scope) e (writeFailure t scope e) := by
  cases e with
  | unknownScenario => exact rfl
  | _ => exact ⟨_, rfl⟩

namespace Service

variable {α β S : Type}

/-- The store calls among the requests of a run. -/
def storeCalls (requests : List ((q : Request) × q.Answer)) : List Exchange :=
  requests.filterMap fun
    | ⟨.store c, a⟩ => some ⟨c, a⟩
    | _ => none

/-- All calls succeed, or all but the last, whose failure the outcome reports. -/
inductive StopsAtFailure (x : Except Failure α) : List Exchange → Prop where
  | nil : StopsAtFailure x []
  | ok {c reply rest} : StopsAtFailure x rest → StopsAtFailure x (⟨c, .ok reply⟩ :: rest)
  | error {c e f} : c.Reports e f → x = .error f → StopsAtFailure x [⟨c, .error e⟩]

/-- Calls that stop at a failure, unless it is a write to a scenario that is not registered. After the
first such failure there are more calls, beginning with the scenario's registration, and these stop at
any failure. -/
inductive RetriesOnce (x : Except Failure α) : List Exchange → Prop where
  | nil : RetriesOnce x []
  | ok {c reply rest} : RetriesOnce x rest → RetriesOnce x (⟨c, .ok reply⟩ :: rest)
  | error {c e f} : (∀ name, e = .unknownScenario name → ¬c.Writes) → c.Reports e f →
      x = .error f → RetriesOnce x [⟨c, .error e⟩]
  | again {t scope name sc a rest} : sc.key = t.scenarioKey →
      StopsAtFailure x (⟨.isRegistered sc t.channel scope.tenant, a⟩ :: rest) →
      RetriesOnce x (⟨.write t scope, .error (.unknownScenario name)⟩ ::
        ⟨.isRegistered sc t.channel scope.tenant, a⟩ :: rest)

/-! ### Programs that end with a failed call -/

/-- The program makes allowed store calls only, and ends with a report if one fails. -/
inductive Halting (allowed : Call → Prop) : ServiceProgram α → Prop where
  | done (x : Except Failure α) : Halting allowed (.done x)
  | tenant {domain next} : (∀ a, Halting allowed (next a)) →
      Halting allowed (.perform (.tenant domain) next)
  | cache {query next} : (∀ a, Halting allowed (next a)) →
      Halting allowed (.perform (.cache query) next)
  | call {c next} : allowed c → (∀ reply, Halting allowed (next (.ok reply))) →
      (∀ e, ∃ f, next (.error e) = .done (.error f) ∧ c.Reports e f) →
      Halting allowed (.perform (.store c) next)

variable {allowed : Call → Prop} {p : ServiceProgram α}

namespace Halting

theorem bind (h : Halting allowed p) {f : α → ServiceProgram β} (hf : ∀ a, Halting allowed (f a)) :
    Halting allowed (p >>= f) := by
  induction h with
  | done x =>
    cases x with
    | ok a => exact hf a
    | error e => exact .done _
  | tenant _ ih => exact .tenant ih
  | cache _ ih => exact .cache ih
  | call hc _ herror ih =>
    refine .call hc ih fun e => ?_
    obtain ⟨g, hg, hreports⟩ := herror e
    exact ⟨g, by rw [hg]; rfl, hreports⟩

theorem mono {allowed' : Call → Prop} (h : Halting allowed p) (hallowed : ∀ c, allowed c → allowed' c) :
    Halting allowed' p := by
  induction h with
  | done x => exact .done x
  | tenant _ ih => exact .tenant ih
  | cache _ ih => exact .cache ih
  | call hc _ herror ih => exact .call (hallowed _ hc) ih herror

/-- A failure may be looked at as long as reports of failed calls are passed on. -/
theorem attempt_bind (h : Halting allowed p) {f : Except Failure α → ServiceProgram β}
    (hf : ∀ x, Halting allowed (f x))
    (hreport : ∀ c e g, allowed c → Call.Reports c e g → f (.error g) = .done (.error g)) :
    Halting allowed (p.attempt >>= f) := by
  induction h with
  | done x => exact hf x
  | tenant _ ih => exact .tenant ih
  | cache _ ih => exact .cache ih
  | call hc _ herror ih =>
    refine .call hc ih fun e => ?_
    obtain ⟨g, hg, hreports⟩ := herror e
    refine ⟨g, ?_, hreports⟩
    change (Program.attempt _).bind f = _
    rw [hg]
    exact hreport _ e g hc hreports

theorem stops (h : Halting allowed p) (answer : Program.Handler Request Request.Answer S) (w : S) :
    StopsAtFailure (p.run answer w).1 (storeCalls (p.trace answer w)) := by
  induction h generalizing w with
  | done x => exact .nil
  | tenant _ ih => exact ih _ _
  | cache _ ih => exact ih _ _
  | @call c next _ _ herror ih =>
    rw [Program.run_perform, Program.trace]
    change StopsAtFailure _ (⟨c, (answer (.store c) w).1⟩ :: storeCalls _)
    cases (answer (.store c) w).1 with
    | ok reply => exact .ok (ih reply _)
    | error e =>
      obtain ⟨f, hf, hreports⟩ := herror e
      rw [hf]
      exact .error hreports rfl

end Halting

/-- The program makes one write, and starts over if that finds the scenario not registered. -/
inductive Retrying : ServiceProgram α → Prop where
  | done (x : Except Failure α) : Retrying (.done x)
  | tenant {domain next} : (∀ a, Retrying (next a)) → Retrying (.perform (.tenant domain) next)
  | cache {query next} : (∀ a, Retrying (next a)) → Retrying (.perform (.cache query) next)
  | call {c next} : ¬c.Writes → (∀ reply, Retrying (next (.ok reply))) →
      (∀ e, ∃ f, next (.error e) = .done (.error f) ∧ c.Reports e f) →
      Retrying (.perform (.store c) next)
  | write {t scope next} {sc : Scenario} {again} :
      sc.key = t.scenarioKey → Retrying (next (.ok ())) →
      (∀ name, next (.error (.unknownScenario name)) =
        .perform (.store (.isRegistered sc t.channel scope.tenant)) again) →
      Halting (fun _ => True) (.perform (.store (.isRegistered sc t.channel scope.tenant)) again) →
      (∀ e, (∀ name, e ≠ .unknownScenario name) →
        ∃ f, next (.error e) = .done (.error f) ∧ Call.Reports (.write t scope) e f) →
      Retrying (.perform (.store (.write t scope)) next)

theorem Halting.retrying_bind (h : Halting (¬·.Writes) p) {f : α → ServiceProgram β}
    (hf : ∀ a, Retrying (f a)) : Retrying (p >>= f) := by
  induction h with
  | done x =>
    cases x with
    | ok a => exact hf a
    | error e => exact .done _
  | tenant _ ih => exact .tenant ih
  | cache _ ih => exact .cache ih
  | call hc _ herror ih =>
    refine .call hc ih fun e => ?_
    obtain ⟨g, hg, hreports⟩ := herror e
    exact ⟨g, by rw [hg]; rfl, hreports⟩

theorem halting_perform {c : Call} (hc : allowed c) {explain : Store.Error → Failure}
    (h : ∀ e, c.Reports e (explain e)) :
    Halting allowed (storing (.perform c fun answer => .done (answer.mapError explain))) :=
  .call hc (fun _ => .done _) fun e => ⟨explain e, rfl, h e⟩

theorem halting_ask {c : Call} (hc : allowed c) (hwrites : ¬c.Writes) (purpose : String) :
    Halting allowed (storing (Durable.ask purpose c)) :=
  halting_perform hc (c.reports_of_not_writes hwrites purpose)

theorem Retrying.stops (h : Retrying p) (answer : Program.Handler Request Request.Answer S) (w : S) :
    RetriesOnce (p.run answer w).1 (storeCalls (p.trace answer w)) := by
  induction h generalizing w with
  | done x => exact .nil
  | tenant _ ih => exact ih _ _
  | cache _ ih => exact ih _ _
  | @call c next hc _ herror ih =>
    rw [Program.run_perform, Program.trace]
    change RetriesOnce _ (⟨c, (answer (.store c) w).1⟩ :: storeCalls _)
    cases (answer (.store c) w).1 with
    | ok reply => exact .ok (ih reply _)
    | error e =>
      obtain ⟨f, hf, hreports⟩ := herror e
      rw [hf]
      exact .error (fun _ _ => hc) hreports rfl
  | @write t scope next sc again hkey _ hagain hhalting herror ih =>
    rw [Program.run_perform, Program.trace]
    change RetriesOnce _ (⟨.write t scope, (answer (.store (.write t scope)) w).1⟩ :: storeCalls _)
    cases (answer (.store (.write t scope)) w).1 with
    | ok reply => exact .ok (ih _)
    | error e =>
      -- For any other reason than a missing scenario, the write is the last call.
      by_cases hunknown : ∀ name, e ≠ .unknownScenario name
      · obtain ⟨f, hf, hreports⟩ := herror e hunknown
        rw [hf]
        exact .error (fun name hname => absurd hname (hunknown name)) hreports rfl
      · push Not at hunknown
        obtain ⟨name, rfl⟩ := hunknown
        have hstops := hhalting.stops answer (answer (.store (.write t scope)) w).2
        rw [hagain]
        exact .again hkey hstops

/-! ### The operations -/

theorem halting_checked (parsed : Except Identifier.Error α) : Halting allowed (checked parsed) :=
  .done _

theorem halting_resolveTenant (domain : String) : Halting allowed (resolveTenant domain) :=
  .tenant fun _ => .done _

theorem halting_scopeIn (domain : String) (application : Option String) :
    Halting allowed (scopeIn domain application) :=
  ((halting_checked _).bind fun _ => .done _).bind fun _ =>
    (halting_resolveTenant _).bind fun _ => halting_checked _

theorem halting_request (scenario locale : String) (channel : Channel) (domain : String)
    (application : Option String) :
    Halting allowed (request scenario locale channel domain application) :=
  (halting_checked _).bind fun _ => (halting_checked _).bind fun _ =>
    (halting_scopeIn ..).bind fun _ => .done _

theorem halting_isStored (r : ResolveRequest) :
    Halting (fun _ => True) (storing (Durable.isStored r)) := by
  rw [Durable.isStored, storing_bind]
  exact (halting_ask trivial id _).bind fun _ => .done _

theorem halting_isRegistered (h : ∀ c : Call, ¬c.Writes → allowed c) (s : Scenario)
    (channel : Channel) (tenant : TenantId) :
    Halting allowed (storing (Durable.isRegistered s channel tenant)) :=
  halting_ask (h _ id) id _

theorem halting_addScenario (h : ∀ c : Call, ¬c.Writes → allowed c) (s : Scenario)
    (channel : Channel) (tenant : TenantId) :
    Halting allowed (storing (Durable.addScenario s channel tenant)) := by
  rw [Durable.addScenario, storing_bind]
  refine (halting_isRegistered h s channel tenant).bind fun registered => ?_
  cases registered with
  | true => exact .done _
  | false => exact halting_ask (h _ id) id _

theorem halting_ensureScenario (h : ∀ c : Call, ¬c.Writes → allowed c) (s : Scenario)
    (channel : Channel) (tenant : TenantId) :
    Halting allowed (storing (Durable.ensureScenario s channel tenant)) := by
  have hadd : Halting (¬·.Writes) (storing (Durable.addScenario s channel tenant)) :=
    halting_addScenario (fun _ => id) s channel tenant
  rw [Durable.ensureScenario, storing_bind, storing_attempt]
  refine (hadd.attempt_bind (fun x => ?_) fun c e g hc hreports => ?_).mono h
  · rcases x with e | u
    · cases e <;> exact .done _
    · exact .done _
  · -- A call other than a write is reported as a failure of the store.
    obtain ⟨context, rfl⟩ : ∃ context, g = .storeFailed context e := by
      cases c with
      | write => exact absurd trivial hc
      | _ => exact hreports
    rfl

theorem halting_upsert (t : Template) (scope : Scope) :
    Halting (fun _ => True) (storing (Durable.upsert t scope)) := by
  rw [Durable.upsert, storing_bind]
  exact (Halting.done _).bind fun _ =>
    halting_perform trivial (Durable.reports_writeFailure t.normalized scope)

theorem halting_registerAndWrite (s : Scenario) (t : Template) (scope : Scope) :
    Halting (fun _ => True) (storing (registerAndWrite s t scope)) := by
  rw [registerAndWrite, storing_bind, storing_discard]
  exact ((halting_ensureScenario (fun _ _ => trivial) ..).bind fun _ => .done _).bind fun _ =>
    halting_upsert t scope

theorem halting_invalidate (service : Service) (tenant : TenantId) (op : Cache.Op) :
    Halting allowed (service.invalidate tenant op) := by
  rw [invalidate]
  split
  · exact .cache fun _ => .done _
  · exact .done _

section

variable (layers : Layers)

theorem halting_resolveIn (r : ResolveRequest) (tiers : List Tier) :
    Halting (fun _ => True) (storing (layers.resolveIn r tiers)) := by
  induction tiers with
  | nil => exact .done _
  | cons tier rest ih =>
    rw [Layers.resolveIn_cons, storing_bind]
    have hlookup : Halting (fun _ => True) (storing (layers.lookup r tier)) := by
      cases tier with
      | exact | defaultLocale => exact halting_ask trivial id _
      | systemDefault | unsatisfied => exact .done _
    refine hlookup.bind fun found => ?_
    cases found with
    | none => exact ih
    | some t =>
      rw [Layers.goOn]
      split <;> exact .done _

theorem halting_templateExists (r : ResolveRequest) :
    Halting (fun _ => True) (storing (layers.templateExists r)) := by
  rw [Layers.templateExists, storing_bind]
  refine (halting_isStored r).bind fun stored => ?_
  cases stored <;> exact .done _

theorem halting_scenarioExists (s : Scenario) (channel : Channel) (tenant : TenantId) :
    Halting (fun _ => True) (storing (layers.scenarioExists s channel tenant)) := by
  rw [Layers.scenarioExists, storing_bind]
  refine (halting_isRegistered (fun _ _ => trivial) s channel tenant).bind fun registered => ?_
  cases registered <;> exact .done _

theorem halting_listByScenario (s : Scenario) (channel : Channel) (scope : Scope) :
    Halting (fun _ => True) (storing (layers.listByScenario s channel scope)) := by
  rw [Layers.listByScenario, storing_bind]
  refine (halting_isRegistered (fun _ _ => trivial) s channel scope.tenant).bind fun registered => ?_
  cases registered with
  | true =>
    simp only [Bool.not_true, Bool.false_and, Bool.false_eq_true, if_false, if_true, storing_bind]
    exact (halting_ask trivial id _).bind fun _ => .done _
  | false => cases layers.defaults.get? s channel <;> exact .done _

theorem halting_listScenarios (channel : Channel) (tenant : TenantId) :
    Halting (fun _ => True) (storing (layers.listScenarios channel tenant)) := by
  rw [Layers.listScenarios, storing_bind]
  exact (halting_ask trivial id _).bind fun _ => .done _

theorem halting_listAll (channel : Channel) (tenant : TenantId) :
    Halting (fun _ => True) (storing (layers.listAll channel tenant)) := by
  rw [Layers.listAll, storing_bind]
  exact (halting_ask trivial id _).bind fun _ => .done _

end

variable (service : Service)

theorem halting_resolve (scenario locale : String) (channel : Channel) (domain : String)
    (application : Option String) :
    Halting (fun _ => True) (service.resolve scenario locale channel domain application) := by
  obtain ⟨layers, caches⟩ := service
  cases caches with
  | false =>
    rw [resolve_eq_storing]
    exact (halting_request ..).bind fun r => (halting_resolveIn layers r _).bind fun _ => .done _
  | true =>
    rw [resolve_eq_looking]
    refine (halting_request ..).bind fun r => .cache fun handle => .cache fun cached => ?_
    cases cached with
    | some t => exact .done _
    | none =>
      exact .cache fun _ => (halting_resolveIn layers r _).bind fun _ => .cache fun _ => .done _

theorem halting_addDefaults (tenant : TenantId) (added : Nat) (ts : List Template) :
    Halting (fun _ => True) (service.addDefaults tenant added ts) := by
  induction ts generalizing added with
  | nil => exact .done _
  | cons t rest ih =>
    refine Halting.bind ?_ fun _ => ih _
    refine (halting_checked _).bind fun s => (halting_checked _).bind fun locale => ?_
    refine (halting_isStored _).bind fun stored => ?_
    cases stored with
    | true => exact .done _
    | false =>
      exact (halting_registerAndWrite ..).bind fun _ => (halting_invalidate ..).bind fun _ => .done _

theorem retrying_upsert (t : Template) (domain : String) (application : Option String) :
    Retrying (service.upsert t domain application) := by
  rw [upsert]
  cases ht : t.validateForWrite with
  | error e => exact .done _
  | ok u =>
    cases hs : Scenario.parse t.scenario with
    | error e => exact .done _
    | ok sc =>
      change Retrying (scopeIn domain application >>= _)
      refine (halting_scopeIn domain application).retrying_bind fun scope => ?_
      refine ((halting_ensureScenario (fun _ => id) ..).bind fun _ => .done _).retrying_bind
        fun _ => ?_
      have hkey : sc.key = t.normalized.scenarioKey := by
        rw [Scenario.key, Scenario.displayName_of_parse hs]
        rfl
      have hinvalidate : Retrying (service.invalidate scope.tenant
          (.invalidate (.of sc t.channel scope.applicationText))) := by
        rw [invalidate]
        split
        · exact .cache fun _ => .done _
        · exact .done _
      have hwrite : (storing (Durable.upsert t scope)).attempt =
          .perform (.store (.write t.normalized scope)) fun a =>
            .done (.ok (a.mapError (Durable.writeFailure t.normalized scope))) := by
        rw [Durable.upsert, ht]
        rfl
      rw [hwrite]
      refine .write hkey hinvalidate (fun name => rfl) ?_ fun e hunknown => ?_
      · exact (halting_registerAndWrite sc t scope).bind fun _ => halting_invalidate ..
      · cases e with
        | unknownScenario name => exact absurd rfl (hunknown name)
        | _ => exact ⟨_, rfl, _, rfl⟩

/-- All operations but an upsert end with the first call that fails. -/
theorem halting_program {o : Operation}
    (ho : ∀ t domain application, o ≠ .upsert t domain application) :
    Halting (fun _ => True) (service.program o) := by
  cases o with
  | upsert => exact (ho _ _ _ rfl).elim
  | resolve => exact halting_resolve service ..
  | templateExists => exact (halting_request ..).bind fun r => halting_templateExists _ r
  | scenarioExists =>
    exact (halting_checked _).bind fun _ => (halting_resolveTenant _).bind fun _ =>
      halting_scenarioExists ..
  | listTemplates =>
    exact (halting_checked _).bind fun _ => (halting_scopeIn ..).bind fun _ =>
      halting_listByScenario ..
  | listAllTemplates => exact (halting_resolveTenant _).bind fun _ => halting_listAll ..
  | listScenarios => exact (halting_resolveTenant _).bind fun _ => halting_listScenarios ..
  | addScenario =>
    exact (halting_checked _).bind fun _ => (halting_resolveTenant _).bind fun _ =>
      halting_addScenario (fun _ _ => trivial) ..
  | deleteTemplate =>
    refine (halting_request ..).bind fun r => (halting_ask trivial id _).bind fun deleted => ?_
    cases deleted with
    | true => exact (halting_invalidate ..).bind fun _ => .done _
    | false => exact .done _
  | deleteTemplates =>
    refine (halting_checked _).bind fun s => (halting_scopeIn ..).bind fun scope =>
      Halting.bind ?_ fun _ => (halting_invalidate ..).bind fun _ => .done _
    rw [Durable.deleteAll, storing_bind]
    refine (halting_isRegistered (fun _ _ => trivial) ..).bind fun registered => ?_
    cases registered with
    | true => exact halting_ask trivial id _
    | false => exact .done _
  | deleteScenario =>
    refine (halting_checked _).bind fun s => (halting_resolveTenant _).bind fun tenant =>
      (halting_ask trivial id _).bind fun removed => ?_
    cases removed with
    | true => exact (halting_invalidate ..).bind fun _ => .done _
    | false => exact .done _
  | addDefaultTemplates =>
    exact (halting_resolveTenant _).bind fun tenant => halting_addDefaults service tenant 0 _

/-- What an operation does when store calls fail: an upsert may start over once, all others end. -/
def Operation.Halts (o : Operation) (x : Except Failure o.Reply) (calls : List Exchange) : Prop :=
  match o with
  | .upsert .. => RetriesOnce x calls
  | _ => StopsAtFailure x calls

/-- Whatever the surroundings answer, the first failed store call is the last, but for the one that
makes an upsert start over. -/
theorem halts_program (o : Operation) (answer : Program.Handler Request Request.Answer S) (w : S) :
    o.Halts ((service.program o).run answer w).1
      (storeCalls ((service.program o).trace answer w)) := by
  cases o with
  | upsert t domain application => exact (retrying_upsert service t domain application).stops answer w
  | _ => exact (halting_program service (by simp)).stops answer w

end Service
end Missive

import Missive.Proofs.Service.Evaluation
import Missive.Proofs.Service.Setting

/-! What the parts of the operations assure. A part that asks the store has an effect, told from the
ledger, or reports a fault and has none; where two calls follow each other, the first may have had its
effect when the second one fails. -/

namespace Missive

open Store

namespace Store.Ledger

theorem contains_register (l : Ledger) (sc : Scenario) (channel : Channel) (tenant : TenantId) :
    (l.register sc channel tenant).names.contains (.of sc channel tenant) = true := by
  rw [Dictionary.contains, names_register, if_pos rfl]
  rfl

theorem register_register (l : Ledger) (sc : Scenario) (channel : Channel) (tenant : TenantId) :
    (l.register sc channel tenant).register sc channel tenant = l.register sc channel tenant :=
  register_of_contains (l.contains_register sc channel tenant)

/-- The ledger with a template stored, normalized and under the name of its scenario, which is
registered first. -/
def seat (l : Ledger) (sc : Scenario) (t : Template) (scope : Scope) : Ledger :=
  (Ledger.backend (.write t.normalized scope) (l.register sc t.channel scope.tenant)).2

variable {sc : Scenario} {t : Template}

@[simp] theorem names_seat (l : Ledger) (sc : Scenario) (t : Template) (scope : Scope) :
    (l.seat sc t scope).names = (l.register sc t.channel scope.tenant).names := by
  rw [seat, Ledger.backend]
  split <;> rfl

theorem registered_for_write (l : Ledger) (hs : Scenario.parse t.scenario = .ok sc) (scope : Scope) :
    ∃ name, (l.register sc t.channel scope.tenant).names.get? (.ofTemplate t.normalized scope) =
      some name := by
  rw [ScenarioRef.ofTemplate_normalized hs]
  exact Option.isSome_iff_exists.1 (l.contains_register sc t.channel scope.tenant)

/-- One record is replaced or added. -/
theorem records_seat (l : Ledger) (hs : Scenario.parse t.scenario = .ok sc) (scope : Scope) :
    ∃ name, (l.seat sc t scope).records =
      l.records.put ⟨.ofTemplate t.normalized scope, scope.applicationText, t.normalized.locale⟩
        { t.normalized with scenario := name } := by
  obtain ⟨name, hname⟩ := l.registered_for_write hs scope
  refine ⟨name, ?_⟩
  rw [seat, Ledger.backend, hname, records_register]

end Store.Ledger

namespace Service

open StoreProgram Durable

/-- The outcome is the value, or the report of a fault. -/
def Tells {α : Type} (faulty : Prop) (a : α) (x : Except Failure α) : Prop :=
  x = .ok a ∨ faulty ∧ ∃ context e, x = .error (.storeFailed context e)

variable {α β : Type} {faulty : Prop} {s : Setting} {post : Except Failure α → Setting → Prop}

/-! ### Asking -/

theorem assures_checked_bind {parsed : Except Identifier.Error β} {f : β → ServiceProgram α}
    (herror : ∀ e, parsed = .error e → post (.error (.ofIdentifier e)) s)
    (hok : ∀ b, parsed = .ok b → Assures faulty post (f b) s) :
    Assures faulty post (checked parsed >>= f) s := by
  cases parsed with
  | error e => exact .done (herror e rfl)
  | ok b => exact hok b rfl

theorem assures_resolveTenant_bind {domain : String} {f : TenantId → ServiceProgram α}
    (herror : ∀ e, (s.tenants.resolve domain).1 = .error e →
      post (.error (.unresolvedTenant domain e)) (s.told domain))
    (hok : ∀ tenant, (s.tenants.resolve domain).1 = .ok tenant →
      Assures faulty post (f tenant) (s.told domain)) :
    Assures faulty post (resolveTenant domain >>= f) s := by
  refine .perform trivial fun a s' ha => ?_
  cases ha
  cases htenant : (s.tenants.resolve domain).1 with
  | error e => exact .done (herror e htenant)
  | ok tenant => exact hok tenant htenant

/-- A request is refused at once, or goes on with the tenant. -/
theorem assures_request_bind {i : Inquiry} {f : ResolveRequest → ServiceProgram α}
    (hrefused : ∀ e, request i.scenario i.locale i.channel i.domain i.application =
      .done (.error (.ofIdentifier e)) → post (.error (.ofIdentifier e)) s)
    (herror : ∀ e, (s.tenants.resolve i.domain).1 = .error e →
      post (.error (.unresolvedTenant i.domain e)) (s.told i.domain))
    (hok : ∀ r : ResolveRequest, (s.tenants.resolve i.domain).1 = .ok r.scope.tenant →
      ResolveRequest.parse i.scenario i.locale i.channel r.scope.tenant i.application = .ok r →
      Assures faulty post (f r) (s.told i.domain)) :
    Assures faulty post
      (request i.scenario i.locale i.channel i.domain i.application >>= f) s := by
  rcases request_cases i.scenario i.locale i.channel i.domain i.application with
    ⟨e, -, hrequest⟩ | ⟨r, hr, hrequest⟩
  · rw [hrequest]
    exact .done (hrefused e hrequest)
  · rw [hrequest]
    refine .perform trivial fun a s' ha => ?_
    cases ha
    cases htenant : (s.tenants.resolve i.domain).1 with
    | error e => exact .done (herror e htenant)
    | ok tenant =>
      obtain ⟨hscope, hparse⟩ := hr tenant
      exact hok (r tenant) (by rw [htenant, hscope]) (by rw [hscope, hparse])

/-- Without caches there is nothing to drop. -/
theorem assures_invalidate {service : Service} {tenant : TenantId} {op : Cache.Op}
    {post : Except Failure Unit → Setting → Prop} (hquiet : post (.ok ()) s)
    (hasked : post (.ok ()) (s.asking (.once tenant op))) :
    Assures faulty post (service.invalidate tenant op) s := by
  rw [invalidate]
  cases service.caches with
  | false => exact .done hquiet
  | true =>
    refine .perform trivial fun a s' ha => ?_
    cases ha
    exact .done hasked

theorem assures_invalidate_bind {service : Service} {tenant : TenantId} {op : Cache.Op}
    {f : Unit → ServiceProgram α} (hquiet : Assures faulty post (f ()) s)
    (hasked : Assures faulty post (f ()) (s.asking (.once tenant op))) :
    Assures faulty post (service.invalidate tenant op >>= f) s :=
  .bind (assures_invalidate hquiet hasked)

/-! ### Looking -/

theorem assures_observing {p : StoreProgram α} (h : Observing p) (s : Setting) :
    Assures faulty
      (fun x s' => s' = s ∧ (¬faulty → x = (p.run AnyStore.backend s.store).1)) (storing p) s := by
  induction h with
  | done x => exact .done ⟨rfl, fun _ => rfl⟩
  | @call c next hc _ ih =>
    refine .perform hc.admissible fun a s' ha => ?_
    cases ha with
    | call _ hc' =>
      rw [Setting.call_of_observes hc]
      refine (ih _).mono ?_
      rintro x s' ⟨rfl, hx⟩
      refine ⟨rfl, fun hf => ?_⟩
      rw [Program.run_perform, hc.backend]
      exact hx hf
    | fault _ e _ hf =>
      refine (ih _).mono ?_
      rintro x s' ⟨rfl, -⟩
      exact ⟨rfl, fun hnot => absurd hf hnot⟩

/-- A question to which the answer is known. -/
theorem assures_ask_observing {c : Call} (hc : c.Observes) {a : c.Reply}
    (ha : (AnyStore.backend c s.store).1 = .ok a) (purpose : String) :
    Assures faulty (fun x s' => s' = s ∧ Tells faulty a x) (storing (ask purpose c)) s := by
  refine .perform hc.admissible fun b s' hb => .done ?_
  cases hb with
  | call _ hc' =>
    rw [Setting.call_of_observes hc, ha]
    exact ⟨rfl, .inl rfl⟩
  | fault _ e _ hf => exact ⟨rfl, .inr ⟨hf, _, e, rfl⟩⟩

theorem assures_isRegistered (sc : Scenario) (channel : Channel) (tenant : TenantId) :
    Assures faulty
      (fun x s' => s' = s ∧ Tells faulty (s.ledger.names.contains (.of sc channel tenant)) x)
      (storing (isRegistered sc channel tenant)) s :=
  assures_ask_observing (c := .isRegistered ..) trivial
    (congrArg Prod.fst (s.shows.isRegistered sc channel tenant)) _

theorem assures_isStored (r : ResolveRequest) :
    Assures faulty
      (fun x s' => s' = s ∧ Tells faulty (s.ledger.records.contains r.position.ref) x)
      (storing (isStored r)) s := by
  rw [isStored, storing_bind]
  refine .bind ((assures_ask_observing (c := .read r.position) trivial
    (congrArg Prod.fst (s.shows.read r.position)) _).mono ?_)
  rintro x s' ⟨rfl, rfl | ⟨hf, context, e, rfl⟩⟩
  · refine .done ⟨rfl, .inl ?_⟩
    rw [Dictionary.contains, Option.isSome_map]
  · exact ⟨rfl, .inr ⟨hf, context, e, rfl⟩⟩

/-! ### Changing -/

/-- Calls other than a write succeed but for faults. -/
theorem assures_ask {c : Call} (hc : c.Admissible) (hwrite : ∀ t scope, c ≠ .write t scope)
    (purpose : String) :
    Assures faulty
      (fun x s' => (∃ a, x = .ok a ∧ s.Becomes (Ledger.backend c s.ledger).2 s') ∨
        faulty ∧ s' = s ∧ ∃ e, x = .error (.storeFailed purpose e))
      (storing (ask purpose c)) s := by
  refine .perform hc fun b s' hb => .done ?_
  cases hb with
  | call _ hc' =>
    obtain ⟨reply, hreply⟩ : ∃ reply, (Ledger.backend c s.ledger).1 = .ok reply := by
      cases c with
      | write t scope => exact absurd rfl (hwrite t scope)
      | _ => exact ⟨_, rfl⟩
    have hagrees := s.agrees hc
    rw [hreply] at hagrees
    obtain ⟨a, ha, -⟩ := hagrees.ok
    rw [ha]
    exact .inl ⟨a, rfl, s.becomes_call hc⟩
  | fault _ e _ hf => exact .inr ⟨hf, rfl, e, rfl⟩

/-- Deleting succeeds but for faults, also where there is nothing to delete. -/
theorem assures_deleteAll (sc : Scenario) (channel : Channel) (scope : Scope) :
    Assures faulty (fun x s' => (∃ n, x = .ok n) ∨ faulty ∧ s' = s ∧ ∃ e, x = .error e)
      (storing (Durable.deleteAll sc channel scope)) s := by
  rw [Durable.deleteAll, storing_bind]
  refine .bind ((assures_isRegistered sc channel scope.tenant).mono ?_)
  rintro x s' ⟨rfl, rfl | ⟨hf, context, e, rfl⟩⟩
  · cases s'.ledger.names.contains (.of sc channel scope.tenant) with
    | true =>
      refine (assures_ask (c := .deleteAll ..) trivial (by simp) _).mono ?_
      rintro x s'' (⟨n, rfl, -⟩ | ⟨hf, rfl, e, rfl⟩)
      · exact .inl ⟨n, rfl⟩
      · exact .inr ⟨hf, rfl, _, rfl⟩
    | false => exact .done (.inl ⟨0, rfl⟩)
  · exact .inr ⟨hf, rfl, _, rfl⟩

theorem assures_addScenario (sc : Scenario) (channel : Channel) (tenant : TenantId) :
    Assures faulty
      (fun x s' => s.ledger.names.contains (.of sc channel tenant) = true ∧ s' = s ∧
          x = .error (.scenarioAlreadyExists sc.displayName channel tenant) ∨
        s.Becomes (s.ledger.register sc channel tenant) s' ∧ x = .ok () ∨
        faulty ∧ s' = s ∧ ∃ context e, x = .error (.storeFailed context e))
      (storing (Durable.addScenario sc channel tenant)) s := by
  rw [Durable.addScenario, storing_bind]
  refine .bind ((assures_isRegistered sc channel tenant).mono ?_)
  rintro x s' ⟨rfl, rfl | ⟨hf, context, e, rfl⟩⟩
  · cases hregistered : s'.ledger.names.contains (.of sc channel tenant) with
    | true => exact .done (.inl ⟨rfl, rfl, rfl⟩)
    | false =>
      refine (assures_ask (c := .add sc channel tenant) trivial (by simp) _).mono ?_
      rintro x s'' (⟨_, rfl, hbecomes⟩ | ⟨hf, rfl, e, rfl⟩)
      · exact .inr (.inl ⟨hbecomes, rfl⟩)
      · exact .inr (.inr ⟨hf, rfl, _, e, rfl⟩)
  · exact .inr (.inr ⟨hf, rfl, context, e, rfl⟩)

/-- Afterwards the scenario is registered, unless there was a fault. -/
theorem assures_ensureScenario (sc : Scenario) (channel : Channel) (tenant : TenantId) :
    Assures faulty
      (fun x s' => s.Becomes (s.ledger.register sc channel tenant) s' ∧ (∃ new, x = .ok new) ∨
        faulty ∧ s' = s ∧ ∃ e, x = .error e)
      (storing (ensureScenario sc channel tenant)) s := by
  rw [ensureScenario, storing_bind, storing_attempt]
  refine .bind (.attempt ((assures_addScenario sc channel tenant).mono ?_))
  rintro x s' (⟨hregistered, rfl, rfl⟩ | ⟨hbecomes, rfl⟩ | ⟨hf, rfl, context, e, rfl⟩)
  · refine .done (.inl ⟨?_, false, rfl⟩)
    rw [Ledger.register_of_contains hregistered]
    exact .refl s'
  · exact .done (.inl ⟨hbecomes, true, rfl⟩)
  · exact .done (.inr ⟨hf, rfl, _, rfl⟩)

/-- Storing a template for a scenario that is registered. -/
theorem assures_upsert {t : Template} {scope : Scope}
    (hname : ∃ name, s.ledger.names.get? (.ofTemplate t.normalized scope) = some name) :
    Assures faulty
      (fun x s' => s.Becomes (Ledger.backend (.write t.normalized scope) s.ledger).2 s' ∧ x = .ok () ∨
        (¬faulty → t.validateForWrite ≠ .ok ()) ∧ s' = s ∧ ∃ e, x = .error e)
      (storing (Durable.upsert t scope)) s := by
  obtain ⟨name, hname⟩ := hname
  rw [Durable.upsert, storing_bind]
  cases ht : t.validateForWrite with
  | error e => exact .done (.inr ⟨fun _ => by simp, rfl, e, rfl⟩)
  | ok u =>
    have hwrite : Call.Admissible (.write t.normalized scope) := Template.storable_normalized ht
    refine .perform hwrite fun a s' ha => .done ?_
    cases ha with
    | call _ hc =>
      have hagrees := s.agrees hwrite
      have hanswer : (Ledger.backend (.write t.normalized scope) s.ledger).1 = .ok () := by
        rw [Ledger.backend, hname]
      rw [hanswer] at hagrees
      obtain ⟨v, hv, -⟩ := hagrees.ok
      rw [hv]
      exact .inl ⟨s.becomes_call hwrite, rfl⟩
    | fault _ e _ hf => exact .inr ⟨fun hnot => absurd hf hnot, rfl, _, rfl⟩

/-- The template is stored, or it was refused, or a fault came before that. -/
def Seats (faulty : Prop) (sc : Scenario) (t : Template) (scope : Scope) (s : Setting)
    (x : Except Failure Unit) (s' : Setting) : Prop :=
  s.Becomes (s.ledger.seat sc t scope) s' ∧ x = .ok () ∨
    (¬faulty → t.validateForWrite ≠ .ok ()) ∧
      (s' = s ∨ s.Becomes (s.ledger.register sc t.channel scope.tenant) s') ∧ ∃ e, x = .error e

theorem assures_registerAndWrite {t : Template} {sc : Scenario}
    (hs : Scenario.parse t.scenario = .ok sc) (scope : Scope) :
    Assures faulty (Seats faulty sc t scope s) (storing (registerAndWrite sc t scope)) s := by
  rw [registerAndWrite, storing_bind, storing_discard]
  refine .bind (.bind ((assures_ensureScenario sc t.channel scope.tenant).mono ?_))
  rintro x s' (⟨hbecomes, new, rfl⟩ | ⟨hf, rfl, e, rfl⟩)
  · refine .done ((assures_upsert ?_).mono ?_)
    · rw [hbecomes.ledger]
      exact s.ledger.registered_for_write hs scope
    · rintro x s'' (⟨hwritten, rfl⟩ | ⟨hvalid, rfl, e, rfl⟩)
      · rw [hbecomes.ledger] at hwritten
        exact .inl ⟨hbecomes.trans hwritten, rfl⟩
      · exact .inr ⟨hvalid, .inr hbecomes, e, rfl⟩
  · exact .inr ⟨fun hnot => absurd hf hnot, .inl rfl, e, rfl⟩

end Service
end Missive

import Missive.Proofs.Layers.Evaluation
import Missive.Proofs.Service.Plain

/-! What some operations of the service come to in plain surroundings, told from the ledger. -/

namespace Missive

open Store

namespace Service

variable {α β : Type} {layers : Layers} {directory : Tenant.Directory}
  {form : Template → Template} {l : Ledger}

theorem run_storing (directory : Tenant.Directory) (form : Template → Template)
    (p : StoreProgram α) (l : Ledger) :
    (storing p).run (plainAnswer directory form) l = p.run (Ledger.giving form) l := by
  induction p generalizing l with
  | done x => rfl
  | perform c next ih => exact ih _ _

theorem run_storing_bind {p : StoreProgram α} {a : α} {l' : Ledger}
    (hp : p.run (Ledger.giving form) l = (.ok a, l')) (f : α → ServiceProgram β) :
    (storing p >>= f).run (plainAnswer directory form) l =
      (f a).run (plainAnswer directory form) l' :=
  Program.run_bind_ok ((run_storing directory form p l).trans hp) f

theorem run_resolveTenant_bind {domain : String} {tenant : TenantId}
    (h : directory.resolve domain = .ok tenant) (f : TenantId → ServiceProgram α) (l : Ledger) :
    (resolveTenant domain >>= f).run (plainAnswer directory form) l =
      (f tenant).run (plainAnswer directory form) l := by
  have htenant : (resolveTenant domain).run (plainAnswer directory form) l = (.ok tenant, l) := by
    rw [resolveTenant, Program.run_perform, plainAnswer, h]
    rfl
  exact Program.run_bind_ok htenant f

/-- Without a tenant an operation fails, and has not been at the store. -/
theorem run_resolveTenant_bind_error {domain : String} {e : Tenant.Error}
    (h : directory.resolve domain = .error e) (f : TenantId → ServiceProgram α) (l : Ledger) :
    (resolveTenant domain >>= f).run (plainAnswer directory form) l =
      (.error (.unresolvedTenant domain e), l) := by
  change (Program.perform _ _).run (plainAnswer directory form) l = _
  rw [Program.run_perform, plainAnswer, h]
  rfl

theorem run_scopeIn_bind {domain : String} {application : Option String} (scope : Scope)
    (htenant : directory.resolve domain = .ok scope.tenant)
    (hscope : Scope.parse scope.tenant application = .ok scope) (f : Scope → ServiceProgram α)
    (l : Ledger) :
    (scopeIn domain application >>= f).run (plainAnswer directory form) l =
      (f scope).run (plainAnswer directory form) l := by
  obtain ⟨app, happ, heq⟩ := scope_parse_eq_ok hscope
  rw [scopeIn_bind, happ]
  refine (run_resolveTenant_bind htenant _ l).trans ?_
  rw [← heq]

/-! ### Looking up -/

theorem Inquiry.Means.unique {i : Inquiry} {r r' : ResolveRequest} (h : i.Means directory r)
    (h' : i.Means directory r') : r = r' := by
  have htenant : r.scope.tenant = r'.scope.tenant :=
    Except.ok.inj (h.tenant.symm.trans h'.tenant)
  exact Except.ok.inj (h.parsed.symm.trans (htenant ▸ h'.parsed))

/-- An inquiry stands for a request, with which an operation goes on, or else it is refused whatever
the store has. -/
theorem run_request_bind (directory : Tenant.Directory) (i : Inquiry) :
    (∃ r, i.Means directory r ∧ ∀ {α : Type} (f : ResolveRequest → ServiceProgram α) form l,
      (request i.scenario i.locale i.channel i.domain i.application >>= f).run
        (plainAnswer directory form) l = (f r).run (plainAnswer directory form) l) ∨
    (∀ r, ¬i.Means directory r) ∧
      ∃ e, ∀ {α : Type} (f : ResolveRequest → ServiceProgram α) form l,
        (request i.scenario i.locale i.channel i.domain i.application >>= f).run
          (plainAnswer directory form) l = (.error e, l) := by
  rcases request_cases i.scenario i.locale i.channel i.domain i.application with
    ⟨e, hparse, hrequest⟩ | ⟨r, hr, hrequest⟩
  · refine .inr ⟨fun r hr => ?_, .ofIdentifier e, fun f form l => ?_⟩
    · cases (hparse _).symm.trans hr.parsed
    · rw [hrequest]
      rfl
  · cases htenant : directory.resolve i.domain with
    | error e =>
      refine .inr ⟨fun r' hr' => ?_, .unresolvedTenant i.domain e, fun f form l => ?_⟩
      · have hr' := hr'.tenant
        rw [htenant] at hr'
        cases hr'
      · rw [hrequest, Program.run_perform, plainAnswer, htenant]
        rfl
    | ok tenant =>
      obtain ⟨hscope, hparse⟩ := hr tenant
      refine .inl ⟨r tenant, ⟨by rw [htenant, hscope], by rw [hscope, hparse]⟩,
        fun f form l => ?_⟩
      rw [hrequest, Program.run_perform, plainAnswer, htenant]
      rfl

/-- Looking up comes to what its request comes to. -/
theorem plainly_inquiry (layers : Layers) (directory : Tenant.Directory) (i : Inquiry) :
    (∃ r, i.Means directory r ∧
      ∀ (form : Template → Template) [Template.Neutral form] (l : Ledger), l.Sound →
        (plainly layers directory form i.operation l).1 = layers.resolution l form r) ∨
    (∀ r, ¬i.Means directory r) ∧
      ∃ e, ∀ form l, (plainly layers directory form i.operation l).1 = .error e := by
  have hprogram : program ⟨layers, false⟩ i.operation =
      request i.scenario i.locale i.channel i.domain i.application >>= fun r =>
        storing (layers.resolve r) >>= fun found => pure found.template := resolve_eq_storing ..
  rcases run_request_bind directory i with ⟨r, hr, hrun⟩ | ⟨hr, e, hrun⟩
  · refine .inl ⟨r, hr, fun form _ l hl => ?_⟩
    obtain ⟨hresolve, -⟩ := layers.run_resolve (shows_giving l form) hl r
    have hbind := Program.run_bind (plainAnswer directory form) (storing (layers.resolve r))
      (fun found => (pure found.template : ServiceProgram Template)) l
    rw [run_storing] at hbind
    rw [plainly, hprogram, ← hresolve]
    refine congrArg Prod.fst ((hrun _ form l).trans hbind) |>.trans ?_
    cases (layers.resolve r).run (Ledger.giving form) l with
    | mk x k => cases x <;> rfl
  · refine .inr ⟨hr, e, fun form l => ?_⟩
    rw [plainly, hprogram]
    exact congrArg Prod.fst (hrun _ form l)

/-- A look-up comes to just what it comes to in plain surroundings. -/
theorem Course.Keeps.outcome_inquiry {service : Service} {c : Course}
    (h : c.Keeps service directory l) (i : Inquiry) :
    c.outcome service i.operation =
      (plainly service.layers directory c.state.store.form i.operation l).1 := by
  obtain ⟨hsame, -⟩ := h.step i.operation
  exact Outcome.Alike.eq hsame

/-- A look-up that stands for a request comes to what the request comes to. -/
theorem Course.Keeps.outcome_means {service : Service} {c : Course}
    (h : c.Keeps service directory l) {i : Inquiry} {r : ResolveRequest}
    (hr : i.Means directory r) :
    c.outcome service i.operation = service.layers.resolution l c.state.store.form r := by
  rw [h.outcome_inquiry]
  rcases plainly_inquiry service.layers directory i with ⟨r', hr', hlooked⟩ | ⟨hrefused, -⟩
  · obtain rfl := hr.unique hr'
    exact hlooked _ _ h.sound
  · exact absurd hr (hrefused r)

/-- A look-up comes to the same in two courses if the request that it stands for does. -/
theorem Course.Keeps.outcome_inquiry_congr {service : Service} {c c' : Course} {l' : Ledger}
    (h : c.Keeps service directory l) (h' : c'.Keeps service directory l') {i : Inquiry}
    (hresolution : ∀ r, i.Means directory r →
      service.layers.resolution l' c'.state.store.form r =
        service.layers.resolution l c.state.store.form r) :
    c'.outcome service i.operation = c.outcome service i.operation := by
  rcases plainly_inquiry service.layers directory i with ⟨r, hr, -⟩ | ⟨-, e, hrefused⟩
  · rw [h.outcome_means hr, h'.outcome_means hr, hresolution r hr]
  · rw [h.outcome_inquiry, h'.outcome_inquiry, hrefused, hrefused]

/-! ### Writing -/

/-- The place that the arguments of an upsert stand for. -/
structure UpsertsAt (directory : Tenant.Directory) (t : Template) (domain : String)
    (application : Option String) (p : Position) : Prop where
  scenario : Scenario.parse t.scenario = .ok p.scenario
  locale : Locale.parse t.locale = .ok p.locale
  channel : p.channel = t.channel
  tenant : directory.resolve domain = .ok p.scope.tenant
  scope : Scope.parse p.scope.tenant application = .ok p.scope

/-- An upsert that succeeds has accepted all its arguments. -/
theorem upsertsAt_of_plainly {t : Template} {domain : String} {application : Option String}
    (h : (plainly layers directory form (.upsert t domain application) l).1 = .ok ()) :
    t.validateForWrite = .ok () ∧ ∃ p, UpsertsAt directory t domain application p := by
  change ((upsert ⟨layers, false⟩ t domain application).run (plainAnswer directory form) l).1 =
    .ok () at h
  rw [upsert] at h
  simp only [scopeIn_bind] at h
  cases ht : t.validateForWrite with
  | error e =>
    rw [ht] at h
    cases h
  | ok u =>
    obtain ⟨-, htag, -⟩ := Template.validateForWrite_eq_ok_iff.1 ht
    obtain ⟨locale, hlocale⟩ := Locale.parse_of_check htag
    refine ⟨rfl, ?_⟩
    rw [ht] at h
    cases hs : Scenario.parse t.scenario with
    | error e =>
      rw [hs] at h
      cases h
    | ok s =>
      cases happ : parseApplication application with
      | error e =>
        rw [hs, happ] at h
        cases h
      | ok app =>
        rw [hs, happ] at h
        cases htenant : directory.resolve domain with
        | error e =>
          have hfails := (congrArg Prod.fst (run_resolveTenant_bind_error htenant _ l)).symm.trans h
          cases hfails
        | ok tenant =>
          refine ⟨⟨s, locale, t.channel, ⟨tenant, app⟩⟩, hs, hlocale, rfl, htenant, ?_⟩
          rw [scope_parse_eq, happ]
          rfl

theorem UpsertsAt.ref_eq {t : Template} {domain : String} {application : Option String}
    {p : Position} (h : UpsertsAt directory t domain application p) :
    p.ref = ⟨.ofTemplate t.normalized p.scope, p.scope.applicationText, t.normalized.locale⟩ := by
  have hlocale : p.locale.tag = t.normalized.locale := Locale.tag_of_parse h.locale
  rw [ScenarioRef.ofTemplate_normalized h.scenario, Position.ref, h.channel, hlocale]

/-- An upsert registers the scenario of the template, and stores the template under the name that
the scenario is registered with. -/
theorem plainly_upsert {t : Template} (ht : t.validateForWrite = .ok ()) {domain : String}
    {application : Option String} {p : Position} (hp : UpsertsAt directory t domain application p)
    {name : String}
    (hname : (l.register p.scenario p.channel p.scope.tenant).names.get? p.ref.scenario = some name) :
    plainly layers directory form (.upsert t domain application) l =
      (.ok (), { l.register p.scenario p.channel p.scope.tenant with
        records := l.records.put p.ref { t.normalized with scenario := name } }) := by
  have hregister : (discard (Durable.ensureScenario p.scenario t.channel p.scope.tenant)).run
      (Ledger.giving form) l = (.ok (), l.register p.scenario t.channel p.scope.tenant) :=
    Program.run_bind_ok (Durable.run_ensureScenario p.scenario t.channel p.scope.tenant) _
  rw [hp.channel, hp.ref_eq] at hname
  have hattempt := Program.run_attempt (Ledger.giving form) (Durable.upsert t p.scope)
    (l.register p.scenario t.channel p.scope.tenant)
  rw [Durable.run_upsert ht hname] at hattempt
  have hstoring := run_storing directory form (Durable.upsert t p.scope).attempt
    (l.register p.scenario t.channel p.scope.tenant)
  rw [storing_attempt, hattempt] at hstoring
  change (upsert ⟨layers, false⟩ t domain application).run (plainAnswer directory form) l = _
  rw [upsert, ht, hp.scenario]
  refine (run_scopeIn_bind p.scope hp.tenant hp.scope _ l).trans ?_
  rw [← storing_discard]
  refine (run_storing_bind hregister _).trans ((Program.run_bind_ok hstoring _).trans ?_)
  rw [hp.ref_eq, hp.channel, Ledger.records_register]
  rfl

section

variable {text domain : String} {s : Scenario} {channel : Channel} {tenant : TenantId}
  (hs : Scenario.parse text = .ok s) (htenant : directory.resolve domain = .ok tenant)
include hs htenant

theorem plainly_addScenario :
    plainly layers directory form (.addScenario text channel domain) l =
      (if l.names.contains (.of s channel tenant) then
          .error (.scenarioAlreadyExists s.displayName channel tenant)
        else .ok (), l.register s channel tenant) := by
  change (Service.addScenario text channel domain).run (plainAnswer directory form) l = _
  rw [Service.addScenario, hs]
  refine (run_resolveTenant_bind htenant _ l).trans ?_
  rw [run_storing, Durable.run_addScenario]

theorem plainly_deleteScenario :
    plainly layers directory form (.deleteScenario text channel domain) l =
      (.ok (l.names.contains (.of s channel tenant)), l.forget (.of s channel tenant)) := by
  have hremove : (Durable.removeScenario s channel tenant).run (Ledger.giving form) l =
      (.ok (l.names.contains (.of s channel tenant)), l.forget (.of s channel tenant)) := rfl
  change (deleteScenario ⟨layers, false⟩ text channel domain).run (plainAnswer directory form) l = _
  rw [deleteScenario, hs]
  refine (run_resolveTenant_bind htenant _ l).trans ((run_storing_bind hremove _).trans ?_)
  cases l.names.contains (.of s channel tenant) <;> rfl

theorem plainly_listTemplates (layers : Layers) (form : Template → Template) (channel : Channel)
    (hl : l.Sound) {application : Option String} {app : Option Identifier.ApplicationId}
    (happ : parseApplication application = .ok app) :
    ∃ stored : List Template,
      stored.Perm ((l.within (.of s channel tenant) (app.map (·.text))).map form) ∧
      (plainly layers directory form (.listTemplates text channel domain application) l).1 =
        if l.names.contains (.of s channel tenant) || layers.defaults.contains s channel then
          .ok (Layers.finish stored (layers.defaults.get? s channel).toList)
        else .error (.scenarioNotFound s.displayName channel tenant) := by
  obtain ⟨stored, hstored, hlist⟩ := layers.run_listByScenario (shows_giving l form) hl s channel
    ⟨tenant, app⟩
  refine ⟨stored, hstored, ?_⟩
  change ((listTemplates ⟨layers, false⟩ text channel domain application).run
    (plainAnswer directory form) l).1 = _
  have hscope : Scope.parse tenant application = .ok ⟨tenant, app⟩ := by
    rw [scope_parse_eq, happ]
    rfl
  rw [listTemplates, hs]
  refine (congrArg Prod.fst (run_scopeIn_bind ⟨tenant, app⟩ htenant hscope _ l)).trans ?_
  rw [run_storing]
  exact congrArg Prod.fst hlist

end

theorem plainly_listAllTemplates {domain : String} {tenant : TenantId}
    (htenant : directory.resolve domain = .ok tenant) (channel : Channel) :
    (plainly layers directory form (.listAllTemplates channel domain) l).1 =
      .ok (Layers.finish ((l.organization channel tenant).map form)
        (layers.defaults.forChannel channel)) := by
  change ((listAllTemplates ⟨layers, false⟩ channel domain).run (plainAnswer directory form) l).1 = _
  rw [listAllTemplates]
  refine (congrArg Prod.fst (run_resolveTenant_bind htenant _ l)).trans ?_
  rw [run_storing]
  rfl

theorem plainly_listScenarios {domain : String} {tenant : TenantId}
    (htenant : directory.resolve domain = .ok tenant) (channel : Channel) :
    (plainly layers directory form (.listScenarios channel domain) l).1 =
      .ok (mergeNames (l.namesOf channel tenant).values (layers.defaults.scenarioNames channel)) := by
  change ((listScenarios ⟨layers, false⟩ channel domain).run (plainAnswer directory form) l).1 = _
  rw [listScenarios]
  refine (congrArg Prod.fst (run_resolveTenant_bind htenant _ l)).trans ?_
  rw [run_storing]
  rfl

/-- The listing of an organization's templates has its records and the defaults. -/
theorem Course.Keeps.outcome_listAllTemplates {service : Service} {c : Course}
    (h : c.Keeps service directory l) {domain : String} {tenant : TenantId}
    (htenant : directory.resolve domain = .ok tenant) (channel : Channel) :
    ∃ ts, c.outcome service (.listAllTemplates channel domain) = .ok ts ∧
      ts.Perm (Layers.finish ((l.organization channel tenant).map c.state.store.form)
        (service.layers.defaults.forChannel channel)) := by
  obtain ⟨hsame, -⟩ := h.step (.listAllTemplates channel domain)
  rw [plainly_listAllTemplates htenant] at hsame
  exact hsame.exists_ok

/-- The listing of the scenarios has those that are registered and those with a default. -/
theorem Course.Keeps.outcome_listScenarios {service : Service} {c : Course}
    (h : c.Keeps service directory l) {domain : String} {tenant : TenantId}
    (htenant : directory.resolve domain = .ok tenant) (channel : Channel) :
    ∃ names, c.outcome service (.listScenarios channel domain) = .ok names ∧
      names.Perm (mergeNames (l.namesOf channel tenant).values
        (service.layers.defaults.scenarioNames channel)) := by
  obtain ⟨hsame, -⟩ := h.step (.listScenarios channel domain)
  rw [plainly_listScenarios htenant] at hsame
  exact hsame.exists_ok

/-- A deletion that succeeds has accepted the scenario's name and the tenant's domain. -/
theorem exists_scenario_of_plainly {text domain : String} {channel : Channel} {removed : Bool}
    (h : (plainly layers directory form (.deleteScenario text channel domain) l).1 = .ok removed) :
    ∃ s tenant, Scenario.parse text = .ok s ∧ directory.resolve domain = .ok tenant := by
  change ((deleteScenario ⟨layers, false⟩ text channel domain).run
    (plainAnswer directory form) l).1 = .ok removed at h
  rw [deleteScenario] at h
  cases hs : Scenario.parse text with
  | error e =>
    rw [hs] at h
    cases h
  | ok s =>
    cases htenant : directory.resolve domain with
    | error e =>
      rw [hs] at h
      have hfails := (congrArg Prod.fst (run_resolveTenant_bind_error htenant _ l)).symm.trans h
      cases hfails
    | ok tenant => exact ⟨s, tenant, rfl, rfl⟩

end Service
end Missive

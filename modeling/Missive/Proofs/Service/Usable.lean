import Missive.Proofs.Layers.Usable
import Missive.Proofs.Service.Failing

/-! What callers get, as long as no store call fails. Every template is accepted, normalized and
complete, and the one that was asked for; and operations fail for want of a tenant, a scenario or a
template only, or because of their input. -/

namespace Missive

open Store Identifier

namespace Service

namespace Operation

/-- Failures that come up although no store call fails. A template is stored also for a scenario that
was not there. -/
def MayFail (o : Operation) : Failure → Prop
  | .storeFailed .. | .emptyContent .. => False
  | .scenarioNotFound .. => o.template? = none
  | .invalidInput _ | .scenarioAlreadyExists .. | .templateNotFound .. | .unresolvedTenant .. => True

/-- The templates in a reply are of use, and they are what was asked for. -/
def Returns (locales : DefaultLocales) : (o : Operation) → o.Reply → Prop
  | .resolve scenario locale channel .., t => t.Usable channel ∧
      t.scenarioKey = ScenarioName.key scenario ∧
      (t.locale = LocaleTag.normalize locale ∨ t.locale = (locales.forChannel channel).tag)
  | .listTemplates scenario channel .., ts => ∀ t ∈ ts, t.Usable channel ∧
      t.scenarioKey = ScenarioName.key scenario
  | .listAllTemplates channel _, ts => ∀ t ∈ ts, t.Usable channel
  | .templateExists .., _ | .scenarioExists .., _ | .listScenarios .., _ | .addScenario .., _
  | .upsert .., _ | .deleteTemplate .., _ | .deleteTemplates .., _ | .deleteScenario .., _
  | .addDefaultTemplates .., _ => True

/-- The outcome is as callers may expect it. -/
def Proper (locales : DefaultLocales) (o : Operation) : Except Failure o.Reply → Prop
  | .ok reply => o.Returns locales reply
  | .error e => o.MayFail e

end Operation

open StoreProgram

variable {layers : Layers} {o : Operation} {s : Setting}

/-- Without faults, the program comes to an outcome as callers may expect it. -/
abbrev Serves (locales : DefaultLocales) (o : Operation) (p : ServiceProgram o.Reply) (s : Setting) :
    Prop :=
  Assures False (fun x _ => o.Proper locales x) p s

theorem serves_checked {locales : DefaultLocales} {β : Type} {parsed : Except Identifier.Error β}
    {f : β → ServiceProgram o.Reply} (hf : ∀ b, parsed = .ok b → Serves locales o (f b) s) :
    Serves locales o (checked parsed >>= f) s :=
  assures_checked_bind (fun _ _ => trivial) hf

theorem serves_resolveTenant {locales : DefaultLocales} {domain : String}
    {f : TenantId → ServiceProgram o.Reply}
    (hf : ∀ tenant, Serves locales o (f tenant) (s.told domain)) :
    Serves locales o (resolveTenant domain >>= f) s :=
  assures_resolveTenant_bind (fun _ _ => trivial) fun tenant _ => hf tenant

theorem serves_scopeIn {locales : DefaultLocales} {domain : String} {application : Option String}
    {f : Scope → ServiceProgram o.Reply}
    (hf : ∀ tenant app, Serves locales o (f ⟨tenant, app⟩) (s.told domain)) :
    Serves locales o (scopeIn domain application >>= f) s := by
  rw [scopeIn_bind]
  exact serves_checked fun app _ => serves_resolveTenant fun tenant => hf tenant app

theorem serves_request {locales : DefaultLocales} {i : Inquiry}
    {f : ResolveRequest → ServiceProgram o.Reply}
    (hf : ∀ r : ResolveRequest,
      ResolveRequest.parse i.scenario i.locale i.channel r.scope.tenant i.application = .ok r →
      Serves locales o (f r) (s.told i.domain)) :
    Serves locales o (request i.scenario i.locale i.channel i.domain i.application >>= f) s :=
  assures_request_bind (fun _ _ => trivial) (fun _ _ => trivial) fun r _ hr => hf r hr

/-- A store program that only looks comes to what it comes to by itself. -/
theorem serves_observing {locales : DefaultLocales} {p : StoreProgram o.Reply} (hp : Observing p)
    (h : o.Proper locales (p.run AnyStore.backend s.store).1) : Serves locales o (storing p) s := by
  refine (assures_observing hp s).mono ?_
  rintro x s' ⟨-, hx⟩
  rwa [hx id]

section

variable (hcatalog : layers.defaults.Valid layers.locales)
include hcatalog

theorem serves_resolve (scenario locale : String) (channel : Channel) (domain : String)
    (application : Option String) (s : Setting) :
    Serves layers.locales (.resolve scenario locale channel domain application)
      (resolve ⟨layers, false⟩ scenario locale channel domain application) s := by
  rw [resolve_eq_storing]
  refine serves_request (i := ⟨scenario, locale, channel, domain, application⟩) fun r hr => ?_
  refine .bind ((assures_observing (layers.observing_resolve r) _).mono ?_)
  rintro x s' ⟨-, hx⟩
  rw [hx id]
  obtain ⟨hrun, -⟩ := layers.run_resolve (s.told domain).shows s.sound r
  obtain ⟨hs, hl, hchannel, -⟩ := ResolveRequest.parse_eq_ok hr
  cases houtcome : ((layers.resolve r).run AnyStore.backend (s.told domain).store).1 with
  | error e =>
    rw [houtcome] at hrun
    obtain rfl := layers.error_of_resolution hcatalog hrun.symm
    exact trivial
  | ok found =>
    rw [houtcome] at hrun
    refine .done ?_
    obtain ⟨u, chosen, hchosen, hfits, hu⟩ := layers.fits_of_resolution hcatalog s.sound hrun.symm
    change Operation.Returns _ (.resolve scenario locale channel domain application) found.template
    obtain rfl : channel = r.channel := hchannel.symm
    rw [← hu]
    refine ⟨hfits.usable, ?_, ?_⟩
    · rw [Template.scenarioKey_withUtf8Charset, hfits.key]
      exact Scenario.key_of_parse hs
    · rw [Template.locale_withUtf8Charset, hfits.locale, ← Locale.tag_of_parse hl]
      exact hchosen.imp (congrArg Locale.tag) (congrArg Locale.tag)

theorem serves_listTemplates (scenario : String) (channel : Channel) (domain : String)
    (application : Option String) (s : Setting) :
    Serves layers.locales (.listTemplates scenario channel domain application)
      (listTemplates ⟨layers, false⟩ scenario channel domain application) s := by
  refine serves_checked fun sc hs => serves_scopeIn fun tenant app => ?_
  refine serves_observing (layers.observing_listByScenario ..) ?_
  obtain ⟨stored, hstored, hrun⟩ := layers.run_listByScenario (s.told domain).shows s.sound sc channel
    ⟨tenant, app⟩
  rw [hrun]
  split
  · intro t ht
    obtain ⟨u, hu, rfl⟩ := Layers.mem_finish ht
    rw [Template.scenarioKey_withUtf8Charset, ← Scenario.key_of_parse hs]
    rcases hu with hu | hu
    · obtain ⟨v, hv, rfl⟩ := List.mem_map.1 (hstored.mem_iff.1 hu)
      obtain ⟨tag, hrecord⟩ := Ledger.mem_within.1 hv
      have hfits := s.sound.fits hrecord s.store
      exact ⟨hfits.usable, hfits.key⟩
    · obtain ⟨hmem, hchannel, hkey⟩ := Catalog.get?_eq_some (Option.mem_toList.1 hu)
      exact ⟨hchannel ▸ (hcatalog.storable u hmem).usable, hkey⟩
  · rfl

theorem serves_listAllTemplates (channel : Channel) (domain : String) (s : Setting) :
    Serves layers.locales (.listAllTemplates channel domain)
      (listAllTemplates ⟨layers, false⟩ channel domain) s := by
  refine serves_resolveTenant fun tenant => ?_
  refine serves_observing (layers.observing_listAll ..) ?_
  obtain ⟨stored, hanswer, hstored⟩ :=
    ((s.told domain).agrees (c := .listAll channel tenant) trivial).ok
  have hask := Durable.run_ask (Prod.ext hanswer rfl)
    s!"listing {channel} templates in tenant {tenant}"
  rw [Layers.listAll, Program.run_bind_ok hask]
  intro t ht
  obtain ⟨u, hu, rfl⟩ := Layers.mem_finish ht
  rcases hu with hu | hu
  · obtain ⟨v, hv, rfl⟩ := List.mem_map.1 (hstored.mem_iff.1 hu)
    obtain ⟨r, hrecord, ⟨-, rfl⟩, -⟩ := Ledger.mem_organization.1 hv
    exact (s.sound.fits hrecord s.store).usable
  · obtain ⟨hmem, hchannel⟩ := List.mem_filter.1 hu
    exact of_decide_eq_true hchannel ▸ (hcatalog.storable u hmem).usable

end

theorem serves_listScenarios (channel : Channel) (domain : String) (s : Setting) :
    Serves layers.locales (.listScenarios channel domain)
      (listScenarios ⟨layers, false⟩ channel domain) s := by
  refine serves_resolveTenant fun tenant => ?_
  refine serves_observing (layers.observing_listScenarios ..) ?_
  obtain ⟨names, hanswer, -⟩ :=
    ((s.told domain).agrees (c := .listScenarios channel tenant) trivial).ok
  have hask := Durable.run_ask (Prod.ext hanswer rfl)
    s!"listing {channel} scenarios in tenant {tenant}"
  rw [Layers.listScenarios, Program.run_bind_ok hask]
  trivial

/-! ### Operations that change the store -/

theorem serves_addScenario (locales : DefaultLocales) (scenario : String) (channel : Channel)
    (domain : String) (s : Setting) :
    Serves locales (.addScenario scenario channel domain)
      (Service.addScenario scenario channel domain) s := by
  refine serves_checked fun sc _ => serves_resolveTenant fun tenant => ?_
  refine (assures_addScenario sc channel tenant).mono ?_
  rintro x s' (⟨-, -, rfl⟩ | ⟨-, rfl⟩ | ⟨hf, -⟩)
  · trivial
  · trivial
  · cases hf

theorem serves_upsert (service : Service) (locales : DefaultLocales) (t : Template) (domain : String)
    (application : Option String) (s : Setting) :
    Serves locales (.upsert t domain application) (service.upsert t domain application) s := by
  rw [upsert]
  cases ht : t.validateForWrite with
  | error e =>
    obtain ⟨fault, rfl⟩ := Template.exists_fault_of_validateForWrite ht
    exact .done trivial
  | ok u =>
    refine serves_checked fun sc hs => serves_scopeIn fun tenant app => ?_
    refine .bind (.bind ((assures_ensureScenario sc t.channel tenant).mono ?_))
    rintro x s₁ (⟨hbecomes, new, rfl⟩ | ⟨hf, -⟩)
    · -- With its scenario registered, the write is not refused.
      refine .done (.bind (.attempt ((assures_upsert ?_).mono ?_)))
      · rw [hbecomes.ledger]
        exact Ledger.registered_for_write _ hs _
      · rintro x s₂ (⟨-, rfl⟩ | ⟨hvalid, -⟩)
        · exact assures_invalidate trivial trivial
        · exact absurd ht (hvalid id)
    · cases hf

theorem serves_deleteTemplate (service : Service) (locales : DefaultLocales)
    (scenario locale : String) (channel : Channel) (domain : String) (application : Option String)
    (s : Setting) :
    Serves locales (.deleteTemplate scenario locale channel domain application)
      (service.deleteTemplate scenario locale channel domain application) s := by
  refine serves_request (i := ⟨scenario, locale, channel, domain, application⟩) fun r _ => ?_
  refine .bind ((assures_ask (c := .delete r.position) trivial (by simp) _).mono ?_)
  rintro x s' (⟨deleted, rfl, -⟩ | ⟨hf, -⟩)
  · cases deleted with
    | true => exact assures_invalidate_bind (.done trivial) (.done trivial)
    | false => exact .done trivial
  · cases hf

theorem serves_deleteTemplates (service : Service) (locales : DefaultLocales) (scenario : String)
    (channel : Channel) (domain : String) (application : Option String) (s : Setting) :
    Serves locales (.deleteTemplates scenario channel domain application)
      (service.deleteTemplates scenario channel domain application) s := by
  refine serves_checked fun sc _ => serves_scopeIn fun tenant app => ?_
  refine .bind ((assures_deleteAll sc channel ⟨tenant, app⟩).mono ?_)
  rintro x s' (⟨n, rfl⟩ | ⟨hf, -⟩)
  · exact assures_invalidate_bind (.done trivial) (.done trivial)
  · cases hf

theorem serves_deleteScenario (service : Service) (locales : DefaultLocales) (scenario : String)
    (channel : Channel) (domain : String) (s : Setting) :
    Serves locales (.deleteScenario scenario channel domain)
      (service.deleteScenario scenario channel domain) s := by
  refine serves_checked fun sc _ => serves_resolveTenant fun tenant => ?_
  refine .bind ((assures_ask (c := .remove sc channel tenant) trivial (by simp) _).mono ?_)
  rintro x s' (⟨removed, rfl, -⟩ | ⟨hf, -⟩)
  · cases removed with
    | true => exact assures_invalidate_bind (.done trivial) (.done trivial)
    | false => exact .done trivial
  · cases hf

theorem serves_addDefaultTemplates (service : Service) (locales : DefaultLocales)
    (hvalid : ∀ t ∈ service.layers.defaults.templates, t.validateForWrite = .ok ())
    (channel : Channel) (domain : String) (s : Setting) :
    Serves locales (.addDefaultTemplates channel domain)
      (service.addDefaultTemplates channel domain) s := by
  refine (assures_addDefaultTemplates service channel domain s).mono ?_
  rintro x s' (⟨e, -, rfl, -⟩ | ⟨tenant, -, hseeds⟩)
  · trivial
  · obtain ⟨n, rfl⟩ := hseeds.succeeds id fun t ht => hvalid t (List.mem_of_mem_filter ht)
    trivial

/-- Without caches and faults, every outcome is as callers may expect it. -/
theorem serves_program (hcatalog : layers.defaults.Valid layers.locales) (o : Operation)
    (s : Setting) : Serves layers.locales o (program ⟨layers, false⟩ o) s := by
  cases o with
  | resolve => exact serves_resolve hcatalog ..
  | templateExists scenario locale channel domain application =>
    refine serves_request (i := ⟨scenario, locale, channel, domain, application⟩) fun r _ => ?_
    refine serves_observing (layers.observing_templateExists r) ?_
    rw [layers.run_templateExists (s.told domain).shows]
    trivial
  | scenarioExists scenario channel domain =>
    refine serves_checked fun sc _ => serves_resolveTenant fun tenant => ?_
    refine serves_observing (layers.observing_scenarioExists ..) ?_
    rw [layers.run_scenarioExists (s.told domain).shows]
    trivial
  | listTemplates => exact serves_listTemplates hcatalog ..
  | listAllTemplates => exact serves_listAllTemplates hcatalog ..
  | listScenarios => exact serves_listScenarios ..
  | addScenario => exact serves_addScenario ..
  | upsert => exact serves_upsert ..
  | deleteTemplate => exact serves_deleteTemplate ..
  | deleteTemplates => exact serves_deleteTemplates ..
  | deleteScenario => exact serves_deleteScenario ..
  | addDefaultTemplates =>
    exact serves_addDefaultTemplates _ _ (fun t ht => (hcatalog.storable t ht).valid) ..

/-! ### Courses without faults -/

/-- The course has a sound store and meets with no fault; what is cached is current. -/
structure Course.Calm (service : Service) (c : Course) : Prop where
  sound : c.state.store.Sound
  faultless : c.Faultless
  current : service.caches = true → Current service.layers none c.state

namespace Course.Calm

variable {service : Service} {c : Course}

theorem start (service : Service) (kind : Kind) (retention : Retention) (tenants : Tenant.Lookup)
    (losses : List (List Loss)) :
    ((Course.start kind retention tenants []).losing losses).Calm service where
  sound := AnyStore.sound_empty kind
  faultless := faultless_losing _ losses
  current _ := Current.start service.layers kind retention tenants []

theorem after (h : c.Calm service) (o : Operation) : (c.after service o).Calm service where
  sound := sound_after h.sound service o
  faultless := Faultless.run (c := c.anew) h.faultless _
  current hcaches := by
    obtain ⟨layers, caches⟩ := service
    obtain rfl : caches = true := hcaches
    exact (report_justified c.anew (h.current rfl) rfl o).1

theorem through (h : c.Calm service) (ops : List Operation) : (c.through service ops).Calm service := by
  induction ops generalizing c with
  | nil => exact h
  | cons o rest ih => exact ih (h.after o)

theorem proper (h : c.Calm service) (hcatalog : service.layers.defaults.Valid service.layers.locales)
    (o : Operation) : o.Proper service.layers.locales (c.outcome service o) := by
  obtain ⟨s, -, hs⟩ := In.of_sound False True h.sound (fun _ => h.faultless) (absurd trivial)
  obtain ⟨layers, caches⟩ := service
  obtain ⟨s', hproper, -⟩ := (serves_program hcatalog o s).run hs.anew
  -- Without faults, the outcome with caches is the one without.
  cases caches with
  | false => exact hproper
  | true =>
    obtain ⟨hsame, -⟩ := program_transparent c.anew c.anew (h.current rfl) (.refl _) h.faultless
      h.faultless o
    rwa [outcome, hsame]

end Course.Calm

/-- As long as no store call fails, all that is stored and all that is returned is of use, and
operations fail only as they may. -/
theorem only_usable_content (service : Service) {templates : List Template}
    (hcatalog : Catalog.ofTemplates service.layers.locales templates = .ok service.layers.defaults)
    (kind : Kind) (retention : Retention) (tenants : Tenant.Lookup) (losses : List (List Loss))
    (ops : List Operation) (o : Operation) :
    let before := ((Course.start kind retention tenants []).losing losses).through service ops
    o.Proper service.layers.locales (before.outcome service o) ∧
      ∀ p : Position, ∃ found, before.state.store.read p = .ok found ∧ ∀ t ∈ found, t.Fits p.ref := by
  intro before
  have hcalm : before.Calm service :=
    (Course.Calm.start service kind retention tenants losses).through ops
  refine ⟨hcalm.proper (Catalog.valid_ofTemplates hcatalog) o, fun p => ?_⟩
  obtain ⟨l, hkeeps, hl⟩ := hcalm.sound
  refine ⟨_, AnyStore.read_of_keeps hkeeps hl p, fun t ht => ?_⟩
  obtain ⟨u, hrecord, rfl⟩ := Option.map_eq_some_iff.1 ht
  exact hl.fits hrecord before.state.store

/-- A listing of a template that was given in other spellings and of a default without a character
set. -/
theorem only_usable_content_welcome :
    let welcome : Template :=
      (Template.email "welcome" "en-us" "Hello" "Welcome!").withContentType "text/html"
    let service : Service := ⟨⟨⟨[welcome]⟩, {}⟩, true⟩
    let tenants : Tenant.Lookup := .direct (.ofList [⟨⟨1⟩, "acme.com", .active⟩])
    let before := ((Course.start .forest ⟨10, 10⟩ tenants []).losing [[.cache ⟨1⟩]]).through service
      [.upsert (.email " Welcome " "FR_ca" "Bonjour" "Bienvenue !") "acme.com" none]
    let o : Operation := .listTemplates "WELCOME" .email "acme.com" none
    Catalog.ofTemplates service.layers.locales [welcome] = .ok service.layers.defaults ∧
      (before.outcome service o).map (·.map Template.contentType) =
        .ok [none, some "text/html; charset=UTF-8"] ∧
      o.Proper service.layers.locales (before.outcome service o) ∧
      ∀ p : Position, ∃ found, before.state.store.read p = .ok found ∧
        ∀ t ∈ found, t.Fits p.ref := by
  intro welcome service tenants before o
  have hcatalog : Catalog.ofTemplates service.layers.locales [welcome] =
      .ok service.layers.defaults := by decide +kernel
  exact ⟨hcatalog, by decide +kernel, only_usable_content service hcatalog .forest ⟨10, 10⟩ tenants
    [[.cache ⟨1⟩]] _ o⟩

end Service
end Missive

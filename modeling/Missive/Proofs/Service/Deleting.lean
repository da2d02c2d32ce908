import Missive.Proofs.Layers.Consistency
import Missive.Proofs.Service.Evaluation

/-! Deleting a scenario is a complete and contained cascade. Nothing of the scenario is left, in any
application or locale, that a look-up could find or a new registration could bring back, and nothing
else is touched. -/

namespace Missive

open Store Identifier

/-! ### Ledgers without a scenario -/

namespace Store.Ledger

variable {l : Ledger} {ref : ScenarioRef}

theorem names_forget (l : Ledger) (ref : ScenarioRef) : (l.forget ref).names.get? ref = none := by
  rw [forget, Dictionary.get?_erase, if_pos rfl]

theorem records_forget (l : Ledger) {r : RecordRef} (hr : r.scenario = ref) :
    (l.forget ref).records.get? r = none := by
  rw [forget, Dictionary.get?_retain_key, if_neg]
  simpa using hr

/-- All other scenarios stay as they are. -/
theorem agreeOn_forget (l : Ledger) (ref : ScenarioRef) :
    l.AgreeOn (· ≠ ref) (l.forget ref) where
  names href := by rw [forget, Dictionary.get?_erase, if_neg href]
  records hr := by rw [forget, Dictionary.get?_retain_key, if_pos (decide_eq_true hr)]

/-- The organization loses the templates of the scenario and no others. -/
theorem organization_forget (hl : l.Sound) (ref : ScenarioRef) :
    (l.forget ref).organization ref.channel ref.tenant =
      (l.organization ref.channel ref.tenant).filter (·.scenarioKey ≠ ref.key) := by
  simp only [organization, forget, Dictionary.values, Dictionary.retain, List.filter_map,
    List.filter_filter]
  refine congrArg _ (List.filter_congr fun e he => ?_)
  have hkey := hl.scenarioKey (Dictionary.get?_eq_some_iff.2 he)
  by_cases hplace : e.1.scenario.tenant = ref.tenant ∧ e.1.scenario.channel = ref.channel
  · have hiff : e.1.scenario = ref ↔ e.1.scenario.key = ref.key :=
      ⟨congrArg _, ScenarioRef.ext hplace.1 hplace.2⟩
    simp [hplace, hkey, hiff, Bool.and_comm]
  · simp [hplace]

theorem namesOf_forget (hl : l.Sound) (ref : ScenarioRef) :
    ((l.forget ref).namesOf ref.channel ref.tenant).values =
      (l.namesOf ref.channel ref.tenant).values.filter (ScenarioName.key · ≠ ref.key) := by
  simp only [namesOf, forget, Dictionary.values, Dictionary.erase, Dictionary.retain,
    List.filter_map, List.filter_filter]
  refine congrArg _ (List.filter_congr fun e he => ?_)
  obtain ⟨s, hs, hkey⟩ := hl.names (Dictionary.get?_eq_some_iff.2 he)
  have hkey : ScenarioName.key e.2 = e.1.key := by
    rw [← hs, ← hkey]
    rfl
  by_cases hplace : e.1.tenant = ref.tenant ∧ e.1.channel = ref.channel
  · have hiff : e.1 = ref ↔ e.1.key = ref.key := ⟨congrArg _, ScenarioRef.ext hplace.1 hplace.2⟩
    simp [hplace, hkey, hiff, Bool.and_comm]
  · simp [hplace]

end Store.Ledger

namespace Layers

/-- A scenario's templates may be left out of what is stored, or only of the finished listing. -/
theorem filter_finish (key : String) (stored defaults : List Template) :
    (finish (stored.filter (·.scenarioKey ≠ key)) defaults).filter (·.scenarioKey ≠ key) =
      (finish stored defaults).filter (·.scenarioKey ≠ key) := by
  rw [filter_scenarioKey_finish (decide <| · ≠ key), filter_scenarioKey_finish (decide <| · ≠ key),
    List.filter_filter]
  simp only [Bool.and_self]

/-- Forgetting a scenario changes nothing of what is listed for the others. -/
theorem filter_finish_forget {l : Ledger} (hl : l.Sound) (ref : ScenarioRef)
    (form : Template → Template) [Template.Neutral form] (defaults : List Template) :
    (finish (((l.forget ref).organization ref.channel ref.tenant).map form) defaults).filter
        (·.scenarioKey ≠ ref.key) =
      (finish ((l.organization ref.channel ref.tenant).map form) defaults).filter
        (·.scenarioKey ≠ ref.key) := by
  have hstored : ((l.forget ref).organization ref.channel ref.tenant).map form =
      ((l.organization ref.channel ref.tenant).map form).filter (·.scenarioKey ≠ ref.key) := by
    rw [Ledger.organization_forget hl, Template.Neutral.filter_scenarioKey (decide <| · ≠ ref.key)]
  rw [hstored, filter_finish]

theorem filter_mergeNames_forget {l : Ledger} (hl : l.Sound) (ref : ScenarioRef)
    (defaults : List String) :
    (mergeNames ((l.forget ref).namesOf ref.channel ref.tenant).values defaults).filter
        (Identifier.ScenarioName.key · ≠ ref.key) =
      (mergeNames (l.namesOf ref.channel ref.tenant).values defaults).filter
        (Identifier.ScenarioName.key · ≠ ref.key) := by
  rw [Ledger.namesOf_forget hl]
  exact filter_merge_filter ScenarioName.key (fun k => decide (k ≠ ref.key)) _ _

/-- Of a scenario for which nothing is stored, the listing has the default alone. -/
theorem finish_nil (default : Option Template) :
    finish [] default.toList = default.toList.map Template.withUtf8Charset := by
  cases default <;> rfl

end Layers

namespace Service

variable {service : Service} {directory : Tenant.Directory} {c c' : Course} {l : Ledger}
  {ref : ScenarioRef}

/-- The texts of a scenario and of a tenant's domain, as names of a scenario in the store. -/
structure Names (directory : Tenant.Directory) (text domain : String) (s : Scenario)
    (ref : ScenarioRef) : Prop where
  parsed : Scenario.parse text = .ok s
  key : s.key = ref.key
  tenant : directory.resolve domain = .ok ref.tenant

theorem Names.ref_eq {text domain : String} {s : Scenario} (h : Names directory text domain s ref) :
    .of s ref.channel ref.tenant = ref :=
  ScenarioRef.ext rfl rfl h.key

/-- A listing of a scenario without records. -/
theorem Course.Keeps.outcome_listTemplates (h : c.Keeps service directory l)
    (hnone : ∀ r : RecordRef, r.scenario = ref → l.records.get? r = none) {text domain : String}
    {s : Scenario} (hnames : Names directory text domain s ref) {application : Option String}
    {app : Option ApplicationId} (happ : parseApplication application = .ok app) :
    c.outcome service (.listTemplates text ref.channel domain application) =
      if l.names.contains ref || service.layers.defaults.contains s ref.channel then
        .ok ((service.layers.defaults.get? s ref.channel).toList.map Template.withUtf8Charset)
      else .error (.scenarioNotFound s.displayName ref.channel ref.tenant) := by
  obtain ⟨hsame, -⟩ := h.step (.listTemplates text ref.channel domain application)
  obtain ⟨stored, hstored, hlist⟩ := plainly_listTemplates hnames.parsed hnames.tenant
    service.layers c.state.store.form ref.channel h.sound happ
  have hwithin : l.within ref (app.map (·.text)) = [] := by
    rw [List.eq_nil_iff_forall_not_mem]
    intro t ht
    obtain ⟨tag, hrecord⟩ := Ledger.mem_within.1 ht
    rw [hnone _ rfl] at hrecord
    cases hrecord
  rw [hnames.ref_eq, hwithin, List.map_nil] at hstored
  obtain rfl := hstored.eq_nil
  rw [hlist, hnames.ref_eq, Layers.finish_nil] at hsame
  cases hknown : l.names.contains ref || service.layers.defaults.contains s ref.channel with
  | false =>
    rw [hknown] at hsame
    exact hsame.eq_error
  | true =>
    rw [hknown] at hsame
    obtain ⟨ts, hts, hperm⟩ := hsame.exists_ok
    have hperm : ts.Perm ((service.layers.defaults.get? s ref.channel).toList.map
      Template.withUtf8Charset) := hperm
    refine hts.trans (congrArg Except.ok ?_)
    -- A listing of at most one template has only one order.
    cases hdefault : service.layers.defaults.get? s ref.channel with
    | none =>
      rw [hdefault] at hperm
      exact hperm.eq_nil
    | some t =>
      rw [hdefault] at hperm
      exact List.perm_singleton.1 hperm

/-- What a look-up comes to for a scenario without records. -/
theorem Course.Keeps.outcome_inquiry_of_none (h : c.Keeps service directory l)
    {locales : DefaultLocales} (hcatalog : service.layers.defaults.Valid locales)
    (hnone : ∀ r : RecordRef, r.scenario = ref → l.records.get? r = none) {i : Inquiry}
    {r : ResolveRequest} (hr : i.Means directory r) (href : r.ref = ref) :
    c.outcome service i.operation =
      (service.layers.defaults.get? r.scenario r.channel).elim (.error r.notFound)
        (.ok ·.withUtf8Charset) := by
  rw [h.outcome_means hr, Layers.resolution, Layers.recordFor, hnone _ href, hnone _ href,
    Option.or_self, Layers.fromDefaults_eq service.layers hcatalog]
  rfl

/-- What the deletion of a scenario has done: it was told whether the scenario was registered, and
nothing is left of the scenario, while nothing else is touched. -/
structure Deleted (service : Service) (directory : Tenant.Directory) (before after : Course)
    (ref : ScenarioRef) (removed : Bool) : Prop where
  told : ∀ s : Scenario, s.key = ref.key →
    (AnyStore.backend (.isRegistered s ref.channel ref.tenant) before.state.store).1 = .ok removed
  /-- In any application and locale a look-up comes to the default. -/
  lookedUp : ∀ (i : Inquiry) r, i.Means directory r → r.ref = ref →
    after.outcome service i.operation =
      (service.layers.defaults.get? r.scenario r.channel).elim (.error r.notFound)
        (.ok ·.withUtf8Charset)
  /-- In any application the scenario is listed with its default, or is unknown. -/
  listed : ∀ {text domain s application app}, Names directory text domain s ref →
    parseApplication application = .ok app →
    after.outcome service (.listTemplates text ref.channel domain application) =
      (service.layers.defaults.get? s ref.channel).elim
        (.error (.scenarioNotFound s.displayName ref.channel ref.tenant))
        (.ok [·.withUtf8Charset])
  /-- The scenario may be registered again, under any of its names. -/
  registered : ∀ {text domain s}, Names directory text domain s ref →
    after.outcome service (.addScenario text ref.channel domain) = .ok ()
  /-- That brings nothing back. -/
  lookedUpAgain : ∀ {text domain s}, Names directory text domain s ref → ∀ i : Inquiry,
    (after.after service (.addScenario text ref.channel domain)).outcome service i.operation =
      after.outcome service i.operation
  listedAgain : ∀ {text domain s text' domain' s' application app},
    Names directory text domain s ref → Names directory text' domain' s' ref →
    parseApplication application = .ok app →
    (after.after service (.addScenario text ref.channel domain)).outcome service
        (.listTemplates text' ref.channel domain' application) =
      .ok ((service.layers.defaults.get? s' ref.channel).toList.map Template.withUtf8Charset)
  /-- Operations that are not about the scenario have the same outcomes as before. -/
  others : ∀ o : Operation, ¬o.Concerns directory ref →
    o.SameOutcome (after.outcome service o) (before.outcome service o)
  /-- So have listings of the channel, as far as they are not about the scenario. -/
  othersListed : ∀ domain, directory.resolve domain = .ok ref.tenant → ∃ now was,
    after.outcome service (.listAllTemplates ref.channel domain) = .ok now ∧
    before.outcome service (.listAllTemplates ref.channel domain) = .ok was ∧
    (now.filter (·.scenarioKey ≠ ref.key)).Perm (was.filter (·.scenarioKey ≠ ref.key))
  othersNamed : ∀ domain, directory.resolve domain = .ok ref.tenant → ∃ now was,
    after.outcome service (.listScenarios ref.channel domain) = .ok now ∧
    before.outcome service (.listScenarios ref.channel domain) = .ok was ∧
    (now.filter (ScenarioName.key · ≠ ref.key)).Perm (was.filter (ScenarioName.key · ≠ ref.key))

/-- Registering a scenario that is not registered. -/
theorem Course.Keeps.registered (h : c.Keeps service directory l) {text domain : String}
    {s : Scenario} (hnames : Names directory text domain s ref)
    (hnew : l.names.contains ref = false) :
    c.outcome service (.addScenario text ref.channel domain) = .ok () ∧
      (c.after service (.addScenario text ref.channel domain)).Keeps service directory
        (l.register s ref.channel ref.tenant) ∧
      (c.after service (.addScenario text ref.channel domain)).state.store.form =
        c.state.store.form := by
  obtain ⟨houtcome, hafter, hform⟩ := h.step (.addScenario text ref.channel domain)
  rw [plainly_addScenario hnames.parsed hnames.tenant] at houtcome hafter
  rw [hnames.ref_eq, hnew] at houtcome
  exact ⟨Outcome.Alike.eq houtcome, hafter, hform⟩

/-- A course whose ledger has lost a scenario, and one that still has it. -/
theorem Course.Keeps.deleted (h : c.Keeps service directory l)
    (h' : c'.Keeps service directory (l.forget ref))
    (hform : c'.state.store.form = c.state.store.form) {locales : DefaultLocales}
    (hcatalog : service.layers.defaults.Valid locales) :
    Deleted service directory c c' ref (l.names.contains ref) := by
  have hforgotten : ∀ r : RecordRef, r.scenario = ref → (l.forget ref).records.get? r = none :=
    fun r hr => l.records_forget hr
  have hunknown : (l.forget ref).names.contains ref = false := by
    rw [Dictionary.contains, Ledger.names_forget]
    rfl
  constructor
  case told =>
    intro s hkey
    have href : ScenarioRef.of s ref.channel ref.tenant = ref := ScenarioRef.ext rfl rfl hkey
    rw [(shows_of_keeps h.store h.sound).isRegistered, href]
  case lookedUp =>
    intro i r hr href
    exact h'.outcome_inquiry_of_none hcatalog hforgotten hr href
  case listed =>
    intro text domain s application app hnames happ
    rw [h'.outcome_listTemplates hforgotten hnames happ, hunknown, Bool.false_or, Catalog.contains]
    cases service.layers.defaults.get? s ref.channel <;> rfl
  case registered =>
    intro text domain s hnames
    exact (h'.registered hnames hunknown).1
  case lookedUpAgain =>
    intro text domain s hnames i
    obtain ⟨-, hagain, hform'⟩ := h'.registered hnames hunknown
    refine h'.outcome_inquiry_congr hagain fun r _ => ?_
    rw [hform', Layers.resolution_congr service.layers (Ledger.records_register _ _ _ _)]
  case listedAgain =>
    intro text domain s text' domain' s' application app hnames hnames' happ
    obtain ⟨-, hagain, -⟩ := h'.registered hnames hunknown
    have hnone : ∀ r : RecordRef, r.scenario = ref →
        ((l.forget ref).register s ref.channel ref.tenant).records.get? r = none := by
      rw [Ledger.records_register]
      exact hforgotten
    have hknown : ((l.forget ref).register s ref.channel ref.tenant).names.contains ref = true := by
      rw [Dictionary.contains, Ledger.names_register, hnames.ref_eq, if_pos rfl]
      rfl
    rw [hagain.outcome_listTemplates hnone hnames' happ, hknown, Bool.true_or, if_pos rfl]
  case others =>
    intro o ho
    refine (h'.outcome_agree h hform (l.agreeOn_forget ref).symm ?_).1
    rintro ref' hconcerns rfl
    exact ho hconcerns
  case othersListed =>
    intro domain htenant
    obtain ⟨now, hnow, hnowPerm⟩ := h'.outcome_listAllTemplates htenant ref.channel
    obtain ⟨was, hwas, hwasPerm⟩ := h.outcome_listAllTemplates htenant ref.channel
    refine ⟨now, was, hnow, hwas, (hnowPerm.filter _).trans ?_⟩
    rw [hform, Layers.filter_finish_forget h.sound]
    exact (hwasPerm.filter _).symm
  case othersNamed =>
    intro domain htenant
    obtain ⟨now, hnow, hnowPerm⟩ := h'.outcome_listScenarios htenant ref.channel
    obtain ⟨was, hwas, hwasPerm⟩ := h.outcome_listScenarios htenant ref.channel
    refine ⟨now, was, hnow, hwas, (hnowPerm.filter _).trans ?_⟩
    rw [Layers.filter_mergeNames_forget h.sound]
    exact (hwasPerm.filter _).symm

/-- A deletion that succeeds is a complete and contained cascade, after any operations, with caches
or without. -/
theorem deletion_is_complete_and_contained (service : Service) {locales : DefaultLocales}
    {templates : List Template}
    (hcatalog : Catalog.ofTemplates locales templates = .ok service.layers.defaults) (kind : Kind)
    (retention : Retention) (directory : Tenant.Directory) (losses : List (List Loss))
    (ops : List Operation) (text : String) (channel : Channel) (domain : String) {removed : Bool}
    (hok : ((Course.faultFree kind retention directory losses).through service ops).outcome service
      (.deleteScenario text channel domain) = .ok removed) :
    let before := (Course.faultFree kind retention directory losses).through service ops
    let after := before.after service (.deleteScenario text channel domain)
    ∃ s ref, Names directory text domain s ref ∧ ref.channel = channel ∧
      Deleted service directory before after ref removed := by
  have hstart := Course.Keeps.start service kind retention directory losses
  obtain ⟨l, hkeeps⟩ := hstart.through ops
  generalize (Course.faultFree kind retention directory losses).through service ops = before at *
  obtain ⟨houtcome, hafter, hform⟩ := hkeeps.step (.deleteScenario text channel domain)
  have hplain := (Outcome.Alike.eq houtcome).symm.trans hok
  obtain ⟨s, tenant, hs, htenant⟩ := exists_scenario_of_plainly hplain
  rw [plainly_deleteScenario hs htenant] at hplain hafter
  cases hplain
  exact ⟨s, .of s channel tenant, ⟨hs, rfl, htenant⟩, rfl,
    hkeeps.deleted hafter hform (Catalog.valid_ofTemplates hcatalog)⟩

/-- A default that is shadowed in an application and in the cache, beside a scenario whose name goes
on where that of the deleted one ends. -/
theorem deletion_is_complete_and_contained_otp :
    let code : Template := .sms "otp" "en-us" "code"
    let service : Service := ⟨⟨⟨[code]⟩, {}⟩, true⟩
    let directory : Tenant.Directory := .ofList [⟨⟨1⟩, "acme.com", .active⟩]
    let before := (Course.faultFree .forest ⟨10, 10⟩ directory []).through service
      [.upsert (.sms "otp" "fr-fr" "mot") "acme.com" (some "shop"),
        .upsert (.sms "otp2" "en-us" "second") "acme.com" none,
        .resolve "otp" "fr-fr" .sms "acme.com" (some "shop")]
    Catalog.ofTemplates {} [code] = .ok service.layers.defaults ∧
      before.outcome service (.deleteScenario " OTP " .sms "acme.com") = .ok true ∧
      ∃ s ref, Names directory " OTP " "acme.com" s ref ∧ ref.channel = .sms ∧
        Deleted service directory before
          (before.after service (.deleteScenario " OTP " .sms "acme.com")) ref true := by
  intro code service directory before
  have hcatalog : Catalog.ofTemplates {} [code] = .ok service.layers.defaults := by decide +kernel
  have hok : before.outcome service (.deleteScenario " OTP " .sms "acme.com") = .ok true := by
    decide +kernel
  exact ⟨hcatalog, hok, deletion_is_complete_and_contained service hcatalog .forest ⟨10, 10⟩
    directory [] _ " OTP " .sms "acme.com" hok⟩

end Service
end Missive

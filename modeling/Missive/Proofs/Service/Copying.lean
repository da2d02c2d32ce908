import Missive.Proofs.Layers.Consistency
import Missive.Proofs.Service.Evaluation
import Missive.Proofs.Service.Resuming

/-! What a copied default is looked up as. Once the defaults of a channel are stored at a tenant, they
are found in the store where they were found as the last resort before. They hide nothing, since they
are in the channel's default locale and only stored where there was nothing. -/

namespace Missive

open Store

/-- The same but for an empty footer and the spelling of the scenario. -/
structure Template.SameContent (a b : Template) : Prop where
  key : a.scenarioKey = b.scenarioKey
  content : a.Alike { b with scenario := a.scenario }

namespace Template

theorem SameContent.refl (t : Template) : t.SameContent t := ⟨rfl, rfl⟩

theorem withUtf8Charset_rename (t : Template) (name : String) :
    { t with scenario := name : Template }.withUtf8Charset =
      { t.withUtf8Charset with scenario := name } := by
  simp only [withUtf8Charset]
  split
  · split <;> rfl
  · rfl

/-- A copy under another spelling of the scenario is looked up as the template is. -/
theorem sameContent_copy (form : Template → Template) [Neutral form] {t : Template} {name : String}
    (hkey : Identifier.ScenarioName.key name = t.scenarioKey) :
    (form { t with scenario := name }).withUtf8Charset.SameContent t.withUtf8Charset := by
  have halike : (form { t with scenario := name }).withUtf8Charset.Alike
      { t.withUtf8Charset with scenario := name } :=
    t.withUtf8Charset_rename name ▸ (Neutral.alike _).withUtf8Charset
  have hname : (form { t with scenario := name }).withUtf8Charset.scenario = name := halike.scenario
  constructor
  · rw [scenarioKey, hname, hkey, scenarioKey_withUtf8Charset]
  · rw [hname]
    exact halike

end Template

namespace Service

section

variable {layers : Layers} {s s' : Setting} {tenant : TenantId} {named : List Template}
  {channel : Channel} (hcatalog : layers.defaults.Valid layers.locales)
  (h : s.Grows tenant named (layers.defaults.forChannel channel) s')
include hcatalog h

/-- Where nothing is found, a copy of a default may be found later, at the place for the channel's
default locale. -/
theorem Setting.Grows.recordFor_cases (r : ResolveRequest) :
    layers.recordFor s'.ledger r = layers.recordFor s.ledger r ∨
      layers.recordFor s.ledger r = none ∧ ∃ t ∈ layers.defaults.forChannel channel,
        (r.positionIn (layers.locales.forChannel r.channel)).ref = t.home tenant ∧ ∃ name,
          s'.ledger.records.get? (t.home tenant) = some { t.normalized with scenario := name } ∧
          layers.recordFor s'.ledger r = some { t.normalized with scenario := name } := by
  simp only [Layers.recordFor]
  cases hown : s.ledger.records.get? r.position.ref with
  | some u =>
    rw [h.get? (hown ▸ Option.some_ne_none u), hown]
    exact .inl rfl
  | none =>
    rcases h.records r.position.ref with hsame | ⟨-, t, ht, hplace, name, hcopy⟩
    · rw [hsame, hown, Option.none_or, Option.none_or]
      rcases h.records (r.positionIn (layers.locales.forChannel r.channel)).ref with
        hsame | ⟨hnone, t, ht, hplace, name, hcopy⟩
      · exact .inl hsame
      · exact .inr ⟨hnone, t, ht, hplace, name, hplace ▸ hcopy, hcopy⟩
    · -- A copy is in the default locale, so that this place is the other one, too.
      have hchannel : r.channel = t.channel := congrArg (·.scenario.channel) hplace
      have hmem := List.mem_of_mem_filter ht
      have hlocale : r.locale = layers.locales.forChannel r.channel := by
        apply Locale.ext_tag
        rw [hchannel, ← hcatalog.locale t hmem, ← (hcatalog.storable t hmem).normal]
        exact congrArg RecordRef.locale hplace
      rw [← hlocale, ← ResolveRequest.position, hown, hcopy]
      exact .inr ⟨rfl, t, ht, hplace, name, hplace ▸ hcopy, rfl⟩

/-- A request comes to what it came to before, or else to a copy of the default that it came to. -/
theorem Setting.Grows.resolution_cases (form : Template → Template) [Template.Neutral form]
    (hslots : (layers.defaults.templates.map Catalog.slot).Nodup) (r : ResolveRequest) :
    layers.resolution s'.ledger form r = layers.resolution s.ledger form r ∨
      r.channel = channel ∧ r.scope = .organization tenant ∧
        Outcome.Alike Template.SameContent (layers.resolution s'.ledger form r)
          (layers.resolution s.ledger form r) := by
  rcases h.recordFor_cases hcatalog r with hsame | ⟨hnone, t, ht, hplace, name, hcopy, hfound⟩
  · left
    rw [Layers.resolution, hsame, Layers.resolution]
  · obtain ⟨hmem, hchannel⟩ := List.mem_filter.1 ht
    have hnormal : t.normalized = t := (hcatalog.storable t hmem).normal
    have hkey : Identifier.ScenarioName.key name = t.scenarioKey := by
      have hstored := s'.sound.scenarioKey hcopy
      rw [Template.home, hnormal] at hstored
      exact hstored
    rw [hnormal] at hfound
    have hslot : Catalog.slot t = (r.channel, r.scenario.key) := by
      rw [Template.home, hnormal] at hplace
      exact congrArg (fun ref : RecordRef => (ref.scenario.channel, ref.scenario.key)) hplace.symm
    have hdefault : layers.defaults.get? r.scenario r.channel = some t :=
      (find?_key_eq_some hslots).2 ⟨hmem, hslot⟩
    have hscope : r.scope = .organization tenant := by
      have htenant : r.scope.tenant = tenant := congrArg (·.scenario.tenant) hplace
      have happlication : r.scope.application = none :=
        Option.map_eq_none_iff.1 (congrArg RecordRef.application hplace)
      rw [Scope.organization, ← htenant, ← happlication]
    have hbefore : layers.resolution s.ledger form r = .ok t.withUtf8Charset := by
      rw [Layers.resolution, hnone]
      change layers.fromDefaults r = _
      rw [layers.fromDefaults_eq hcatalog, hdefault]
      rfl
    refine .inr ⟨(congrArg Prod.fst hslot).symm.trans (of_decide_eq_true hchannel), hscope, ?_⟩
    rw [hbefore, Layers.resolution, hfound]
    exact Template.sameContent_copy form hkey

end

variable {service : Service} {directory : Tenant.Directory} {c : Course} {l : Ledger}
  {channel : Channel} {domain : String}

/-- A course keeps the ledger of any setting that it is in. -/
theorem Course.Keeps.ofSetting (h : c.Keeps service directory l) {s : Setting}
    (hstore : c.state.store = s.store) : c.Keeps service directory s.ledger :=
  { h with store := hstore ▸ s.keeps, sound := s.sound }

/-- What look-ups come to after the defaults of a channel were copied to the tenant of a domain. -/
structure KeepsContent (service : Service) (directory : Tenant.Directory) (channel : Channel)
    (domain : String) (before after : Course) : Prop where
  /-- Whatever is looked up, it has the same content, or fails in the same way. -/
  content : ∀ i : Inquiry, Outcome.Alike Template.SameContent (after.outcome service i.operation)
    (before.outcome service i.operation)
  /-- For applications, other channels and other tenants it is the same in all. -/
  same : ∀ i : Inquiry, i.application ≠ none ∨ i.channel ≠ channel ∨
    directory.resolve i.domain ≠ directory.resolve domain →
    after.outcome service i.operation = before.outcome service i.operation

section

variable (h : c.Keeps service directory l)
  (hcatalog : service.layers.defaults.Valid service.layers.locales)
  (hslots : (service.layers.defaults.templates.map Catalog.slot).Nodup) (channel : Channel)
  (domain : String)
include h hcatalog hslots

/-- The copying leads from a ledger to one with which requests come to the same, or else, in the
organization that was copied to, to a copy. -/
theorem Course.Keeps.copies :
    ∃ l l', c.Keeps service directory l ∧
      (c.after service (.addDefaultTemplates channel domain)).Keeps service directory l' ∧
      ∀ r, service.layers.resolution l' c.state.store.form r =
          service.layers.resolution l c.state.store.form r ∨
        ∃ tenant, directory.resolve domain = .ok tenant ∧ r.channel = channel ∧
          r.scope = .organization tenant ∧ Outcome.Alike Template.SameContent
            (service.layers.resolution l' c.state.store.form r)
            (service.layers.resolution l c.state.store.form r) := by
  obtain ⟨-, hafter, -⟩ := h.step (.addDefaultTemplates channel domain)
  obtain ⟨s, -, hs⟩ := In.of_sound False True ⟨l, h.store, h.sound⟩ (fun _ => h.faultless)
    (absurd trivial)
  obtain ⟨s', hpost, hs'⟩ := (assures_addDefaultTemplates service channel domain s).run hs.anew
  refine ⟨s.ledger, s'.ledger, h.ofSetting hs.store, hafter.ofSetting hs'.store, fun r => ?_⟩
  have hresolves : (s.tenants.resolve domain).1 = directory.resolve domain := by
    rw [← hs.tenants, h.tenants, Tenant.Lookup.resolve_direct]
  rcases hpost with ⟨-, -, -, rfl⟩ | ⟨tenant, htenant, hseeds⟩
  · exact .inl rfl
  · exact (hseeds.grows.of_told.resolution_cases hcatalog _ hslots r).imp_right
      fun hcopied => ⟨tenant, hresolves.symm.trans htenant, hcopied⟩

theorem Course.Keeps.keepsContent : KeepsContent service directory channel domain c
    (c.after service (.addDefaultTemplates channel domain)) := by
  obtain ⟨-, -, hform⟩ := h.step (.addDefaultTemplates channel domain)
  obtain ⟨k, k', hbefore, hafter, hcases⟩ := h.copies hcatalog hslots channel domain
  rw [← hform] at hcases
  constructor
  case content =>
    intro i
    by_cases hmeans : ∃ r, i.Means directory r
    · obtain ⟨r, hr⟩ := hmeans
      rw [hafter.outcome_means hr, hbefore.outcome_means hr, ← hform]
      rcases hcases r with hsame | ⟨-, -, -, -, hcopied⟩
      · rw [hsame]
        exact .refl Template.SameContent.refl _
      · exact hcopied
    · rw [hbefore.outcome_inquiry_congr hafter fun r hr => absurd ⟨r, hr⟩ hmeans]
      exact .refl Template.SameContent.refl _
  case same =>
    intro i hi
    refine hbefore.outcome_inquiry_congr hafter fun r hr => ?_
    rw [← hform]
    refine (hcases r).resolve_right ?_
    rintro ⟨tenant, htenant, hchannel, hscope, -⟩
    obtain ⟨-, -, hri, hparsed⟩ := ResolveRequest.parse_eq_ok hr.parsed
    have hresolves : directory.resolve i.domain = .ok tenant := by
      rw [hr.tenant, hscope]
      rfl
    rw [hscope] at hparsed
    rcases hi with happlication | hother | hother
    · exact happlication (Scope.parse_eq_organization hparsed)
    · exact hother (hri.symm.trans hchannel)
    · exact hother (hresolves.trans htenant.symm)

end

/-- Copying the defaults of a channel changes no content that is looked up, after any operations, with
caches or without, and whether the domain has a tenant or not. -/
theorem copying_defaults_keeps_content (service : Service) {templates : List Template}
    {built : Catalog} (hbuilt : Catalog.ofTemplates service.layers.locales templates = .ok built)
    (horder : service.layers.defaults.templates.Perm built.templates) (kind : Kind)
    (retention : Retention) (directory : Tenant.Directory) (losses : List (List Loss))
    (ops : List Operation) (channel : Channel) (domain : String) :
    let before := (Course.faultFree kind retention directory losses).through service ops
    KeepsContent service directory channel domain before
      (before.after service (.addDefaultTemplates channel domain)) := by
  have hvalid := Catalog.valid_ofTemplates hbuilt
  have hcatalog : service.layers.defaults.Valid service.layers.locales :=
    ⟨fun t ht => hvalid.storable t (horder.mem_iff.1 ht),
      fun t ht => hvalid.locale t (horder.mem_iff.1 ht)⟩
  have hslots : (service.layers.defaults.templates.map Catalog.slot).Nodup :=
    (horder.map Catalog.slot).nodup_iff.2 (Catalog.nodup_ofTemplates hbuilt)
  obtain ⟨l, hkeeps⟩ := (Course.Keeps.start service kind retention directory losses).through ops
  exact hkeeps.keepsContent hcatalog hslots channel domain

/-- A default with an empty footer, for a scenario that is registered under another spelling, after it
was looked up and cached. The copy has that spelling and, in the forest, no footer. -/
theorem copying_defaults_keeps_content_welcome :
    let welcome := ((Template.email "welcome" "en-us" "Hello" "text").withFooter "").withContentType
      "text/plain"
    let copy := (Template.email "Welcome" "en-us" "Hello" "text").withContentType "text/plain"
    let service : Service := ⟨⟨⟨[welcome]⟩, {}⟩, true⟩
    let directory : Tenant.Directory := .ofList [⟨⟨1⟩, "acme.com", .active⟩]
    let lookup : Operation := .resolve "WELCOME" "fr-fr" .email "acme.com" none
    let before := (Course.faultFree .forest ⟨10, 10⟩ directory []).through service
      [.addScenario "Welcome" .email "acme.com", lookup]
    let after := before.after service (.addDefaultTemplates .email "acme.com")
    Catalog.ofTemplates {} [welcome] = .ok ⟨[welcome]⟩ ∧
      service.layers.defaults.templates.Perm [welcome] ∧
      before.outcome service lookup = .ok welcome.withUtf8Charset ∧
      after.outcome service lookup = .ok copy.withUtf8Charset ∧
      KeepsContent service directory .email "acme.com" before after := by
  intro welcome copy service directory lookup before after
  have hbuilt : Catalog.ofTemplates {} [welcome] = .ok ⟨[welcome]⟩ := by decide +kernel
  have horder : service.layers.defaults.templates.Perm [welcome] := .refl _
  refine ⟨hbuilt, horder, by decide +kernel, by decide +kernel, ?_⟩
  exact copying_defaults_keeps_content service hbuilt horder .forest ⟨10, 10⟩ directory []
    [.addScenario "Welcome" .email "acme.com", lookup] .email "acme.com"

end Service
end Missive

import Missive.Proofs.Layers.Consistency
import Missive.Proofs.Parsing

/-! The listings of a tenant's organization. The scenarios that are listed are those that there are,
each once; and what is listed for all scenarios together is what is listed for each, side by side
(`listings_tile`). -/

namespace Missive

open Store

/-- A scope without an application is an organization. -/
theorem Scope.eq_organization {scope : Scope} {tenant : TenantId} (htenant : scope.tenant = tenant)
    (happ : scope.applicationText = none) : scope = .organization tenant := by
  obtain ⟨tenant', application⟩ := scope
  cases htenant
  cases application with
  | none => rfl
  | some id => cases happ

namespace Catalog

variable {c : Catalog}

/-- Of a scenario there is at most one default in a channel. -/
theorem filter_forChannel (h : (c.templates.map slot).Nodup) (s : Scenario) (channel : Channel) :
    (c.forChannel channel).filter (·.scenarioKey = s.key) = (c.get? s channel).toList := by
  rw [get?, ← filter_key_eq_toList h, forChannel, List.filter_filter]
  apply List.filter_congr
  intro t _
  simp [slot, Bool.and_comm]

theorem nodup_forChannel (h : (c.templates.map slot).Nodup) (channel : Channel) :
    ((c.forChannel channel).map Template.mergeKey).Nodup := by
  have hslot : (c.forChannel channel).map slot =
      ((c.forChannel channel).map Template.mergeKey).map fun k => (k.2.1, k.1) := by
    rw [List.map_map]
    rfl
  have hchannel : ((c.forChannel channel).map slot).Nodup := h.sublist (List.filter_sublist.map _)
  rw [hslot] at hchannel
  exact hchannel.of_map _

theorem contains_iff {s : Scenario} {channel : Channel} :
    c.contains s channel = true ↔
      s.key ∈ (c.scenarioNames channel).map Identifier.ScenarioName.key := by
  rw [contains, get?, List.find?_isSome, scenarioNames, List.map_map, forChannel]
  simp only [List.mem_map, List.mem_filter, decide_eq_true_eq, slot, Prod.mk.injEq]
  constructor
  · rintro ⟨t, ht, hchannel, hkey⟩
    exact ⟨t, ⟨ht, hchannel⟩, hkey⟩
  · rintro ⟨t, ⟨ht, hchannel⟩, hkey⟩
    exact ⟨t, ht, hchannel, hkey⟩

end Catalog

namespace Store.Ledger.Sound

variable {l : Ledger}

/-- The names that are listed for a channel are those of its scenarios. -/
theorem mem_keys_namesOf (hl : l.Sound) {channel : Channel} {tenant : TenantId} {key : String} :
    key ∈ (l.namesOf channel tenant).values.map Identifier.ScenarioName.key ↔
      l.names.contains ⟨tenant, channel, key⟩ = true := by
  have hkey : ∀ {ref name}, (ref, name) ∈ l.names.entries →
      Identifier.ScenarioName.key name = ref.key := by
    intro ref name hname
    obtain ⟨s, rfl, hkey⟩ := hl.names (Dictionary.get?_eq_some_iff.2 hname)
    exact hkey
  rw [Dictionary.contains_iff]
  simp only [Ledger.namesOf, Dictionary.values, Dictionary.retain, List.mem_map, List.mem_filter,
    decide_eq_true_eq]
  constructor
  · rintro ⟨_, ⟨⟨ref, name⟩, ⟨hname, rfl, rfl⟩, rfl⟩, rfl⟩
    rw [hkey hname]
    exact ⟨name, hname⟩
  · rintro ⟨name, hname⟩
    exact ⟨name, ⟨(_, name), ⟨hname, rfl, rfl⟩, rfl⟩, hkey hname⟩

/-- The organization's records of one scenario. -/
theorem filter_organization (hl : l.Sound) (ref : ScenarioRef) :
    (l.organization ref.channel ref.tenant).filter (·.scenarioKey = ref.key) =
      l.within ref none := by
  rw [Ledger.organization, Ledger.within, Dictionary.values, Dictionary.values, Dictionary.retain,
    Dictionary.retain, List.filter_map, List.filter_filter]
  congr 1
  apply List.filter_congr
  rintro ⟨r, t⟩ hr
  have hkey := hl.scenarioKey (Dictionary.get?_eq_some_iff.2 hr)
  simp only [Function.comp_apply, hkey, ScenarioRef.ext_iff, ← Bool.decide_and, decide_eq_decide]
  tauto

end Store.Ledger.Sound

namespace Layers

/-- The position is one of the organization's. -/
structure Organizational (p : Position) (channel : Channel) (tenant : TenantId) : Prop where
  channel : p.channel = channel
  scope : p.scope = .organization tenant

/-- What is listed of a tenant's organization, the names of its scenarios and all its templates. -/
structure Tiled (layers : Layers) (s : AnyStore) (channel : Channel) (tenant : TenantId)
    (names : List String) (all : List Template) : Prop where
  /-- Every scenario that there is has one name. -/
  distinct : (names.map Identifier.ScenarioName.key).Nodup
  exists_iff : ∀ sc : Scenario, layers.outcome s (.scenarioExists sc channel tenant) =
    .ok (decide (sc.key ∈ names.map Identifier.ScenarioName.key))
  /-- The templates are those listed under each of the names. -/
  parts : ∃ part : String → List Template, all.Perm (names.flatMap part) ∧
    ∀ name ∈ names, ∃ sc, Scenario.parse name = .ok sc ∧
      layers.outcome s (.listByScenario sc channel (.organization tenant)) = .ok (part name)
  once : (all.map Template.mergeKey).Nodup
  /-- They are the organization's records, no application's, and the defaults in whose place there is
  no such record. -/
  origins : ∀ t, t ∈ all ↔
    (∃ p u, Organizational p channel tenant ∧ s.read p = .ok (some u) ∧ t = u.withUtf8Charset) ∨
    ∃ u ∈ layers.defaults.forChannel channel, t = u.withUtf8Charset ∧
      ∀ p, Organizational p channel tenant → p.scenario.key = u.scenarioKey →
        p.locale.tag = u.locale → s.read p = .ok none

/-! ### Finished listings -/

theorem perm_finish {stored stored' : List Template} (h : stored.Perm stored')
    (hnodup : (stored.map Template.mergeKey).Nodup) (defaults : List Template) :
    (finish stored defaults).Perm (finish stored' defaults) := by
  have htell : Template.ListsTell id (finish stored defaults) (finish stored' defaults) :=
    listsTell_finish (h.map id) hnodup defaults
  simpa [Template.ListsTell] using htell

/-- Finishing completes templates, which leaves them what they are for. -/
theorem map_mergeKey_finish (stored defaults : List Template) :
    (finish stored defaults).map Template.mergeKey =
      (mergeTemplates stored defaults).map Template.mergeKey := by
  rw [finish, List.map_map]
  exact List.map_congr_left fun t _ => t.mergeKey_withUtf8Charset

/-! ### The listings of a store -/

section

variable (layers : Layers) {s : AnyStore} {l : Ledger} (h : s.Keeps l) (hl : l.Sound)
include h hl

theorem outcome_listScenarios (channel : Channel) (tenant : TenantId) :
    ∃ registered : List String, registered.Perm (l.namesOf channel tenant).values ∧
      layers.outcome s (.listScenarios channel tenant) =
        .ok (mergeNames registered (layers.defaults.scenarioNames channel)) := by
  obtain ⟨hagree, -⟩ := AnyStore.simulates_ledger h hl (c := .listScenarios channel tenant) trivial
  obtain ⟨registered, ha, hperm⟩ := hagree.ok
  have hcall : AnyStore.backend (.listScenarios channel tenant) s = (.ok registered, _) :=
    Prod.ext ha rfl
  have hask := Durable.run_ask hcall s!"listing {channel} scenarios in tenant {tenant}"
  exact ⟨registered, hperm, congrArg Prod.fst (Program.run_bind_ok hask _)⟩

theorem outcome_listAll (channel : Channel) (tenant : TenantId) :
    ∃ stored : List Template, stored.Perm ((l.organization channel tenant).map s.form) ∧
      layers.outcome s (.listAll channel tenant) =
        .ok (finish stored (layers.defaults.forChannel channel)) := by
  obtain ⟨hagree, -⟩ := AnyStore.simulates_ledger h hl (c := .listAll channel tenant) trivial
  obtain ⟨stored, ha, hperm⟩ := hagree.ok
  have hcall : AnyStore.backend (.listAll channel tenant) s = (.ok stored, _) := Prod.ext ha rfl
  have hask := Durable.run_ask hcall s!"listing {channel} templates in tenant {tenant}"
  exact ⟨stored, hperm, congrArg Prod.fst (Program.run_bind_ok hask _)⟩

end

/-! ### Names -/

theorem nodup_stored {l : Ledger} (hl : l.Sound) {form : Template → Template}
    [Template.Neutral form] {channel : Channel} {tenant : TenantId} {stored : List Template}
    (hstored : stored.Perm ((l.organization channel tenant).map form)) :
    (stored.map Template.mergeKey).Nodup := by
  rw [(hstored.map Template.mergeKey).nodup_iff, Template.Neutral.map_mergeKey]
  exact hl.nodup_organization channel tenant

section

variable {layers : Layers} {s : AnyStore} {l : Ledger} {channel : Channel} {tenant : TenantId}
  {registered : List String} (hl : l.Sound)
  (hregistered : registered.Perm (l.namesOf channel tenant).values)
include hl hregistered

theorem mem_keys_names {key : String} :
    key ∈ (mergeNames registered (layers.defaults.scenarioNames channel)).map
        Identifier.ScenarioName.key ↔
      l.names.contains ⟨tenant, channel, key⟩ = true ∨
        key ∈ (layers.defaults.scenarioNames channel).map Identifier.ScenarioName.key := by
  rw [mergeNames, mem_map_merge, (hregistered.map _).mem_iff, hl.mem_keys_namesOf]

theorem parse_of_mem_names {locales : DefaultLocales} (hcatalog : layers.defaults.Valid locales)
    {name : String} (hname : name ∈ mergeNames registered (layers.defaults.scenarioNames channel)) :
    ∃ sc, Scenario.parse name = .ok sc := by
  apply Scenario.parse_of_check
  rcases mem_merge hname with hname | hname
  · simp only [hregistered.mem_iff, Ledger.namesOf, Dictionary.values, Dictionary.retain,
      List.mem_map, List.mem_filter] at hname
    obtain ⟨⟨ref, name⟩, ⟨hentry, -⟩, rfl⟩ := hname
    obtain ⟨sc, rfl, -⟩ := hl.names (Dictionary.get?_eq_some_iff.2 hentry)
    exact sc.accepted
  · obtain ⟨t, ht, rfl⟩ := List.mem_map.1 hname
    have hstorable := hcatalog.storable t (List.mem_filter.1 ht).1
    exact (Template.validateForWrite_eq_ok_iff.1 hstorable.valid).1

/-- The scenarios of the names are the registered ones and those of the defaults. -/
theorem known_eq_decide_mem_names (sc : Scenario) :
    (l.names.contains (.of sc channel tenant) || layers.defaults.contains sc channel) =
      decide (sc.key ∈ (mergeNames registered (layers.defaults.scenarioNames channel)).map
        Identifier.ScenarioName.key) := by
  rw [Bool.eq_iff_iff, decide_eq_true_eq, mem_keys_names hl hregistered, Bool.or_eq_true,
    Catalog.contains_iff]
  rfl

/-- Under a name, those of all templates are listed that belong to its scenario. -/
theorem outcome_listByScenario (h : s.Keeps l)
    (hdistinct : (layers.defaults.templates.map Catalog.slot).Nodup) {stored : List Template}
    (hstored : stored.Perm ((l.organization channel tenant).map s.form)) {sc : Scenario}
    (hsc : sc.key ∈ (mergeNames registered (layers.defaults.scenarioNames channel)).map
      Identifier.ScenarioName.key) :
    ∃ part : List Template,
      layers.outcome s (.listByScenario sc channel (.organization tenant)) = .ok part ∧
      part.Perm ((finish stored (layers.defaults.forChannel channel)).filter
        (·.scenarioKey = sc.key)) := by
  obtain ⟨within, hwithin, hlist⟩ := layers.run_listByScenario (shows_of_keeps h hl) hl sc channel
    (.organization tenant)
  have hknown : (l.names.contains (.of sc channel tenant) || layers.defaults.contains sc channel) =
      true := (known_eq_decide_mem_names hl hregistered sc).trans (decide_eq_true hsc)
  have hpart : (stored.filter (·.scenarioKey = sc.key)).Perm within := by
    refine ((hstored.filter _).trans ?_).trans hwithin.symm
    rw [Template.Neutral.filter_scenarioKey (· = sc.key)]
    exact .of_eq (congrArg _ (hl.filter_organization (.of sc channel tenant)))
  refine ⟨_, congrArg Prod.fst (hlist.trans (congrArg (·, s) (if_pos hknown))), ?_⟩
  rw [filter_scenarioKey_finish (· = sc.key), Catalog.filter_forChannel hdistinct]
  exact (perm_finish hpart ((nodup_stored hl hstored).sublist (List.filter_sublist.map _)) _).symm

end

/-! ### Templates -/

theorem mem_finish_iff {stored defaults : List Template}
    (hstored : (stored.map Template.mergeKey).Nodup)
    (hdefaults : (defaults.map Template.mergeKey).Nodup) {t : Template} :
    t ∈ finish stored defaults ↔ (∃ u ∈ stored, t = u.withUtf8Charset) ∨
      ∃ u ∈ defaults, t = u.withUtf8Charset ∧ u.mergeKey ∉ stored.map Template.mergeKey := by
  simp only [finish, mergeTemplates, List.mem_map, mem_merge_iff hstored hdefaults]
  constructor
  · rintro ⟨u, hu | ⟨hu, hfree⟩, rfl⟩
    · exact .inl ⟨u, hu, rfl⟩
    · exact .inr ⟨u, hu, rfl, by simpa using hfree⟩
  · rintro (⟨u, hu, rfl⟩ | ⟨u, hu, rfl, hfree⟩)
    · exact ⟨u, .inl hu, rfl⟩
    · exact ⟨u, .inr ⟨hu, by simpa using hfree⟩, rfl⟩

section

variable {s : AnyStore} {l : Ledger} (h : s.Keeps l) (hl : l.Sound) {channel : Channel}
  {tenant : TenantId} {stored : List Template}
  (hstored : stored.Perm ((l.organization channel tenant).map s.form))
include h hl

theorem mergeKey_of_read {p : Position} {u : Template} (hread : s.read p = .ok (some u)) :
    u.mergeKey = (p.scenario.key, p.channel, p.locale.tag) := by
  rw [AnyStore.read_of_keeps h hl, Except.ok.injEq, Option.map_eq_some_iff] at hread
  obtain ⟨t, hrecord, rfl⟩ := hread
  rw [(Template.Neutral.alike (f := s.form) t).mergeKey]
  exact hl.mergeKey hrecord

include hstored

/-- The stored part of the listing is what can be read at the organization's positions. -/
theorem mem_stored_iff {u : Template} : u ∈ stored ↔
    ∃ p, Organizational p channel tenant ∧ s.read p = .ok (some u) := by
  simp only [hstored.mem_iff, List.mem_map, Ledger.mem_organization, AnyStore.read_of_keeps h hl,
    Except.ok.injEq, Option.map_eq_some_iff]
  constructor
  · rintro ⟨t, ⟨r, hrecord, ⟨htenant, hchannel⟩, happ⟩, rfl⟩
    obtain ⟨p, rfl, -⟩ := hl.records hrecord
    exact ⟨p, ⟨hchannel, Scope.eq_organization htenant happ⟩, t, hrecord, rfl⟩
  · rintro ⟨p, ⟨rfl, hscope⟩, t, hrecord, rfl⟩
    refine ⟨t, ⟨p.ref, hrecord, ⟨?_, rfl⟩, ?_⟩, rfl⟩
    · exact congrArg Scope.tenant hscope
    · exact congrArg Scope.applicationText hscope

/-- A place that no stored template takes is empty in the organization. -/
theorem free_iff {u : Template} (hu : u.Storable) (hchannel : u.channel = channel) :
    u.mergeKey ∉ stored.map Template.mergeKey ↔
      ∀ p, Organizational p channel tenant → p.scenario.key = u.scenarioKey →
        p.locale.tag = u.locale → s.read p = .ok none := by
  rw [hu.mergeKey, hchannel, List.mem_map]
  constructor
  · intro hfree p hp hkey htag
    rw [AnyStore.read_of_keeps h hl]
    cases hrecord : (l.records.get? p.ref).map s.form with
    | none => rfl
    | some v =>
      have hread : s.read p = .ok (some v) := by rw [AnyStore.read_of_keeps h hl, hrecord]
      refine absurd ⟨v, (mem_stored_iff h hl hstored).2 ⟨p, hp, hread⟩, ?_⟩ hfree
      rw [mergeKey_of_read h hl hread, hkey, hp.channel, htag]
  · rintro hempty ⟨v, hv, hkey⟩
    obtain ⟨p, hp, hread⟩ := (mem_stored_iff h hl hstored).1 hv
    rw [mergeKey_of_read h hl hread, Prod.mk.injEq, Prod.mk.injEq] at hkey
    rw [hempty p hp hkey.1 hkey.2.2] at hread
    cases hread

end

section

variable {layers : Layers} {s : AnyStore} {l : Ledger} {channel : Channel} {tenant : TenantId}
  {registered : List String} {stored : List Template}

/-- Whatever is listed belongs to a scenario that is listed. -/
theorem scenarioKey_mem_names (hl : l.Sound)
    (hregistered : registered.Perm (l.namesOf channel tenant).values)
    (hstored : stored.Perm ((l.organization channel tenant).map s.form)) {t : Template}
    (ht : t ∈ finish stored (layers.defaults.forChannel channel)) :
    t.scenarioKey ∈ (mergeNames registered (layers.defaults.scenarioNames channel)).map
      Identifier.ScenarioName.key := by
  obtain ⟨u, hu, rfl⟩ := List.mem_map.1 ht
  rw [Template.scenarioKey_withUtf8Charset, mem_keys_names hl hregistered]
  rcases mem_merge hu with hu | hu
  · left
    obtain ⟨v, hv, rfl⟩ := List.mem_map.1 (hstored.mem_iff.1 hu)
    obtain ⟨r, hrecord, ⟨rfl, rfl⟩, -⟩ := Ledger.mem_organization.1 hv
    rw [Template.Neutral.scenarioKey, hl.scenarioKey hrecord]
    exact Option.isSome_of_mem (hl.owned r v hrecord)
  · exact .inr (List.mem_map_of_mem (List.mem_map_of_mem hu))

/-- The listings under the names make up the listing of everything. -/
theorem perm_parts (hl : l.Sound) (hregistered : registered.Perm (l.namesOf channel tenant).values)
    (h : s.Keeps l) {locales : DefaultLocales} (hvalid : layers.defaults.Valid locales)
    (hslots : (layers.defaults.templates.map Catalog.slot).Nodup)
    (hstored : stored.Perm ((l.organization channel tenant).map s.form)) :
    let names := mergeNames registered (layers.defaults.scenarioNames channel)
    let all := finish stored (layers.defaults.forChannel channel)
    ∃ part : String → List Template, all.Perm (names.flatMap part) ∧
      ∀ name ∈ names, ∃ sc, Scenario.parse name = .ok sc ∧
        layers.outcome s (.listByScenario sc channel (.organization tenant)) = .ok (part name) := by
  intro names all
  have hpart : ∀ name ∈ names, ∃ part sc, Scenario.parse name = .ok sc ∧
      layers.outcome s (.listByScenario sc channel (.organization tenant)) = .ok part ∧
      part.Perm (all.filter (·.scenarioKey = Identifier.ScenarioName.key name)) := by
    intro name hname
    obtain ⟨sc, hsc⟩ := parse_of_mem_names hl hregistered hvalid hname
    have hkey := Scenario.key_of_parse hsc
    have hmem : sc.key ∈ names.map Identifier.ScenarioName.key := hkey ▸ List.mem_map_of_mem hname
    obtain ⟨part, hlist, hperm⟩ := outcome_listByScenario hl hregistered h hslots hstored hmem
    exact ⟨part, sc, hsc, hlist, hkey ▸ hperm⟩
  choose! part hpart using hpart
  have hdistinct : (names.map Identifier.ScenarioName.key).Nodup := nodup_merge _ _
  have hall : all.filter (·.scenarioKey ∈ names.map Identifier.ScenarioName.key) = all :=
    List.filter_eq_self.2 fun t ht =>
      decide_eq_true (scenarioKey_mem_names hl hregistered hstored ht)
  have hgroups := perm_flatMap_filter Template.scenarioKey hdistinct all
  rw [hall, List.flatMap_map] at hgroups
  refine ⟨part, hgroups.symm.trans (List.Perm.flatMap_left names fun name hname => ?_), ?_⟩
  · obtain ⟨-, -, -, hperm⟩ := hpart name hname
    exact hperm.symm
  · intro name hname
    obtain ⟨sc, hsc, hlist, -⟩ := hpart name hname
    exact ⟨sc, hsc, hlist⟩

end

/-- Over any store that operations have led to, and with any catalog of defaults, the listings of a
tenant's organization fit together. -/
theorem listings_tile (layers : Layers) {locales : DefaultLocales} {templates : List Template}
    (hcatalog : Catalog.ofTemplates locales templates = .ok layers.defaults) (kind : Kind)
    (ops : List Operation) (channel : Channel) (tenant : TenantId) :
    let s := layers.through (.empty kind) ops
    ∃ names all, layers.outcome s (.listScenarios channel tenant) = .ok names ∧
      layers.outcome s (.listAll channel tenant) = .ok all ∧
      layers.Tiled s channel tenant names all := by
  intro s
  obtain ⟨l, hkeeps, hl⟩ := layers.sound_through (AnyStore.sound_empty kind) ops
  have hvalid := Catalog.valid_ofTemplates hcatalog
  have hslots := Catalog.nodup_ofTemplates hcatalog
  obtain ⟨registered, hregistered, hnames⟩ := layers.outcome_listScenarios hkeeps hl channel tenant
  obtain ⟨stored, hstored, hall⟩ := layers.outcome_listAll hkeeps hl channel tenant
  refine ⟨_, _, hnames, hall, ?_⟩
  have hnodup := nodup_stored hl hstored
  constructor
  · exact nodup_merge _ _
  · intro sc
    rw [← known_eq_decide_mem_names hl hregistered sc]
    exact congrArg Prod.fst (layers.run_scenarioExists (shows_of_keeps hkeeps hl) sc channel tenant)
  · exact perm_parts hl hregistered hkeeps hvalid hslots hstored
  · rw [map_mergeKey_finish]
    exact nodup_merge _ _
  · intro t
    rw [mem_finish_iff hnodup (Catalog.nodup_forChannel hslots channel)]
    refine or_congr ?_ (exists_congr fun u => and_congr_right fun hu => and_congr_right fun _ => ?_)
    · simp only [mem_stored_iff hkeeps hl hstored]
      constructor
      · rintro ⟨u, ⟨p, hp, hread⟩, rfl⟩
        exact ⟨p, u, hp, hread, rfl⟩
      · rintro ⟨p, u, hp, hread, rfl⟩
        exact ⟨u, ⟨p, hp, hread⟩, rfl⟩
    · obtain ⟨hmem, hchannel⟩ := List.mem_filter.1 hu
      exact free_iff hkeeps hl hstored (hvalid.storable u hmem) (of_decide_eq_true hchannel)

/-- A template of the organization and one of an application, over a catalog with one default. -/
theorem listings_tile_otp :
    let code : Template := .sms "otp" "en-us" "code"
    let layers : Layers := ⟨⟨[code]⟩, {}⟩
    let shop : Scope := { tenant := ⟨1⟩, application := some ⟨"shop", by rfl⟩ }
    let ops : List Operation := [.ensureScenario ⟨"Pin", by rfl, by decide +kernel⟩ .sms ⟨1⟩,
      .upsert (.sms "pin" "fr-fr" "chiffres") (.organization ⟨1⟩),
      .upsert (.sms "pin" "en-us" "digits") shop]
    let s := layers.through (.empty .forest) ops
    Catalog.ofTemplates layers.locales [code] = .ok layers.defaults ∧
      ∃ names all, layers.outcome s (.listScenarios .sms ⟨1⟩) = .ok names ∧
        layers.outcome s (.listAll .sms ⟨1⟩) = .ok all ∧
        layers.Tiled s .sms ⟨1⟩ names all := by
  intro code layers shop ops s
  have hcatalog : Catalog.ofTemplates layers.locales [code] = .ok layers.defaults := by
    decide +kernel
  exact ⟨hcatalog, listings_tile layers hcatalog .forest ops .sms ⟨1⟩⟩

end Layers
end Missive

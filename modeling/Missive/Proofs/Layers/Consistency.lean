import Mathlib.Data.List.Find
import Missive.Proofs.Catalog
import Missive.Proofs.Layers.Evaluation
import Missive.Proofs.Layers.Footprint

/-! Single look-ups and listings agree. The listing of a scenario has at most one template in each
locale, and it has all that can be found: looking a template up gives the listing's entry in the
requested locale, or else the one in the default locale. -/

namespace Missive

open Store

@[simp] theorem Template.mergeKey_withUtf8Charset (t : Template) :
    t.withUtf8Charset.mergeKey = t.mergeKey := by
  unfold withUtf8Charset
  split
  · split <;> rfl
  · rfl

@[simp] theorem Template.locale_withUtf8Charset (t : Template) :
    t.withUtf8Charset.locale = t.locale := by
  unfold withUtf8Charset
  split
  · split <;> rfl
  · rfl

@[simp] theorem Template.scenarioKey_withUtf8Charset (t : Template) :
    t.withUtf8Charset.scenarioKey = t.scenarioKey :=
  congrArg Prod.fst t.mergeKey_withUtf8Charset

/-- The template belongs to the scenario, and its locale is in canonical form. -/
def Template.BelongsTo (t : Template) (ref : ScenarioRef) : Prop :=
  t.mergeKey = (ref.key, ref.channel, t.locale)

theorem Template.Storable.mergeKey {t : Template} (h : t.Storable) :
    t.mergeKey = (t.scenarioKey, t.channel, t.locale) := by
  have hlocale : Identifier.LocaleTag.normalize t.locale = t.locale :=
    congrArg Template.locale h.normal
  rw [Template.mergeKey, hlocale]

/-- Among the templates of a scenario, those in a locale are those with a certain key. -/
theorem find?_locale {ref : ScenarioRef} {ts : List Template} (h : ∀ t ∈ ts, t.BelongsTo ref)
    (tag : String) :
    ts.find? (·.locale = tag) = ts.find? (Template.mergeKey · = (ref.key, ref.channel, tag)) := by
  apply List.find?_congr
  intro t ht
  rw [h t ht]
  simp

namespace Store.Ledger.Sound

variable {l : Ledger} {form : Template → Template} [Template.Neutral form] {ref : ScenarioRef}
  {application : Option String} {stored : List Template}

theorem belongsTo_form (h : l.Sound) {r : RecordRef} {t : Template}
    (hr : l.records.get? r = some t) : (form t).BelongsTo r.scenario := by
  have halike := Template.Neutral.alike (f := form) t
  rw [Template.BelongsTo, halike.mergeKey, halike.locale, h.mergeKey hr, h.locale hr]

variable (h : l.Sound) (hstored : stored.Perm ((l.within ref application).map form))
include h hstored

theorem belongsTo_stored : ∀ t ∈ stored, t.BelongsTo ref := by
  intro t ht
  obtain ⟨u, hu, rfl⟩ := List.mem_map.1 (hstored.mem_iff.1 ht)
  obtain ⟨tag, hrecord⟩ := mem_within.1 hu
  exact h.belongsTo_form hrecord

/-- A stored listing has, in each locale, the record that is there. -/
theorem find?_stored (tag : String) :
    stored.find? (·.locale = tag) = (l.records.get? ⟨ref, application, tag⟩).map form := by
  have hnodup : (stored.map Template.mergeKey).Nodup := by
    rw [(hstored.map Template.mergeKey).nodup_iff, Template.Neutral.map_mergeKey]
    exact h.nodup_within ref application
  ext t
  rw [find?_locale (h.belongsTo_stored hstored), find?_key_eq_some hnodup, hstored.mem_iff,
    List.mem_map, Option.map_eq_some_iff]
  constructor
  · rintro ⟨⟨u, hu, rfl⟩, hkey⟩
    obtain ⟨tag', hrecord⟩ := mem_within.1 hu
    rw [(Template.Neutral.alike (f := form) u).mergeKey, h.mergeKey hrecord] at hkey
    obtain rfl : tag' = tag := congrArg (fun k => k.2.2) hkey
    exact ⟨u, hrecord, rfl⟩
  · rintro ⟨u, hrecord, rfl⟩
    refine ⟨⟨u, mem_within.2 ⟨tag, hrecord⟩, rfl⟩, ?_⟩
    rw [(Template.Neutral.alike (f := form) u).mergeKey, h.mergeKey hrecord]

end Store.Ledger.Sound

namespace Layers

variable (layers : Layers)

/-! ### Listings -/

section

variable {ref : ScenarioRef} {stored : List Template} {default : Option Template}
  (hstored : ∀ t ∈ stored, t.BelongsTo ref) (hdefault : ∀ t ∈ default, t.BelongsTo ref)
include hstored hdefault

theorem belongsTo_merged : ∀ t ∈ mergeTemplates stored default.toList, t.BelongsTo ref := by
  intro t ht
  rcases mem_merge ht with ht | ht
  · exact hstored t ht
  · exact hdefault t (Option.mem_toList.1 ht)

/-- In each locale a finished listing has what is stored there, or else the default. -/
theorem find?_finish (tag : String) :
    (finish stored default.toList).find? (·.locale = tag) =
      ((stored.find? (·.locale = tag)).or (default.filter (·.locale = tag))).map
        Template.withUtf8Charset := by
  have hlist : default.toList.find? (·.locale = tag) = default.filter (·.locale = tag) := by
    cases default with
    | none => rfl
    | some t =>
      by_cases htag : t.locale = tag <;> simp [Option.filter, htag]
  have hcharset : ((fun t : Template => decide (t.locale = tag)) ∘ Template.withUtf8Charset) =
      fun t => decide (t.locale = tag) := by
    funext t
    simp
  have htoList : ∀ t ∈ default.toList, t.BelongsTo ref := fun t ht =>
    hdefault t (Option.mem_toList.1 ht)
  rw [finish, List.find?_map, hcharset, find?_locale (belongsTo_merged hstored hdefault),
    mergeTemplates, find?_merge, ← find?_locale hstored, ← find?_locale htoList, hlist]

theorem nodup_finish : ((finish stored default.toList).map Template.locale).Nodup := by
  have hnodup : ((mergeTemplates stored default.toList).map Template.mergeKey).Nodup :=
    nodup_merge _ _
  have hkeys : (mergeTemplates stored default.toList).map Template.mergeKey =
      ((mergeTemplates stored default.toList).map Template.locale).map
        fun tag => (ref.key, ref.channel, tag) := by
    rw [List.map_map]
    exact List.map_congr_left fun t ht => belongsTo_merged hstored hdefault t ht
  rw [hkeys] at hnodup
  rw [finish, List.map_map]
  have hlocale : Template.locale ∘ Template.withUtf8Charset = Template.locale := by
    funext t
    simp
  rw [hlocale]
  exact hnodup.of_map _

end

/-- Scenarios may be left out of a finished listing, or before its parts are merged. -/
theorem filter_scenarioKey_finish (p : String → Bool) (stored defaults : List Template) :
    (finish stored defaults).filter (p ·.scenarioKey) =
      finish (stored.filter (p ·.scenarioKey)) (defaults.filter (p ·.scenarioKey)) := by
  have hcharset : (fun t : Template => p t.scenarioKey) ∘ Template.withUtf8Charset =
      fun t => p t.scenarioKey := by
    funext t
    simp
  have hmerge : (mergeTemplates stored defaults).filter (p ·.scenarioKey) =
      mergeTemplates (stored.filter (p ·.scenarioKey)) (defaults.filter (p ·.scenarioKey)) :=
    filter_merge Template.mergeKey (fun k => p k.1) _ _
  rw [finish, finish, List.filter_map, hcharset, hmerge]

/-- The default for a scenario belongs to it, and is in the default locale. -/
theorem default_belongsTo {locales : DefaultLocales} (hcatalog : layers.defaults.Valid locales)
    {s : Scenario} {channel : Channel} {tenant : TenantId} {t : Template}
    (h : layers.defaults.get? s channel = some t) : t.BelongsTo (.of s channel tenant) := by
  obtain ⟨hmem, hchannel, hkey⟩ := Catalog.get?_eq_some h
  rw [Template.BelongsTo, (hcatalog.storable t hmem).mergeKey, hchannel, hkey]
  rfl

/-- With a valid catalog, a request for which nothing is stored comes to the default. -/
theorem fromDefaults_eq {locales : DefaultLocales} (hcatalog : layers.defaults.Valid locales)
    (r : ResolveRequest) :
    layers.fromDefaults r =
      (layers.defaults.get? r.scenario r.channel).elim (.error r.notFound) (.ok ·.withUtf8Charset) := by
  rw [fromDefaults]
  cases h : layers.defaults.get? r.scenario r.channel with
  | none => rfl
  | some t =>
    obtain ⟨hmem, -⟩ := Catalog.get?_eq_some h
    have hvalid := (hcatalog.storable t hmem).valid
    have hcontent := (Template.validateForWrite_eq_ok_iff.1 hvalid).2.2.1
    simp only [hcontent, if_true]
    rfl

/-! ### Operations on stores -/

/-- What an operation comes to in a store. -/
def outcome (s : AnyStore) (o : Operation) : Except Failure o.Reply :=
  ((layers.program o).run AnyStore.backend s).1

/-- The store after several operations. -/
def through (s : AnyStore) (ops : List Operation) : AnyStore :=
  ops.foldl (fun s o => ((layers.program o).run AnyStore.backend s).2) s

/-- An operation has the outcome over a store that it has over the ledger that the store keeps, and the
store goes on keeping it. -/
theorem realizes_program {s : AnyStore} {l : Ledger} (h : s.Keeps l) (hl : l.Sound) (o : Operation) :
    let real := (layers.program o).run AnyStore.backend s
    let told := (layers.program o).run (Ledger.giving s.form) l
    Outcome.Alike (o.Tells id) real.1 told.1 ∧ real.2.Keeps told.2 ∧ told.2.Sound ∧
      real.2.form = s.form := by
  refine (layers.matching_program id o).run (h := AnyStore.backend) (g := Ledger.giving s.form)
    (P := fun s' k => s'.Keeps k ∧ k.Sound ∧ s'.form = s.form) ?_ ⟨h, hl, rfl⟩
  rintro c s' k ⟨hc, -⟩ ⟨hs', hk, hform⟩
  obtain ⟨halike, hkeeps', hform'⟩ := AnyStore.realizes hs' hk hc
  rw [hform] at halike
  exact ⟨halike, hkeeps', hk.step hc, hform'.trans hform⟩

/-- The store still keeps a sound ledger, and gives its templates in the same form. -/
theorem keeps_through {s : AnyStore} {l : Ledger} (h : s.Keeps l) (hl : l.Sound)
    (ops : List Operation) :
    ∃ l', (layers.through s ops).Keeps l' ∧ l'.Sound ∧ (layers.through s ops).form = s.form := by
  induction ops generalizing s l with
  | nil => exact ⟨l, h, hl, rfl⟩
  | cons o rest ih =>
    obtain ⟨-, hkeeps, hsound, hform⟩ := layers.realizes_program h hl o
    obtain ⟨l', hkeeps', hsound', hform'⟩ := ih hkeeps hsound
    exact ⟨l', hkeeps', hsound', hform'.trans hform⟩

theorem sound_through {s : AnyStore} (h : s.Sound) (ops : List Operation) :
    (layers.through s ops).Sound := by
  obtain ⟨l, hkeeps, hl⟩ := h
  obtain ⟨l', hkeeps', hl', -⟩ := layers.keeps_through hkeeps hl ops
  exact ⟨l', hkeeps', hl'⟩

/-- The listing of the scenario that a request is about and the single look-ups tell the same: the
listing has each locale once, and a look-up gives its entry in the requested locale, or else its
entry in the default locale. Without a listing there is no such scenario, and nothing to be found. -/
inductive Consistent (layers : Layers) (s : AnyStore) (r : ResolveRequest) : Prop where
  | listed {entries : List Template} :
      layers.outcome s (.listByScenario r.scenario r.channel r.scope) = .ok entries →
      layers.outcome s (.scenarioExists r.scenario r.channel r.scope.tenant) = .ok true →
      (entries.map Template.locale).Nodup →
      layers.outcome s (.templateExists r) = .ok (entries.any (·.locale = r.locale.tag)) →
      (layers.outcome s (.resolve r)).map Resolved.template =
        ((entries.find? (·.locale = r.locale.tag)).or
          (entries.find? (·.locale = (layers.locales.forChannel r.channel).tag))).elim
            (.error r.notFound) .ok →
      Consistent layers s r
  | unknown :
      layers.outcome s (.listByScenario r.scenario r.channel r.scope) =
        .error (.scenarioNotFound r.scenario.displayName r.channel r.scope.tenant) →
      layers.outcome s (.scenarioExists r.scenario r.channel r.scope.tenant) = .ok false →
      layers.outcome s (.templateExists r) = .ok false →
      (layers.outcome s (.resolve r)).map Resolved.template = .error r.notFound →
      Consistent layers s r

/-- What a request comes to, told from a listing that has in each locale what is stored there, or
else the default. -/
theorem resolution_eq_of_find? (hcatalog : layers.defaults.Valid layers.locales) {l : Ledger}
    {form : Template → Template} {r : ResolveRequest} {entries : List Template}
    (hentries : ∀ locale : Locale, entries.find? (·.locale = locale.tag) =
      (((l.records.get? (r.positionIn locale).ref).map form).or
        ((layers.defaults.get? r.scenario r.channel).filter (·.locale = locale.tag))).map
          Template.withUtf8Charset) :
    layers.resolution l form r =
      ((entries.find? (·.locale = r.locale.tag)).or
        (entries.find? (·.locale = (layers.locales.forChannel r.channel).tag))).elim
          (.error r.notFound) .ok := by
  have hdefault : ∀ t, layers.defaults.get? r.scenario r.channel = some t →
      t.locale = (layers.locales.forChannel r.channel).tag := by
    intro t ht
    obtain ⟨hmem, hchannel, -⟩ := Catalog.get?_eq_some ht
    rw [hcatalog.locale t hmem, hchannel]
  rw [resolution, recordFor, fromDefaults_eq layers hcatalog, hentries, hentries,
    ResolveRequest.position]
  generalize layers.defaults.get? r.scenario r.channel = default at hdefault
  cases hrecord : l.records.get? (r.positionIn r.locale).ref with
  | some t => rfl
  | none =>
    by_cases htag : r.locale.tag = (layers.locales.forChannel r.channel).tag
    · have href : (r.positionIn (layers.locales.forChannel r.channel)).ref =
          (r.positionIn r.locale).ref := by
        simp only [Position.ref, ResolveRequest.positionIn, htag]
      rw [href, hrecord]
      cases default with
      | none => rfl
      | some t => simp [Option.filter, htag, hdefault t rfl]
    · cases default with
      | none =>
        cases l.records.get? (r.positionIn (layers.locales.forChannel r.channel)).ref <;> rfl
      | some t =>
        cases l.records.get? (r.positionIn (layers.locales.forChannel r.channel)).ref <;>
          simp [Option.filter, hdefault t rfl, Ne.symm htag]

/-- Over any store that operations have led to, single look-ups and listings tell the same. -/
theorem lookups_agree_with_listing (layers : Layers) {templates : List Template}
    (hcatalog : Catalog.ofTemplates layers.locales templates = .ok layers.defaults) (kind : Kind)
    (ops : List Operation) (r : ResolveRequest) :
    layers.Consistent (layers.through (.empty kind) ops) r := by
  obtain ⟨l, hkeeps, hl⟩ := layers.sound_through (AnyStore.sound_empty kind) ops
  have hcatalog := Catalog.valid_ofTemplates hcatalog
  generalize layers.through (.empty kind) ops = s at hkeeps
  have hshows := shows_of_keeps hkeeps hl
  obtain ⟨stored, hstored, hlist⟩ := layers.run_listByScenario hshows hl r.scenario r.channel
    r.scope
  have hexists := layers.run_scenarioExists hshows r.scenario r.channel r.scope.tenant
  have htemplate := layers.run_templateExists hshows r
  obtain ⟨hresolve, -⟩ := layers.run_resolve hshows hl r
  have hentries : ∀ locale : Locale,
      (finish stored (layers.defaults.get? r.scenario r.channel).toList).find?
          (·.locale = locale.tag) =
        (((l.records.get? (r.positionIn locale).ref).map s.form).or
          ((layers.defaults.get? r.scenario r.channel).filter (·.locale = locale.tag))).map
            Template.withUtf8Charset := by
    intro locale
    rw [find?_finish (hl.belongsTo_stored hstored) fun t => layers.default_belongsTo hcatalog,
      hl.find?_stored hstored]
    rfl
  cases hknown : l.names.contains (.of r.scenario r.channel r.scope.tenant) ||
      layers.defaults.contains r.scenario r.channel with
  | true =>
    rw [hknown] at hlist hexists
    refine .listed (congrArg Prod.fst hlist) (congrArg Prod.fst hexists) ?_ ?_ ?_
    · exact nodup_finish (hl.belongsTo_stored hstored) fun t => layers.default_belongsTo hcatalog
    · refine (congrArg Prod.fst htemplate).trans (congrArg Except.ok ?_)
      rw [← List.isSome_find?, hentries, Option.isSome_map, Option.isSome_or, Option.isSome_map,
        Option.isSome_filter]
      rfl
    · exact hresolve.trans (layers.resolution_eq_of_find? hcatalog hentries)
  | false =>
    rw [hknown] at hlist hexists
    obtain ⟨hname, hnone⟩ := Bool.or_eq_false_iff.1 hknown
    rw [Catalog.contains, Option.isSome_eq_false_iff, Option.isNone_iff_eq_none] at hnone
    rw [Dictionary.contains, Option.isSome_eq_false_iff, Option.isNone_iff_eq_none] at hname
    have hrecord : ∀ locale, l.records.get? (r.positionIn locale).ref = none := fun _ =>
      hl.owned.record_none hname
    refine .unknown (congrArg Prod.fst hlist) (congrArg Prod.fst hexists) ?_ ?_
    · refine (congrArg Prod.fst htemplate).trans ?_
      rw [Dictionary.contains, ResolveRequest.position, hrecord, hnone]
      rfl
    · refine hresolve.trans ?_
      rw [resolution, recordFor, ResolveRequest.position, hrecord, hrecord, fromDefaults, hnone]
      rfl

/-- A template stored for an application, over a catalog with one default. -/
theorem lookups_agree_with_listing_otp :
    let code : Template := .sms "otp" "en-us" "code"
    let layers : Layers := ⟨⟨[code]⟩, {}⟩
    let scope : Scope := { tenant := ⟨1⟩, application := some ⟨"shop", by rfl⟩ }
    let r : ResolveRequest := ⟨⟨"otp", by rfl, by decide +kernel⟩, .enUs, .sms, scope⟩
    let ops : List Operation := [.ensureScenario r.scenario .sms ⟨1⟩,
      .upsert (.sms "otp" "fr-fr" "mot") scope]
    Catalog.ofTemplates layers.locales [code] = .ok layers.defaults ∧
      layers.Consistent (layers.through (.empty .forest) ops) r := by
  intro code layers scope r ops
  have hcatalog : Catalog.ofTemplates layers.locales [code] = .ok layers.defaults := by
    decide +kernel
  exact ⟨hcatalog, lookups_agree_with_listing layers hcatalog .forest ops r⟩

end Layers
end Missive

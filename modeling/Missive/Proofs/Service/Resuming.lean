import Missive.Proofs.Catalog
import Missive.Proofs.Service.Failing

/-! Copying the defaults of a channel to a tenant. Nothing that is there is overwritten, what was missing
is counted, and what a fault has cut short is taken up by the next attempt, which adds what is still
missing then. -/

namespace Missive

open Store

/-- What is stored in the organization of a tenant for the scenario and the locale of a template. -/
def Store.AnyStore.inPlaceOf (s : AnyStore) (tenant : TenantId) (t : Template) : Option Template :=
  match ResolveRequest.parse t.scenario t.locale t.channel tenant none with
  | .ok r => (s.read r.position).toOption.join
  | .error _ => none

/-- How many of the templates have nothing in their place. -/
def Store.AnyStore.missing (s : AnyStore) (tenant : TenantId) (ts : List Template) : Nat :=
  ts.countP fun t => s.inPlaceOf tenant t = none

/-- Between the two stores, templates have been put into the organization of a tenant where there was
nothing. -/
structure Store.AnyStore.Fills (tenant : TenantId) (ts : List Template) (before after : AnyStore) :
    Prop where
  /-- Nothing is overwritten. -/
  kept : ∀ p u, before.read p = .ok (some u) → after.read p = .ok (some u)
  /-- What is new is one of the templates, under the name of its scenario. -/
  new : ∀ p u, after.read p = .ok (some u) → before.read p = .ok (some u) ∨
    before.read p = .ok none ∧ ∃ t ∈ ts, p.ref = t.home tenant ∧
      u.Alike { t with scenario := u.scenario } ∧ after.Registers p.ref.scenario u.scenario

/-- Defaults with slots of their own have places of their own. -/
theorem Catalog.nodup_homes {c : Catalog} (hstorable : ∀ t ∈ c.templates, t.Storable)
    (hslots : (c.templates.map slot).Nodup) (channel : Channel) (tenant : TenantId) :
    ((c.forChannel channel).map (Template.home · tenant)).Nodup := by
  refine List.Nodup.of_map (fun r : RecordRef => (r.scenario.channel, r.scenario.key)) ?_
  have hslot : ((c.forChannel channel).map (Template.home · tenant)).map
      (fun r : RecordRef => (r.scenario.channel, r.scenario.key)) =
      (c.forChannel channel).map slot := by
    rw [List.map_map]
    refine List.map_congr_left fun t ht => ?_
    rw [Function.comp_apply, Template.home, (hstorable t (List.mem_of_mem_filter ht)).normal]
    rfl
  rw [hslot]
  exact hslots.sublist (List.filter_sublist.map slot)

namespace Service

namespace Setting

variable {t : Template}

theorem inPlaceOf_eq (s : Setting) (ht : t.Storable) (tenant : TenantId) :
    s.store.inPlaceOf tenant t = (s.ledger.records.get? (t.home tenant)).map s.store.form := by
  obtain ⟨hname, htag, -⟩ := Template.validateForWrite_eq_ok_iff.1 ht.valid
  obtain ⟨sc, hs⟩ := Scenario.parse_of_check hname
  obtain ⟨locale, hlocale⟩ := Locale.parse_of_check htag
  have hparse : ResolveRequest.parse t.scenario t.locale t.channel tenant none =
      .ok ⟨sc, locale, t.channel, .organization tenant⟩ := by
    rw [ResolveRequest.parse, hs, hlocale]
    rfl
  simp only [AnyStore.inPlaceOf, hparse, read_eq, Template.home_eq hs hlocale]
  rfl

theorem inPlaceOf_eq_none_iff (s : Setting) (ht : t.Storable) (tenant : TenantId) :
    s.store.inPlaceOf tenant t = none ↔ s.ledger.records.get? (t.home tenant) = none := by
  rw [s.inPlaceOf_eq ht, Option.map_eq_none_iff]

theorem missing_eq (s : Setting) {ts : List Template} (hts : ∀ t ∈ ts, t.Storable)
    (tenant : TenantId) :
    s.store.missing tenant ts =
      ts.countP fun t => s.ledger.records.get? (t.home tenant) = none :=
  List.countP_congr fun t ht => by
    rw [decide_eq_true_eq, decide_eq_true_eq, s.inPlaceOf_eq_none_iff (hts t ht)]

theorem Grows.fills {s s' : Setting} {tenant : TenantId} {named ts : List Template}
    (h : s.Grows tenant named ts s') (hts : ∀ t ∈ ts, t.Storable) :
    s.store.Fills tenant ts s'.store := by
  constructor
  · intro p u hp
    rw [s.read_eq, Except.ok.injEq, Option.map_eq_some_iff] at hp
    obtain ⟨t, ht, rfl⟩ := hp
    rw [s'.read_eq, h.get? (ht ▸ Option.some_ne_none t), ht, h.form]
    rfl
  · intro p u hp
    rw [s'.read_eq, Except.ok.injEq, Option.map_eq_some_iff] at hp
    obtain ⟨v, hv, rfl⟩ := hp
    rw [s.read_eq_none_iff, s.read_eq, s'.registers_iff, h.form]
    rcases h.records p.ref with hsame | ⟨hnone, t, ht, hplace, name, hnew⟩
    · rw [← hsame, hv]
      exact .inl rfl
    · have hname : (s.store.form v).scenario = v.scenario :=
        (Template.Neutral.alike v).scenario
      obtain rfl : v = { t with scenario := name } := by
        rw [hnew, (hts t ht).normal] at hv
        exact (Option.some.inj hv).symm
      rw [hname]
      exact .inr ⟨hnone, t, ht, hplace, Template.Neutral.alike _, s'.sound.owned _ _ hv⟩

end Setting

/-- What the copying of a channel's defaults to a tenant comes to between two courses, and how it goes
on from there. -/
structure Seeded (service : Service) (channel : Channel) (domain : String) (tenant : TenantId)
    (before after : Course) : Prop where
  /-- This holds whether it succeeds or not. -/
  fills : before.state.store.Fills tenant (service.layers.defaults.forChannel channel)
    after.state.store
  succeeds : before.Faultless → ∃ n,
    before.outcome service (.addDefaultTemplates channel domain) = .ok n
  counted : ∀ n, before.outcome service (.addDefaultTemplates channel domain) = .ok n →
    n = before.state.store.missing tenant (service.layers.defaults.forChannel channel)
  complete : ∀ n, before.outcome service (.addDefaultTemplates channel domain) = .ok n →
    ∀ t ∈ service.layers.defaults.forChannel channel,
      after.state.store.inPlaceOf tenant t ≠ none
  /-- Once it has succeeded, there is nothing left to do. -/
  settled : ∀ n, before.outcome service (.addDefaultTemplates channel domain) = .ok n →
    (after.losing []).outcome service (.addDefaultTemplates channel domain) = .ok 0 ∧
      ((after.losing []).after service (.addDefaultTemplates channel domain)).state = after.state
  /-- However it ended and whatever was done since, what is missing is added if there are no faults. -/
  resumes : ∀ ops losses, let later := (after.through service ops).losing losses
    later.outcome service (.addDefaultTemplates channel domain) =
      .ok (later.state.store.missing tenant (service.layers.defaults.forChannel channel))

namespace Course

variable {service : Service} {c : Course} {channel : Channel} {domain : String} {tenant : TenantId}

/-- A tenant that has been found for a domain is found for it later. -/
theorem resolves_after (h : (c.state.tenants.resolve domain).1 = .ok tenant) (o : Operation) :
    ((c.after service o).state.tenants.resolve domain).1 = .ok tenant := by
  refine Program.run_keeps (P := fun c : Course => (c.state.tenants.resolve domain).1 = .ok tenant)
    ?_ (service.program o) h
  intro q c hc
  cases q with
  | tenant other => exact Tenant.Lookup.resolve_stays hc other
  | cache => exact hc
  | store call =>
    rw [answer, Incident.answer]
    cases (c.incidents.headD {}).fault <;> exact hc

theorem resolves_through (h : (c.state.tenants.resolve domain).1 = .ok tenant)
    (ops : List Operation) :
    ((c.through service ops).state.tenants.resolve domain).1 = .ok tenant := by
  induction ops generalizing c with
  | nil => exact h
  | cons o rest ih => exact ih (resolves_after h o)

end Course

section

variable {service : Service} {c : Course} {channel : Channel} {domain : String} {tenant : TenantId}
  (hstorable : ∀ t ∈ service.layers.defaults.templates, t.Storable)

include hstorable

/-- Without faults, what is missing is added. -/
theorem Course.adds_missing (hslots : (service.layers.defaults.templates.map Catalog.slot).Nodup)
    (h : c.state.store.Sound) (hc : c.Faultless)
    (htenant : (c.state.tenants.resolve domain).1 = .ok tenant) :
    c.outcome service (.addDefaultTemplates channel domain) =
      .ok (c.state.store.missing tenant (service.layers.defaults.forChannel channel)) := by
  obtain ⟨s, -, hs⟩ := In.of_sound False True h (fun _ => hc) (absurd trivial)
  obtain ⟨s', hseeds, -⟩ :=
    (seeds_addDefaultTemplates service channel (hs.tenants ▸ htenant)).run hs.anew
  have hts : ∀ t ∈ service.layers.defaults.forChannel channel, t.Storable :=
    fun t ht => hstorable t (List.mem_of_mem_filter ht)
  obtain ⟨n, hn⟩ := hseeds.succeeds id fun t ht => (hts t ht).valid
  have hcount := hseeds.counted n hn (Catalog.nodup_homes hstorable hslots channel tenant)
  rw [hs.store, s.missing_eq hts]
  rw [hcount, Nat.zero_add] at hn
  exact hn

/-- Where nothing is missing, nothing is changed. -/
theorem Course.stays_settled (h : c.state.store.Sound) (hincidents : c.incidents = [])
    (htenant : (c.state.tenants.resolve domain).1 = .ok tenant)
    (htold : (c.state.tenants.resolve domain).2 = c.state.tenants)
    (hall : ∀ t ∈ service.layers.defaults.forChannel channel,
      c.state.store.inPlaceOf tenant t ≠ none) :
    (c.after service (.addDefaultTemplates channel domain)).state = c.state := by
  have hnone : ∀ i ∈ c.incidents, i.fault = none ∧ i.losses = [] := by simp [hincidents]
  obtain ⟨s, hasked, hs⟩ := In.of_sound False False h
    (fun _ i hi => (hnone i hi).1) fun _ i hi => (hnone i hi).2
  obtain ⟨s', hseeds, hs'⟩ :=
    (seeds_addDefaultTemplates service channel (hs.tenants ▸ htenant)).run hs.anew
  have hsettled : s' = s.told domain := by
    refine hseeds.idle fun t ht => ?_
    have hplace := hall t ht
    rwa [hs.store, ne_eq,
      s.inPlaceOf_eq_none_iff (hstorable t (List.mem_of_mem_filter ht))] at hplace
  subst hsettled
  have hstore : (c.after service (.addDefaultTemplates channel domain)).state.store =
      c.state.store := hs'.store.trans hs.store.symm
  have hcaches : (c.after service (.addDefaultTemplates channel domain)).state.caches =
      c.state.caches := by
    have hafter := hs'.caches id
    rwa [Setting.told, hasked] at hafter
  have htenants : (c.after service (.addDefaultTemplates channel domain)).state.tenants =
      c.state.tenants := by
    refine hs'.tenants.trans ?_
    rw [Setting.told, ← hs.tenants, htold]
  -- These are all the parts of a state.
  generalize (c.after service (.addDefaultTemplates channel domain)).state = w at *
  cases w
  cases hstore
  cases hcaches
  cases htenants
  rfl

theorem Course.seeded (hslots : (service.layers.defaults.templates.map Catalog.slot).Nodup)
    (h : c.state.store.Sound) (htenant : (c.state.tenants.resolve domain).1 = .ok tenant) :
    Seeded service channel domain tenant c
      (c.after service (.addDefaultTemplates channel domain)) := by
  have hts : ∀ t ∈ service.layers.defaults.forChannel channel, t.Storable :=
    fun t ht => hstorable t (List.mem_of_mem_filter ht)
  obtain ⟨s, -, hs⟩ := In.of_sound (¬c.Faultless) True h not_not.1 (absurd trivial)
  obtain ⟨s', hseeds, hs'⟩ :=
    (seeds_addDefaultTemplates service channel (hs.tenants ▸ htenant)).run hs.anew
  have htenants : (c.after service (.addDefaultTemplates channel domain)).state.tenants =
      (c.state.tenants.resolve domain).2 := by
    rw [hs.tenants]
    exact hs'.tenants.trans hseeds.tenants
  have hstore' : (c.after service (.addDefaultTemplates channel domain)).state.store = s'.store :=
    hs'.store
  have hcomplete : ∀ n, c.outcome service (.addDefaultTemplates channel domain) = .ok n →
      ∀ t ∈ service.layers.defaults.forChannel channel,
        (c.after service (.addDefaultTemplates channel domain)).state.store.inPlaceOf tenant t ≠
          none := by
    intro n hn t ht
    rw [hstore', ne_eq, s'.inPlaceOf_eq_none_iff (hts t ht)]
    exact hseeds.complete n hn t ht
  generalize hafter : c.after service (.addDefaultTemplates channel domain) = after at *
  have hsound' : after.state.store.Sound := hafter ▸ Course.sound_after h service _
  have htenant' : (after.state.tenants.resolve domain).1 = .ok tenant :=
    hafter ▸ Course.resolves_after htenant _
  constructor
  case fills =>
    rw [hs.store, hstore']
    exact hseeds.grows.of_told.fills hts
  case succeeds =>
    intro hc
    exact hseeds.succeeds (not_not.2 hc) fun t ht => (hts t ht).valid
  case counted =>
    intro n hn
    rw [hs.store, s.missing_eq hts,
      hseeds.counted n hn (Catalog.nodup_homes hstorable hslots channel tenant), Nat.zero_add]
    rfl
  case complete => exact hcomplete
  case settled =>
    intro n hn
    have htold : (after.state.tenants.resolve domain).2 = after.state.tenants := by
      rw [htenants]
      exact Tenant.Lookup.resolve_again ..
    have hmissing : after.state.store.missing tenant (service.layers.defaults.forChannel channel) = 0 :=
      List.countP_eq_zero.2 fun t ht => by simpa using hcomplete n hn t ht
    constructor
    · rw [← hmissing]
      exact adds_missing hstorable hslots (c := after.losing []) hsound' (List.forall_mem_nil _)
        htenant'
    · exact stays_settled hstorable (c := after.losing []) hsound' rfl htenant' htold
        (hcomplete n hn)
  case resumes =>
    intro more losses later
    exact adds_missing hstorable hslots (sound_through hsound' service more)
      (faultless_losing _ losses) (resolves_through htenant' more)

end

/-- For a domain without a tenant nothing is stored. -/
theorem Course.seeds_nothing {service : Service} {c : Course} {channel : Channel} {domain : String}
    {e : Tenant.Error} (h : c.state.store.Sound)
    (he : (c.state.tenants.resolve domain).1 = .error e) :
    c.outcome service (.addDefaultTemplates channel domain) = .error (.unresolvedTenant domain e) ∧
      (c.after service (.addDefaultTemplates channel domain)).state.store = c.state.store := by
  obtain ⟨s, -, hs⟩ := In.of_sound True True h (absurd trivial) (absurd trivial)
  obtain ⟨s', hpost, hs'⟩ := (assures_addDefaultTemplates service channel domain s).run hs.anew
  rw [hs.tenants] at he
  rcases hpost with ⟨e', he', houtcome, rfl⟩ | ⟨tenant, htenant, -⟩
  · rw [he] at he'
    cases he'
    exact ⟨houtcome, hs'.store.trans hs.store.symm⟩
  · rw [he] at htenant
    cases htenant

/-- The defaults of a channel can be copied to a tenant whatever the order they come in, whatever was
done before and whatever call fails: nothing is overwritten, and the next attempt goes on. -/
theorem copying_defaults_resumes (service : Service) {locales : DefaultLocales}
    {templates : List Template} {built : Catalog}
    (hbuilt : Catalog.ofTemplates locales templates = .ok built)
    (horder : service.layers.defaults.templates.Perm built.templates) (kind : Kind)
    (retention : Retention) (tenants : Tenant.Lookup) (incidents : List Incident)
    (ops : List Operation) (channel : Channel) (domain : String) :
    let before := (Course.start kind retention tenants incidents).through service ops
    let after := before.after service (.addDefaultTemplates channel domain)
    (∃ e, (before.state.tenants.resolve domain).1 = .error e ∧
        before.outcome service (.addDefaultTemplates channel domain) =
          .error (.unresolvedTenant domain e) ∧
        after.state.store = before.state.store) ∨
      ∃ tenant, (before.state.tenants.resolve domain).1 = .ok tenant ∧
        Seeded service channel domain tenant before after := by
  intro before after
  have hstorable : ∀ t ∈ service.layers.defaults.templates, t.Storable :=
    fun t ht => (Catalog.valid_ofTemplates hbuilt).storable t (horder.mem_iff.1 ht)
  have hslots : (service.layers.defaults.templates.map Catalog.slot).Nodup :=
    (horder.map Catalog.slot).nodup_iff.2 (Catalog.nodup_ofTemplates hbuilt)
  have hsound : before.state.store.Sound :=
    Course.sound_through (AnyStore.sound_empty kind) service ops
  cases htenant : (before.state.tenants.resolve domain).1 with
  | error e => exact .inl ⟨e, rfl, Course.seeds_nothing hsound htenant⟩
  | ok tenant => exact .inr ⟨tenant, rfl, Course.seeded hstorable hslots hsound htenant⟩

/-- Two defaults, of which the scenario of the second one is registered under another spelling. The
first one is stored, and a fault comes before the second. -/
theorem copying_defaults_resumes_otp :
    let otp : Template := .sms "otp" "en-us" "code"
    let welcome : Template := .sms "welcome" "en-us" "hello"
    let service : Service := ⟨⟨⟨[welcome, otp]⟩, {}⟩, true⟩
    let directory : Tenant.Directory := .ofList [⟨⟨1⟩, "acme.com", .active⟩]
    let incidents : List Incident :=
      List.replicate 9 ⟨[], none⟩ ++ [⟨[], some (.unavailable "down")⟩]
    let before := (Course.start .forest ⟨10, 10⟩ (.direct directory) incidents).through service
      [.addScenario "OTP" .sms "acme.com"]
    let after := before.after service (.addDefaultTemplates .sms "acme.com")
    Catalog.ofTemplates {} [otp, welcome] = .ok ⟨[otp, welcome]⟩ ∧
      service.layers.defaults.templates.Perm [otp, welcome] ∧
      before.state.store.missing ⟨1⟩ [welcome, otp] = 2 ∧
      after.state.store.missing ⟨1⟩ [welcome, otp] = 1 ∧
      Seeded service .sms "acme.com" ⟨1⟩ before after := by
  intro otp welcome service directory incidents before after
  have hbuilt : Catalog.ofTemplates {} [otp, welcome] = .ok ⟨[otp, welcome]⟩ := by decide +kernel
  have horder : service.layers.defaults.templates.Perm [otp, welcome] := .swap otp welcome []
  have htenant : (before.state.tenants.resolve "acme.com").1 = .ok ⟨1⟩ := by decide +kernel
  refine ⟨hbuilt, horder, by decide +kernel, by decide +kernel, ?_⟩
  rcases copying_defaults_resumes service hbuilt horder .forest ⟨10, 10⟩ (.direct directory) incidents
    [.addScenario "OTP" .sms "acme.com"] .sms "acme.com" with ⟨e, he, -⟩ | ⟨tenant, hfound, hseeded⟩
  · cases htenant.symm.trans he
  · cases htenant.symm.trans hfound
    exact hseeded

end Service
end Missive

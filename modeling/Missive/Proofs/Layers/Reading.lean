import Missive.Layers
import Missive.Proofs.Program
import Missive.Proofs.Store.AnyStore

/-! What looking a template up reads. All its reads are at places under one key, those of the
requested locale and of the channel's default; so its result depends on what is stored there alone,
and on the request through its slot. -/

namespace Missive

open Store

/-- Where the result of a request is cached. -/
def ResolveRequest.slot (r : ResolveRequest) : Slot := ⟨r.key, r.locale⟩

namespace StoreProgram

/-- The program only reads, at places under one key, and a read that fails is its end, which it
reports. -/
inductive ReadsAt (tenant : TenantId) (key : TemplateKey) {α : Type} : StoreProgram α → Prop where
  | done (x : Except Failure α) : ReadsAt tenant key (.done x)
  | read {p : Position} {next : (Call.read p).Answer → StoreProgram α} :
      p.scope.tenant = tenant → p.key = key → (∀ found, ReadsAt tenant key (next (.ok found))) →
      (∀ e, ∃ context, next (.error e) = .done (.error (.storeFailed context e))) →
      ReadsAt tenant key (.perform (.read p) next)

/-- The answers of a store as it is. -/
abbrev OfStore (s : AnyStore) (c : Call) (a : c.Answer) : Prop := a = (AnyStore.backend c s).1

variable {tenant : TenantId} {key : TemplateKey} {α : Type} {p : StoreProgram α}

/-- A program that only reads comes to what the answers of the store yield. -/
theorem ReadsAt.yields_iff_run (h : ReadsAt tenant key p) (s : AnyStore) (x : Except Failure α) :
    p.Yields (OfStore s) x ↔ (p.run AnyStore.backend s).1 = x := by
  induction h with
  | done y =>
    constructor
    · intro hx
      cases hx
      rfl
    · intro heq
      subst heq
      exact .done
  | @read p next _ _ _ herror ih =>
    have hnext : (next (s.read p)).Yields (OfStore s) x ↔
        ((next (s.read p)).run AnyStore.backend s).1 = x := by
      cases s.read p with
      | ok found => exact ih found
      | error e =>
        obtain ⟨context, hf⟩ := herror e
        rw [hf]
        constructor
        · intro hx
          cases hx
          rfl
        · intro heq
          subst heq
          exact .done
    rw [Program.run_perform, AnyStore.backend_read, ← hnext]
    constructor
    · intro hx
      cases hx with
      | perform ha hx =>
        obtain rfl := ha
        exact hx
    · exact .perform rfl

variable {admits admits' : (c : Call) → c.Answer → Prop} {q : StoreProgram α}

theorem ReadsAt.leads (h : ReadsAt tenant key p) (hq : p.Leads admits q) : ReadsAt tenant key q := by
  induction hq with
  | refl => exact h
  | @answer c next a _ _ ih =>
    cases ih with
    | read _ _ hnext herror =>
      cases a with
      | ok found => exact hnext found
      | error e =>
        obtain ⟨context, hf⟩ := herror e
        rw [hf]
        exact .done _

/-- Only the answers under the key matter. -/
theorem ReadsAt.leads_mono (h : ReadsAt tenant key p)
    (hadmits : ∀ (place : Position) a, place.scope.tenant = tenant → place.key = key →
      admits (.read place) a → admits' (.read place) a)
    (hq : p.Leads admits q) : p.Leads admits' q := by
  induction hq with
  | refl => exact .refl
  | answer hq ha ih =>
    cases h.leads hq with
    | read htenant hkey => exact .answer ih (hadmits _ _ htenant hkey ha)

theorem ReadsAt.yields_mono {x : Except Failure α} (h : ReadsAt tenant key p)
    (hadmits : ∀ (place : Position) a, place.scope.tenant = tenant → place.key = key →
      admits (.read place) a → admits' (.read place) a)
    (hx : p.Yields admits x) : p.Yields admits' x := by
  induction hx with
  | done => exact .done
  | @perform c next a x ha hx ih =>
    have hnext := h.leads (.answer .refl ha)
    cases h with
    | read htenant hkey => exact .perform (hadmits _ _ htenant hkey ha) (ih hnext)

end StoreProgram

namespace Layers

open StoreProgram

variable (layers : Layers)

/-- What comes after a tier has been asked. -/
def goOn (r : ResolveRequest) (tier : Tier) (rest : List Tier) :
    Option Template → StoreProgram Resolved
  | none => layers.resolveIn r rest
  | some template =>
    if template.hasContent then
      return { template := template.withUtf8Charset, tier }
    else
      throw (.emptyContent r.scenario.displayName template.locale r.channel tier.name)

theorem resolveIn_cons (r : ResolveRequest) (tier : Tier) (rest : List Tier) :
    layers.resolveIn r (tier :: rest) = layers.lookup r tier >>= layers.goOn r tier rest := rfl

theorem readsAt_goOn {r : ResolveRequest} {tier : Tier} {rest : List Tier}
    (h : ReadsAt r.scope.tenant r.key (layers.resolveIn r rest)) (found : Option Template) :
    ReadsAt r.scope.tenant r.key (layers.goOn r tier rest found) := by
  cases found with
  | none => exact h
  | some template =>
    rw [goOn]
    split <;> exact .done _

/-- A look-up reads under the key of its request. -/
theorem readsAt_resolve (r : ResolveRequest) :
    ReadsAt r.scope.tenant r.key (layers.resolve r) := by
  rw [resolve]
  generalize Tier.plan (layers.requestedIsDefault r) = tiers
  induction tiers with
  | nil => exact .done _
  | cons tier rest ih =>
    rw [resolveIn_cons]
    cases tier with
    | exact | defaultLocale => exact .read rfl rfl (layers.readsAt_goOn ih) fun e => ⟨_, rfl⟩
    | systemDefault => exact layers.readsAt_goOn ih _
    | unsatisfied => exact ih

/-- The errors of the two requests differ, so what is found is compared, not the programs. -/
theorem yields_goOn_congr {admits : (c : Call) → c.Answer → Prop} {r r' : ResolveRequest}
    {tier : Tier} {rest : List Tier} {found : Resolved} {template : Option Template}
    (hrest : (layers.resolveIn r rest).Yields admits (.ok found) →
      (layers.resolveIn r' rest).Yields admits (.ok found))
    (h : (layers.goOn r tier rest template).Yields admits (.ok found)) :
    (layers.goOn r' tier rest template).Yields admits (.ok found) := by
  cases template with
  | none => exact hrest h
  | some template =>
    rw [goOn] at h ⊢
    by_cases hcontent : template.hasContent = true
    · rw [if_pos hcontent] at h ⊢
      exact h
    · rw [if_neg hcontent] at h
      cases h

/-- What a look-up finds depends on the request's tenant and slot only, as long as possible answers
depend on the place only. -/
theorem yields_resolve_congr {admits : (c : Call) → c.Answer → Prop}
    (hadmits : ∀ (p q : Position) a, p.ref = q.ref → admits (.read p) a → admits (.read q) a)
    {r r' : ResolveRequest} (htenant : r.scope.tenant = r'.scope.tenant) (hslot : r.slot = r'.slot)
    {found : Resolved} (h : (layers.resolve r).Yields admits (.ok found)) :
    (layers.resolve r').Yields admits (.ok found) := by
  simp only [ResolveRequest.slot, ResolveRequest.key, TemplateKey.of, Slot.mk.injEq,
    TemplateKey.mk.injEq] at hslot
  obtain ⟨⟨hkey, hchannel, happ⟩, hlocale⟩ := hslot
  have href : ∀ locale, (r.positionIn locale).ref = (r'.positionIn locale).ref := by
    intro locale
    simp only [Position.ref, ScenarioRef.of, ResolveRequest.positionIn, htenant, hkey, hchannel,
      happ]
  have hdefault : layers.defaults.get? r.scenario r.channel =
      layers.defaults.get? r'.scenario r'.channel := by
    rw [Catalog.get?, Catalog.get?, hchannel, hkey]
  have hplan : layers.requestedIsDefault r = layers.requestedIsDefault r' := by
    rw [requestedIsDefault, requestedIsDefault, hchannel, hlocale]
  rw [resolve, hplan] at h
  rw [resolve]
  generalize Tier.plan (layers.requestedIsDefault r') = tiers at h
  induction tiers with
  | nil => cases h
  | cons tier rest ih =>
    rw [resolveIn_cons] at h ⊢
    have hread : ∀ locale locale', locale = locale' →
        ∀ {purpose purpose' : String},
        ((Durable.ask purpose (.read (r.positionIn locale))).bind
          (layers.goOn r tier rest)).Yields admits (.ok found) →
        ((Durable.ask purpose' (.read (r'.positionIn locale'))).bind
          (layers.goOn r' tier rest)).Yields admits (.ok found) := by
      intro locale locale' heq purpose purpose' h
      subst heq
      cases h with
      | @perform _ _ a _ ha h =>
        refine .perform (hadmits _ _ a (href locale) ha) ?_
        cases a with
        | ok template => exact layers.yields_goOn_congr ih h
        | error e => cases h
    cases tier with
    | exact => exact hread _ _ hlocale h
    | defaultLocale => exact hread _ _ (by rw [hchannel]) h
    | systemDefault =>
      have h : (layers.goOn r .systemDefault rest
        (layers.defaults.get? r.scenario r.channel)).Yields admits (.ok found) := h
      rw [hdefault] at h
      exact layers.yields_goOn_congr ih h
    | unsatisfied => exact ih h

/-- A look-up in the store as it is gives the template. -/
def Finds (s : AnyStore) (r : ResolveRequest) (t : Template) : Prop :=
  ((layers.resolve r).run AnyStore.backend s).1.map Resolved.template = .ok t

/-- A look-up can come to the outcome if each of its reads is answered by one of the stores. -/
def YieldsAmong (stores : AnyStore → Prop) (r : ResolveRequest) (x : Except Failure Template) :
    Prop :=
  ∃ y, (layers.resolve r).Yields (fun c a => ∃ s, stores s ∧ OfStore s c a) y ∧
    x = y.map Resolved.template

variable {layers} {s s' : AnyStore} {r r' : ResolveRequest} {t : Template}

theorem finds_iff_yields :
    layers.Finds s r t ↔ ∃ tier, (layers.resolve r).Yields (OfStore s) (.ok ⟨t, tier⟩) := by
  simp only [(layers.readsAt_resolve r).yields_iff_run, Finds]
  cases ((layers.resolve r).run AnyStore.backend s).1 with
  | error e => simp [Except.map]
  | ok found =>
    simp only [Except.map, Except.ok.injEq]
    constructor
    · intro heq
      subst heq
      exact ⟨found.tier, rfl⟩
    · rintro ⟨tier, rfl⟩
      rfl

theorem Finds.congr (hs : s.Sound) (htenant : r.scope.tenant = r'.scope.tenant)
    (hslot : r.slot = r'.slot) (h : layers.Finds s r t) : layers.Finds s r' t := by
  obtain ⟨tier, h⟩ := finds_iff_yields.1 h
  refine finds_iff_yields.2 ⟨tier, layers.yields_resolve_congr ?_ htenant hslot h⟩
  rintro p q _ href rfl
  exact hs.read_congr href

/-- What is stored elsewhere does not matter. -/
theorem Finds.frame (hread : ∀ p : Position, p.scope.tenant = r.scope.tenant → p.key = r.key →
    s'.read p = s.read p) (h : layers.Finds s r t) : layers.Finds s' r t := by
  obtain ⟨tier, h⟩ := finds_iff_yields.1 h
  refine finds_iff_yields.2 ⟨tier, (layers.readsAt_resolve r).yields_mono ?_ h⟩
  rintro p _ htenant hkey rfl
  exact (hread p htenant hkey).symm

end Layers
end Missive

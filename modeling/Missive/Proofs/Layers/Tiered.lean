import Missive.Proofs.Layers.Reading
import Missive.Proofs.Store.Agreement

/-! Looking a template up, told without the order of the program: which calls are made, given what
they are answered, and what comes of them. `Tiered` is that account, and every run over any store
follows it (`resolve_is_tiered`). -/

namespace Missive

open Store

namespace Template

/-- The content type names a character set, in any case. -/
def MentionsCharset (contentType : String) : Prop :=
  ∃ before after, Text.lowerChars contentType.toList = before ++ "charset".toList ++ after

/-- The second template is the first one as it is sent. Only the content type of an e-mail may
differ. -/
inductive Completed (t : Template) : Template → Prop where
  | charset {contentType} : t.channel = .email → t.contentType = some contentType →
      ¬MentionsCharset contentType →
      Completed t { t with contentType := some (contentType ++ "; charset=UTF-8") }
  | same : (∀ contentType, t.channel = .email → t.contentType = some contentType →
      MentionsCharset contentType) → Completed t t

theorem completed_withUtf8Charset (t : Template) : t.Completed t.withUtf8Charset := by
  have hnames : ∀ contentType, namesCharset contentType = true ↔ MentionsCharset contentType :=
    fun contentType => Text.occursIn_iff
  rw [withUtf8Charset]
  split
  · rename_i contentType hchannel htype
    by_cases hcharset : namesCharset contentType = true
    · rw [if_pos hcharset]
      refine .same fun contentType' _ htype' => ?_
      obtain rfl : contentType = contentType' := Option.some.inj (htype.symm.trans htype')
      exact (hnames contentType).1 hcharset
    · rw [if_neg hcharset]
      exact .charset hchannel htype fun h => hcharset ((hnames contentType).2 h)
  · rename_i hother
    exact .same fun contentType hchannel htype => (hother contentType hchannel htype).elim

theorem hasContent_iff {t : Template} :
    t.hasContent = true ↔ ∃ c ∈ t.body.toList, Text.isBlank c = false := by
  simp [hasContent, Text.onlyBlank]

end Template

namespace Layers

/-- What a request comes to once a template is found in a tier. -/
inductive Verdict (r : ResolveRequest) (tier : Tier) (t : Template) :
    Except Failure Resolved → Prop where
  | blank : (∀ c ∈ t.body.toList, Text.isBlank c = true) →
      Verdict r tier t (.error (.emptyContent r.scenario.displayName t.locale r.channel tier.name))
  | sent {u} : (∃ c ∈ t.body.toList, Text.isBlank c = false) → t.Completed u →
      Verdict r tier t (.ok { template := u, tier })

variable (layers : Layers)

/-- Where in the store a template may be found: the tiers with the locales read in them. -/
def readings (r : ResolveRequest) : List (Tier × Locale) :=
  (.exact, r.locale) ::
    if r.locale = layers.locales.forChannel r.channel then []
    else [(.defaultLocale, layers.locales.forChannel r.channel)]

/-- The calls of a look-up, with the answers, and what it comes to: readings are made in turn until
one fails or finds a template, and if there are none left the catalog decides. -/
inductive Tiered (r : ResolveRequest) :
    List (Tier × Locale) → List Exchange → Except Failure Resolved → Prop where
  | fails {tier locale rest e} :
      Tiered r ((tier, locale) :: rest) [⟨.read (r.positionIn locale), .error e⟩]
        (.error (.storeFailed
          s!"reading {tier} tier for '{r.scenario}' in locale '{locale}' ({r.scope})" e))
  | finds {tier locale rest t x} : Verdict r tier t x →
      Tiered r ((tier, locale) :: rest) [⟨.read (r.positionIn locale), .ok (some t)⟩] x
  | misses {tier locale rest calls x} : Tiered r rest calls x →
      Tiered r ((tier, locale) :: rest) (⟨.read (r.positionIn locale), .ok none⟩ :: calls) x
  | default {t x} : layers.defaults.get? r.scenario r.channel = some t →
      Verdict r .systemDefault t x → Tiered r [] [] x
  | notFound : layers.defaults.get? r.scenario r.channel = none →
      Tiered r [] [] (.error (.templateNotFound r.scenario.displayName r.locale.tag r.channel
        r.scope.tenant r.scope.applicationText))

variable {layers} {r : ResolveRequest} {tier : Tier} {rest : List Tier} {calls : List Exchange}
  {x : Except Failure Resolved}

/-- A template that is found ends the look-up. -/
theorem verdict_of_path {t : Template}
    (h : (layers.goOn r tier rest (some t)).Path calls x) : calls = [] ∧ Verdict r tier t x := by
  rw [goOn] at h
  by_cases hcontent : t.hasContent = true
  · rw [if_pos hcontent] at h
    cases h
    exact ⟨rfl, .sent (Template.hasContent_iff.1 hcontent) t.completed_withUtf8Charset⟩
  · rw [if_neg hcontent] at h
    cases h
    refine ⟨rfl, .blank ?_⟩
    rw [Template.hasContent_iff] at hcontent
    push Not at hcontent
    simpa using hcontent

/-- The tiers of the program are those of the readings, and then the catalog. -/
theorem plan_eq (layers : Layers) (r : ResolveRequest) :
    Tier.plan (layers.requestedIsDefault r) =
      (layers.readings r).map Prod.fst ++ [.systemDefault] := by
  rw [requestedIsDefault, readings]
  by_cases hdefault : r.locale = layers.locales.forChannel r.channel
  · rw [if_pos hdefault, decide_eq_true hdefault]
    rfl
  · rw [if_neg hdefault, decide_eq_false hdefault]
    rfl

theorem lookup_of_mem_readings {locale : Locale} (h : (tier, locale) ∈ layers.readings r) :
    layers.lookup r tier = lookup.readTier r tier locale := by
  rw [readings, List.mem_cons] at h
  rcases h with h | h
  · cases h
    rfl
  · split at h
    · cases h
    · cases List.mem_singleton.1 h
      rfl

/-- By induction on the readings that are left; each is one step of the program. -/
theorem tiered_of_path {readings : List (Tier × Locale)}
    (hreadings : ∀ tier locale, (tier, locale) ∈ readings →
      layers.lookup r tier = lookup.readTier r tier locale)
    (h : (layers.resolveIn r (readings.map Prod.fst ++ [.systemDefault])).Path calls x) :
    layers.Tiered r readings calls x := by
  induction readings generalizing calls with
  | nil =>
    rw [List.map_nil, List.nil_append, resolveIn_cons] at h
    change (layers.goOn r .systemDefault [] (layers.defaults.get? r.scenario r.channel)).Path
      calls x at h
    cases hdefault : layers.defaults.get? r.scenario r.channel with
    | none =>
      rw [hdefault] at h
      cases h
      exact .notFound hdefault
    | some t =>
      rw [hdefault] at h
      obtain ⟨rfl, hx⟩ := verdict_of_path h
      exact .default hdefault hx
  | cons reading rest ih =>
    obtain ⟨tier, locale⟩ := reading
    rw [List.map_cons, List.cons_append, resolveIn_cons,
      hreadings tier locale List.mem_cons_self] at h
    cases h with
    | @perform _ _ answer _ _ h =>
      cases answer with
      | error e =>
        cases h
        exact .fails
      | ok found =>
        cases found with
        | none => exact .misses (ih (fun t l hl => hreadings t l (List.mem_cons_of_mem _ hl)) h)
        | some t =>
          obtain ⟨rfl, hx⟩ := verdict_of_path h
          exact .finds hx

/-- A look-up over any store is the tiered one: its calls, in this order and no others, and its
outcome. -/
theorem resolve_is_tiered (layers : Layers) (r : ResolveRequest) {S : Type} (store : Backend S)
    (s : S) :
    layers.Tiered r (layers.readings r) ((layers.resolve r).trace store s)
      ((layers.resolve r).run store s).1 := by
  have hpath := Program.path_run store (layers.resolve r) s
  rw [resolve, plan_eq] at hpath ⊢
  exact tiered_of_path (fun _ _ => lookup_of_mem_readings) hpath

end Layers
end Missive

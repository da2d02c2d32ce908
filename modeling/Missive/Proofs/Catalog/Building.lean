import Missive.Proofs.Catalog
import Missive.Proofs.Identifier.LocaleTag
import Missive.Proofs.Listing

/-! Which lists of templates make a catalog. Templates are normalized before they are checked, whereas a
write checks a template as it is given. The two agree but for one letter: a locale text with a kelvin
sign becomes an accepted tag by being normalized (`builds_iff_admits_written`). -/

namespace Missive

open Identifier

theorem Template.scenarioKey_normalized (t : Template) :
    t.normalized.scenarioKey = t.scenarioKey :=
  ScenarioName.key_strip t.scenario

/-- If its locale is known once it is normalized, a template is accepted just if it is accepted in
normalized form and its locale text has no kelvin sign. -/
theorem Template.validateForWrite_iff_normalized {t : Template} {l : Locale}
    (h : t.normalized.locale = l.tag) :
    t.validateForWrite = .ok () ↔
      t.normalized.validateForWrite = .ok () ∧ '\u212A' ∉ t.locale.toList := by
  have htag : LocaleTag.check t.normalized.locale = .ok () := h ▸ l.accepted
  have hname : ScenarioName.check t.normalized.scenario = ScenarioName.check t.scenario :=
    ScenarioName.check_strip t.scenario
  have hbody : t.normalized.hasContent = t.hasContent := rfl
  have hfields : t.normalized.checkChannelFields = t.checkChannelFields := rfl
  rw [validateForWrite_eq_ok_iff, validateForWrite_eq_ok_iff,
    LocaleTag.check_eq_ok_iff_of_normalize (l := l) h, hname, hbody, hfields]
  constructor
  · rintro ⟨hname, hkelvin, hrest⟩
    exact ⟨⟨hname, htag, hrest⟩, hkelvin⟩
  · rintro ⟨⟨hname, -, hrest⟩, hkelvin⟩
    exact ⟨hname, hkelvin, hrest⟩

namespace Catalog

/-- The rules for a list of defaults, whose templates are checked in a form: each passes the checks of a
write and is for its channel's default locale, and no two are for the same scenario and channel. -/
structure Admits (form : Template → Template) (locales : DefaultLocales) (ts : List Template) :
    Prop where
  valid : ∀ t ∈ ts, (form t).validateForWrite = .ok ()
  locale : ∀ t ∈ ts, t.normalized.locale = (locales.forChannel t.channel).tag
  distinct : (ts.map slot).Nodup

variable {form : Template → Template} {locales : DefaultLocales} {c c' : Catalog} {t : Template}
  {ts ts' : List Template}

theorem slot_normalized (t : Template) : slot t.normalized = slot t :=
  congrArg (Prod.mk t.channel) t.scenarioKey_normalized

theorem Admits.of_perm (h : Admits form locales ts) (hperm : ts.Perm ts') :
    Admits form locales ts' where
  valid t ht := h.valid t (hperm.mem_iff.2 ht)
  locale t ht := h.locale t (hperm.mem_iff.2 ht)
  distinct := (hperm.map slot).nodup_iff.1 h.distinct

theorem insert_of_admitted (hvalid : t.normalized.validateForWrite = .ok ())
    (hlocale : t.normalized.locale = (locales.forChannel t.channel).tag)
    (hfree : slot t ∉ c.templates.map slot) :
    insert locales c t = .ok ⟨c.templates ++ [t.normalized]⟩ := by
  have hchannel : t.normalized.channel = t.channel := rfl
  have hany : (c.templates.any (slot · = slot t.normalized)) = false := by
    rw [slot_normalized]
    simpa using hfree
  rw [insert, hvalid, hchannel, hlocale, hany]
  simp [Bind.bind, Except.bind, Pure.pure, Except.pure]

/-- Templates can be added to a catalog just if the rules admit them and their slots are free; they are
added in normalized form. -/
theorem foldlM_insert_eq_ok_iff :
    ts.foldlM (insert locales) c = .ok c' ↔ Admits Template.normalized locales ts ∧
      (∀ t ∈ ts, slot t ∉ c.templates.map slot) ∧
        c' = ⟨c.templates ++ ts.map Template.normalized⟩ := by
  induction ts generalizing c with
  | nil =>
    rw [List.foldlM_nil, List.map_nil, List.append_nil]
    constructor
    · rintro ⟨⟩
      exact ⟨⟨nofun, nofun, List.nodup_nil⟩, nofun, rfl⟩
    · rintro ⟨-, -, rfl⟩
      rfl
  | cons t rest ih =>
    rw [List.foldlM_cons]
    constructor
    · intro h
      cases hinsert : insert locales c t with
      | error e =>
        rw [hinsert] at h
        cases h
      | ok next =>
        rw [hinsert] at h
        obtain ⟨hvalid, hlocale, hfree, rfl⟩ := insert_eq_ok hinsert
        obtain ⟨hrest, hfrees, rfl⟩ := ih.1 h
        rw [slot_normalized] at hfree
        simp only [List.map_append, List.map_cons, List.map_nil, slot_normalized, List.mem_append,
          List.mem_singleton, not_or] at hfrees
        refine ⟨⟨List.forall_mem_cons.2 ⟨hvalid, hrest.valid⟩,
          List.forall_mem_cons.2 ⟨hlocale, hrest.locale⟩, List.nodup_cons.2 ⟨?_, hrest.distinct⟩⟩,
          List.forall_mem_cons.2 ⟨hfree, fun t' ht' => (hfrees t' ht').1⟩, ?_⟩
        · intro hmem
          obtain ⟨t', ht', heq⟩ := List.mem_map.1 hmem
          exact (hfrees t' ht').2 heq
        · rw [List.append_assoc]
          rfl
    · rintro ⟨hadmits, hfrees, rfl⟩
      obtain ⟨hvalid, hvalids⟩ := List.forall_mem_cons.1 hadmits.valid
      obtain ⟨hlocale, hlocales⟩ := List.forall_mem_cons.1 hadmits.locale
      obtain ⟨hfree, hfrees⟩ := List.forall_mem_cons.1 hfrees
      obtain ⟨hnew, hdistinct⟩ := List.nodup_cons.1 hadmits.distinct
      rw [insert_of_admitted hvalid hlocale hfree]
      refine ih.2 ⟨⟨hvalids, hlocales, hdistinct⟩, fun t' ht' => ?_, ?_⟩
      · simp only [List.map_append, List.map_cons, List.map_nil, slot_normalized, List.mem_append,
          List.mem_singleton, not_or]
        exact ⟨hfrees t' ht', fun heq => hnew (heq ▸ List.mem_map_of_mem ht')⟩
      · rw [List.append_assoc]
        rfl

theorem ofTemplates_eq_ok_iff : ofTemplates locales ts = .ok c ↔
    Admits Template.normalized locales ts ∧ c = ⟨ts.map Template.normalized⟩ := by
  rw [ofTemplates, foldlM_insert_eq_ok_iff]
  exact and_congr_right fun _ => and_iff_right fun _ _ => List.not_mem_nil

theorem builds_iff : (∃ c, ofTemplates locales ts = .ok c) ↔
    Admits Template.normalized locales ts := by
  simp only [ofTemplates_eq_ok_iff, exists_and_left, exists_eq, and_true]

/-- The templates themselves are admitted just if they are when normalized and no locale text has a
kelvin sign. -/
theorem admits_written_iff : Admits id locales ts ↔
    Admits Template.normalized locales ts ∧ ∀ t ∈ ts, '\u212A' ∉ t.locale.toList := by
  constructor
  · intro h
    have hboth := fun t ht => (Template.validateForWrite_iff_normalized (h.locale t ht)).1
      (h.valid t ht)
    exact ⟨⟨fun t ht => (hboth t ht).1, h.locale, h.distinct⟩, fun t ht => (hboth t ht).2⟩
  · rintro ⟨h, hkelvin⟩
    refine ⟨fun t ht => ?_, h.locale, h.distinct⟩
    exact (Template.validateForWrite_iff_normalized (h.locale t ht)).2 ⟨h.valid t ht, hkelvin t ht⟩

/-- A catalog has the normalized templates of its list under their slots. -/
theorem get?_ofTemplates (h : ofTemplates locales ts = .ok c) {s : Scenario} {channel : Channel}
    {t' : Template} : c.get? s channel = some t' ↔
      ∃ t ∈ ts, (t.channel = channel ∧ t.scenarioKey = s.key) ∧ t.normalized = t' := by
  have hslots := nodup_ofTemplates h
  obtain ⟨-, rfl⟩ := ofTemplates_eq_ok_iff.1 h
  rw [get?, find?_key_eq_some hslots, List.mem_map]
  constructor
  · rintro ⟨⟨t, ht, rfl⟩, hslot⟩
    rw [slot_normalized, slot, Prod.mk.injEq] at hslot
    exact ⟨t, ht, hslot, rfl⟩
  · rintro ⟨t, ht, hslot, rfl⟩
    rw [slot_normalized, slot, Prod.mk.injEq]
    exact ⟨⟨t, ht, rfl⟩, hslot⟩

/-- A catalog can be built, in whatever order its templates are listed, just if they may be written as
they are listed or would be accepted but for kelvin signs in their locale texts. It has each template
in normalized form, and nothing else. -/
theorem builds_iff_admits_written (locales : DefaultLocales) (ts : List Template) :
    (Admits id locales ts ↔
      (∃ c, ofTemplates locales ts = .ok c) ∧ ∀ t ∈ ts, '\u212A' ∉ t.locale.toList) ∧
    ((∃ c, ofTemplates locales ts = .ok c) ↔ Admits Template.normalized locales ts) ∧
    (∀ ts', ts.Perm ts' →
      ((∃ c, ofTemplates locales ts = .ok c) ↔ ∃ c, ofTemplates locales ts' = .ok c)) ∧
    ∀ c, ofTemplates locales ts = .ok c → c.size = ts.length ∧ ∀ s channel t',
      c.get? s channel = some t' ↔
        ∃ t ∈ ts, (t.channel = channel ∧ t.scenarioKey = s.key) ∧ t.normalized = t' := by
  refine ⟨?_, builds_iff, fun ts' hperm => ?_, fun c h => ⟨?_, fun s channel t' => ?_⟩⟩
  · rw [builds_iff]
    exact admits_written_iff
  · rw [builds_iff, builds_iff]
    exact ⟨fun h => h.of_perm hperm, fun h => h.of_perm hperm.symm⟩
  · obtain ⟨-, rfl⟩ := ofTemplates_eq_ok_iff.1 h
    rw [size, List.length_map]
  · exact get?_ofTemplates h

/-- A text for Korean with a kelvin sign is no tag, but the catalog takes it for one. -/
theorem kelvin_sign_taken_for_k :
    let locales : DefaultLocales := { sms := ⟨"ko", by rfl, by decide +kernel⟩ }
    let t := Template.sms "otp" "\u212Ao" "Your code"
    ofTemplates locales [t] = .ok ⟨[Template.sms "otp" "ko" "Your code"]⟩ ∧
      t.validateForWrite = .error (.ofIdentifier (.malformedLocale "\u212Ao")) ∧
      ¬Admits id locales [t] := by
  intro locales t
  have hrefused : t.validateForWrite = .error (.ofIdentifier (.malformedLocale "\u212Ao")) := by
    decide +kernel
  refine ⟨by decide +kernel, hrefused, fun h => ?_⟩
  exact nomatch hrefused.symm.trans (h.valid t List.mem_cons_self)

end Catalog
end Missive

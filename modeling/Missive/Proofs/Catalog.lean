import Missive.Catalog
import Missive.Proofs.Template

/-! Catalogs that have been put together from templates: each default has passed the checks of a
write, is in its channel's default locale, and has its slot to itself. -/

namespace Missive.Catalog

/-- Every default is an accepted template in the default locale of its channel. -/
structure Valid (locales : DefaultLocales) (c : Catalog) : Prop where
  storable : ∀ t ∈ c.templates, t.Storable
  locale : ∀ t ∈ c.templates, t.locale = (locales.forChannel t.channel).tag

variable {locales : DefaultLocales} {c c' : Catalog} {t : Template}

/-- A template that is added has passed the checks of a write, is in the default locale, and its slot
was free. -/
theorem insert_eq_ok (h : insert locales c t = .ok c') :
    t.normalized.validateForWrite = .ok () ∧
      t.normalized.locale = (locales.forChannel t.channel).tag ∧
      slot t.normalized ∉ c.templates.map slot ∧ c' = ⟨c.templates ++ [t.normalized]⟩ := by
  rw [insert] at h
  cases hvalid : t.normalized.validateForWrite with
  | error e =>
    rw [hvalid] at h
    cases h
  | ok u =>
    simp only [hvalid, Bind.bind, Except.bind, ne_eq, ite_not] at h
    by_cases hlocale : t.normalized.locale = (locales.forChannel t.normalized.channel).tag
    · rw [if_pos hlocale] at h
      split at h
      · cases h
      · rename_i hfree
        cases h
        exact ⟨rfl, hlocale, by simpa using hfree, rfl⟩
    · rw [if_neg hlocale] at h
      cases h

theorem Valid.insert (hc : c.Valid locales) (h : insert locales c t = .ok c') :
    c'.Valid locales := by
  obtain ⟨hvalid, hlocale, -, rfl⟩ := insert_eq_ok h
  have hnormal : t.normalized.normalized = t.normalized := by
    have hcanonical := (locales.forChannel t.channel).canonical
    rw [← hlocale] at hcanonical
    have hname : Text.strip t.normalized.scenario = t.normalized.scenario := Text.strip_idem _
    rw [Template.normalized, hcanonical, hname]
  constructor
  · intro t' ht'
    rcases List.mem_append.1 ht' with ht' | ht'
    · exact hc.storable t' ht'
    · obtain rfl := List.mem_singleton.1 ht'
      exact ⟨hvalid, hnormal⟩
  · intro t' ht'
    rcases List.mem_append.1 ht' with ht' | ht'
    · exact hc.locale t' ht'
    · obtain rfl := List.mem_singleton.1 ht'
      exact hlocale

/-- What adding a template keeps, adding several keeps. -/
theorem foldlM_insert_keeps {P : Catalog → Prop}
    (hstep : ∀ {c t c'}, P c → insert locales c t = .ok c' → P c') {ts : List Template} (hc : P c)
    (h : ts.foldlM (insert locales) c = .ok c') : P c' := by
  induction ts generalizing c with
  | nil =>
    cases h
    exact hc
  | cons t rest ih =>
    rw [List.foldlM_cons] at h
    cases hinsert : insert locales c t with
    | error e =>
      rw [hinsert] at h
      cases h
    | ok next =>
      rw [hinsert] at h
      exact ih (hstep hc hinsert) h

theorem valid_ofTemplates {ts : List Template} (h : ofTemplates locales ts = .ok c) :
    c.Valid locales :=
  foldlM_insert_keeps Valid.insert ⟨List.forall_mem_nil _, List.forall_mem_nil _⟩ h

theorem nodup_insert (hc : (c.templates.map slot).Nodup) (h : insert locales c t = .ok c') :
    (c'.templates.map slot).Nodup := by
  obtain ⟨-, -, hfree, rfl⟩ := insert_eq_ok h
  rw [List.map_append, List.nodup_append]
  refine ⟨hc, by simp, ?_⟩
  rintro a ha b hb rfl
  exact hfree (List.mem_singleton.1 hb ▸ ha)

/-- No two defaults share a slot. -/
theorem nodup_ofTemplates {ts : List Template} (h : ofTemplates locales ts = .ok c) :
    (c.templates.map slot).Nodup :=
  foldlM_insert_keeps (P := fun c => (c.templates.map slot).Nodup) nodup_insert
    (c := empty) List.nodup_nil h

/-- What is found in a catalog is what it was looked for. -/
theorem get?_eq_some {s : Scenario} {channel : Channel} (h : c.get? s channel = some t) :
    t ∈ c.templates ∧ t.channel = channel ∧ t.scenarioKey = s.key := by
  have hslot := of_decide_eq_true (List.find?_some (p := fun t' => decide (slot t' = _)) h)
  simp only [slot, Prod.mk.injEq] at hslot
  exact ⟨List.mem_of_find?_eq_some h, hslot⟩

end Missive.Catalog

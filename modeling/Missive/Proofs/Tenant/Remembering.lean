import Mathlib.Data.List.Basic
import Missive.Proofs.Identifier.Domain
import Missive.Proofs.Tenant

/-! What a lookup with a memory answers, compared with the directory it stands before. What is
remembered is found by the form of a domain before the domain is checked, and the form may be shorter
than the domain. So the answers are the directory's, but for a domain too long to be accepted: it is
answered once an accepted domain of its form is remembered. -/

namespace Missive.Tenant

open Identifier Text

namespace Directory

variable {d : Directory} {domain earlier : String} {id : TenantId}

/-- A domain of the form of one that is resolved is refused for its length, or resolved too. -/
theorem resolve_of_same_form (hform : Domain.normalize domain = Domain.normalize earlier)
    (h : d.resolve earlier = .ok id) :
    d.resolve domain = if Domain.maxBytes < (strip domain).utf8ByteSize
      then .error (.invalidDomain
        (Identifier.Error.domainTooLong Domain.maxBytes (strip domain).utf8ByteSize).message)
      else .ok id := by
  obtain ⟨hcheck, ht⟩ := resolve_eq_ok_iff.1 h
  have hsame := Domain.check_of_same_form hcheck hform
  by_cases hlong : Domain.maxBytes < (strip domain).utf8ByteSize
  · rw [if_pos hlong] at hsame ⊢
    rw [resolve_of_refused hsame]
  · rw [if_neg hlong] at hsame ⊢
    rw [← hform] at ht
    exact resolve_eq_ok_iff.2 ⟨hsame, ht⟩

end Directory

namespace Lookup

/-- A lookup after domains have been looked up in it, one after another. -/
def after (l : Lookup) (asked : List String) : Lookup :=
  asked.foldl (fun l domain => (l.resolve domain).2) l

/-- The domain is too long for the directory, but one of the same form that was asked for before is
resolved to `id`. -/
structure Overlooks (d : Directory) (asked : List String) (domain : String) (id : TenantId) : Prop where
  tooLong : Domain.maxBytes < (strip domain).utf8ByteSize
  found : ∃ earlier ∈ asked, Domain.normalize domain = Domain.normalize earlier ∧
    d.resolve earlier = .ok id

/-- What is remembered once domains have been asked for: if entries are kept at all, the tenants of those
that the directory resolves. -/
structure Remembers (d : Directory) (r : Retention) (asked : List String) (l : Lookup) : Prop where
  directory : l.directory = d
  retention : l.retention = r
  known : ∀ form id, l.known.get? form = some id ↔ r.keepsEntries = true ∧
    ∃ earlier ∈ asked, form = Domain.normalize earlier ∧ d.resolve earlier = .ok id

theorem resolve_cases (l : Lookup) (domain : String) :
    (∃ id, l.known.get? (Domain.normalize domain) = some id ∧ l.resolve domain = (.ok id, l)) ∨
    l.known.get? (Domain.normalize domain) = none ∧
      ((∃ e, l.directory.resolve domain = .error e ∧ l.resolve domain = (.error e, l)) ∨
      ∃ id, l.directory.resolve domain = .ok id ∧
        l.resolve domain = (.ok id, l.remember (Domain.normalize domain) id)) := by
  cases hknown : l.known.get? (Domain.normalize domain) with
  | some id => exact .inl ⟨id, rfl, resolve_of_known hknown⟩
  | none =>
    cases hfound : l.directory.resolve domain with
    | error e => exact .inr ⟨rfl, .inl ⟨e, rfl, by simp only [resolve, hknown, hfound]⟩⟩
    | ok id => exact .inr ⟨rfl, .inr ⟨id, rfl, by simp only [resolve, hknown, hfound]⟩⟩

theorem known_remember (l : Lookup) (form : String) (id : TenantId) (form' : String) :
    (l.remember form id).known.get? form' =
      if l.retention.keepsEntries = true ∧ form' = form then some id else l.known.get? form' := by
  rw [remember]
  by_cases hkeeps : l.retention.keepsEntries = true
  · simp only [hkeeps, if_true, Dictionary.get?_put, true_and]
  · simp only [hkeeps, if_false, false_and, Bool.false_eq_true]

@[simp] theorem directory_remember (l : Lookup) (form : String) (id : TenantId) :
    (l.remember form id).directory = l.directory := by
  rw [remember]
  split <;> rfl

@[simp] theorem retention_remember (l : Lookup) (form : String) (id : TenantId) :
    (l.remember form id).retention = l.retention := by
  rw [remember]
  split <;> rfl

namespace Remembers

variable {d : Directory} {r : Retention} {asked : List String} {l : Lookup}

theorem start (d : Directory) (r : Retention) : Remembers d r [] ⟨d, r, ∅⟩ where
  directory := rfl
  retention := rfl
  known := fun form id => by simp

/-- One more domain is asked for. -/
theorem resolve (h : Remembers d r asked l) (domain : String) :
    Remembers d r (asked ++ [domain]) (l.resolve domain).2 := by
  have hasked (form : String) (id : TenantId) :
      (∃ earlier ∈ asked ++ [domain],
          form = Domain.normalize earlier ∧ d.resolve earlier = .ok id) ↔
        (∃ earlier ∈ asked, form = Domain.normalize earlier ∧ d.resolve earlier = .ok id) ∨
          form = Domain.normalize domain ∧ d.resolve domain = .ok id := by
    simp [or_and_right, exists_or]
  rcases l.resolve_cases domain with ⟨found, hknown, hresolve⟩ |
    ⟨hunknown, ⟨e, hfound, hresolve⟩ | ⟨found, hfound, hresolve⟩⟩
  · rw [hresolve]
    refine ⟨h.directory, h.retention, fun form id => ?_⟩
    rw [hasked, h.known]
    refine and_congr_right fun _ => (or_iff_left_of_imp ?_).symm
    rintro ⟨rfl, hid⟩
    obtain ⟨-, earlier, hmem, hform, hearlier⟩ := (h.known _ _).1 hknown
    exact ⟨earlier, hmem, hform, hearlier.trans (by rw [Directory.resolve_unique hform hid hearlier])⟩
  · rw [h.directory] at hfound
    rw [hresolve]
    refine ⟨h.directory, h.retention, fun form id => ?_⟩
    rw [hasked, h.known, hfound]
    simp
  · rw [h.directory] at hfound
    rw [hresolve]
    refine ⟨by simp [h.directory], by simp [h.retention], fun form id => ?_⟩
    rw [hasked, known_remember, h.retention, hfound]
    split
    · rename_i hnew
      obtain ⟨hkeeps, rfl⟩ := hnew
      constructor
      · rintro ⟨⟩
        exact ⟨hkeeps, .inr ⟨rfl, rfl⟩⟩
      · rintro ⟨-, ⟨earlier, -, hform, hearlier⟩ | ⟨-, hid⟩⟩
        · rw [Directory.resolve_unique hform hfound hearlier]
        · rw [Except.ok.inj hid]
    · rename_i hold
      rw [h.known]
      exact and_congr_right fun hkeeps => (or_iff_left fun hnew => hold ⟨hkeeps, hnew.1⟩).symm

theorem after (h : Remembers d r asked l) (more : List String) :
    Remembers d r (asked ++ more) (l.after more) := by
  induction more generalizing asked l with
  | nil => rwa [List.append_nil]
  | cons domain rest ih =>
    rw [List.append_cons]
    exact ih (h.resolve domain)

/-- A domain whose length is overlooked is answered, though the directory refuses it. -/
theorem resolve_overlooked (h : Remembers d r asked l) {domain : String} {id : TenantId}
    (hkeeps : r.keepsEntries = true) (hlong : Overlooks d asked domain id) :
    (l.resolve domain).1 = .ok id ∧ d.resolve domain = .error (.invalidDomain
      (Identifier.Error.domainTooLong Domain.maxBytes (strip domain).utf8ByteSize).message) := by
  obtain ⟨earlier, hmem, hform, hearlier⟩ := hlong.found
  have hknown := (h.known _ id).2 ⟨hkeeps, earlier, hmem, hform, hearlier⟩
  rw [resolve_of_known hknown, Directory.resolve_of_same_form hform hearlier, if_pos hlong.tooLong]
  exact ⟨rfl, rfl⟩

theorem resolve_eq (h : Remembers d r asked l) {domain : String}
    (hno : ¬ (r.keepsEntries = true ∧ ∃ id, Overlooks d asked domain id)) :
    (l.resolve domain).1 = d.resolve domain := by
  rcases l.resolve_cases domain with ⟨found, hknown, hresolve⟩ |
    ⟨-, ⟨e, hfound, hresolve⟩ | ⟨found, hfound, hresolve⟩⟩
  · obtain ⟨hkeeps, earlier, hmem, hform, hearlier⟩ := (h.known _ _).1 hknown
    have hshort : ¬ Domain.maxBytes < (strip domain).utf8ByteSize := fun hlong =>
      hno ⟨hkeeps, found, hlong, earlier, hmem, hform, hearlier⟩
    rw [hresolve, Directory.resolve_of_same_form hform hearlier, if_neg hshort]
  · rw [hresolve, ← h.directory, hfound]
  · rw [hresolve, ← h.directory, hfound]

end Remembers

/-- The lookup answers as the directory does unless, entries being kept, it overlooks that a domain is
too long: then it answers with the tenant of a shorter domain of the same form, where the directory
refuses the domain. -/
theorem answers_agree_unless_too_long (tenants : List Tenant) (retention : Retention)
    (asked : List String) (domain : String) :
    let directory := Directory.ofList tenants
    let answer := ((Lookup.after ⟨directory, retention, ∅⟩ asked).resolve domain).1
    (answer = directory.resolve domain ↔
      ¬ (retention.keepsEntries = true ∧ ∃ id, Overlooks directory asked domain id)) ∧
    ∀ id, retention.keepsEntries = true → Overlooks directory asked domain id →
      answer = .ok id ∧ directory.resolve domain = .error (.invalidDomain
        (Identifier.Error.domainTooLong Domain.maxBytes (strip domain).utf8ByteSize).message) := by
  intro directory answer
  have h := (Remembers.start directory retention).after asked
  refine ⟨⟨?_, h.resolve_eq⟩, fun id hkeeps hlong => h.resolve_overlooked hkeeps hlong⟩
  rintro heq ⟨hkeeps, id, hlong⟩
  obtain ⟨hanswer, hrefused⟩ := h.resolve_overlooked hkeeps hlong
  exact nomatch (hanswer.symm.trans heq).trans hrefused

/-- Eighty-five kelvin signs are too long for a domain, but have the form of eighty-five times `k`. -/
theorem kelvin_signs_answered_once_remembered :
    let narrow := String.ofList (List.replicate 85 'k')
    let wide := String.ofList (List.replicate 85 '\u212A')
    let directory := Directory.ofList [⟨⟨1⟩, narrow, .active⟩]
    ((Lookup.after ⟨directory, ⟨1000, 300⟩, ∅⟩ [narrow]).resolve wide).1 = .ok ⟨1⟩ ∧
      directory.resolve wide =
        .error (.invalidDomain "invalid tenant domain: length must be <= 253, got 255") := by
  intro narrow wide directory
  have hblank : ∀ c ∈ List.replicate 85 '\u212A', isBlank c = false := fun c hc =>
    (List.mem_replicate.1 hc).2 ▸ by decide
  have hstrip : strip wide = wide := by
    rw [strip, String.toList_ofList, stripChars_of_no_blank hblank]
  have hform : Domain.normalize wide = narrow := by
    rw [Domain.normalize_eq_map, hstrip, String.toList_ofList, List.map_replicate]
    · rfl
    · rw [hstrip, String.toList_ofList]
      exact fun c hc => (List.mem_replicate.1 hc).2 ▸ by decide
  have hlong : Overlooks directory [narrow] wide ⟨1⟩ := by
    refine ⟨?_, narrow, List.mem_singleton_self narrow, ?_, by decide +kernel⟩
    · rw [hstrip]
      decide +kernel
    · rw [hform]
      decide +kernel
  obtain ⟨hanswer, hrefused⟩ :=
    ((Remembers.start directory ⟨1000, 300⟩).after [narrow]).resolve_overlooked rfl hlong
  rw [hstrip] at hrefused
  exact ⟨hanswer, hrefused.trans (by decide +kernel)⟩

end Lookup
end Missive.Tenant

import Missive.Proofs.Program
import Missive.Tenant.Directory

/-! Looking tenants up. A tenant that has been found for a domain is found for it again, whatever is
looked up in between, and finding it again changes nothing. -/

namespace Missive.Tenant

open Identifier

namespace Directory

variable {d : Directory} {domain domain' : String} {id id' : TenantId}

theorem resolve_of_refused {e : Identifier.Error} (h : Domain.check domain = .error e) :
    d.resolve domain = .error (.invalidDomain e.message) := by
  rw [resolve, h]
  rfl

/-- A domain is resolved if it is accepted and its tenant is active. -/
theorem resolve_eq_ok_iff : d.resolve domain = .ok id ↔ Domain.check domain = .ok () ∧
    ∃ t, d.tenants.get? (Domain.normalize domain) = some t ∧ t.status = .active ∧ t.id = id := by
  cases hcheck : Domain.check domain with
  | error e =>
    rw [resolve_of_refused hcheck]
    exact ⟨nofun, nofun⟩
  | ok u =>
    rw [resolve, hcheck]
    cases htenant : d.tenants.get? (Domain.normalize domain) with
    | none => exact ⟨nofun, nofun⟩
    | some t =>
      obtain ⟨n, text, status⟩ := t
      cases status with
      | active =>
        constructor
        · intro h
          exact ⟨rfl, _, rfl, rfl, Except.ok.inj h⟩
        · rintro ⟨-, t, ht, -, rfl⟩
          cases ht
          rfl
      | suspended | deleted =>
        constructor
        · nofun
        · rintro ⟨-, t, ht, hactive, -⟩
          cases ht
          cases hactive

/-- Domains of one form have the same tenant, unless one of them is refused. -/
theorem resolve_unique (hform : Domain.normalize domain = Domain.normalize domain')
    (h : d.resolve domain = .ok id) (h' : d.resolve domain' = .ok id') : id = id' := by
  obtain ⟨-, t, ht, -, rfl⟩ := resolve_eq_ok_iff.1 h
  obtain ⟨-, t', ht', -, rfl⟩ := resolve_eq_ok_iff.1 h'
  rw [hform, ht', Option.some.injEq] at ht
  rw [ht]

end Directory

namespace Lookup

/-- A directory that is asked anew each time stays as it is. -/
theorem resolve_direct (directory : Directory) (domain : String) :
    (direct directory).resolve domain = (directory.resolve domain, .direct directory) := by
  have hnone : (direct directory).known.get? (Domain.normalize domain) = none := rfl
  have hdirectory : (direct directory).directory = directory := rfl
  simp only [resolve, hnone, hdirectory]
  cases directory.resolve domain <;> rfl

variable {l : Lookup} {domain : String} {id : TenantId}

theorem resolve_of_known (h : l.known.get? (Domain.normalize domain) = some id) :
    l.resolve domain = (.ok id, l) := by
  simp only [resolve, h]

/-- A tenant is one that is remembered, or it comes from the directory. -/
theorem resolve_eq_ok (h : (l.resolve domain).1 = .ok id) :
    l.known.get? (Domain.normalize domain) = some id ∨
      l.known.get? (Domain.normalize domain) = none ∧ l.directory.resolve domain = .ok id := by
  simp only [resolve] at h
  cases hknown : l.known.get? (Domain.normalize domain) with
  | some found =>
    simp only [hknown, Except.ok.injEq] at h
    exact .inl (congrArg some h)
  | none =>
    simp only [hknown] at h
    cases hfound : l.directory.resolve domain with
    | ok found =>
      simp only [hfound] at h
      exact .inr ⟨rfl, h⟩
    | error e =>
      simp only [hfound] at h
      cases h

/-- Looking a domain up changes nothing, or a tenant of the directory is remembered from then on. -/
theorem resolve_snd (l : Lookup) (domain : String) :
    (l.resolve domain).2 = l ∨
      ∃ id, l.known.get? (Domain.normalize domain) = none ∧ l.directory.resolve domain = .ok id ∧
        (l.resolve domain).2 = { l with known := l.known.put (Domain.normalize domain) id } := by
  cases hknown : l.known.get? (Domain.normalize domain) with
  | some found => exact .inl (congrArg Prod.snd (resolve_of_known hknown))
  | none =>
    cases hfound : l.directory.resolve domain with
    | error e =>
      left
      simp only [resolve, hknown, hfound]
    | ok found =>
      simp only [resolve, hknown, hfound, remember]
      split
      · exact .inr ⟨found, trivial, rfl, rfl⟩
      · exact .inl rfl

/-- Looking another domain up does not change what is found. -/
theorem resolve_stays (h : (l.resolve domain).1 = .ok id) (other : String) :
    ((l.resolve other).2.resolve domain).1 = .ok id := by
  rcases l.resolve_snd other with hsame | ⟨found, hnone, hfound, hlookup⟩
  · rw [hsame, h]
  rw [hlookup]
  rcases resolve_eq_ok h with hknown | ⟨hunknown, hdirectory⟩
  · refine congrArg Prod.fst (resolve_of_known ?_)
    rw [Dictionary.get?_put, if_neg, hknown]
    intro hform
    rw [hform, hnone] at hknown
    cases hknown
  · by_cases hform : Domain.normalize domain = Domain.normalize other
    · refine congrArg Prod.fst (resolve_of_known ?_)
      rw [Dictionary.get?_put, if_pos hform, Directory.resolve_unique hform hdirectory hfound]
    · have hunknown' : (l.known.put (Domain.normalize other) found).get? (Domain.normalize domain) =
          none := by
        rw [Dictionary.get?_put, if_neg hform, hunknown]
      simp only [resolve, hunknown', hdirectory]

/-- Finding a tenant again changes nothing. -/
theorem resolve_again (l : Lookup) (domain : String) :
    ((l.resolve domain).2.resolve domain).2 = (l.resolve domain).2 := by
  rcases l.resolve_snd domain with hsame | ⟨found, -, -, hlookup⟩
  · rw [hsame, hsame]
  · rw [hlookup]
    have hknown : (l.known.put (Domain.normalize domain) found).get? (Domain.normalize domain) =
        some found := by
      rw [Dictionary.get?_put, if_pos rfl]
    exact congrArg Prod.snd (resolve_of_known hknown)

end Lookup
end Missive.Tenant

import Missive.Identifier.Domain
import Missive.Proofs.Text.LowerCase

/-! Domains of one form. Turning a domain into the form in which domains are compared does not change
whether it fits the pattern of domains. It does change its length: the kelvin sign has three bytes, the
`k` it becomes has one. So if one of two domains of one form is accepted, the other can be refused for
its length only. -/

namespace Missive.Identifier.Domain

open Missive.Text

/-- The characters of domains. -/
def isDomainChar (c : Char) : Bool := isLabelChar c || c == '.'

/-- The lower-case form of a character of domains. -/
def fold (c : Char) : Char := if c = '\u212A' then 'k' else c.toLower

theorem isDomainChar_iff {c : Char} :
    isDomainChar c = true ↔ isLabelChar c = true ∨ (c == '.') = true := by
  rw [isDomainChar, Bool.or_eq_true]

theorem isDomainChar_cases {c : Char} (h : isDomainChar c = true) :
    c.toNat < 128 ∨ c = '\u017F' ∨ c = '\u212A' := by
  simp only [isDomainChar, isLabelChar, isLabelEnd, Bool.or_eq_true, beq_iff_eq] at h
  rcases h with (((h | rfl) | rfl) | rfl) | rfl
  · exact .inl (isAlphanum_ascii h)
  · exact .inr (.inl rfl)
  · exact .inr (.inr rfl)
  · exact .inl (by decide +kernel)
  · exact .inl (by decide +kernel)

/-- Folding keeps every character in its classes, and takes none into another. -/
theorem fold_class {p : Char → Bool} (hascii : ∀ n < 128, p (fold (Char.ofNat n)) = p (Char.ofNat n))
    (hkelvin : p 'k' = p '\u212A') (c : Char) : p (fold c) = p c := by
  rcases Nat.lt_or_ge c.toNat 128 with hlow | hhigh
  · exact ascii_all (P := fun c => p (fold c) = p c) hascii hlow
  · rw [fold]
    split
    · rename_i h
      rw [h, hkelvin]
    · rw [toLower_of_not_ascii hhigh]

theorem classes_pattern {P : (Char → Bool) → Prop} (hend : P isLabelEnd) (hrest : P isLabelChar)
    (hdot : P (· == '.')) : pattern.Classes P :=
  have hlabel : label.Classes P := ⟨hend, trivial, hrest, hend⟩
  ⟨hlabel, hdot, hlabel⟩

theorem accepts_fold (cs : List Char) : pattern.accepts (cs.map fold) = pattern.accepts cs :=
  Pattern.accepts_map (classes_pattern
    (fold_class (p := isLabelEnd) (by decide +kernel) (by decide +kernel))
    (fold_class (p := isLabelChar) (by decide +kernel) (by decide +kernel))
    (fold_class (p := (· == '.')) (by decide +kernel) (by decide +kernel))) cs

theorem isDomainChar_of_accepts {cs : List Char} (h : pattern.accepts cs = true) :
    ∀ c ∈ cs, isDomainChar c = true :=
  (Pattern.accepts_iff.1 h).mem (classes_pattern
    (fun c hc => by simp [isDomainChar, isLabelChar, hc])
    (fun c hc => by simp [isDomainChar, hc]) (fun c hc => isDomainChar_iff.2 (.inr hc)))

theorem lowerChar_domainChar {c : Char} (h : isDomainChar c = true) : lowerChar c = [fold c] := by
  rcases isDomainChar_cases h with hascii | rfl | rfl
  · rw [lowerChar_ascii hascii, fold, if_neg]
    rintro rfl
    exact absurd hascii (by decide +kernel)
  · decide +kernel
  · decide +kernel

theorem lowerChars_domainChars {cs : List Char} (h : ∀ c ∈ cs, isDomainChar c = true) :
    lowerChars cs = cs.map fold := by
  rw [lowerChars_eq_lowerEach]
  · exact lowerEach_eq_map fun c hc => lowerChar_domainChar (h c hc)
  · rintro c hc rfl
    exact absurd (h _ hc) (by decide +kernel)

/-- What becomes characters of domains only is itself a character of domains. -/
theorem domainChar_of_lowerChar {c : Char} (h : ∀ d ∈ lowerChar c, isDomainChar d = true) :
    isDomainChar c = true := by
  rcases Nat.lt_or_ge c.toNat 128 with hascii | hhigh
  · rw [lowerChar_ascii hascii] at h
    exact ascii_all (P := fun c => isDomainChar c.toLower = true → isDomainChar c = true)
      (by decide +kernel) hascii (h _ (List.mem_singleton.2 rfl))
  · by_cases hkelvin : c = '\u212A'
    · rw [hkelvin]
      decide +kernel
    · obtain ⟨d, hd, hdhigh, rfl | ⟨hlong, hsign⟩⟩ := exists_mem_lowerChar hhigh hkelvin
      · exact h d hd
      · rcases isDomainChar_cases (h d hd) with hlow | hd' | hd'
        · exact absurd hlow (Nat.not_lt.2 hdhigh)
        · exact absurd hd' hlong
        · exact absurd hd' hsign

theorem domainChars_of_lowerChars {cs : List Char}
    (h : ∀ d ∈ lowerChars cs, isDomainChar d = true) : ∀ c ∈ cs, isDomainChar c = true :=
  forall_of_lowerAfter (by decide +kernel) (by decide +kernel)
    (fun _ => domainChar_of_lowerChar) h

/-- The pattern of domains accepts a text if it accepts the text in lower case, and only then. -/
theorem accepts_lowerChars (cs : List Char) : pattern.accepts (lowerChars cs) = pattern.accepts cs := by
  have hfold (hcs : ∀ c ∈ cs, isDomainChar c = true) :
      pattern.accepts (lowerChars cs) = pattern.accepts cs := by
    rw [lowerChars_domainChars hcs, accepts_fold]
  rw [Bool.eq_iff_iff]
  constructor
  · intro h
    rwa [hfold (domainChars_of_lowerChars (isDomainChar_of_accepts h))] at h
  · intro h
    rwa [hfold (isDomainChar_of_accepts h)]

theorem normalize_eq_map {domain : String}
    (h : ∀ c ∈ (strip domain).toList, isDomainChar c = true) :
    normalize domain = String.ofList ((strip domain).toList.map fold) := by
  rw [normalize, lower, lowerChars_domainChars h]

theorem accepts_normalize (domain : String) :
    pattern.accepts (normalize domain).toList = pattern.accepts (strip domain).toList := by
  rw [normalize, toList_lower, accepts_lowerChars]

/-- A domain of the form of an accepted one can be refused for its length only. -/
theorem check_of_same_form {domain accepted : String} (h : check accepted = .ok ())
    (hform : normalize domain = normalize accepted) :
    check domain = if maxBytes < (strip domain).utf8ByteSize
      then .error (.domainTooLong maxBytes (strip domain).utf8ByteSize) else .ok () := by
  have hfits : pattern.accepts (strip domain).toList = true := by
    rw [← accepts_normalize, hform, accepts_normalize]
    simp only [check] at h
    split at h
    · cases h
    split at h
    · cases h
    split at h
    · assumption
    · cases h
  have hsome : strip domain ≠ "" := by
    intro hnone
    rw [hnone] at hfits
    exact absurd hfits (by decide +kernel)
  simp only [check, if_neg hsome, if_pos hfits]

end Missive.Identifier.Domain

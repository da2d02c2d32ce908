import Missive.Proofs.Identifier.Characters
import Missive.Proofs.Text.LowerCase

/-! Tags of one locale. A tag whose canonical form is that of a locale is itself an accepted tag, unless it
has a kelvin sign for a `k` (`check_eq_ok_iff_of_normalize`). -/

namespace Missive.Identifier.LocaleTag

open Missive.Text

theorem isTagChar_hyphenate {c : Char} : isTagChar (hyphenate c) = isTagChar c := by
  rw [hyphenate]
  split
  · rename_i h
    rw [h]
    decide +kernel
  · rfl

/-- What becomes characters of tags only is an ASCII character or the kelvin sign. -/
theorem ascii_of_lowerChar {c : Char} (h : ∀ d ∈ lowerChar c, isTagChar d = true)
    (hkelvin : c ≠ '\u212A') : c.toNat < 128 := by
  rcases Nat.lt_or_ge c.toNat 128 with hlow | hhigh
  · exact hlow
  · obtain ⟨d, hd, hdhigh, -⟩ := exists_mem_lowerChar hhigh hkelvin
    exact absurd (isTagChar_ascii (h d hd)) (Nat.not_lt.2 hdhigh)

theorem ascii_of_lowerChars {cs : List Char} (h : ∀ d ∈ lowerChars cs, isTagChar d = true) :
    ∀ c ∈ cs, c ≠ '\u212A' → c.toNat < 128 :=
  forall_of_lowerAfter (by decide +kernel) (by decide +kernel) (fun _ => ascii_of_lowerChar) h

/-- Folding takes no character into a class of the pattern or out of it. -/
theorem fold_class {p : Char → Bool} (hascii : ∀ n < 128, p (fold (Char.ofNat n)) = p (Char.ofNat n))
    (c : Char) : p (fold c) = p c := by
  rcases Nat.lt_or_ge c.toNat 128 with hlow | hhigh
  · exact ascii_all (P := fun c => p (fold c) = p c) hascii hlow
  · have hne : c ≠ '_' := by
      rintro rfl
      exact absurd hhigh (by decide)
    rw [fold, toLower_of_not_ascii hhigh, hyphenate, if_neg hne]

theorem accepts_fold (cs : List Char) : pattern.accepts (cs.map fold) = pattern.accepts cs :=
  Pattern.accepts_map (classes_pattern
    (fold_class (p := Char.isAlpha) (by decide +kernel))
    (fold_class (p := isSeparator) (by decide +kernel))
    (fold_class (p := Char.isAlphanum) (by decide +kernel))) cs

theorem mem_stripChars_of_not_blank {cs : List Char} {c : Char} (hc : isBlank c = false) :
    c ∈ stripChars cs ↔ c ∈ cs := by
  have hfilter := congrArg (c ∈ ·) (ScenarioName.filter_not_blank_stripChars cs)
  simpa [hc] using hfilter

/-- An accepted tag has no kelvin sign. -/
theorem not_kelvin_of_check {tag : String} (h : check tag = .ok ()) : '\u212A' ∉ tag.toList := by
  rw [← mem_stripChars_of_not_blank (by decide)]
  intro hmem
  exact absurd (isTagChar_of_accepts (check_eq_ok h).2 _ hmem) (by decide +kernel)

/-- The canonical form of a locale is that of accepted tags, and of tags with kelvin signs. -/
theorem check_eq_ok_iff_of_normalize {tag : String} {l : Locale} (h : normalize tag = l.tag) :
    check tag = .ok () ↔ '\u212A' ∉ tag.toList := by
  refine ⟨not_kelvin_of_check, fun hkelvin => ?_⟩
  have htag : ∀ c ∈ (normalize tag).toList, isTagChar c = true := by
    rw [h]
    exact isTagChar_of_canonical l.accepted l.canonical
  have hlower : ∀ c ∈ lowerChars (stripChars tag.toList), isTagChar c = true := by
    intro c hc
    rw [← isTagChar_hyphenate]
    exact htag _ (by rw [normalize, String.toList_ofList]; exact List.mem_map_of_mem hc)
  have hascii : ∀ c ∈ stripChars tag.toList, c.toNat < 128 := by
    intro c hc
    refine ascii_of_lowerChars hlower c hc ?_
    rintro rfl
    exact hkelvin ((mem_stripChars_of_not_blank (by decide)).1 hc)
  have hfold : l.tag.toList = (stripChars tag.toList).map fold := by
    rw [← h, normalize, String.toList_ofList, lowerChars_ascii hascii, List.map_map]
    rfl
  have hstrip : stripChars l.tag.toList = l.tag.toList :=
    stripChars_of_no_blank fun c hc =>
      isTagChar_not_blank (isTagChar_of_canonical l.accepted l.canonical c hc)
  obtain ⟨hsome, haccepts⟩ := check_eq_ok l.accepted
  rw [hstrip, hfold, accepts_fold] at haccepts
  have hne : strip tag ≠ "" := by
    intro hnone
    have hnil : stripChars tag.toList = [] := by rw [← toList_strip, hnone]; rfl
    rw [hnil, List.map_nil] at hfold
    exact hsome (by rw [strip, hstrip, hfold])
  simp only [check, if_neg hne, toList_strip, if_pos haccepts]

end Missive.Identifier.LocaleTag

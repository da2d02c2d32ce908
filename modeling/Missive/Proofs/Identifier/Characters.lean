import Missive.Locale
import Missive.Scenario
import Missive.Scope

/-! The characters of identifiers. The key of an accepted name, a canonical tag and an application
identifier are all made of ASCII characters from a short list, which has no slash in it. -/

namespace Missive.Identifier

open Missive.Text

namespace ScenarioName

theorem check_eq_ok {name : String} (h : check name = .ok ()) :
    strip name ≠ "" ∧ pattern.accepts (stripChars name.toList) = true := by
  simp only [check] at h
  split at h
  · cases h
  · rename_i hne
    split at h
    · cases h
    · split at h
      · rename_i hacc
        exact ⟨hne, by simpa using hacc⟩
      · cases h

theorem isNameChar_ascii {c : Char} (h : isNameChar c = true) : c.toNat < 128 := by
  simp only [isNameChar, Bool.or_eq_true, beq_iff_eq] at h
  rcases h with (((h | rfl) | rfl) | rfl) | rfl
  · exact isAlphanum_ascii h
  all_goals decide +kernel

theorem isNameChar_of_accepts {cs : List Char} (h : pattern.accepts cs = true) :
    ∀ c ∈ cs, isNameChar c = true :=
  (Pattern.accepts_iff.1 h).mem ⟨fun c hc => by simp [isNameChar, hc], fun _ hc => hc⟩

/-- White space at the two ends of a name does not show in the rest of it. -/
theorem filter_not_blank_stripChars (cs : List Char) :
    (stripChars cs).filter (!isBlank ·) = cs.filter (!isBlank ·) := by
  have hend : ∀ ds : List Char, (dropBlankEnd ds).filter (!isBlank ·) = ds.filter (!isBlank ·) := by
    intro ds
    induction ds with
    | nil => rfl
    | cons d rest ih =>
      rw [dropBlankEnd]
      split
      · rename_i hnil
        rw [hnil] at ih
        by_cases hd : isBlank d <;> simp [hd, ← ih]
      · rw [List.filter_cons, List.filter_cons, ih]
  have hfront : ∀ ds : List Char,
      (ds.dropWhile isBlank).filter (!isBlank ·) = ds.filter (!isBlank ·) := by
    intro ds
    induction ds with
    | nil => rfl
    | cons d rest ih => by_cases hd : isBlank d <;> simp [hd, ih]
  rw [stripChars, hend, hfront]

theorem key_strip (name : String) : key (strip name) = key name := by
  rw [key, toList_strip, filter_not_blank_stripChars, key]

/-- The key of an accepted name has the characters of the name, the blank ones left out, in lower
case. -/
theorem toList_key {name : String} (h : check name = .ok ()) :
    (key name).toList = ((stripChars name.toList).filter (!isBlank ·)).map Char.toLower := by
  have hascii : ∀ c ∈ (stripChars name.toList).filter (!isBlank ·), c.toNat < 128 := fun c hc =>
    isNameChar_ascii (isNameChar_of_accepts (check_eq_ok h).2 c (List.mem_filter.1 hc).1)
  rw [key, String.toList_ofList, ← filter_not_blank_stripChars, lowerEach_ascii hascii]

theorem toLower_isNameChar {c : Char} (h : isNameChar c = true) : isNameChar c.toLower = true :=
  ascii_class isNameChar_ascii (by decide +kernel) c h

theorem isNameChar_of_mem_key {name : String} (h : check name = .ok ()) :
    ∀ c ∈ (key name).toList, isNameChar c = true := by
  rw [toList_key h]
  intro c hc
  obtain ⟨d, hd, rfl⟩ := List.mem_map.1 hc
  exact toLower_isNameChar (isNameChar_of_accepts (check_eq_ok h).2 d (List.mem_filter.1 hd).1)

end ScenarioName

theorem LocaleTag.isTagChar_of_canonical {tag : String} (h : check tag = .ok ())
    (hcanonical : normalize tag = tag) : ∀ c ∈ tag.toList, isTagChar c = true := by
  rw [← hcanonical, toList_normalize h]
  intro c hc
  obtain ⟨d, hd, rfl⟩ := List.mem_map.1 hc
  exact fold_isTagChar (isTagChar_of_accepts (check_eq_ok h).2 d hd)

theorem ApplicationId.isIdChar_of_check {id : String} (h : check id = .ok ()) :
    ∀ c ∈ id.toList, isIdChar c = true := by
  simp only [check] at h
  split at h
  · cases h
  · split at h
    · rename_i hacc
      have hrest : (Pattern.one isIdChar).Classes fun p => ∀ c, p c = true → isIdChar c = true :=
        fun _ hc => hc
      exact (Pattern.accepts_iff.1 hacc).mem
        ⟨fun c hc => by simp [isIdChar, hc], Pattern.classes_upTo hrest _⟩
    · cases h

end Missive.Identifier

namespace Missive

open Identifier

theorem Scenario.key_ne_slash (s : Scenario) : ∀ c ∈ s.key.toList, c ≠ '/' := by
  intro c hc heq
  subst heq
  exact absurd (ScenarioName.isNameChar_of_mem_key s.accepted _ hc) (by decide +kernel)

theorem Locale.tag_ne_slash (l : Locale) : ∀ c ∈ l.tag.toList, c ≠ '/' := by
  intro c hc heq
  subst heq
  exact absurd (LocaleTag.isTagChar_of_canonical l.accepted l.canonical _ hc) (by decide +kernel)

theorem Identifier.ApplicationId.text_ne_slash (id : ApplicationId) :
    ∀ c ∈ id.text.toList, c ≠ '/' := by
  intro c hc heq
  subst heq
  exact absurd (ApplicationId.isIdChar_of_check id.accepted _ hc) (by decide +kernel)

end Missive

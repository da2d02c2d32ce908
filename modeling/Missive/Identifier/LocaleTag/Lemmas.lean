import Missive.Identifier.LocaleTag
import Missive.Text.Ascii

/-! The canonical form of an accepted tag: normalizing works character by character (`fold`), its
result is accepted (`check_normalize`) and is its own canonical form (`normalize_normalize`). -/

namespace Missive.Identifier.LocaleTag

open Missive.Text


/-- What normalizing does to a character of an accepted tag. -/
def fold (c : Char) : Char := hyphenate c.toLower

theorem fold_isAlpha {c : Char} (h : c.isAlpha = true) : (fold c).isAlpha = true :=
  ascii_class isAlpha_ascii (by decide +kernel) c h

theorem fold_isAlphanum {c : Char} (h : c.isAlphanum = true) : (fold c).isAlphanum = true :=
  ascii_class isAlphanum_ascii (by decide +kernel) c h

theorem isSeparator_iff {c : Char} : isSeparator c = true ↔ c = '-' ∨ c = '_' := by
  simp [isSeparator]

theorem fold_isSeparator {c : Char} (h : isSeparator c = true) : isSeparator (fold c) = true := by
  rcases isSeparator_iff.1 h with rfl | rfl <;> decide +kernel

/-- The characters of an accepted tag. -/
def isTagChar (c : Char) : Bool := c.isAlphanum || isSeparator c

theorem isTagChar_ascii {c : Char} (h : isTagChar c = true) : c.toNat < 128 := by
  rcases Bool.or_eq_true _ _ ▸ h with h | h
  · exact isAlphanum_ascii h
  · rcases isSeparator_iff.1 h with rfl | rfl <;> decide +kernel

theorem isTagChar_not_blank {c : Char} (h : isTagChar c = true) : isBlank c = false :=
  ascii_class isTagChar_ascii (by decide +kernel) c h

theorem fold_isTagChar {c : Char} (h : isTagChar c = true) : isTagChar (fold c) = true := by
  rcases Bool.or_eq_true _ _ ▸ h with h | h
  · simp [isTagChar, fold_isAlphanum h]
  · simp [isTagChar, fold_isSeparator h]

theorem fold_fold {c : Char} (h : isTagChar c = true) : fold (fold c) = fold c :=
  ascii_class isTagChar_ascii (by decide +kernel) c h

theorem classes_pattern {P : (Char → Bool) → Prop} (halpha : P Char.isAlpha)
    (hsep : P isSeparator) (halnum : P Char.isAlphanum) : pattern.Classes P :=
  ⟨Pattern.classes_between (a := .one _) halpha _ _, hsep,
    Pattern.classes_between (a := .one _) halnum _ _⟩

theorem isTagChar_of_accepts {cs : List Char} (h : pattern.accepts cs = true) :
    ∀ c ∈ cs, isTagChar c = true :=
  (Pattern.accepts_iff.1 h).mem <| classes_pattern
    (fun c hc => by simp [isTagChar, Char.isAlphanum, hc])
    (fun c hc => by simp [isTagChar, hc])
    (fun c hc => by simp [isTagChar, hc])

theorem accepts_map_fold {cs : List Char} (h : pattern.accepts cs = true) :
    pattern.accepts (cs.map fold) = true :=
  Pattern.accepts_iff.2 <| (Pattern.accepts_iff.1 h).map <| classes_pattern
    (fun _ => fold_isAlpha) (fun _ => fold_isSeparator) (fun _ => fold_isAlphanum)

theorem check_eq_ok {tag : String} (h : check tag = .ok ()) :
    strip tag ≠ "" ∧ pattern.accepts (stripChars tag.toList) = true := by
  simp only [check] at h
  split at h
  · cases h
  · rename_i hne
    split at h
    · rename_i hacc
      exact ⟨hne, by simpa using hacc⟩
    · cases h

/-- On an accepted tag normalizing works character by character. -/
theorem toList_normalize {tag : String} (h : check tag = .ok ()) :
    (normalize tag).toList = (stripChars tag.toList).map fold := by
  have hascii : ∀ c ∈ stripChars tag.toList, c.toNat < 128 := fun c hc =>
    isTagChar_ascii (isTagChar_of_accepts (check_eq_ok h).2 c hc)
  rw [normalize, String.toList_ofList, lowerChars_ascii hascii, List.map_map]
  rfl

theorem stripChars_normalize {tag : String} (h : check tag = .ok ()) :
    stripChars (normalize tag).toList = (normalize tag).toList := by
  apply stripChars_of_no_blank
  rw [toList_normalize h]
  intro c hc
  obtain ⟨d, hd, rfl⟩ := List.mem_map.1 hc
  exact isTagChar_not_blank (fold_isTagChar (isTagChar_of_accepts (check_eq_ok h).2 d hd))

theorem check_normalize {tag : String} (h : check tag = .ok ()) :
    check (normalize tag) = .ok () := by
  have hstrip : strip (normalize tag) = normalize tag := by
    rw [strip, stripChars_normalize h, String.ofList_toList]
  have hne : normalize tag ≠ "" := by
    intro he
    have hlist := toList_normalize h
    rw [he] at hlist
    have hnil : stripChars tag.toList = [] := by simpa using hlist.symm
    exact (check_eq_ok h).1 (by rw [strip, hnil])
  have hacc : pattern.accepts (normalize tag).toList = true := by
    rw [toList_normalize h]
    exact accepts_map_fold (check_eq_ok h).2
  simp [check, hstrip, hne, hacc]

theorem normalize_normalize {tag : String} (h : check tag = .ok ()) :
    normalize (normalize tag) = normalize tag := by
  rw [← String.toList_inj, toList_normalize (check_normalize h), stripChars_normalize h,
    toList_normalize h, List.map_map]
  apply List.map_congr_left
  intro c hc
  exact fold_fold (isTagChar_of_accepts (check_eq_ok h).2 c hc)

end Missive.Identifier.LocaleTag

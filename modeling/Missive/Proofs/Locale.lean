import Mathlib.Data.List.Forall2
import Missive.Proofs.Identifier.LocaleTag
import Missive.Proofs.Parsing
import Missive.Proofs.Text.Pattern

/-! Which texts are locales, and which of them are the same one. The pattern of tags is a grammar of
letters and subtags, and an accepted text is turned into its tag character by character, so two texts
have one tag just if they agree character by character up to case and the kind of separator. -/

namespace Missive.Identifier.LocaleTag

open Missive.Text

/-! ### The grammar of tags -/

/-- A separator with two to eight letters or digits after it. -/
def IsSubtag : List Char → Prop
  | [] => False
  | separator :: rest => (separator = '-' ∨ separator = '_') ∧
      2 ≤ rest.length ∧ rest.length ≤ 8 ∧ ∀ c ∈ rest, c.isAlphanum = true

/-- Two or three letters, then any number of subtags. -/
def IsTag (cs : List Char) : Prop :=
  ∃ (language : List Char) (subtags : List (List Char)), cs = language ++ subtags.flatten ∧
    (language.length = 2 ∨ language.length = 3) ∧ (∀ c ∈ language, c.isAlpha = true) ∧
    ∀ subtag ∈ subtags, IsSubtag subtag

theorem matches_subtag {cs : List Char} :
    Pattern.Matches (.seq (.one isSeparator) (.between 2 6 (.one Char.isAlphanum))) cs ↔
      IsSubtag cs := by
  cases cs with
  | nil => simp [Pattern.not_matches_seq_one_nil, IsSubtag]
  | cons c rest =>
    rw [Pattern.matches_seq_one_cons, Pattern.matches_between_one, isSeparator_iff]
    rfl

theorem accepts_iff_isTag {cs : List Char} : pattern.accepts cs = true ↔ IsTag cs := by
  rw [Pattern.accepts_iff, pattern, Pattern.matches_seq]
  constructor
  · rintro ⟨language, rest, rfl, hlanguage, hrest⟩
    obtain ⟨hlow, hhigh, hletters⟩ := Pattern.matches_between_one.1 hlanguage
    obtain ⟨subtags, rfl, hsubtags⟩ := Pattern.matches_star_iff.1 hrest
    exact ⟨language, subtags, rfl, by omega, hletters,
      fun subtag hmem => matches_subtag.1 (hsubtags subtag hmem)⟩
  · rintro ⟨language, subtags, rfl, hlength, hletters, hsubtags⟩
    refine ⟨language, subtags.flatten, rfl, ?_, ?_⟩
    · exact Pattern.matches_between_one.2 ⟨by omega, by omega, hletters⟩
    · exact Pattern.matches_star_iff.2 ⟨subtags, rfl,
        fun subtag hmem => matches_subtag.2 (hsubtags subtag hmem)⟩

theorem not_isTag_nil : ¬IsTag [] := by
  rw [← accepts_iff_isTag]
  decide

theorem check_eq_ok_iff {tag : String} : check tag = .ok () ↔ IsTag (strip tag).toList := by
  rw [← accepts_iff_isTag]
  constructor
  · intro h
    rw [toList_strip]
    exact (check_eq_ok h).2
  · intro h
    have hsome : strip tag ≠ "" := by
      intro hnone
      rw [hnone] at h
      exact not_isTag_nil (accepts_iff_isTag.1 h)
    simp only [check, if_neg hsome, if_pos h]

theorem check_eq_blank_iff {tag : String} : check tag = .error (.blank .locale) ↔ strip tag = "" := by
  simp only [check]
  split
  · simp_all
  · split <;> simp_all

theorem check_eq_malformed_iff {tag text : String} : check tag = .error (.malformedLocale text) ↔
    text = strip tag ∧ text ≠ "" ∧ ¬IsTag text.toList := by
  simp only [check]
  split
  · rename_i hnone
    simp only [Except.error.injEq, reduceCtorEq, false_iff]
    rintro ⟨rfl, hsome, -⟩
    exact hsome hnone
  · rename_i hsome
    split
    · rename_i haccepts
      simp only [reduceCtorEq, false_iff]
      rintro ⟨rfl, -, hnot⟩
      exact hnot (accepts_iff_isTag.1 haccepts)
    · rename_i haccepts
      rw [accepts_iff_isTag] at haccepts
      simp only [Except.error.injEq, Error.malformedLocale.injEq]
      constructor
      · rintro rfl
        exact ⟨rfl, hsome, haccepts⟩
      · rintro ⟨rfl, -, -⟩
        rfl

/-! ### Texts of one tag -/

/-- The same letter in either case, or two separators. -/
def SameChar (c d : Char) : Prop :=
  c.toLower = d.toLower ∨ (c = '-' ∨ c = '_') ∧ (d = '-' ∨ d = '_')

theorem isSeparator_toLower (c : Char) : isSeparator c.toLower = isSeparator c := by
  rcases Nat.lt_or_ge c.toNat 128 with hlow | hhigh
  · exact ascii_all (P := fun c => isSeparator c.toLower = isSeparator c) (by decide +kernel) hlow
  · rw [toLower_of_not_ascii hhigh]

theorem hyphenate_inj {c d : Char} : hyphenate c = hyphenate d ↔
    c = d ∨ isSeparator c = true ∧ isSeparator d = true := by
  simp only [hyphenate, isSeparator_iff]
  split <;> split <;> grind

theorem fold_inj {c d : Char} : fold c = fold d ↔ SameChar c d := by
  rw [fold, fold, hyphenate_inj, isSeparator_toLower, isSeparator_toLower, isSeparator_iff,
    isSeparator_iff, SameChar]

theorem map_fold_inj {cs ds : List Char} : cs.map fold = ds.map fold ↔ List.Forall₂ SameChar cs ds := by
  rw [← List.forall₂_eq_eq_eq, List.forall₂_map_left_iff, List.forall₂_map_right_iff]
  simp only [fold_inj]

/-- The characters of canonical tags. -/
theorem fold_cases {c : Char} (h : isTagChar c = true) :
    (fold c).isLower = true ∨ (fold c).isDigit = true ∨ fold c = '-' :=
  ascii_class isTagChar_ascii (by decide +kernel) c h

theorem normalize_inj {a b : String} (ha : check a = .ok ()) (hb : check b = .ok ()) :
    normalize a = normalize b ↔ List.Forall₂ SameChar (strip a).toList (strip b).toList := by
  rw [← String.toList_inj, toList_normalize ha, toList_normalize hb, map_fold_inj, toList_strip,
    toList_strip]

end Missive.Identifier.LocaleTag

namespace Missive.Locale

open Identifier Text

theorem parse_eq_ok_iff {text : String} {l : Locale} :
    parse text = .ok l ↔ LocaleTag.check text = .ok () ∧ l.tag = LocaleTag.normalize text := by
  constructor
  · intro h
    refine ⟨?_, tag_of_parse h⟩
    rw [parse] at h
    split at h
    · assumption
    · cases h
  · rintro ⟨hcheck, htag⟩
    obtain ⟨l', hl'⟩ := parse_of_check hcheck
    rw [hl', ext_tag ((tag_of_parse hl').trans htag.symm)]

theorem parse_eq_error_iff {text : String} {e : Identifier.Error} :
    parse text = .error e ↔ LocaleTag.check text = .error e := by
  rw [parse]
  split <;> simp_all

theorem lowercase (l : Locale) :
    ∀ c ∈ l.tag.toList, c.isLower = true ∨ c.isDigit = true ∨ c = '-' := by
  rw [← l.canonical, LocaleTag.toList_normalize l.accepted]
  intro c hc
  obtain ⟨d, hd, rfl⟩ := List.mem_map.1 hc
  exact LocaleTag.fold_cases (LocaleTag.isTagChar_of_accepts (LocaleTag.check_eq_ok l.accepted).2 d hd)

theorem parse_tag (l : Locale) : parse l.tag = .ok l :=
  parse_eq_ok_iff.2 ⟨l.accepted, l.canonical.symm⟩

/-- A text is a locale just if it is a tag of the grammar once the white space around it is gone, and it
is refused as blank just if nothing is left of it. The tag of a locale is in lower case with hyphens, and
is a text of that locale; and two texts are the same locale just if they agree in every character but for
case and the kind of separator. -/
theorem parse_follows_grammar (text : String) :
    ((∃ l, parse text = .ok l) ↔ LocaleTag.IsTag (strip text).toList) ∧
    (parse text = .error (.blank .locale) ↔ strip text = "") ∧
    (∀ tag, parse text = .error (.malformedLocale tag) ↔
      tag = strip text ∧ tag ≠ "" ∧ ¬LocaleTag.IsTag tag.toList) ∧
    ∀ l, parse text = .ok l →
      (∀ c ∈ l.tag.toList, c.isLower = true ∨ c.isDigit = true ∨ c = '-') ∧
      parse l.tag = .ok l ∧
      ∀ other l', parse other = .ok l' →
        (l = l' ↔ List.Forall₂ LocaleTag.SameChar (strip text).toList (strip other).toList) := by
  refine ⟨?_, ?_, ?_, ?_⟩
  · rw [← LocaleTag.check_eq_ok_iff]
    exact ⟨fun ⟨_, hl⟩ => (parse_eq_ok_iff.1 hl).1, parse_of_check⟩
  · rw [parse_eq_error_iff, LocaleTag.check_eq_blank_iff]
  · intro tag
    rw [parse_eq_error_iff, LocaleTag.check_eq_malformed_iff]
  · intro l hl
    refine ⟨l.lowercase, l.parse_tag, fun other l' hl' => ?_⟩
    obtain ⟨hcheck, htag⟩ := parse_eq_ok_iff.1 hl
    obtain ⟨hcheck', htag'⟩ := parse_eq_ok_iff.1 hl'
    rw [← LocaleTag.normalize_inj hcheck hcheck', ← htag, ← htag']
    exact ⟨congrArg tag, ext_tag⟩

end Missive.Locale

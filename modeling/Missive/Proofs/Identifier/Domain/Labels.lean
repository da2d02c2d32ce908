import Mathlib.Data.List.Basic
import Missive.Proofs.Identifier.Domain
import Missive.Proofs.Text.Pattern

/-! Domains by their labels. The pattern of domains nests repetitions, so it may match a text in several
ways; but no label has a dot in it, so all of them put the labels where splitting at the dots puts
them. The form in which domains are compared is an accepted domain itself: it has the same labels in lower
case and is no longer. -/

namespace Missive.Identifier.Domain

open Missive.Text

/-! ### Labels -/

/-- An ASCII letter or one of the two signs that are a form of one, or a digit. -/
def IsLetterOrDigit (c : Char) : Prop :=
  c.isAlpha = true ∨ c = '\u017F' ∨ c = '\u212A' ∨ c.isDigit = true

/-- Letters, digits and hyphens, at least one of them, with no hyphen at either end. -/
structure IsLabel (label : List Char) : Prop where
  nonempty : label ≠ []
  characters : ∀ c ∈ label, IsLetterOrDigit c ∨ c = '-'
  first : label.head? ≠ some '-'
  last : label.getLast? ≠ some '-'

/-- Short enough, and labels between the dots. -/
structure IsDomain (text : String) : Prop where
  short : text.utf8ByteSize ≤ 253
  labels : ∀ label ∈ text.toList.splitOn '.', IsLabel label

theorem isLabelEnd_iff {c : Char} : isLabelEnd c = true ↔ IsLetterOrDigit c := by
  simp only [isLabelEnd, Char.isAlphanum, Bool.or_eq_true, beq_iff_eq, IsLetterOrDigit]
  grind

theorem isLabelChar_iff {c : Char} : isLabelChar c = true ↔ IsLetterOrDigit c ∨ c = '-' := by
  rw [isLabelChar, Bool.or_eq_true, isLabelEnd_iff, beq_iff_eq]

theorem isLabelEnd_iff_ne {c : Char} : isLabelEnd c = true ↔ isLabelChar c = true ∧ c ≠ '-' := by
  have hhyphen : isLabelEnd '-' = false := by decide +kernel
  rw [isLabelChar, Bool.or_eq_true, beq_iff_eq]
  constructor
  · intro h
    refine ⟨.inl h, ?_⟩
    rintro rfl
    rw [hhyphen] at h
    cases h
  · rintro ⟨h, hne⟩
    exact h.resolve_right hne

theorem not_dot_of_isLabelChar {c : Char} (h : isLabelChar c = true) : c ≠ '.' := by
  rintro rfl
  exact absurd h (by decide +kernel)

theorem isLabel_singleton {c : Char} : IsLabel [c] ↔ isLabelEnd c = true := by
  rw [isLabelEnd_iff_ne, isLabelChar_iff]
  constructor
  · intro h
    exact ⟨h.characters c (by simp), by simpa using h.first⟩
  · rintro ⟨hchar, hne⟩
    exact ⟨by simp, by simpa using hchar, by simpa using hne, by simpa using hne⟩

theorem isLabel_cons_concat {c d : Char} {middle : List Char} :
    IsLabel (c :: (middle ++ [d])) ↔
      isLabelEnd c = true ∧ (∀ x ∈ middle, isLabelChar x = true) ∧ isLabelEnd d = true := by
  have hlast : (c :: (middle ++ [d])).getLast? = some d := by
    rw [← List.cons_append, List.getLast?_concat]
  simp only [isLabelEnd_iff_ne, isLabelChar_iff]
  constructor
  · intro h
    have hd := h.last
    rw [hlast] at hd
    exact ⟨⟨h.characters c (by simp), by simpa using h.first⟩,
      fun x hx => h.characters x (by simp [hx]), h.characters d (by simp), by simpa using hd⟩
  · rintro ⟨⟨hc, hfirst⟩, hmiddle, hd, hne⟩
    refine ⟨by simp, ?_, by simpa using hfirst, by rw [hlast]; simpa using hne⟩
    intro x hx
    rcases List.mem_cons.1 hx with rfl | hx
    · exact hc
    rcases List.mem_append.1 hx with hx | hx
    · exact hmiddle x hx
    · rwa [List.mem_singleton.1 hx]

theorem matches_label {cs : List Char} : Pattern.Matches label cs ↔ IsLabel cs := by
  rw [label]
  cases cs with
  | nil => exact iff_of_false Pattern.not_matches_seq_one_nil fun h => h.nonempty rfl
  | cons c rest =>
    rw [Pattern.matches_seq_one_cons, Pattern.matches_optional]
    rcases List.eq_nil_or_concat' rest with rfl | ⟨middle, d, rfl⟩
    · simp [isLabel_singleton]
    · simp [isLabel_cons_concat, Pattern.matches_seq_one_concat, Pattern.matches_star_one]

theorem IsLabel.no_dot {label : List Char} (h : IsLabel label) : '.' ∉ label := by
  intro hmem
  exact not_dot_of_isLabelChar (isLabelChar_iff.2 (h.characters _ hmem)) rfl

/-! ### Domains -/

/-- A label and further ones, each with a dot in front, are what splitting at the dots gives. -/
theorem splitOn_dots {first : List Char} {rest : List (List Char)} (hfirst : '.' ∉ first)
    (hrest : ∀ label ∈ rest, '.' ∉ label) :
    (first ++ (rest.map ('.' :: ·)).flatten).splitOn '.' = first :: rest := by
  induction rest generalizing first with
  | nil => simp [List.splitOn_eq_singleton hfirst]
  | cons label rest ih =>
    obtain ⟨hlabel, hrest⟩ := List.forall_mem_cons.1 hrest
    rw [List.map_cons, List.flatten_cons, List.cons_append,
      List.splitOn_append_cons_self_of_not_mem hfirst, ih hlabel hrest]

/-- Splitting at the dots loses nothing. -/
theorem exists_splitOn_dots (cs : List Char) : ∃ first rest,
    cs.splitOn '.' = first :: rest ∧ cs = first ++ (rest.map ('.' :: ·)).flatten := by
  have hjoin : ['.'].intercalate (cs.splitOn '.') = cs := List.intercalate_splitOn '.'
  cases hsplit : cs.splitOn '.' with
  | nil => exact absurd hsplit (List.splitOn_ne_nil '.' cs)
  | cons first rest =>
    refine ⟨first, rest, rfl, ?_⟩
    rw [← hjoin, hsplit]
    clear hsplit
    induction rest generalizing first with
    | nil => simp
    | cons label rest ih => simp [List.intercalate_cons_cons, ih]

/-- What follows the first label are labels with a dot in front of each. -/
theorem matches_dotted {cs : List Char} :
    Pattern.Matches (.star (.seq (.one (· == '.')) label)) cs ↔
      ∃ rest : List (List Char), cs = (rest.map ('.' :: ·)).flatten ∧ ∀ label ∈ rest, IsLabel label := by
  rw [Pattern.matches_star_iff]
  constructor
  · rintro ⟨parts, rfl, hparts⟩
    induction parts with
    | nil => exact ⟨[], rfl, by simp⟩
    | cons part parts ih =>
      obtain ⟨hpart, hparts⟩ := List.forall_mem_cons.1 hparts
      obtain ⟨rest, hrest, hlabels⟩ := ih hparts
      cases part with
      | nil => exact absurd hpart Pattern.not_matches_seq_one_nil
      | cons c label =>
        obtain ⟨hdot, hlabel⟩ := Pattern.matches_seq_one_cons.1 hpart
        obtain rfl : c = '.' := by simpa using hdot
        refine ⟨label :: rest, ?_, List.forall_mem_cons.2 ⟨matches_label.1 hlabel, hlabels⟩⟩
        rw [List.flatten_cons, hrest, List.map_cons, List.flatten_cons]
  · rintro ⟨rest, rfl, hlabels⟩
    refine ⟨_, rfl, fun part hpart => ?_⟩
    obtain ⟨label, hlabel, rfl⟩ := List.mem_map.1 hpart
    exact Pattern.matches_seq_one_cons.2 ⟨by simp, matches_label.2 (hlabels label hlabel)⟩

theorem accepts_iff_labels {cs : List Char} :
    pattern.accepts cs = true ↔ ∀ label ∈ cs.splitOn '.', IsLabel label := by
  rw [Pattern.accepts_iff, pattern, Pattern.matches_seq]
  constructor
  · rintro ⟨first, _, rfl, hfirst, hrest⟩
    rw [matches_label] at hfirst
    obtain ⟨rest, rfl, hlabels⟩ := matches_dotted.1 hrest
    rw [splitOn_dots hfirst.no_dot fun label hmem => (hlabels label hmem).no_dot]
    exact List.forall_mem_cons.2 ⟨hfirst, hlabels⟩
  · intro h
    obtain ⟨first, rest, hsplit, hcs⟩ := exists_splitOn_dots cs
    rw [hsplit, List.forall_mem_cons] at h
    exact ⟨first, _, hcs, matches_label.2 h.1, matches_dotted.2 ⟨rest, rfl, h.2⟩⟩

/-- The four ways a check can end. -/
theorem check_cases (domain : String) :
    (strip domain = "" ∧ check domain = .error (.blank .tenant)) ∨
    strip domain ≠ "" ∧
      ((253 < (strip domain).utf8ByteSize ∧
          check domain = .error (.domainTooLong 253 (strip domain).utf8ByteSize)) ∨
        (IsDomain (strip domain) ∧ check domain = .ok ()) ∨
        (strip domain).utf8ByteSize ≤ 253 ∧ ¬IsDomain (strip domain) ∧
          check domain = .error (.malformedDomain (strip domain))) := by
  by_cases hblank : strip domain = ""
  · exact .inl ⟨hblank, by simp only [check, if_pos hblank]⟩
  refine .inr ⟨hblank, ?_⟩
  by_cases hlong : maxBytes < (strip domain).utf8ByteSize
  · refine .inl ⟨hlong, ?_⟩
    simp only [check, if_neg hblank, if_pos hlong]
    rfl
  have hshort : (strip domain).utf8ByteSize ≤ 253 := Nat.not_lt.1 hlong
  by_cases haccepts : pattern.accepts (strip domain).toList = true
  · refine .inr (.inl ⟨⟨hshort, accepts_iff_labels.1 haccepts⟩, ?_⟩)
    simp only [check, if_neg hblank, if_neg hlong, if_pos haccepts]
  · refine .inr (.inr ⟨hshort, fun h => haccepts (accepts_iff_labels.2 h.labels), ?_⟩)
    simp only [check, if_neg hblank, if_neg hlong, if_neg haccepts]

theorem not_isDomain_empty : ¬IsDomain "" := by
  intro h
  exact absurd (accepts_iff_labels.2 h.labels) (by decide)

theorem check_eq_ok_iff {domain : String} : check domain = .ok () ↔ IsDomain (strip domain) := by
  rcases check_cases domain with ⟨hblank, hcheck⟩ |
    ⟨-, ⟨hlong, hcheck⟩ | ⟨hdomain, hcheck⟩ | ⟨-, hdomain, hcheck⟩⟩
  · rw [hcheck, hblank]
    exact iff_of_false nofun not_isDomain_empty
  · rw [hcheck]
    exact iff_of_false nofun fun h => Nat.not_lt.2 h.short hlong
  · exact iff_of_true hcheck hdomain
  · rw [hcheck]
    exact iff_of_false nofun hdomain

theorem check_eq_blank_iff {domain : String} :
    check domain = .error (.blank .tenant) ↔ strip domain = "" := by
  rcases check_cases domain with ⟨hblank, hcheck⟩ | ⟨hsome, h⟩
  · exact iff_of_true hcheck hblank
  · refine iff_of_false ?_ hsome
    rcases h with ⟨-, hcheck⟩ | ⟨-, hcheck⟩ | ⟨-, -, hcheck⟩ <;> simp [hcheck]

theorem check_eq_tooLong_iff {domain : String} {limit bytes : Nat} :
    check domain = .error (.domainTooLong limit bytes) ↔
      limit = 253 ∧ bytes = (strip domain).utf8ByteSize ∧ 253 < bytes := by
  rcases check_cases domain with ⟨hblank, hcheck⟩ |
    ⟨-, ⟨hlong, hcheck⟩ | ⟨hdomain, hcheck⟩ | ⟨hshort, -, hcheck⟩⟩
  · have hempty : (strip domain).utf8ByteSize = 0 := by simp [hblank]
    simp only [hcheck, Except.error.injEq, reduceCtorEq, false_iff]
    omega
  · simp only [hcheck, Except.error.injEq, Error.domainTooLong.injEq]
    grind
  · have hshort := hdomain.short
    simp only [hcheck, reduceCtorEq, false_iff]
    omega
  · simp only [hcheck, Except.error.injEq, reduceCtorEq, false_iff]
    omega

theorem check_eq_malformed_iff {domain text : String} :
    check domain = .error (.malformedDomain text) ↔
      text = strip domain ∧ text ≠ "" ∧ text.utf8ByteSize ≤ 253 ∧ ¬IsDomain text := by
  rcases check_cases domain with ⟨hblank, hcheck⟩ |
    ⟨hsome, ⟨hlong, hcheck⟩ | ⟨hdomain, hcheck⟩ | ⟨hshort, hdomain, hcheck⟩⟩
  · simp only [hcheck, Except.error.injEq, reduceCtorEq, false_iff]
    rintro ⟨rfl, hsome, -⟩
    exact hsome hblank
  · simp only [hcheck, Except.error.injEq, reduceCtorEq, false_iff]
    rintro ⟨rfl, -, hshort, -⟩
    omega
  · simp only [hcheck, reduceCtorEq, false_iff]
    rintro ⟨rfl, -, -, hno⟩
    exact hno hdomain
  · simp only [hcheck, Except.error.injEq, Error.malformedDomain.injEq]
    constructor
    · rintro rfl
      exact ⟨rfl, hsome, hshort, hdomain⟩
    · rintro ⟨rfl, -⟩
      rfl

/-! ### The form in which domains are compared -/

theorem isDomainChar_not_blank {c : Char} (h : isDomainChar c = true) : isBlank c = false := by
  rcases isDomainChar_cases h with hlow | rfl | rfl
  · revert h
    exact ascii_all (P := fun c => isDomainChar c = true → isBlank c = false) (by decide +kernel) hlow
  · decide +kernel
  · decide +kernel

theorem fold_isDomainChar {c : Char} (h : isDomainChar c = true) : isDomainChar (fold c) = true := by
  rw [fold_class (p := isDomainChar) (by decide +kernel) (by decide +kernel), h]

theorem fold_fold {c : Char} (h : isDomainChar c = true) : fold (fold c) = fold c := by
  rcases isDomainChar_cases h with hlow | rfl | rfl
  · exact ascii_all (P := fun c => fold (fold c) = fold c) (by decide +kernel) hlow
  · decide +kernel
  · decide +kernel

theorem utf8Size_fold_le (c : Char) : (fold c).utf8Size ≤ c.utf8Size := by
  rcases Nat.lt_or_ge c.toNat 128 with hlow | hhigh
  · exact ascii_all (P := fun c => (fold c).utf8Size ≤ c.utf8Size) (by decide +kernel) hlow
  · rw [fold]
    split
    · rename_i h
      rw [h]
      decide +kernel
    · exact Nat.le_of_eq (congrArg Char.utf8Size (toLower_of_not_ascii hhigh))

theorem utf8ByteSize_map_fold_le (cs : List Char) :
    (String.ofList (cs.map fold)).utf8ByteSize ≤ (String.ofList cs).utf8ByteSize := by
  induction cs with
  | nil => exact Nat.le_refl _
  | cons c cs ih =>
    have hc := utf8Size_fold_le c
    simp only [List.map_cons, String.ofList_cons, String.utf8ByteSize_append,
      String.utf8ByteSize_singleton]
    omega

section

variable {domain : String} (h : check domain = .ok ())

include h

theorem isDomainChar_of_check : ∀ c ∈ (strip domain).toList, isDomainChar c = true :=
  isDomainChar_of_accepts (accepts_iff_labels.2 (check_eq_ok_iff.1 h).labels)

theorem toList_normalize : (normalize domain).toList = (strip domain).toList.map fold := by
  rw [normalize_eq_map (isDomainChar_of_check h), String.toList_ofList]

theorem strip_normalize : strip (normalize domain) = normalize domain := by
  rw [strip, toList_normalize h, stripChars_of_no_blank, ← toList_normalize h, String.ofList_toList]
  intro c hc
  obtain ⟨d, hd, rfl⟩ := List.mem_map.1 hc
  exact isDomainChar_not_blank (fold_isDomainChar (isDomainChar_of_check h d hd))

theorem check_normalize : check (normalize domain) = .ok () := by
  have hdomain := check_eq_ok_iff.1 h
  rw [check_eq_ok_iff, strip_normalize h]
  refine ⟨?_, ?_⟩
  · have hsize := utf8ByteSize_map_fold_le (strip domain).toList
    rw [String.ofList_toList, ← toList_normalize h, String.ofList_toList] at hsize
    exact Nat.le_trans hsize hdomain.short
  · rw [← accepts_iff_labels, accepts_normalize, accepts_iff_labels]
    exact hdomain.labels

theorem normalize_normalize : normalize (normalize domain) = normalize domain := by
  rw [← String.toList_inj, toList_normalize (check_normalize h), strip_normalize h,
    toList_normalize h, List.map_map]
  apply List.map_congr_left
  intro c hc
  exact fold_fold (isDomainChar_of_check h c hc)

end

/-- A text is accepted just if it is a domain once the white space around it is gone; if not, it is
refused as blank if nothing is left, else for its length if it is too long, else for its characters. And
the form of an accepted domain is accepted and is its own form. -/
theorem check_reads_labels (text : String) :
    (check text = .ok () ↔ IsDomain (strip text)) ∧
    (check text = .error (.blank .tenant) ↔ strip text = "") ∧
    (∀ limit bytes, check text = .error (.domainTooLong limit bytes) ↔
      limit = 253 ∧ bytes = (strip text).utf8ByteSize ∧ 253 < bytes) ∧
    (∀ domain, check text = .error (.malformedDomain domain) ↔ domain = strip text ∧
      domain ≠ "" ∧ domain.utf8ByteSize ≤ 253 ∧ ¬IsDomain domain) ∧
    (check text = .ok () →
      check (normalize text) = .ok () ∧ normalize (normalize text) = normalize text) := by
  exact ⟨check_eq_ok_iff, check_eq_blank_iff, fun _ _ => check_eq_tooLong_iff,
    fun _ => check_eq_malformed_iff, fun h => ⟨check_normalize h, normalize_normalize h⟩⟩

end Missive.Identifier.Domain

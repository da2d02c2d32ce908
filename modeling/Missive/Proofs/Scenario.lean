import Missive.Merge
import Missive.Proofs.Parsing
import Missive.Proofs.Text.Pattern

/-! The identity of scenarios. Whichever way a key is computed from an accepted name, from the name as it is
given, from the display name that is kept or from the key itself, it comes out the same; and the key is
an accepted name of the scenario. -/

namespace Missive.Identifier.ScenarioName

open Missive.Text

/-! ### Accepted names -/

theorem accepts_cons {c : Char} {rest : List Char} : pattern.accepts (c :: rest) = true ↔
    c.isAlphanum = true ∧ ∀ d ∈ rest, isNameChar d = true := by
  rw [Pattern.accepts_iff, pattern, Pattern.matches_seq_one_cons, Pattern.matches_star_one]

theorem not_accepts_nil : pattern.accepts [] = false := by
  decide

theorem check_eq_ok_iff {name : String} : check name = .ok () ↔
    (strip name).length ≤ maxLength ∧ pattern.accepts (strip name).toList = true := by
  simp only [check]
  constructor
  · intro h
    split at h
    · cases h
    split at h
    · cases h
    rename_i hshort
    split at h
    · exact ⟨Nat.not_lt.1 hshort, by assumption⟩
    · cases h
  · rintro ⟨hshort, haccepts⟩
    have hsome : strip name ≠ "" := by
      intro hnone
      rw [hnone, String.toList_empty, not_accepts_nil] at haccepts
      cases haccepts
    rw [if_neg hsome, if_neg (Nat.not_lt.2 hshort), if_pos haccepts]

/-! ### What keys look like -/

/-- Lower-case letters, digits, hyphens, underscores and dots. -/
def IsKeyChar (c : Char) : Prop :=
  c.isLower = true ∨ c.isDigit = true ∨ c = '-' ∨ c = '_' ∨ c = '.'

instance (c : Char) : Decidable (IsKeyChar c) :=
  inferInstanceAs (Decidable (_ ∨ _))

/-- Not empty, as it begins with a letter or digit. -/
structure IsKey (text : String) : Prop where
  short : text.length ≤ 255
  characters : ∀ c ∈ text.toList, IsKeyChar c
  first : ∃ c ∈ text.toList.head?, c.isLower = true ∨ c.isDigit = true

theorem IsKeyChar.ascii {c : Char} (h : IsKeyChar c) : c.toNat < 128 := by
  rcases h with h | h | rfl | rfl | rfl
  · exact isLower_ascii h
  · exact isDigit_ascii h
  all_goals decide +kernel

theorem IsKeyChar.isNameChar {c : Char} (h : IsKeyChar c) : isNameChar c = true :=
  ascii_class IsKeyChar.ascii (by decide +kernel) c h

theorem IsKeyChar.not_blank {c : Char} (h : IsKeyChar c) : isBlank c = false :=
  ascii_class IsKeyChar.ascii (by decide +kernel) c h

theorem IsKeyChar.toLower {c : Char} (h : IsKeyChar c) : c.toLower = c :=
  ascii_class IsKeyChar.ascii (by decide +kernel) c h

namespace IsKey

variable {text : String} (h : IsKey text)

include h

theorem exists_cons : ∃ c rest, text.toList = c :: rest ∧ (c.isLower = true ∨ c.isDigit = true) := by
  obtain ⟨c, hmem, hc⟩ := h.first
  obtain ⟨rest, hrest⟩ := List.head?_eq_some_iff.1 hmem
  exact ⟨c, rest, hrest, hc⟩

theorem strip_eq : strip text = text := by
  rw [strip, stripChars_of_no_blank fun c hc => (h.characters c hc).not_blank, String.ofList_toList]

/-- What looks like a key is an accepted name. -/
theorem check : check text = .ok () := by
  obtain ⟨c, rest, hcons, hc⟩ := h.exists_cons
  rw [check_eq_ok_iff, h.strip_eq, hcons, accepts_cons]
  refine ⟨h.short, ?_, fun d hd => (h.characters d (hcons ▸ List.mem_cons_of_mem _ hd)).isNameChar⟩
  rcases hc with hc | hc
  · exact ascii_class isLower_ascii (by decide +kernel) c hc
  · exact ascii_class isDigit_ascii (by decide +kernel) c hc

end IsKey

/-! ### The key of an accepted name -/

/-- The characters of a name without the white space, in lower case as far as they are ASCII. -/
def squeeze (name : String) : List Char := (name.toList.filter (!isBlank ·)).map Char.toLower

theorem isKeyChar_toLower {c : Char} (h : isNameChar c = true) (hblank : isBlank c = false) :
    IsKeyChar c.toLower :=
  ascii_class (P := fun c => isNameChar c = true ∧ isBlank c = false)
    (fun hc => isNameChar_ascii hc.1) (by decide +kernel) c ⟨h, hblank⟩

theorem toLower_of_isAlphanum {c : Char} (h : c.isAlphanum = true) :
    c.toLower.isLower = true ∨ c.toLower.isDigit = true :=
  ascii_class isAlphanum_ascii (by decide +kernel) c h

theorem isAlphanum_not_blank {c : Char} (h : c.isAlphanum = true) : isBlank c = false :=
  ascii_class isAlphanum_ascii (by decide +kernel) c h

section

variable {name : String} (h : check name = .ok ())

include h

theorem toList_key_eq_squeeze : (key name).toList = squeeze name := by
  rw [toList_key h, filter_not_blank_stripChars, squeeze]

theorem isKey_key : IsKey (key name) := by
  obtain ⟨hshort, haccepts⟩ := check_eq_ok_iff.1 h
  refine ⟨?_, ?_, ?_⟩
  · rw [← String.length_toList, toList_key h, List.length_map]
    refine Nat.le_trans (List.length_filter_le _ _) ?_
    rwa [← toList_strip, String.length_toList]
  · rw [toList_key h]
    intro c hc
    obtain ⟨d, hd, rfl⟩ := List.mem_map.1 hc
    obtain ⟨hmem, hblank⟩ := List.mem_filter.1 hd
    rw [toList_strip] at haccepts
    exact isKeyChar_toLower (isNameChar_of_accepts haccepts d hmem) (by simpa using hblank)
  · -- the first character that is left after stripping is a letter or digit, so it stays the first one
    rw [toList_key h, ← toList_strip]
    cases hname : (strip name).toList with
    | nil =>
      rw [hname, not_accepts_nil] at haccepts
      cases haccepts
    | cons c rest =>
      rw [hname, accepts_cons] at haccepts
      refine ⟨c.toLower, ?_, toLower_of_isAlphanum haccepts.1⟩
      simp [isAlphanum_not_blank haccepts.1]

end

theorem IsKey.key_eq {text : String} (h : IsKey text) : key text = text := by
  rw [← String.toList_inj, toList_key_eq_squeeze h.check, squeeze,
    List.filter_eq_self.2 fun c hc => by simp [(h.characters c hc).not_blank]]
  exact (List.map_congr_left fun c hc => (h.characters c hc).toLower).trans (List.map_id _)

end Missive.Identifier.ScenarioName

namespace Missive.Scenario

open Identifier

theorem parse_eq_ok_iff {text : String} {s : Scenario} : parse text = .ok s ↔
    ScenarioName.check text = .ok () ∧ s.displayName = Text.strip text := by
  constructor
  · intro h
    refine ⟨?_, displayName_of_parse h⟩
    rw [parse] at h
    split at h
    · assumption
    · cases h
  · rintro ⟨hcheck, hname⟩
    obtain ⟨s', hs'⟩ := parse_of_check hcheck
    obtain ⟨name, _, _⟩ := s
    obtain ⟨name', _, _⟩ := s'
    obtain rfl : name = name' := hname.trans (displayName_of_parse hs').symm
    exact hs'

theorem parse_displayName (s : Scenario) : parse s.displayName = .ok s :=
  parse_eq_ok_iff.2 ⟨s.accepted, s.trimmed.symm⟩

theorem isKey (s : Scenario) : ScenarioName.IsKey s.key := ScenarioName.isKey_key s.accepted

/-- The key of a scenario is one of its names. -/
theorem exists_parse_key (s : Scenario) : ∃ s', parse s.key = .ok s' ∧ s'.key = s.key := by
  obtain ⟨s', hs'⟩ := parse_of_check s.isKey.check
  exact ⟨s', hs', (key_of_parse hs').trans s.isKey.key_eq⟩

/-- Two accepted texts name one scenario just if they are equal without white space and case. -/
theorem same_iff {text other : String} {s s' : Scenario} (hs : parse text = .ok s)
    (hs' : parse other = .ok s') :
    s.same s' = true ↔ ScenarioName.squeeze text = ScenarioName.squeeze other := by
  have hcheck := (parse_eq_ok_iff.1 hs).1
  have hcheck' := (parse_eq_ok_iff.1 hs').1
  rw [same, beq_iff_eq, key_of_parse hs, key_of_parse hs', ← String.toList_inj,
    ScenarioName.toList_key_eq_squeeze hcheck, ScenarioName.toList_key_eq_squeeze hcheck']

/-- An accepted text has one key, whatever computes it: the scenario of that name, a template that bears
the name, before and after it is normalized, and merging, of templates and of names. The key looks like a
key, is accepted itself and is its own key; the display name is a text of the same scenario; and accepted
texts name the same scenario just if they are equal without white space and case. -/
theorem names_have_one_key (text : String) (h : ScenarioName.check text = .ok ()) :
    ∃ s, parse text = .ok s ∧
      (∀ t : Template, t.scenario = text →
        t.scenarioKey = s.key ∧ t.normalized.scenarioKey = s.key ∧ t.mergeKey.1 = s.key) ∧
      (∀ other, mergeNames [text] [other] =
        if ScenarioName.key other = s.key then [text] else [text, other]) ∧
      ScenarioName.IsKey s.key ∧
      (∃ s', parse s.key = .ok s' ∧ s'.key = s.key) ∧
      parse s.displayName = .ok s ∧
      ∀ other s', parse other = .ok s' →
        (s.same s' = true ↔ ScenarioName.squeeze text = ScenarioName.squeeze other) := by
  obtain ⟨s, hs⟩ := parse_of_check h
  have hkey := key_of_parse hs
  refine ⟨s, hs, ?_, ?_, s.isKey, s.exists_parse_key, s.parse_displayName,
    fun other s' hs' => same_iff hs hs'⟩
  · rintro t rfl
    refine ⟨hkey.symm, ?_, hkey.symm⟩
    rw [hkey]
    exact ScenarioName.key_strip t.scenario
  · intro other
    rw [hkey, mergeNames, merge]
    by_cases hother : ScenarioName.key other = ScenarioName.key text
    · simp [keepFirst, hother]
    · simp [keepFirst, hother, Ne.symm hother]

theorem names_have_one_key_otp :
    let text := "\u3000SMS Otp.v2\u00A0"
    ScenarioName.check text = .ok () ∧ ∃ s, parse text = .ok s ∧ s.key = "smsotp.v2" ∧
      mergeNames [text] ["sms OTP.V2"] = [text] ∧ mergeNames [text] ["smsotp-v2"] = [text, "smsotp-v2"] ∧
      ∃ s', parse "smsotp.v2" = .ok s' ∧ s.same s' = true := by
  intro text
  have hcheck : ScenarioName.check text = .ok () := ScenarioName.check_eq_ok_iff.2 (by decide +kernel)
  obtain ⟨s, hs, htemplates, hmerge, -, ⟨s', hs', -⟩, -, hsame⟩ := names_have_one_key text hcheck
  have hkey : s.key = "smsotp.v2" :=
    (htemplates (.sms text "en" "code") rfl).1.symm.trans (by decide +kernel)
  rw [hkey] at hs' hmerge
  refine ⟨hcheck, s, hs, hkey, ?_, ?_, s', hs', (hsame _ _ hs').2 (by decide +kernel)⟩
  · rw [hmerge, if_pos (by decide +kernel)]
  · rw [hmerge, if_neg (by decide +kernel)]

end Missive.Scenario

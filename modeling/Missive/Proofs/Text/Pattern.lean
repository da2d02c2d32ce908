import Missive.Text.Pattern

/-! Patterns told without their operators: a repetition matches what falls into matching parts, and a
class of characters that is repeated within bounds leaves the length to be checked. -/

namespace Missive.Text.Pattern

variable {a b : Pattern} {p : Char → Bool} {c : Char} {s : List Char}

theorem matches_optional : Matches (optional a) s ↔ s = [] ∨ Matches a s := by
  rw [optional, matches_alt, matches_empty]

theorem not_matches_seq_one_nil : ¬Matches (seq (one p) b) [] := by
  rw [matches_seq]
  rintro ⟨u, v, h, hu, -⟩
  obtain ⟨c, -, rfl⟩ := matches_one.1 hu
  cases h

theorem matches_seq_one_cons : Matches (seq (one p) b) (c :: s) ↔ p c = true ∧ Matches b s := by
  constructor
  · rw [matches_seq]
    rintro ⟨u, v, h, hu, hv⟩
    obtain ⟨d, hd, rfl⟩ := matches_one.1 hu
    cases h
    exact ⟨hd, hv⟩
  · rintro ⟨hc, hs⟩
    exact .seq (.one hc) hs

theorem matches_seq_one_concat :
    Matches (seq a (one p)) (s ++ [c]) ↔ Matches a s ∧ p c = true := by
  constructor
  · rw [matches_seq]
    rintro ⟨u, v, h, hu, hv⟩
    obtain ⟨d, hd, rfl⟩ := matches_one.1 hv
    obtain ⟨rfl, hc⟩ := List.append_inj' h rfl
    cases hc
    exact ⟨hu, hd⟩
  · rintro ⟨hs, hc⟩
    exact .seq hs (.one hc)

/-- A repetition matches the texts that fall into matching parts. -/
theorem matches_star_iff : Matches (star a) s ↔
    ∃ parts : List (List Char), s = parts.flatten ∧ ∀ part ∈ parts, Matches a part := by
  constructor
  · intro h
    generalize hstar : star a = b at h
    induction h with
    | starNil => exact ⟨[], rfl, by simp⟩
    | starCons hpart _ _ ih =>
      cases hstar
      obtain ⟨parts, rfl, hparts⟩ := ih rfl
      exact ⟨_ :: parts, rfl, List.forall_mem_cons.2 ⟨hpart, hparts⟩⟩
    | _ => cases hstar
  · rintro ⟨parts, rfl, hparts⟩
    induction parts with
    | nil => exact .starNil
    | cons part parts ih =>
      obtain ⟨hpart, hparts⟩ := List.forall_mem_cons.1 hparts
      exact .starCons hpart (ih hparts)

theorem matches_star_one : Matches (star (one p)) s ↔ ∀ c ∈ s, p c = true := by
  constructor
  · intro h
    exact h.mem (a := star (one p)) fun _ hc => hc
  · intro h
    induction s with
    | nil => exact .starNil
    | cons c s ih =>
      obtain ⟨hc, hs⟩ := List.forall_mem_cons.1 h
      exact .starCons (.one hc) (ih hs)

theorem matches_upTo_one {n : Nat} :
    Matches (upTo n (one p)) s ↔ s.length ≤ n ∧ ∀ c ∈ s, p c = true := by
  induction n generalizing s with
  | zero =>
    rw [upTo, matches_empty, Nat.le_zero, List.length_eq_zero_iff]
    constructor
    · rintro rfl
      simp
    · exact And.left
  | succ n ih =>
    rw [upTo, matches_optional]
    cases s with
    | nil => simp
    | cons c s => simp [matches_seq_one_cons, ih, and_left_comm]

theorem matches_between_one {low extra : Nat} : Matches (between low extra (one p)) s ↔
    low ≤ s.length ∧ s.length ≤ low + extra ∧ ∀ c ∈ s, p c = true := by
  induction low generalizing s with
  | zero => simp [between, matches_upTo_one]
  | succ low ih =>
    rw [between]
    cases s with
    | nil => simp [not_matches_seq_one_nil]
    | cons c s =>
      have hlength : s.length ≤ low + extra ↔ s.length + 1 ≤ low + 1 + extra := by omega
      simp [matches_seq_one_cons, ih, hlength, and_left_comm]

end Missive.Text.Pattern

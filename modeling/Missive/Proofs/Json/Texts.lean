import Mathlib.Data.Option.Basic
import Missive.Json.Record

/-! Texts in JSON come back as they were written: the pieces of a string literal give back the text
that it was written for. -/

namespace Missive.Json

theorem pieces_named {e c : Char} (h : escaped? e = some c) (he : e ≠ 'u') (rest : List Char) :
    pieces ('\x5c' :: e :: rest) = (pieces rest).map fun p => (.char c :: p.1, p.2) := by
  rw [pieces]
  · cases pieces rest <;> simp [h]
  · intro a b c d rest' hu _
    exact he hu

theorem pieces_plain {c : Char} (h : 32 ≤ c.toNat) (hquote : c ≠ '\x22') (hslash : c ≠ '\x5c')
    (rest : List Char) : pieces (c :: rest) = (pieces rest).map fun p => (.char c :: p.1, p.2) := by
  rw [pieces]
  · have hguard : (guard (32 ≤ c.toNat && c ≠ '\x5c') : Option Unit) = some () :=
      if_pos (by simp [h, hslash])
    rw [hguard]
    cases pieces rest <;> rfl
  all_goals simp_all

theorem hex4?_hexDigit {n : Nat} (h : n < 32) :
    hex4? '0' '0' (hexDigit (n / 16)) (hexDigit (n % 16)) = some n := by
  revert n
  decide +kernel

theorem pieces_numbered {n : Nat} (h : n < 32) (rest : List Char) :
    pieces ('\x5c' :: 'u' :: '0' :: '0' :: hexDigit (n / 16) :: hexDigit (n % 16) :: rest) =
      (pieces rest).map fun p => (.unit n :: p.1, p.2) := by
  rw [pieces, hex4?_hexDigit h]
  cases pieces rest <;> rfl

/-- The code units of a text below the surrogates stand for themselves. -/
theorem assemble_unit {n : Nat} (h : n < 32) (ps : List Piece) :
    assemble (.unit n :: ps) = (assemble ps).map (Char.ofNat n :: ·) := by
  have hhigh : isHighSurrogate n = false := by
    simp only [isHighSurrogate, Bool.and_eq_false_iff, decide_eq_false_iff_not]
    omega
  have hlow : isLowSurrogate n = false := by
    simp only [isLowSurrogate, Bool.and_eq_false_iff, decide_eq_false_iff_not]
    omega
  cases ps with
  | nil => simp [assemble, hhigh, hlow]
  | cons p ps => cases p <;> simp [assemble, hhigh, hlow]

/-- The written form of a character is read as one piece, and the piece stands for the character. -/
theorem exists_piece (c : Char) :
    ∃ piece, (∀ rest, pieces (escape c ++ rest) = (pieces rest).map fun p => (piece :: p.1, p.2)) ∧
      ∀ ps, assemble (piece :: ps) = (assemble ps).map (c :: ·) := by
  unfold escape
  split
  case h_8 c' hquote hslash _ _ _ _ _ =>
    by_cases hc : c.toNat < 32
    · refine ⟨.unit c.toNat, fun rest => ?_, fun ps => ?_⟩
      · rw [if_pos hc]
        exact pieces_numbered hc rest
      · rw [assemble_unit hc, Char.ofNat_toNat]
    · refine ⟨.char c, fun rest => ?_, fun ps => rfl⟩
      rw [if_neg hc]
      exact pieces_plain (Nat.le_of_not_lt hc) hquote hslash rest
  all_goals exact ⟨.char _, pieces_named rfl (by decide), fun ps => rfl⟩

/-- A literal is read up to its closing quote, and its pieces give the text back. -/
theorem pieces_quoted (cs rest : List Char) :
    ∃ ps, pieces (cs.flatMap escape ++ '\x22' :: rest) = some (ps, rest) ∧ assemble ps = some cs := by
  induction cs with
  | nil => exact ⟨[], by rw [List.flatMap_nil, List.nil_append, pieces], rfl⟩
  | cons c cs ih =>
    obtain ⟨ps, hps, hcs⟩ := ih
    obtain ⟨piece, hpiece, hc⟩ := exists_piece c
    refine ⟨piece :: ps, ?_, by rw [hc, hcs]; rfl⟩
    rw [List.flatMap_cons, List.append_assoc, hpiece, hps]
    rfl

namespace Token

/-- A token that is told from its own characters where `rest` comes after them. -/
def Told (t : Token) (rest : List Char) : Prop :=
  ∃ c more, t.render = c :: more ∧ isSpace c = Bool.false ∧ first? c (more ++ rest) = some (t, rest)

theorem told_string (s : String) (rest : List Char) : (string s).Told rest := by
  obtain ⟨ps, hps, hs⟩ := pieces_quoted s.toList rest
  refine ⟨'\x22', s.toList.flatMap escape ++ ['\x22'], rfl, rfl, ?_⟩
  simp only [first?, List.append_assoc, List.singleton_append, hps]
  simp [hs]

end Token
end Missive.Json

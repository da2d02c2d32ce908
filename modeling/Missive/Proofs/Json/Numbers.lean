import Missive.Proofs.Json.Texts

/-! Whole numbers in JSON come back as they were written, provided that what follows them cannot be
part of a number. -/

namespace Missive.Json.Token

/-! ### Decimal digits -/

theorem digitsValue_toDigits (n : Nat) : digitsValue (Nat.toDigits 10 n) = n := by
  have h := Nat.ofDigitChars_toDigits (b := 10) (n := n) (by decide) (by decide)
  simpa only [digitsValue, Nat.ofDigitChars, Nat.mul_comm] using h

theorem isDigit_toDigits (n : Nat) : ∀ d ∈ Nat.toDigits 10 n, d.isDigit = Bool.true :=
  fun _ => Nat.isDigit_of_mem_toDigits (by decide) (by decide)

theorem digitChar_ne_zero {n : Nat} (h : n < 10) (hpos : 0 < n) : n.digitChar ≠ '0' := by
  revert n
  decide

/-- Only the digits of zero start with a zero. -/
theorem exists_toDigits {n : Nat} (h : 0 < n) : ∃ d ds, Nat.toDigits 10 n = d :: ds ∧ d ≠ '0' := by
  induction n using Nat.strongRecOn with
  | ind n ih =>
    by_cases hsmall : n < 10
    · exact ⟨_, [], Nat.toDigits_of_lt_base hsmall, digitChar_ne_zero hsmall h⟩
    · obtain ⟨d, ds, hds, hd⟩ := ih (n / 10) (by omega) (by omega)
      refine ⟨d, ds ++ [(n % 10).digitChar], ?_, hd⟩
      rw [Nat.toDigits_of_base_le (by decide) (Nat.le_of_not_lt hsmall), hds]
      rfl

theorem isWhole_toDigits (n : Nat) : isWhole (Nat.toDigits 10 n) = Bool.true := by
  rcases Nat.eq_zero_or_pos n with rfl | h
  · rfl
  · obtain ⟨d, ds, hds, hd⟩ := exists_toDigits h
    rw [hds, isWhole]
    · exact decide_eq_true hd
    · rintro rfl rfl
      exact hd rfl

/-! ### Numbers -/

/-- What can come after a number: nothing, or what separates or closes values. -/
inductive Ends : List Char → Prop
  | nil : Ends []
  | comma (cs : List Char) : Ends (',' :: cs)
  | closeBracket (cs : List Char) : Ends (']' :: cs)
  | closeBrace (cs : List Char) : Ends ('\x7d' :: cs)

variable {rest : List Char}

theorem spanDigits_append {ds : List Char} (hds : ∀ d ∈ ds, d.isDigit = Bool.true)
    (h : Ends rest) : spanDigits (ds ++ rest) = (ds, rest) := by
  have htake : rest.takeWhile Char.isDigit = [] := by cases h <;> rfl
  have hdrop : rest.dropWhile Char.isDigit = rest := by cases h <;> rfl
  rw [spanDigits, List.takeWhile_append_of_pos hds, List.dropWhile_append_of_pos hds, htake, hdrop,
    List.append_nil]

theorem number?_toDigits {n : Nat} {negative : Bool} (hzero : negative = Bool.true → n ≠ 0)
    (h : Ends rest) : number? negative (Nat.toDigits 10 n ++ rest) =
      some (.integer (if negative then -n else n), rest) := by
  have hfraction : fraction? rest = some ([], rest) := by cases h <;> rfl
  have hexponent : exponent? rest = some ([], rest) := by cases h <;> rfl
  have hsigned : (!(negative && n == 0)) = Bool.true := by
    cases negative with
    | false => rfl
    | true => simpa using hzero rfl
  rw [number?, spanDigits_append (isDigit_toDigits n) h]
  have hwhole : (guard (isWhole (Nat.toDigits 10 n)) : Option Unit) = some () :=
    (Option.guard_eq_some' ()).2 (isWhole_toDigits n)
  simp only [hwhole, hfraction, hexponent, digitsValue_toDigits, hsigned, Option.bind_eq_bind,
    Option.bind_some]
  rfl

theorem first?_digit {d : Char} (hd : d.isDigit = Bool.true) (cs : List Char) :
    first? d cs = number? Bool.false (d :: cs) := by
  rw [first?] <;> (intros; subst_vars; cases hd)

/-- An integer is read up to what ends it. -/
theorem told_integer (i : Int) (h : Ends rest) : (integer i).Told rest := by
  cases i with
  | ofNat n =>
    obtain ⟨d, ds, hds⟩ := List.exists_cons_of_ne_nil (Nat.toDigits_ne_nil (n := n) (b := 10))
    have hd : d.isDigit = Bool.true := isDigit_toDigits n d (hds ▸ List.mem_cons_self)
    refine ⟨d, ds, Nat.toList_repr.trans hds, ?_, ?_⟩
    · cases hspace : isSpace d with
      | false => rfl
      | true =>
        simp only [isSpace, Bool.or_eq_true, beq_iff_eq] at hspace
        rcases hspace with ((rfl | rfl) | rfl) | rfl <;> cases hd
    · rw [first?_digit hd, ← List.cons_append, ← hds,
        number?_toDigits (fun hnegative => Bool.noConfusion hnegative) h]
      rfl
  | negSucc n =>
    refine ⟨'-', Nat.toDigits 10 (n + 1), ?_, rfl, ?_⟩
    · simp [render, Int.toString_eq_repr, Int.repr, Nat.toList_repr]
    · rw [first?, number?_toDigits (fun _ => Nat.succ_ne_zero n) h]
      rfl

end Missive.Json.Token

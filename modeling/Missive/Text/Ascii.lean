import Missive.Text.Blank

/-! Facts about ASCII characters, proved by looking at all 128 of them. -/

namespace Missive.Text

/-- What holds of the first 128 code points holds of every ASCII character. -/
theorem ascii_all {P : Char → Prop} (h : ∀ n, n < 128 → P (Char.ofNat n)) {c : Char}
    (hc : c.toNat < 128) : P c := by
  have := h c.toNat hc
  rwa [Char.ofNat_toNat] at this

/-- What holds of those of the first 128 code points that belong to a class holds of the whole class, if all
its characters are ASCII characters. -/
@[elab_as_elim]
theorem ascii_class {P motive : Char → Prop} (hascii : ∀ {c}, P c → c.toNat < 128)
    (h : ∀ n < 128, P (Char.ofNat n) → motive (Char.ofNat n)) (c : Char) (hc : P c) : motive c :=
  ascii_all (P := fun c => P c → motive c) h (hascii hc) hc

theorem isAlpha_ascii {c : Char} (h : c.isAlpha = true) : c.toNat < 128 := by
  unfold Char.isAlpha Char.isUpper Char.isLower at h
  simp only [Bool.or_eq_true, Bool.and_eq_true, decide_eq_true_eq, ge_iff_le,
    UInt32.le_iff_toNat_le] at h
  have : c.toNat = c.val.toNat := rfl
  rcases h with ⟨_, h⟩ | ⟨_, h⟩ <;> simp at h <;> omega

theorem isLower_ascii {c : Char} (h : c.isLower = true) : c.toNat < 128 :=
  isAlpha_ascii (show (c.isUpper || c.isLower) = true by rw [h, Bool.or_true])

theorem isDigit_ascii {c : Char} (h : c.isDigit = true) : c.toNat < 128 := by
  unfold Char.isDigit at h
  simp only [Bool.and_eq_true, decide_eq_true_eq, ge_iff_le, UInt32.le_iff_toNat_le] at h
  have : c.toNat = c.val.toNat := rfl
  have := h.2
  simp at this
  omega

theorem isAlphanum_ascii {c : Char} (h : c.isAlphanum = true) : c.toNat < 128 := by
  rcases Bool.or_eq_true _ _ ▸ h with h | h
  · exact isAlpha_ascii h
  · exact isDigit_ascii h

/-- A text without white space keeps both its ends. -/
theorem stripChars_of_no_blank {cs : List Char} (h : ∀ c ∈ cs, isBlank c = false) :
    stripChars cs = cs := by
  have hdrop : cs.dropWhile isBlank = cs := by
    cases cs with
    | nil => rfl
    | cons c rest => simp [h c (by simp)]
  have hend : ∀ ds : List Char, (∀ c ∈ ds, isBlank c = false) → dropBlankEnd ds = ds := by
    intro ds
    induction ds with
    | nil => intro _; rfl
    | cons d rest ih =>
      intro hd
      rw [dropBlankEnd, ih fun c hc => hd c (by simp [hc])]
      cases rest with
      | nil => simp [hd d (by simp)]
      | cons e more => rfl
  rw [stripChars, hdrop, hend cs h]

end Missive.Text

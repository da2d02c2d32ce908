import Missive.Text.Ascii
import Missive.Text.LowerCase

/-! What lower case tells of the text before. Outside ASCII the kelvin sign alone becomes an ASCII letter,
so a text whose lower case has ASCII characters only has no others but the kelvin sign. -/

namespace Missive.Text

open LowerCase

theorem toLower_of_not_ascii {c : Char} (h : 128 ≤ c.toNat) : c.toLower = c := by
  refine dif_neg ?_
  rintro ⟨-, hle⟩
  rw [UInt32.le_iff_toNat_le] at hle
  have : 'Z'.val.toNat = 90 := rfl
  have : c.toNat = c.val.toNat := rfl
  omega

/-- Apart from the kelvin sign, nothing outside ASCII becomes an ASCII letter, the long s or the kelvin
sign. -/
theorem runs_avoid : ∀ r ∈ runs, (r.first = 0x212A ∧ r.last = 0x212A) ∨
    (128 ≤ r.first + r.offset ∧ (r.last + r.offset < 0xD800 ∨
        0xDFFF < r.first + r.offset ∧ r.last + r.offset < 0x110000) ∧
      ∀ code ∈ [(0x17F : Int), 0x212A], r.last + r.offset < code ∨ code < r.first + r.offset) := by
  decide +kernel

theorem toNat_ofNat {n : Nat} (h : n < 0xD800 ∨ 0xDFFF < n ∧ n < 0x110000) :
    (Char.ofNat n).toNat = n := by
  rw [Char.ofNat, dif_pos h]
  rfl

/-- The lower case of a character outside ASCII has one outside ASCII, the kelvin sign's apart: the
character itself, or a letter other than the long s and the kelvin sign. -/
theorem exists_mem_lowerChar {c : Char} (h : 128 ≤ c.toNat) (hkelvin : c ≠ '\u212A') :
    ∃ d ∈ lowerChar c, 128 ≤ d.toNat ∧ (d = c ∨ d ≠ '\u017F' ∧ d ≠ '\u212A') := by
  rw [lowerChar, if_neg (Nat.not_lt.2 h)]
  split
  · exact ⟨'\u0307', by simp, by decide, .inr (by decide)⟩
  split
  · rename_i r hr
    have hcontains := List.find?_some hr
    simp only [Run.contains, Bool.and_eq_true, decide_eq_true_eq] at hcontains
    obtain ⟨⟨hfirst, hlast⟩, -⟩ := hcontains
    rcases runs_avoid r (List.mem_of_find?_eq_some hr) with ⟨hk, hk'⟩ | ⟨hlow, hvalid, havoid⟩
    · rw [hk] at hfirst
      rw [hk'] at hlast
      have hc : c.toNat = '\u212A'.toNat := Nat.le_antisymm hlast hfirst
      exact absurd (Char.toNat_inj.1 hc) hkelvin
    · have hcode : (Char.ofNat (c.toNat + r.offset).toNat).toNat = (c.toNat + r.offset).toNat :=
        toNat_ofNat (by omega)
      have hlong := havoid 0x17F (by simp)
      have hsign := havoid 0x212A (by simp)
      refine ⟨_, List.mem_singleton_self _, by omega, .inr ⟨?_, ?_⟩⟩
      · intro heq
        rw [heq, show '\u017F'.toNat = 0x17F from rfl] at hcode
        omega
      · intro heq
        rw [heq, show '\u212A'.toNat = 0x212A from rfl] at hcode
        omega
  · exact ⟨c, List.mem_singleton_self c, h, .inl rfl⟩

/-- What the lower case of a text shows of its characters, one by one, as long as it has no small
sigma. -/
theorem forall_of_lowerAfter {P Q : Char → Prop} (hsmall : ¬P 'σ') (hfinal : ¬P 'ς')
    (hchar : ∀ c, (∀ d ∈ lowerChar c, P d) → Q c) {before cs : List Char}
    (h : ∀ d ∈ lowerAfter before cs, P d) : ∀ c ∈ cs, Q c := by
  induction cs generalizing before with
  | nil => exact fun c hc => absurd hc List.not_mem_nil
  | cons c rest ih =>
    rw [lowerAfter] at h
    have hrest := ih fun d hd => h d (List.mem_append_right _ hd)
    refine List.forall_mem_cons.2 ⟨?_, hrest⟩
    split at h
    · have hsigma := h _ (List.mem_append_left _ (List.mem_singleton.2 rfl))
      split at hsigma
      · exact absurd hsigma hfinal
      · exact absurd hsigma hsmall
    · exact hchar c fun d hd => h d (List.mem_append_left _ hd)

end Missive.Text

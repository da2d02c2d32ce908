import Missive.Text.LowerCase.Table

/-! Lower case of Unicode text, character by character and for a whole text. The two differ in one
letter only: in a whole text a capital sigma that ends a word becomes the final sigma. -/

namespace Missive.Text

namespace LowerCase

/-- Membership in ranges given by their first and last code point. -/
def inRanges (ranges : List (Nat × Nat)) (c : Char) : Bool :=
  ranges.any fun r => r.1 ≤ c.toNat && c.toNat ≤ r.2

def isCased (c : Char) : Bool := inRanges casedRanges c

def isIgnorable (c : Char) : Bool := inRanges ignorableRanges c

/-- The first character that the property Case_Ignorable does not skip is a cased one. -/
def meetsCased (cs : List Char) : Bool :=
  match cs.dropWhile isIgnorable with
  | [] => false
  | c :: _ => isCased c

end LowerCase

open LowerCase

/-- The lower-case form of a character standing alone. Only `İ` has two characters: an `i` and a
combining dot. -/
def lowerChar (c : Char) : List Char :=
  if c.toNat < 128 then [c.toLower]
  else if c.toNat = 0x130 then ['i', '\u0307']
  else
    match runs.find? (·.contains c.toNat) with
    | some r => [Char.ofNat (c.toNat + r.offset).toNat]
    | none => [c]

/-- Each character replaced by its lower-case form, whatever stands around it. -/
def lowerEach (cs : List Char) : List Char :=
  cs.flatMap lowerChar

/-- Lower case of the rest of a text, `before` being what precedes it in reverse. -/
def lowerAfter (before : List Char) : List Char → List Char
  | [] => []
  | c :: rest =>
    (if c = 'Σ' then
      [if meetsCased before && !meetsCased rest then 'ς' else 'σ']
    else lowerChar c) ++ lowerAfter (c :: before) rest

/-- Lower case of a whole text. -/
def lowerChars (cs : List Char) : List Char :=
  lowerAfter [] cs

def lower (s : String) : String :=
  String.ofList (lowerChars s.toList)

@[simp] theorem toList_lower (s : String) : (lower s).toList = lowerChars s.toList := by
  simp [lower]

theorem lowerChar_ascii {c : Char} (h : c.toNat < 128) : lowerChar c = [c.toLower] := by
  simp [lowerChar, h]

theorem ascii_ne_sigma {c : Char} (h : c.toNat < 128) : c ≠ 'Σ' := by
  rintro rfl
  exact absurd h (by decide)

theorem lowerAfter_eq_lowerEach {cs : List Char} (h : ∀ c ∈ cs, c ≠ 'Σ') (before : List Char) :
    lowerAfter before cs = lowerEach cs := by
  induction cs generalizing before with
  | nil => rfl
  | cons c rest ih =>
    rw [lowerAfter, if_neg (h c (by simp)), ih (fun d hd => h d (by simp [hd]))]
    simp [lowerEach]

/-- Without a capital sigma the context does not matter. -/
theorem lowerChars_eq_lowerEach {cs : List Char} (h : ∀ c ∈ cs, c ≠ 'Σ') :
    lowerChars cs = lowerEach cs :=
  lowerAfter_eq_lowerEach h []

theorem lowerEach_eq_map {f : Char → Char} {cs : List Char} (h : ∀ c ∈ cs, lowerChar c = [f c]) :
    lowerEach cs = cs.map f := by
  induction cs with
  | nil => rfl
  | cons c rest ih =>
    have hrest := ih fun d hd => h d (by simp [hd])
    simp only [lowerEach] at hrest
    simp [lowerEach, h c (by simp), hrest]

theorem lowerEach_ascii {cs : List Char} (h : ∀ c ∈ cs, c.toNat < 128) :
    lowerEach cs = cs.map Char.toLower :=
  lowerEach_eq_map fun c hc => lowerChar_ascii (h c hc)

theorem lowerChars_ascii {cs : List Char} (h : ∀ c ∈ cs, c.toNat < 128) :
    lowerChars cs = cs.map Char.toLower := by
  rw [lowerChars_eq_lowerEach fun c hc => ascii_ne_sigma (h c hc), lowerEach_ascii h]

/-- Whatever stands before them, ASCII letters at the end are turned each by itself. -/
theorem lowerChars_append_ascii {tail : List Char} (h : ∀ c ∈ tail, c.toNat < 128)
    (cs : List Char) : ∃ head, lowerChars (cs ++ tail) = head ++ tail.map Char.toLower := by
  rw [lowerChars]
  generalize ([] : List Char) = before
  induction cs generalizing before with
  | nil =>
    refine ⟨[], ?_⟩
    rw [List.nil_append, lowerAfter_eq_lowerEach fun c hc => ascii_ne_sigma (h c hc),
      lowerEach_ascii h, List.nil_append]
  | cons c rest ih =>
    obtain ⟨head, hhead⟩ := ih (c :: before)
    rw [List.cons_append, lowerAfter, hhead, ← List.append_assoc]
    exact ⟨_, rfl⟩

/-- The final sigma stands at the end of a word, the other one elsewhere. -/
example : lowerChars ['Σ', 'Α', 'Σ'] = ['σ', 'α', 'ς'] ∧ lowerEach ['Α', 'Σ'] = ['α', 'σ'] := by
  decide +kernel

end Missive.Text

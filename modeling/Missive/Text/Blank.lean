/-! White space as the Unicode property White_Space gives it, and texts cut free of it at both
ends. -/

namespace Missive.Text

/-- The code points with the property White_Space. Zero-width spaces and the byte order mark
are not among them. -/
def isBlank (c : Char) : Bool :=
  let n := c.toNat
  (9 ≤ n && n ≤ 13) || n == 32 || n == 0x85 || n == 0xA0 || n == 0x1680 ||
    (0x2000 ≤ n && n ≤ 0x200A) || n == 0x2028 || n == 0x2029 || n == 0x202F || n == 0x205F ||
    n == 0x3000

/-- Drops the white space at the end. -/
def dropBlankEnd : List Char → List Char
  | [] => []
  | c :: rest =>
    match dropBlankEnd rest with
    | [] => if isBlank c then [] else [c]
    | kept => c :: kept

/-- Drops the white space at both ends. -/
def stripChars (cs : List Char) : List Char :=
  dropBlankEnd (cs.dropWhile isBlank)

/-- A text without the white space at its two ends. -/
def strip (s : String) : String :=
  String.ofList (stripChars s.toList)

/-- A text of white space only; the empty text is one. -/
def onlyBlank (s : String) : Bool :=
  s.toList.all isBlank

@[simp] theorem toList_strip (s : String) : (strip s).toList = stripChars s.toList := by
  simp [strip]

theorem dropBlankEnd_idem (cs : List Char) : dropBlankEnd (dropBlankEnd cs) = dropBlankEnd cs := by
  induction cs with
  | nil => rfl
  | cons c rest ih =>
    simp only [dropBlankEnd]
    split
    · by_cases hc : isBlank c <;> simp [dropBlankEnd, hc]
    · rename_i h
      rw [dropBlankEnd, ih]
      split
      · rename_i h'; exact absurd h' h
      · rfl

/-- The first character that is kept, if any, was the first one. -/
theorem head?_dropBlankEnd {c d : Char} {rest : List Char}
    (h : (dropBlankEnd (c :: rest)).head? = some d) : d = c := by
  simp only [dropBlankEnd] at h
  split at h
  · by_cases hc : isBlank c <;> simp_all
  · simpa using h.symm

theorem stripChars_idem (cs : List Char) : stripChars (stripChars cs) = stripChars cs := by
  have key : ∀ ds : List Char, (∀ c, ds.head? = some c → isBlank c = false) →
      ds.dropWhile isBlank = ds := by
    intro ds h
    cases ds with
    | nil => rfl
    | cons c rest => simp [h c rfl]
  unfold stripChars
  rw [key, dropBlankEnd_idem]
  intro c hc
  cases hd : cs.dropWhile isBlank with
  | nil => simp [hd, dropBlankEnd] at hc
  | cons d rest =>
    rw [hd] at hc
    rw [head?_dropBlankEnd hc]
    have := List.head?_dropWhile_not isBlank cs
    rw [hd] at this
    simpa using this

theorem strip_idem (s : String) : strip (strip s) = strip s := by
  simp [strip, stripChars_idem]

end Missive.Text

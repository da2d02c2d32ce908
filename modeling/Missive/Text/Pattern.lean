/-! Regular patterns over characters: what a pattern matches (`Pattern.Matches`), and a matcher that
reads a text from left to right, replacing the pattern by its derivative at each character
(`Pattern.accepts`). The two agree: `Pattern.accepts_iff`. -/

namespace Missive.Text

inductive Pattern where
  /-- Matches no text. -/
  | none
  /-- Matches the empty text. -/
  | empty
  /-- Matches a single character of a class. -/
  | one (p : Char → Bool)
  | seq (first second : Pattern)
  | alt (left right : Pattern)
  /-- Any number of repetitions. -/
  | star (repeated : Pattern)

namespace Pattern

/-- The texts of a pattern. -/
inductive Matches : Pattern → List Char → Prop
  | empty : Matches .empty []
  | one {p c} : p c = true → Matches (.one p) [c]
  | seq {a b s t} : Matches a s → Matches b t → Matches (.seq a b) (s ++ t)
  | left {a b s} : Matches a s → Matches (.alt a b) s
  | right {a b s} : Matches b s → Matches (.alt a b) s
  | starNil {a} : Matches (.star a) []
  | starCons {a s t} : Matches a s → Matches (.star a) t → Matches (.star a) (s ++ t)

/-- At most one occurrence. -/
def optional (a : Pattern) : Pattern := .alt .empty a

/-- At most `n` repetitions. -/
def upTo : Nat → Pattern → Pattern
  | 0, _ => .empty
  | n + 1, a => optional (.seq a (upTo n a))

/-- At least `low` repetitions, and at most `extra` more. -/
def between (low extra : Nat) (a : Pattern) : Pattern :=
  match low with
  | 0 => upTo extra a
  | low + 1 => .seq a (between low extra a)

/-- Whether the empty text matches. -/
def nullable : Pattern → Bool
  | none => false
  | empty => true
  | one _ => false
  | seq a b => a.nullable && b.nullable
  | alt a b => a.nullable || b.nullable
  | star _ => true

/-- Sequence, with the trivial cases dissolved so that derivatives stay small. -/
def join : Pattern → Pattern → Pattern
  | none, _ => none
  | empty, b => b
  | _, none => none
  | a, b => seq a b

/-- Alternative, with the patterns that match nothing left out. -/
def either : Pattern → Pattern → Pattern
  | none, b => b
  | a, none => a
  | a, b => alt a b

/-- What is left to match after the character `c`. -/
def deriv (c : Char) : Pattern → Pattern
  | none => none
  | empty => none
  | one p => if p c then empty else none
  | seq a b => if a.nullable then either (join (a.deriv c) b) (b.deriv c) else join (a.deriv c) b
  | alt a b => either (a.deriv c) (b.deriv c)
  | star a => join (a.deriv c) (star a)

/-- Whether the whole text matches. -/
def accepts (a : Pattern) : List Char → Bool
  | [] => a.nullable
  | c :: rest => (a.deriv c).accepts rest

theorem not_matches_none (s : List Char) : ¬ Matches none s := nofun

theorem matches_empty {s : List Char} : Matches empty s ↔ s = [] :=
  ⟨fun h => by cases h; rfl, fun h => h ▸ .empty⟩

theorem matches_one {p : Char → Bool} {s : List Char} :
    Matches (one p) s ↔ ∃ c, p c = true ∧ s = [c] :=
  ⟨fun h => by cases h with | one h => exact ⟨_, h, rfl⟩, fun ⟨_, h, e⟩ => e ▸ .one h⟩

theorem matches_seq {a b : Pattern} {s : List Char} :
    Matches (seq a b) s ↔ ∃ u v, s = u ++ v ∧ Matches a u ∧ Matches b v :=
  ⟨fun h => by cases h with | seq ha hb => exact ⟨_, _, rfl, ha, hb⟩,
    fun ⟨_, _, e, ha, hb⟩ => e ▸ .seq ha hb⟩

theorem matches_alt {a b : Pattern} {s : List Char} :
    Matches (alt a b) s ↔ Matches a s ∨ Matches b s := by
  constructor
  · intro h
    cases h with
    | left h => exact .inl h
    | right h => exact .inr h
  · rintro (h | h)
    · exact .left h
    · exact .right h

theorem matches_join {a b : Pattern} {s : List Char} :
    Matches (join a b) s ↔ Matches (seq a b) s := by
  unfold join
  split
  · simp [matches_seq, not_matches_none]
  · exact ⟨fun h => .seq .empty h, fun h => by
      obtain ⟨u, v, rfl, hu, hv⟩ := matches_seq.1 h
      simpa [matches_empty.1 hu] using hv⟩
  · simp [matches_seq, not_matches_none]
  · rfl

theorem matches_either {a b : Pattern} {s : List Char} :
    Matches (either a b) s ↔ Matches a s ∨ Matches b s := by
  unfold either
  split
  · simp [not_matches_none]
  · simp [not_matches_none]
  · exact matches_alt

theorem nullable_iff {a : Pattern} : a.nullable = true ↔ Matches a [] := by
  induction a with
  | none => simp [nullable, not_matches_none]
  | empty => simp [nullable, matches_empty]
  | one p => simp [nullable, matches_one]
  | seq a b iha ihb =>
    simp only [nullable, Bool.and_eq_true, iha, ihb, matches_seq, List.nil_eq,
      List.append_eq_nil_iff]
    exact ⟨fun ⟨ha, hb⟩ => ⟨[], [], ⟨rfl, rfl⟩, ha, hb⟩, fun ⟨_, _, ⟨hu, hv⟩, ha, hb⟩ =>
      ⟨hu ▸ ha, hv ▸ hb⟩⟩
  | alt a b iha ihb => simp [nullable, matches_alt, iha, ihb]
  | star a => simp [nullable, Matches.starNil]

/-- A repetition that matches a text with a first character takes it in its first round that
is not empty. -/
theorem matches_star_cons {a : Pattern} {c : Char} {s : List Char} :
    Matches (star a) (c :: s) ↔
      ∃ u v, s = u ++ v ∧ Matches a (c :: u) ∧ Matches (star a) v := by
  constructor
  · intro h
    generalize hp : star a = p at h
    generalize ht : c :: s = t at h
    induction h with
    | starNil => simp at ht
    | @starCons a' u v hu hv _ ih =>
      cases hp
      cases u with
      | nil => exact ih rfl ht
      | cons d u =>
        simp only [List.cons_append, List.cons.injEq] at ht
        obtain ⟨rfl, rfl⟩ := ht
        exact ⟨u, v, rfl, hu, hv⟩
    | _ => cases hp
  · rintro ⟨u, v, rfl, hu, hv⟩
    exact .starCons hu hv

theorem matches_deriv {a : Pattern} {c : Char} {s : List Char} :
    Matches (a.deriv c) s ↔ Matches a (c :: s) := by
  induction a generalizing s with
  | none => simp [deriv, not_matches_none]
  | empty => simp [deriv, not_matches_none, matches_empty]
  | one p =>
    simp only [deriv, matches_one]
    by_cases h : p c = true
    · rw [if_pos h, matches_empty]
      exact ⟨fun hs => ⟨c, h, by rw [hs]⟩, fun ⟨_, _, hs⟩ => (List.cons.inj hs).2⟩
    · rw [if_neg h]
      exact ⟨fun hs => absurd hs (not_matches_none s), fun ⟨_, hd, hs⟩ =>
        absurd ((List.cons.inj hs).1 ▸ hd) h⟩
  | alt a b iha ihb => simp [deriv, matches_either, matches_alt, iha, ihb]
  | star a ih => simp [deriv, matches_join, matches_seq, matches_star_cons, ih]
  | seq a b iha ihb =>
    have hcons : Matches (seq a b) (c :: s) ↔
        (∃ u v, s = u ++ v ∧ Matches a (c :: u) ∧ Matches b v) ∨
          Matches a [] ∧ Matches b (c :: s) := by
      rw [matches_seq]
      constructor
      · rintro ⟨u, v, h, ha, hb⟩
        cases u with
        | nil => exact .inr ⟨ha, by simpa [h] using hb⟩
        | cons d u =>
          simp only [List.cons_append, List.cons.injEq] at h
          obtain ⟨rfl, rfl⟩ := h
          exact .inl ⟨u, v, rfl, ha, hb⟩
      · rintro (⟨u, v, rfl, ha, hb⟩ | ⟨ha, hb⟩)
        · exact ⟨c :: u, v, rfl, ha, hb⟩
        · exact ⟨[], c :: s, rfl, ha, hb⟩
    rw [hcons, deriv]
    split
    · rename_i h
      simp [matches_either, matches_join, matches_seq, iha, ihb, nullable_iff.1 h]
    · rename_i h
      simp [matches_join, matches_seq, iha, mt nullable_iff.2 h]

/-- The matcher answers yes exactly on the texts of the pattern. -/
theorem accepts_iff {a : Pattern} {s : List Char} : a.accepts s = true ↔ Matches a s := by
  induction s generalizing a with
  | nil => exact nullable_iff
  | cons c rest ih => rw [accepts, ih, matches_deriv]

/-- Every class of the pattern satisfies `P`. -/
def Classes (P : (Char → Bool) → Prop) : Pattern → Prop
  | none => True
  | empty => True
  | one p => P p
  | seq a b => a.Classes P ∧ b.Classes P
  | alt a b => a.Classes P ∧ b.Classes P
  | star a => a.Classes P

theorem classes_upTo {P : (Char → Bool) → Prop} {a : Pattern} (h : a.Classes P) (n : Nat) :
    (upTo n a).Classes P := by
  induction n with
  | zero => trivial
  | succ n ih => exact ⟨trivial, h, ih⟩

theorem classes_between {P : (Char → Bool) → Prop} {a : Pattern} (h : a.Classes P)
    (low extra : Nat) : (between low extra a).Classes P := by
  induction low with
  | zero => exact classes_upTo h extra
  | succ n ih => exact ⟨h, ih⟩

theorem Classes.mono {P Q : (Char → Bool) → Prop} {a : Pattern} (h : a.Classes P)
    (hPQ : ∀ p, P p → Q p) : a.Classes Q := by
  induction a with
  | none | empty => trivial
  | one p => exact hPQ p h
  | seq a b iha ihb | alt a b iha ihb => exact ⟨iha h.1, ihb h.2⟩
  | star a ih => exact ih h

/-- A matched text has only characters of the pattern's classes. -/
theorem Matches.mem {Q : Char → Prop} {a : Pattern} {s : List Char} (h : Matches a s)
    (hc : a.Classes fun p => ∀ c, p c = true → Q c) : ∀ c ∈ s, Q c := by
  induction h with
  | empty | starNil => simp
  | one hp => simpa using hc _ hp
  | seq _ _ iha ihb =>
    intro c hm
    rcases List.mem_append.1 hm with hm | hm
    · exact iha hc.1 c hm
    · exact ihb hc.2 c hm
  | left _ ih => exact ih hc.1
  | right _ ih => exact ih hc.2
  | starCons _ _ iha ihb =>
    intro c hm
    rcases List.mem_append.1 hm with hm | hm
    · exact iha hc c hm
    · exact ihb hc c hm

/-- Replacing characters within their classes keeps a match. -/
theorem Matches.map {f : Char → Char} {a : Pattern} {s : List Char} (h : Matches a s)
    (hc : a.Classes fun p => ∀ c, p c = true → p (f c) = true) : Matches a (s.map f) := by
  induction h with
  | empty => exact .empty
  | starNil => exact .starNil
  | one hp => exact .one (hc _ hp)
  | seq _ _ iha ihb => rw [List.map_append]; exact .seq (iha hc.1) (ihb hc.2)
  | left _ ih => exact .left (ih hc.1)
  | right _ ih => exact .right (ih hc.2)
  | starCons _ _ iha ihb => rw [List.map_append]; exact .starCons (iha hc) (ihb hc)

/-- If the replaced text matches, and no character came into a class by being replaced, the text itself
matches. -/
theorem Matches.of_map {f : Char → Char} {a : Pattern} {s : List Char} (h : Matches a (s.map f))
    (hc : a.Classes fun p => ∀ c, p (f c) = true → p c = true) : Matches a s := by
  generalize ht : s.map f = t at h
  induction h generalizing s with
  | empty =>
    rw [List.map_eq_nil_iff.1 ht]
    exact .empty
  | starNil =>
    rw [List.map_eq_nil_iff.1 ht]
    exact .starNil
  | one hp =>
    obtain ⟨c, rfl, rfl⟩ := List.map_eq_singleton_iff.1 ht
    exact .one (hc c hp)
  | seq _ _ iha ihb =>
    obtain ⟨u, v, rfl, hu, hv⟩ := List.map_eq_append_iff.1 ht
    exact .seq (iha hc.1 hu) (ihb hc.2 hv)
  | left _ ih => exact .left (ih hc.1 ht)
  | right _ ih => exact .right (ih hc.2 ht)
  | starCons _ _ iha ihb =>
    obtain ⟨u, v, rfl, hu, hv⟩ := List.map_eq_append_iff.1 ht
    exact .starCons (iha hc hu) (ihb hc hv)

/-- Replacing characters by others of the same classes changes nothing for the matcher. -/
theorem accepts_map {f : Char → Char} {a : Pattern} (hc : a.Classes fun p => ∀ c, p (f c) = p c)
    (s : List Char) : a.accepts (s.map f) = a.accepts s := by
  rw [Bool.eq_iff_iff, accepts_iff, accepts_iff]
  exact ⟨fun h => h.of_map (hc.mono fun _ hp c hpc => (hp c).symm.trans hpc),
    fun h => h.map (hc.mono fun _ hp c hpc => (hp c).trans hpc)⟩

end Pattern
end Missive.Text

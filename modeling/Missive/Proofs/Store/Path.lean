import Mathlib.Data.List.Basic
import Missive.Store.PathMap

/-! Paths as sequences of elements. As long as no element has a slash in it, a path determines its
elements, and one path lies below another exactly if its elements continue the other's. The scan of
a path map then finds what lies below a path, wherever the other entries stand. -/

namespace Missive.Store

/-- The path of a sequence of elements, each with a slash in front. -/
def Path.join (elements : List String) : Path :=
  elements.flatMap fun e => '/' :: e.toList

/-- Texts that can be elements of a path. -/
def Path.Plain (element : String) : Prop := '/' ∉ element.toList

instance (element : String) : Decidable (Path.Plain element) :=
  inferInstanceAs (Decidable ('/' ∉ element.toList))

namespace Path

@[simp] theorem join_nil : join [] = [] := rfl

@[simp] theorem join_cons (e : String) (es : List String) :
    join (e :: es) = '/' :: (e.toList ++ join es) := rfl

theorem join_append (es es' : List String) : join (es ++ es') = join es ++ join es' :=
  List.flatMap_append

/-- Of two texts without a slash that are followed by one, neither is a proper beginning of the
other. -/
theorem append_slash_iff {a b u v : List Char} (ha : '/' ∉ a) (hb : '/' ∉ b)
    (hv : v = [] ∨ v.head? = some '/') :
    a ++ '/' :: u <+: b ++ v ↔ a = b ∧ '/' :: u <+: v := by
  induction a generalizing b with
  | nil =>
    cases b with
    | nil => simp
    | cons d b =>
      have hd : '/' ≠ d := fun h => hb (h ▸ List.mem_cons_self)
      simp [hd]
  | cons c a ih =>
    obtain ⟨hc, ha⟩ := not_or.1 (mt List.mem_cons.2 ha)
    cases b with
    | nil =>
      rcases hv with rfl | hv
      · simp
      · obtain ⟨v', rfl⟩ : ∃ v', v = '/' :: v' := by
          cases v with
          | nil => cases hv
          | cons d v' => exact ⟨v', by rw [Option.some.inj hv]⟩
        simp [Ne.symm hc]
    | cons d b =>
      obtain ⟨-, hb⟩ := not_or.1 (mt List.mem_cons.2 hb)
      simp only [List.cons_append, List.cons_prefix_cons, ih ha hb, List.cons.injEq, and_assoc]

theorem join_head? (es : List String) : join es = [] ∨ (join es).head? = some '/' := by
  cases es with
  | nil => exact .inl rfl
  | cons e es => exact .inr rfl

/-- What lies below a path are the paths with more elements. -/
theorem join_below_iff {es es' : List String} (h : ∀ e ∈ es, Plain e) (h' : ∀ e ∈ es', Plain e) :
    join es ++ ['/'] <+: join es' ↔ ∃ x rest, es' = es ++ x :: rest := by
  induction es generalizing es' with
  | nil =>
    cases es' with
    | nil => simp
    | cons x rest => simp
  | cons e es ih =>
    obtain ⟨he, hes⟩ := List.forall_mem_cons.1 h
    cases es' with
    | nil => simp
    | cons e' es' =>
      obtain ⟨he', hes'⟩ := List.forall_mem_cons.1 h'
      -- the slash that ends the first element is that of the next one, or the closing one
      obtain ⟨u, hu⟩ : ∃ u, join es ++ ['/'] = '/' :: u := by
        cases es with
        | nil => exact ⟨[], rfl⟩
        | cons x rest => exact ⟨_, rfl⟩
      have hstep := append_slash_iff (u := u) he he' (join_head? es')
      rw [← hu, ih hes hes', String.toList_inj] at hstep
      simp only [join_cons, List.cons_append, List.append_assoc, List.cons_prefix_cons, hstep,
        true_and, List.cons.injEq]
      constructor
      · rintro ⟨rfl, x, rest, rfl⟩
        exact ⟨x, rest, rfl, rfl⟩
      · rintro ⟨x, rest, rfl, rfl⟩
        exact ⟨rfl, x, rest, rfl⟩

/-- A path determines its elements. -/
theorem join_inj {es es' : List String} (h : ∀ e ∈ es, Plain e) (h' : ∀ e ∈ es', Plain e) :
    join es = join es' ↔ es = es' := by
  refine ⟨fun heq => ?_, fun heq => heq ▸ rfl⟩
  have hplain : ∀ {fs : List String}, (∀ e ∈ fs, Plain e) → ∀ e ∈ fs ++ [""], Plain e := by
    intro fs hfs e he
    rcases List.mem_append.1 he with he | he
    · exact hfs e he
    · rw [List.mem_singleton.1 he]
      exact List.not_mem_nil
  -- with one more, empty, element each path lies below the other
  obtain ⟨x, rest, hx⟩ := (join_below_iff h (hplain h')).1 (by simp [join_append, heq])
  obtain ⟨y, rest', hy⟩ := (join_below_iff h' (hplain h)).1 (by simp [join_append, heq])
  have hlength := congrArg List.length hx
  have hlength' := congrArg List.length hy
  simp only [List.length_append, List.length_cons, List.length_nil] at hlength hlength'
  have hrest : rest = [] := List.eq_nil_of_length_eq_zero (by omega)
  subst hrest
  exact (List.append_inj' hx rfl).1.symm

/-- Of the paths below one, those with a single further element have no slash in the rest. -/
theorem slash_in_rest {es : List String} {x : String} (hx : Plain x) (rest : List String) :
    ((join (es ++ x :: rest)).drop (join es ++ ['/']).length).contains '/' = !rest.isEmpty := by
  have hsplit : join (es ++ x :: rest) = (join es ++ ['/']) ++ (x.toList ++ join rest) := by
    simp [join_append]
  rw [hsplit, List.drop_left]
  cases rest with
  | nil => simpa [Plain] using hx
  | cons y rest => simp

/-- A path that is not smaller than `start` and does not continue it stands behind all that do. -/
theorem prefix_of_prefix_of_lt {start p q : Path} (hp : ¬p < start) (hlt : p < q)
    (hq : start <+: q) : start <+: p := by
  induction start generalizing p q with
  | nil => exact List.nil_prefix
  | cons c start ih =>
    obtain ⟨q, rfl⟩ : ∃ q', q = c :: q' := by
      obtain ⟨t, rfl⟩ := hq
      exact ⟨start ++ t, rfl⟩
    cases p with
    | nil => simp at hp
    | cons d p =>
      rw [List.cons_lt_cons_iff] at hp hlt
      rcases hlt with hlt | ⟨rfl, hlt⟩
      · exact absurd (.inl hlt) hp
      · have hp' : ¬p < start := fun h => hp (.inr ⟨rfl, h⟩)
        exact List.cons_prefix_cons.2 ⟨rfl, ih hp' hlt (List.cons_prefix_cons.1 hq).2⟩

end Path

namespace PathMap

variable {α : Type}

theorem takeWhile_eq_filter_of_ascending {es : List (Path × α)} {start : Path}
    (hasc : es.Pairwise fun a b => a.1 < b.1) (hstart : ∀ e ∈ es, ¬e.1 < start) :
    (es.takeWhile fun e => start.isPrefixOf e.1) = es.filter fun e => start.isPrefixOf e.1 := by
  induction es with
  | nil => rfl
  | cons e rest ih =>
    obtain ⟨hlt, hrest⟩ := List.pairwise_cons.1 hasc
    obtain ⟨he, hstart⟩ := List.forall_mem_cons.1 hstart
    rw [List.takeWhile_cons, List.filter_cons, ih hrest hstart]
    split
    · rfl
    · rename_i hne
      refine (List.filter_eq_nil_iff.2 fun a ha hpre => hne ?_).symm
      exact List.isPrefixOf_iff_prefix.2
        (Path.prefix_of_prefix_of_lt he (hlt a ha) (List.isPrefixOf_iff_prefix.1 hpre))

/-- The scan misses nothing and stops in time. -/
theorem scan_eq_filter (m : PathMap α) (start : Path) :
    m.scan start = m.entries.filter fun e => start.isPrefixOf e.1 := by
  have hscan : ∀ es : List (Path × α), (es.Pairwise fun a b => a.1 < b.1) →
      ((es.dropWhile (·.1 < start)).takeWhile fun e => start.isPrefixOf e.1) =
        es.filter fun e => start.isPrefixOf e.1 := by
    intro es hasc
    induction es with
    | nil => rfl
    | cons e rest ih =>
      obtain ⟨hlt, hrest⟩ := List.pairwise_cons.1 hasc
      by_cases he : e.1 < start
      · have hne : ¬start.isPrefixOf e.1 = true := fun hpre =>
          (List.isPrefixOf_iff_prefix.1 hpre).le he
        rw [List.dropWhile_cons_of_pos (by simpa using he), List.filter_cons, if_neg hne, ih hrest]
      · rw [List.dropWhile_cons_of_neg (by simpa using he)]
        apply takeWhile_eq_filter_of_ascending hasc
        rintro a ha hlt'
        rcases List.mem_cons.1 ha with rfl | ha
        · exact he hlt'
        · exact he (List.lt_trans (hlt a ha) hlt')
  exact hscan m.entries m.ascending

theorem get?_of_mem_children {m : PathMap α} {start p : Path} {a : α}
    (h : (p, a) ∈ m.children start) : m.get? p = some a := by
  rw [children, scan_eq_filter] at h
  exact get?_eq_some_iff.2 (List.mem_filter.1 (List.mem_filter.1 h).1).1

/-- The children of a path are the entries with one more element. -/
theorem mem_children_iff {m : PathMap α} {es fs : List String} (hes : ∀ e ∈ es, Path.Plain e)
    (hfs : ∀ e ∈ fs, Path.Plain e) {a : α} :
    (Path.join fs, a) ∈ m.children (Path.join es ++ ['/']) ↔
      m.get? (Path.join fs) = some a ∧ ∃ x, fs = es ++ [x] := by
  rw [children, List.mem_filter, scan_eq_filter, List.mem_filter, get?_eq_some_iff,
    List.isPrefixOf_iff_prefix, Path.join_below_iff hes hfs, and_assoc]
  apply and_congr_right
  intro _
  constructor
  · rintro ⟨⟨x, rest, rfl⟩, hrest⟩
    rw [Path.slash_in_rest (hfs x (by simp)), Bool.not_not, List.isEmpty_iff] at hrest
    exact ⟨x, by rw [hrest]⟩
  · rintro ⟨x, rfl⟩
    refine ⟨⟨x, [], rfl⟩, ?_⟩
    rw [Path.slash_in_rest (hfs x (by simp))]
    rfl

theorem nodup_children (m : PathMap α) (start : Path) : ((m.children start).map Prod.fst).Nodup := by
  rw [children, scan_eq_filter, List.filter_filter]
  exact m.nodup_paths.sublist (List.filter_sublist.map _)

end PathMap
end Missive.Store

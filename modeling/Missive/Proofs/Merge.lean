import Missive.Merge
import Missive.Proofs.Listing

/-! Merged lists. Merging leaves the order of its first list as it is, as long as no two elements
there share a key; and the merged list has the first element of each key, once. -/

namespace Missive

variable {α κ : Type} [DecidableEq κ] {key : α → κ}

theorem keepFirst_of_mem {kept : List α} {x : α} (h : key x ∈ kept.map key) :
    keepFirst key kept x = kept := by
  obtain ⟨a, ha, heq⟩ := List.mem_map.1 h
  rw [keepFirst, if_pos]
  exact List.any_eq_true.2 ⟨a, ha, decide_eq_true heq⟩

theorem keepFirst_of_not_mem {kept : List α} {x : α} (h : key x ∉ kept.map key) :
    keepFirst key kept x = kept ++ [x] := by
  rw [keepFirst, if_neg]
  intro hany
  obtain ⟨a, ha, heq⟩ := List.any_eq_true.1 hany
  exact h (List.mem_map.2 ⟨a, ha, of_decide_eq_true heq⟩)

theorem foldl_keepFirst_of_nodup {kept l : List α} (h : ((kept ++ l).map key).Nodup) :
    l.foldl (keepFirst key) kept = kept ++ l := by
  induction l generalizing kept with
  | nil => simp
  | cons x l ih =>
    have hx : key x ∉ kept.map key := by
      rw [List.map_append, List.map_cons, List.nodup_append] at h
      intro hmem
      exact h.2.2 _ hmem _ List.mem_cons_self rfl
    rw [List.append_cons] at h ⊢
    rw [List.foldl_cons, keepFirst_of_not_mem hx, ih h]

/-- What is added depends on the keys alone that are there. -/
theorem foldl_keepFirst_append {kept kept' : List α}
    (h : ∀ k, k ∈ kept.map key ↔ k ∈ kept'.map key) (l : List α) :
    ∃ added, l.foldl (keepFirst key) kept = kept ++ added ∧
      l.foldl (keepFirst key) kept' = kept' ++ added := by
  induction l generalizing kept kept' with
  | nil => exact ⟨[], by simp⟩
  | cons x l ih =>
    rw [List.foldl_cons, List.foldl_cons]
    by_cases hx : key x ∈ kept.map key
    · rw [keepFirst_of_mem hx, keepFirst_of_mem ((h _).1 hx)]
      exact ih h
    · rw [keepFirst_of_not_mem hx, keepFirst_of_not_mem (mt (h _).2 hx)]
      have hboth : ∀ k, k ∈ (kept ++ [x]).map key ↔ k ∈ (kept' ++ [x]).map key := fun k => by
        simp only [List.map_append, List.mem_append, h k]
      obtain ⟨added, hadded, hadded'⟩ := ih hboth
      exact ⟨x :: added, by rw [hadded, List.append_assoc]; rfl,
        by rw [hadded', List.append_assoc]; rfl⟩

/-- First lists with the same keys, once each, get the same elements added. -/
theorem merge_append {l l' : List α} (h : (l.map key).Nodup) (h' : (l'.map key).Nodup)
    (hkeys : ∀ k, k ∈ l.map key ↔ k ∈ l'.map key) (secondary : List α) :
    ∃ added, merge key l secondary = l ++ added ∧ merge key l' secondary = l' ++ added := by
  have hfirst : l.foldl (keepFirst key) [] = l := foldl_keepFirst_of_nodup h
  have hfirst' : l'.foldl (keepFirst key) [] = l' := foldl_keepFirst_of_nodup h'
  rw [merge, merge, List.foldl_append, List.foldl_append, hfirst, hfirst']
  exact foldl_keepFirst_append hkeys secondary

/-! ### What a merged list has -/

theorem mem_foldl_keepFirst {kept l : List α} {x : α} (h : x ∈ l.foldl (keepFirst key) kept) :
    x ∈ kept ∨ x ∈ l := by
  induction l generalizing kept with
  | nil => exact .inl h
  | cons y l ih =>
    rw [List.foldl_cons] at h
    rcases ih h with hx | hx
    · by_cases hy : key y ∈ kept.map key
      · rw [keepFirst_of_mem hy] at hx
        exact .inl hx
      · rw [keepFirst_of_not_mem hy, List.mem_append, List.mem_singleton] at hx
        rcases hx with hx | rfl
        · exact .inl hx
        · exact .inr List.mem_cons_self
    · exact .inr (List.mem_cons_of_mem y hx)

/-- Merging adds nothing. -/
theorem mem_merge {primary secondary : List α} {x : α} (h : x ∈ merge key primary secondary) :
    x ∈ primary ∨ x ∈ secondary := by
  rcases mem_foldl_keepFirst h with hx | hx
  · cases hx
  · exact List.mem_append.1 hx

theorem nodup_foldl_keepFirst (kept : List α) (h : (kept.map key).Nodup) (l : List α) :
    ((l.foldl (keepFirst key) kept).map key).Nodup := by
  induction l generalizing kept with
  | nil => exact h
  | cons x l ih =>
    by_cases hx : key x ∈ kept.map key
    · rw [List.foldl_cons, keepFirst_of_mem hx]
      exact ih kept h
    · rw [List.foldl_cons, keepFirst_of_not_mem hx]
      apply ih
      rw [List.map_append, List.nodup_append]
      refine ⟨h, List.nodup_singleton _, ?_⟩
      rintro k hk _ hkx rfl
      obtain rfl := List.mem_singleton.1 hkx
      exact hx hk

/-- A merged list has every key once. -/
theorem nodup_merge (primary secondary : List α) :
    ((merge key primary secondary).map key).Nodup :=
  nodup_foldl_keepFirst [] List.nodup_nil _

theorem find?_foldl_keepFirst (kept l : List α) (k : κ) :
    (l.foldl (keepFirst key) kept).find? (key · = k) =
      (kept.find? (key · = k)).or (l.find? (key · = k)) := by
  induction l generalizing kept with
  | nil => simp
  | cons x l ih =>
    rw [List.foldl_cons, ih]
    by_cases hx : key x ∈ kept.map key
    · rw [keepFirst_of_mem hx]
      by_cases hk : key x = k
      · -- The element is there already, so what follows does not matter.
        obtain ⟨a, ha, heq⟩ := List.mem_map.1 hx
        have hsome : (kept.find? (key · = k)).isSome :=
          List.find?_isSome.2 ⟨a, ha, decide_eq_true (heq.trans hk)⟩
        rw [Option.or_of_isSome hsome, Option.or_of_isSome hsome]
      · rw [List.find?_cons_of_neg (by simpa using hk)]
    · rw [keepFirst_of_not_mem hx, List.find?_append, Option.or_assoc]
      congr 1
      by_cases hk : key x = k <;> simp [hk]

/-- Under each key a merged list has the first list's element, or else the second's. -/
theorem find?_merge (primary secondary : List α) (k : κ) :
    (merge key primary secondary).find? (key · = k) =
      (primary.find? (key · = k)).or (secondary.find? (key · = k)) := by
  rw [merge, find?_foldl_keepFirst, List.find?_nil, Option.none_or, List.find?_append]

/-- A merged list has the keys of both. -/
theorem mem_map_merge {primary secondary : List α} {k : κ} :
    k ∈ (merge key primary secondary).map key ↔ k ∈ primary.map key ∨ k ∈ secondary.map key := by
  have hfind : ∀ l : List α, k ∈ l.map key ↔ (l.find? (key · = k)).isSome := fun l => by
    simp [List.find?_isSome]
  rw [hfind, hfind, hfind, find?_merge, Option.isSome_or, Bool.or_eq_true]

/-- It has the elements of the first list, and those of the second with other keys. -/
theorem mem_merge_iff {primary secondary : List α} (hprimary : (primary.map key).Nodup)
    (hsecondary : (secondary.map key).Nodup) {x : α} :
    x ∈ merge key primary secondary ↔
      x ∈ primary ∨ x ∈ secondary ∧ key x ∉ primary.map key := by
  have hfind : ∀ {l : List α}, (l.map key).Nodup →
      (x ∈ l ↔ l.find? (key · = key x) = some x) := fun h => by
    rw [find?_key_eq_some h, and_iff_left rfl]
  have hnone : key x ∉ primary.map key ↔ primary.find? (key · = key x) = none := by
    simp
  rw [hfind (nodup_merge primary secondary), hfind hprimary, hfind hsecondary, hnone, find?_merge,
    Option.or_eq_some_iff, and_comm (a := _ = none)]

theorem filter_foldl_keepFirst (p : κ → Bool) (kept l : List α) :
    (l.foldl (keepFirst key) kept).filter (p <| key ·) =
      (l.filter (p <| key ·)).foldl (keepFirst key) (kept.filter (p <| key ·)) := by
  induction l generalizing kept with
  | nil => rfl
  | cons x l ih =>
    rw [List.foldl_cons, ih]
    by_cases hp : p (key x) = true
    · have hmem : key x ∈ (kept.filter (p <| key ·)).map key ↔ key x ∈ kept.map key := by
        simp only [List.mem_map, List.mem_filter]
        constructor
        · rintro ⟨a, ⟨ha, -⟩, heq⟩
          exact ⟨a, ha, heq⟩
        · rintro ⟨a, ha, heq⟩
          exact ⟨a, ⟨ha, heq ▸ hp⟩, heq⟩
      rw [List.filter_cons_of_pos (p := (p <| key ·)) hp, List.foldl_cons]
      by_cases hx : key x ∈ kept.map key
      · rw [keepFirst_of_mem hx, keepFirst_of_mem (hmem.2 hx)]
      · rw [keepFirst_of_not_mem hx, keepFirst_of_not_mem (mt hmem.1 hx), List.filter_append,
          List.filter_cons_of_pos (p := (p <| key ·)) hp, List.filter_nil]
    · rw [List.filter_cons_of_neg (p := (p <| key ·)) hp]
      congr 1
      by_cases hx : key x ∈ kept.map key
      · rw [keepFirst_of_mem hx]
      · rw [keepFirst_of_not_mem hx, List.filter_append, List.filter_cons_of_neg (p := (p <| key ·)) hp,
          List.filter_nil, List.append_nil]

variable (key) in
/-- Elements may be left out by their keys before merging or after it. -/
theorem filter_merge (p : κ → Bool) (primary secondary : List α) :
    (merge key primary secondary).filter (p <| key ·) =
      merge key (primary.filter (p <| key ·)) (secondary.filter (p <| key ·)) := by
  rw [merge, merge, filter_foldl_keepFirst, List.filter_append, List.filter_nil]

variable (key) in
/-- What is left out after merging need not be merged. -/
theorem filter_merge_filter (p : κ → Bool) (primary secondary : List α) :
    (merge key (primary.filter (p <| key ·)) secondary).filter (p <| key ·) =
      (merge key primary secondary).filter (p <| key ·) := by
  rw [filter_merge, filter_merge, List.filter_filter]
  simp only [Bool.and_self]

end Missive

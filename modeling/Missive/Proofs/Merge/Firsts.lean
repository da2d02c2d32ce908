import Missive.Proofs.Merge

/-! Merging keeps first elements. A merged list has, of each key, the element that comes first in the
two lists together, and nothing else (`mem_merge_iff_first`). The laws of merging follow from this
alone. The order of a merged list is nobody's concern, so they are stated for lists that have been
merged before and stand in any order. -/

namespace Missive

/-- No element before it in the list has its key. -/
def FirstOfKey {α κ : Type} (key : α → κ) (l : List α) (x : α) : Prop :=
  ∃ before after, l = before ++ x :: after ∧ key x ∉ before.map key

theorem FirstOfKey.mem {α κ : Type} {key : α → κ} {l : List α} {x : α}
    (h : FirstOfKey key l x) : x ∈ l := by
  obtain ⟨before, after, rfl, -⟩ := h
  exact List.mem_append_right _ List.mem_cons_self

/-- What it means to merge by a key. -/
structure KeepsFirsts {α κ : Type} [DecidableEq κ] (key : α → κ)
    (merge : List α → List α → List α) : Prop where
  /-- The elements are the first ones of their keys. -/
  mem_iff : ∀ primary secondary x,
    x ∈ merge primary secondary ↔ FirstOfKey key (primary ++ secondary) x
  /-- Every key that occurs has one element, and other keys have none. -/
  count_key : ∀ primary secondary k, ((merge primary secondary).map key).count k =
    if k ∈ primary.map key ∨ k ∈ secondary.map key then 1 else 0
  assoc : ∀ a b c ab bc, ab.Perm (merge a b) → bc.Perm (merge b c) →
    (merge ab c).Perm (merge a bc)
  /-- Merging a list in once more adds nothing. -/
  again : ∀ a b ab, ab.Perm (merge a b) → (merge ab b).Perm ab
  /-- Only elements that share a key with another one are lost. -/
  self_iff : ∀ a, (∀ x, x ∈ merge a a ↔ x ∈ a) ↔ ∀ x ∈ a, ∀ y ∈ a, key x = key y → x = y

variable {α κ : Type} [DecidableEq κ] {key : α → κ}

theorem firstOfKey_iff {l : List α} {x : α} :
    FirstOfKey key l x ↔ l.find? (key · = key x) = some x := by
  simp [FirstOfKey, List.find?_eq_some_iff_append]

/-- Every key that occurs has a first element. -/
theorem exists_firstOfKey {l : List α} {x : α} (h : x ∈ l) :
    ∃ y, FirstOfKey key l y ∧ key y = key x := by
  have hfound : (l.find? (key · = key x)).isSome :=
    List.find?_isSome.2 ⟨x, h, decide_eq_true rfl⟩
  obtain ⟨y, hy⟩ := Option.isSome_iff_exists.1 hfound
  have hkey : key y = key x :=
    of_decide_eq_true (List.find?_some (p := fun a => decide (key a = key x)) hy)
  exact ⟨y, firstOfKey_iff.2 (hkey ▸ hy), hkey⟩

theorem FirstOfKey.unique {l : List α} {x y : α} (hx : FirstOfKey key l x)
    (hy : FirstOfKey key l y) (hkey : key x = key y) : x = y := by
  rw [firstOfKey_iff] at hx hy
  rw [hkey] at hx
  exact Option.some.inj (hx.symm.trans hy)

/-- The first element of its key stands in the first list, or in the second, if its key does not
occur in the first. -/
theorem firstOfKey_append {l l' : List α} {x : α} :
    FirstOfKey key (l ++ l') x ↔
      FirstOfKey key l x ∨ key x ∉ l.map key ∧ FirstOfKey key l' x := by
  have hnone : l.find? (key · = key x) = none ↔ key x ∉ l.map key := by simp
  rw [firstOfKey_iff, firstOfKey_iff, firstOfKey_iff, List.find?_append, Option.or_eq_some_iff,
    hnone]

/-- If no key occurs twice, every element is the first of its key. -/
theorem firstOfKey_iff_mem {l : List α} (h : (l.map key).Nodup) {x : α} :
    FirstOfKey key l x ↔ x ∈ l := by
  rw [firstOfKey_iff, find?_key_eq_some h, and_iff_left rfl]

theorem mem_merge_iff_first {primary secondary : List α} {x : α} :
    x ∈ merge key primary secondary ↔ FirstOfKey key (primary ++ secondary) x := by
  rw [← firstOfKey_iff_mem (nodup_merge primary secondary), firstOfKey_iff, firstOfKey_iff,
    find?_merge, List.find?_append]

/-- Merged lists with the same elements are the same, up to order. -/
theorem perm_merge {a b l : List α} (hl : (l.map key).Nodup)
    (h : ∀ x, FirstOfKey key (a ++ b) x ↔ x ∈ l) : (merge key a b).Perm l := by
  refine (List.perm_ext_iff_of_nodup (.of_map _ (nodup_merge a b)) (.of_map _ hl)).2 fun x => ?_
  rw [mem_merge_iff_first, h]

section

variable {a b c ab bc : List α}

/-- A list that has been merged before has the keys of its parts, and its elements come first. -/
theorem nodup_of_perm_merge (h : ab.Perm (merge key a b)) : (ab.map key).Nodup :=
  (h.map key).nodup_iff.2 (nodup_merge a b)

theorem mem_of_perm_merge (h : ab.Perm (merge key a b)) {x : α} :
    x ∈ ab ↔ FirstOfKey key (a ++ b) x :=
  h.mem_iff.trans mem_merge_iff_first

theorem mem_keys_of_perm_merge (h : ab.Perm (merge key a b)) {k : κ} :
    k ∈ ab.map key ↔ k ∈ (a ++ b).map key := by
  rw [(h.map key).mem_iff, mem_map_merge, List.map_append, List.mem_append]

theorem firstOfKey_merged_append (h : ab.Perm (merge key a b)) {x : α} :
    FirstOfKey key (ab ++ c) x ↔ FirstOfKey key ((a ++ b) ++ c) x := by
  rw [firstOfKey_append, firstOfKey_append, firstOfKey_iff_mem (nodup_of_perm_merge h),
    mem_of_perm_merge h, mem_keys_of_perm_merge h]

theorem firstOfKey_append_merged (h : bc.Perm (merge key b c)) {x : α} :
    FirstOfKey key (a ++ bc) x ↔ FirstOfKey key (a ++ (b ++ c)) x := by
  rw [firstOfKey_append, firstOfKey_append, firstOfKey_iff_mem (nodup_of_perm_merge h),
    mem_of_perm_merge h]

theorem merge_assoc (hab : ab.Perm (merge key a b)) (hbc : bc.Perm (merge key b c)) :
    (merge key ab c).Perm (merge key a bc) := by
  refine perm_merge (nodup_merge a bc) fun x => ?_
  rw [mem_merge_iff_first, firstOfKey_merged_append hab, firstOfKey_append_merged hbc,
    List.append_assoc]

theorem merge_again (h : ab.Perm (merge key a b)) : (merge key ab b).Perm ab := by
  refine perm_merge (nodup_of_perm_merge h) fun x => ?_
  rw [firstOfKey_append, firstOfKey_iff_mem (nodup_of_perm_merge h), or_iff_left]
  rintro ⟨hkey, hx⟩
  rw [mem_keys_of_perm_merge h] at hkey
  exact hkey (List.mem_map_of_mem (List.mem_append_right a hx.mem))

theorem mem_merge_self {x : α} : x ∈ merge key a a ↔ FirstOfKey key a x := by
  rw [mem_merge_iff_first, firstOfKey_append, or_iff_left]
  rintro ⟨hkey, hx⟩
  exact hkey (List.mem_map_of_mem hx.mem)

theorem merge_self_iff :
    (∀ x, x ∈ merge key a a ↔ x ∈ a) ↔ ∀ x ∈ a, ∀ y ∈ a, key x = key y → x = y := by
  simp only [mem_merge_self]
  constructor
  · intro h x hx y hy
    exact ((h x).2 hx).unique ((h y).2 hy)
  · intro h x
    refine ⟨FirstOfKey.mem, fun hx => ?_⟩
    obtain ⟨y, hy, hkey⟩ : ∃ y, FirstOfKey key a y ∧ key y = key x := exists_firstOfKey hx
    rwa [h x hx y hy.mem hkey.symm]

end

theorem keepsFirsts_merge (key : α → κ) : KeepsFirsts key (merge key) where
  mem_iff _ _ _ := mem_merge_iff_first
  count_key primary secondary k := by
    rw [(nodup_merge primary secondary).count]
    simp only [mem_map_merge]
  assoc _ _ _ _ _ := merge_assoc
  again _ _ _ := merge_again
  self_iff _ := merge_self_iff

/-- Names are merged by their scenarios, and templates by what they are for. -/
theorem merging_keeps_firsts :
    KeepsFirsts Identifier.ScenarioName.key mergeNames ∧
      KeepsFirsts Template.mergeKey mergeTemplates :=
  ⟨keepsFirsts_merge _, keepsFirsts_merge _⟩

/-- Of two spellings of one scenario the first stays. -/
example : mergeNames ["Password Reset"] ["passwordreset", "welcome"] =
    ["Password Reset", "welcome"] := by decide +kernel

end Missive

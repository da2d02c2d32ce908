import Mathlib.Data.List.Nodup
import Mathlib.Data.List.Perm.Basic
import Missive.Dictionary

/-! Listings of finite maps. A listing has no order of its own, so two of them are compared up to
permutation: they agree as soon as their entries correspond one to one, and a listing may be put
together from its groups. -/

namespace Missive

section

variable {κ κ' α β : Type} {es : List (κ × α)} {es' : List (κ' × β)} (rename : κ → κ') (form : α → β)

/-- Entries under distinct keys that correspond one to one are the same, up to order. -/
theorem perm_entries_of_iff (hes : (es.map Prod.fst).Nodup) (hes' : (es'.map Prod.fst).Nodup)
    (inj : ∀ a ∈ es, ∀ b ∈ es, rename a.1 = rename b.1 → a.1 = b.1)
    (hmem : ∀ k v, (k, v) ∈ es' ↔ ∃ a ∈ es, rename a.1 = k ∧ form a.2 = v) :
    (es.map fun a => (rename a.1, form a.2)).Perm es' := by
  have hkeys : ((es.map fun a => (rename a.1, form a.2)).map Prod.fst).Nodup := by
    rw [List.map_map]
    change (es.map (rename ∘ Prod.fst)).Nodup
    rw [← List.map_map]
    apply hes.map_on
    intro k hk k' hk' h
    obtain ⟨a, ha, rfl⟩ := List.mem_map.1 hk
    obtain ⟨b, hb, rfl⟩ := List.mem_map.1 hk'
    exact inj a ha b hb h
  apply (List.perm_ext_iff_of_nodup (.of_map _ hkeys) (.of_map _ hes')).2
  rintro ⟨k, v⟩
  simp [hmem]

theorem perm_values_of_iff (hes : (es.map Prod.fst).Nodup) (hes' : (es'.map Prod.fst).Nodup)
    (inj : ∀ a ∈ es, ∀ b ∈ es, rename a.1 = rename b.1 → a.1 = b.1)
    (hmem : ∀ k v, (k, v) ∈ es' ↔ ∃ a ∈ es, rename a.1 = k ∧ form a.2 = v) :
    ((es.map Prod.snd).map form).Perm (es'.map Prod.snd) := by
  simpa [List.map_map, Function.comp_def] using
    (perm_entries_of_iff rename form hes hes' inj hmem).map Prod.snd

end

/-- The last element of a list is the one in question, or it comes after that. -/
theorem concat_eq_append_cons {α : Type} {l earlier later : List α} {last a : α}
    (h : l ++ [last] = earlier ++ a :: later) :
    (later = [] ∧ earlier = l ∧ a = last) ∨
      ∃ between, later = between ++ [last] ∧ l = earlier ++ a :: between := by
  rcases List.eq_nil_or_concat later with rfl | ⟨between, last', rfl⟩
  · obtain ⟨rfl, heq⟩ := List.append_inj' h rfl
    exact .inl ⟨rfl, rfl, (List.singleton_inj.1 heq).symm⟩
  · rw [List.concat_eq_append, ← List.cons_append, ← List.append_assoc] at h
    obtain ⟨rfl, heq⟩ := List.append_inj' h rfl
    rw [List.concat_eq_append, List.singleton_inj.1 heq]
    exact .inr ⟨between, rfl, rfl⟩

section

variable {ε α β γ : Type} {f : α → Except ε β}

theorem mapM_cons_eq_ok {a : α} {l : List α} {bs : List β} :
    (a :: l).mapM f = .ok bs ↔ ∃ b bs', f a = .ok b ∧ l.mapM f = .ok bs' ∧ bs = b :: bs' := by
  rw [List.mapM_cons]
  cases f a with
  | error e => simp [Bind.bind, Except.bind]
  | ok b =>
    cases l.mapM f with
    | error e => simp [Bind.bind, Except.bind]
    | ok bs' => simp [Bind.bind, Except.bind, Pure.pure, Except.pure, eq_comm]

/-- A reader that succeeds on a listing succeeds on it in any order. -/
theorem mapM_perm {l l' : List α} (h : l.Perm l') {bs : List β} (hl : l.mapM f = .ok bs) :
    ∃ bs', l'.mapM f = .ok bs' ∧ bs.Perm bs' := by
  induction h generalizing bs with
  | nil => exact ⟨bs, hl, .refl _⟩
  | cons a _ ih =>
    obtain ⟨b, rest, ha, hrest, rfl⟩ := mapM_cons_eq_ok.1 hl
    obtain ⟨rest', hrest', hperm⟩ := ih hrest
    exact ⟨b :: rest', mapM_cons_eq_ok.2 ⟨b, rest', ha, hrest', rfl⟩, hperm.cons b⟩
  | swap a a' l =>
    obtain ⟨b', bs', ha', hl', rfl⟩ := mapM_cons_eq_ok.1 hl
    obtain ⟨b, rest, ha, hrest, rfl⟩ := mapM_cons_eq_ok.1 hl'
    refine ⟨b :: b' :: rest, ?_, .swap b b' rest⟩
    exact mapM_cons_eq_ok.2 ⟨b, _, ha, mapM_cons_eq_ok.2 ⟨b', rest, ha', hrest, rfl⟩, rfl⟩
  | trans _ _ ih ih' =>
    obtain ⟨bs', hbs', hperm⟩ := ih hl
    obtain ⟨bs'', hbs'', hperm'⟩ := ih' hbs'
    exact ⟨bs'', hbs'', hperm.trans hperm'⟩

theorem mapM_map_eq_ok {g : γ → α} {k : γ → β} {l : List γ} (h : ∀ c ∈ l, f (g c) = .ok (k c)) :
    (l.map g).mapM f = .ok (l.map k) := by
  induction l with
  | nil => rfl
  | cons c l ih =>
    obtain ⟨hc, hl⟩ := List.forall_mem_cons.1 h
    exact mapM_cons_eq_ok.2 ⟨k c, l.map k, hc, ih hl, rfl⟩

end

/-- In a list without two elements of one key, looking for a key finds the element that has it. -/
theorem find?_key_eq_some {α κ : Type} [DecidableEq κ] {key : α → κ} {l : List α}
    (h : (l.map key).Nodup) {k : κ} {a : α} :
    l.find? (key · = k) = some a ↔ a ∈ l ∧ key a = k := by
  constructor
  · intro hfind
    exact ⟨List.mem_of_find?_eq_some hfind,
      of_decide_eq_true (List.find?_some (p := fun x => decide (key x = k)) hfind)⟩
  · rintro ⟨ha, rfl⟩
    have hfound : (l.find? (key · = key a)).isSome :=
      List.find?_isSome.2 ⟨a, ha, decide_eq_true rfl⟩
    obtain ⟨x, hx⟩ := Option.isSome_iff_exists.1 hfound
    have hkey := of_decide_eq_true (List.find?_some (p := fun x => decide (key x = key a)) hx)
    rw [hx, List.inj_on_of_nodup_map h (List.mem_of_find?_eq_some hx) ha hkey]

/-- In such a list at most one element has a key. -/
theorem filter_key_eq_toList {α κ : Type} [DecidableEq κ] {key : α → κ} {l : List α}
    (h : (l.map key).Nodup) (k : κ) :
    l.filter (key · = k) = (l.find? (key · = k)).toList := by
  induction l with
  | nil => rfl
  | cons a rest ih =>
    obtain ⟨ha, hrest⟩ := List.nodup_cons.1 h
    by_cases hk : key a = k
    · have hnone : rest.filter (key · = k) = [] := by
        rw [List.filter_eq_nil_iff]
        intro b hb
        rw [decide_eq_true_eq]
        rintro rfl
        exact ha (hk ▸ List.mem_map_of_mem hb)
      simp [hk, hnone]
    · simpa [hk] using ih hrest

/-- What lies in some of the groups, listed group by group. -/
theorem perm_flatMap_filter {α γ : Type} [DecidableEq γ] (group : α → γ) {gs : List γ}
    (hgs : gs.Nodup) (l : List α) :
    (gs.flatMap fun c => l.filter (group · = c)).Perm (l.filter (group · ∈ gs)) := by
  induction gs with
  | nil => simp
  | cons c rest ih =>
    obtain ⟨hc, hrest⟩ := List.nodup_cons.1 hgs
    have hleft : (l.filter (group · ∈ c :: rest)).filter (group · = c) = l.filter (group · = c) := by
      rw [List.filter_filter]
      exact List.filter_congr fun a _ => by by_cases h : group a = c <;> simp [h]
    have hright : (l.filter (group · ∈ c :: rest)).filter (fun a => !decide (group a = c)) =
        l.filter (group · ∈ rest) := by
      rw [List.filter_filter]
      apply List.filter_congr
      intro a _
      by_cases h : group a = c
      · simp [h, hc]
      · simp [h]
    rw [List.flatMap_cons]
    apply (List.Perm.append_left _ (ih hrest)).trans
    rw [← hleft, ← hright]
    exact List.filter_append_perm _ _

namespace Dictionary

variable {κ κ' α β : Type} [DecidableEq κ] [DecidableEq κ']

theorem get?_retain_key (p : κ → Bool) (d : Dictionary κ α) (k : κ) :
    (d.retain fun k _ => p k).get? k = if p k then d.get? k else none := by
  rw [get?_retain]
  by_cases h : p k <;> cases d.get? k <;> simp [h]

/-- A selection by key has the entries of the chosen keys. -/
theorem mem_retain {P : κ → Prop} [DecidablePred P] {d : Dictionary κ α} {a : κ × α} :
    a ∈ (d.retain fun k _ => P k).entries ↔ d.get? a.1 = some a.2 ∧ P a.1 := by
  rw [retain, List.mem_filter, decide_eq_true_eq, get?_eq_some_iff]

/-- Erasing what is absent changes nothing. -/
theorem get?_erase_absent {d : Dictionary κ α} {k : κ} (h : d.get? k = none) (k' : κ) :
    (d.erase k).get? k' = d.get? k' := by
  rw [get?_erase]
  split
  · rename_i heq
    rw [heq, h]
  · rfl

theorem get?_retain_absent {p : κ → Bool} {d : Dictionary κ α}
    (h : ∀ k, p k = false → d.get? k = none) (k : κ) :
    (d.retain fun k _ => p k).get? k = d.get? k := by
  rw [get?_retain_key]
  split
  · rfl
  · rename_i hk
    exact (h k (Bool.eq_false_iff.2 hk)).symm

/-- A selection without the key lists the same after something is put there. -/
theorem values_retain_put (d : Dictionary κ α) {p : κ → α → Bool} {k : κ} (v : α)
    (h : ∀ w, p k w = false) : ((d.put k v).retain p).values = (d.retain p).values := by
  simp only [values, retain, put, erase, List.filter_append, List.filter_filter]
  rw [List.filter_cons_of_neg (by simp [h]), List.filter_nil, List.append_nil]
  congr 1
  apply List.filter_congr
  rintro ⟨k', w⟩ -
  by_cases hk : k' = k
  · subst hk
    simp [h]
  · simp [hk]

/-- Dictionaries whose bindings correspond one to one list the same values, up to order. -/
theorem perm_values {d : Dictionary κ α} {d' : Dictionary κ' β} (rename : κ → κ') (form : α → β)
    (inj : ∀ {k k' v v'}, d.get? k = some v → d.get? k' = some v' → rename k = rename k' → k = k')
    (hget : ∀ k' w, d'.get? k' = some w ↔ ∃ k v, d.get? k = some v ∧ rename k = k' ∧ form v = w) :
    (d.values.map form).Perm d'.values := by
  refine perm_values_of_iff rename form d.distinct d'.distinct ?_ ?_
  · intro a ha b hb h
    exact inj (get?_eq_some_iff.2 ha) (get?_eq_some_iff.2 hb) h
  · intro k' w
    rw [← get?_eq_some_iff, hget]
    constructor
    · rintro ⟨k, v, hk, rfl, rfl⟩
      exact ⟨(k, v), get?_eq_some_iff.1 hk, rfl, rfl⟩
    · rintro ⟨⟨k, v⟩, he, rfl, rfl⟩
      exact ⟨k, v, get?_eq_some_iff.2 he, rfl, rfl⟩

theorem perm_values_of_get? {d d' : Dictionary κ α} (h : ∀ k, d.get? k = d'.get? k) :
    d.values.Perm d'.values := by
  rw [← List.map_id d.values]
  refine perm_values id id (fun _ _ => id) fun k w => ?_
  rw [← h]
  simp

end Dictionary
end Missive

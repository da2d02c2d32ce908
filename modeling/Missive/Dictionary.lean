/-! Dictionaries: finite maps as lists of entries with distinct keys. The view of a dictionary is
`get?`; each operation has one lemma that says what it does to the view. -/

namespace Missive

structure Dictionary (κ α : Type) where
  entries : List (κ × α)
  distinct : (entries.map Prod.fst).Nodup

namespace Dictionary

variable {κ α β : Type}

def empty : Dictionary κ α := ⟨[], List.nodup_nil⟩

instance : EmptyCollection (Dictionary κ α) := ⟨empty⟩

instance : Inhabited (Dictionary κ α) := ⟨empty⟩

def values (d : Dictionary κ α) : List α := d.entries.map Prod.snd

/-- The entries that satisfy the condition. -/
def retain (p : κ → α → Bool) (d : Dictionary κ α) : Dictionary κ α where
  entries := d.entries.filter fun e => p e.1 e.2
  distinct := d.distinct.sublist (List.filter_sublist.map _)

/-- Changes the values. -/
def map (f : κ → α → β) (d : Dictionary κ α) : Dictionary κ β where
  entries := d.entries.map fun e => (e.1, f e.1 e.2)
  distinct := by
    rw [List.map_map]
    exact d.distinct

variable [DecidableEq κ]

def get? (d : Dictionary κ α) (k : κ) : Option α :=
  (d.entries.find? (·.1 = k)).map Prod.snd

def contains (d : Dictionary κ α) (k : κ) : Bool := (d.get? k).isSome

def erase (d : Dictionary κ α) (k : κ) : Dictionary κ α :=
  d.retain fun k' _ => k' ≠ k

/-- Binds the key to the value, whatever it was bound to before. -/
def put (d : Dictionary κ α) (k : κ) (v : α) : Dictionary κ α where
  entries := (d.erase k).entries ++ [(k, v)]
  distinct := by
    rw [List.map_append, List.nodup_append]
    refine ⟨(d.erase k).distinct, by simp, ?_⟩
    rintro a ha b hb rfl
    simp only [List.map_cons, List.map_nil, List.mem_singleton] at hb
    subst hb
    obtain ⟨e, he, rfl⟩ := List.mem_map.1 ha
    simp [erase, retain] at he

theorem find?_eq_some_iff {es : List (κ × α)} (h : (es.map Prod.fst).Nodup) {k : κ} {e : κ × α} :
    es.find? (·.1 = k) = some e ↔ e ∈ es ∧ e.1 = k := by
  induction es with
  | nil => simp
  | cons x rest ih =>
    simp only [List.map_cons, List.nodup_cons] at h
    by_cases hx : x.1 = k
    · simp only [List.find?_cons, hx, decide_true, Option.some.injEq, List.mem_cons]
      constructor
      · rintro rfl
        exact ⟨.inl rfl, hx⟩
      · rintro ⟨rfl | he, hk⟩
        · rfl
        · exact absurd (List.mem_map.2 ⟨e, he, hk.trans hx.symm⟩) h.1
    · simp only [List.find?_cons, hx, decide_false, ih h.2, List.mem_cons]
      constructor
      · rintro ⟨he, hk⟩
        exact ⟨.inr he, hk⟩
      · rintro ⟨rfl | he, hk⟩
        · exact absurd hk hx
        · exact ⟨he, hk⟩

/-- The view holds exactly the entries. -/
theorem get?_eq_some_iff {d : Dictionary κ α} {k : κ} {v : α} :
    d.get? k = some v ↔ (k, v) ∈ d.entries := by
  rw [get?, Option.map_eq_some_iff]
  constructor
  · rintro ⟨⟨k', v'⟩, h, rfl⟩
    obtain ⟨he, rfl⟩ := (find?_eq_some_iff d.distinct).1 h
    exact he
  · intro h
    exact ⟨(k, v), (find?_eq_some_iff d.distinct).2 ⟨h, rfl⟩, rfl⟩

@[simp] theorem get?_empty (k : κ) : (∅ : Dictionary κ α).get? k = none := rfl

theorem get?_retain (p : κ → α → Bool) (d : Dictionary κ α) (k : κ) :
    (d.retain p).get? k = (d.get? k).filter (p k) := by
  ext v
  rw [Option.filter_eq_some_iff, get?_eq_some_iff, get?_eq_some_iff]
  simp [retain]

theorem get?_erase (d : Dictionary κ α) (k k' : κ) :
    (d.erase k).get? k' = if k' = k then none else d.get? k' := by
  rw [erase, get?_retain]
  by_cases h : k' = k
  · cases d.get? k' <;> simp [h]
  · cases d.get? k' <;> simp [h]

theorem get?_put (d : Dictionary κ α) (k k' : κ) (v : α) :
    (d.put k v).get? k' = if k' = k then some v else d.get? k' := by
  ext w
  rw [get?_eq_some_iff]
  by_cases h : k' = k
  · subst h
    simp [put, erase, retain, eq_comm]
  · rw [if_neg h, get?_eq_some_iff]
    simp [put, erase, retain, h]

theorem get?_map (f : κ → α → β) (d : Dictionary κ α) (k : κ) :
    (d.map f).get? k = (d.get? k).map (f k) := by
  ext w
  rw [Option.map_eq_some_iff, get?_eq_some_iff]
  simp only [map, List.mem_map, get?_eq_some_iff]
  constructor
  · rintro ⟨⟨k', v⟩, he, heq⟩
    cases heq
    exact ⟨v, he, rfl⟩
  · rintro ⟨v, he, rfl⟩
    exact ⟨(k, v), he, rfl⟩

theorem contains_iff {d : Dictionary κ α} {k : κ} :
    d.contains k = true ↔ ∃ v, (k, v) ∈ d.entries := by
  simp [contains, Option.isSome_iff_exists, get?_eq_some_iff]

end Dictionary
end Missive

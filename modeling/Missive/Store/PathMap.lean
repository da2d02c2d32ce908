import Missive.Dictionary

/-! Maps keyed by paths, in ascending order of the paths, and the scan of the entries below a path:
it starts at the first path that is not smaller and ends at the first that does not continue it. -/

namespace Missive.Store

/-- A path as its characters, elements separated by slashes. -/
abbrev Path := List Char

structure PathMap (α : Type) where
  entries : List (Path × α)
  ascending : entries.Pairwise fun a b => a.1 < b.1

namespace PathMap

variable {α : Type}

def empty : PathMap α := ⟨[], .nil⟩

instance : EmptyCollection (PathMap α) := ⟨empty⟩

def get? (m : PathMap α) (p : Path) : Option α :=
  (m.entries.find? (·.1 = p)).map Prod.snd

def contains (m : PathMap α) (p : Path) : Bool := (m.get? p).isSome

/-- The entries whose paths satisfy the condition. -/
def retain (keep : Path → Bool) (m : PathMap α) : PathMap α where
  entries := m.entries.filter fun e => keep e.1
  ascending := m.ascending.sublist List.filter_sublist

def erase (m : PathMap α) (p : Path) : PathMap α :=
  m.retain (· ≠ p)

/-- Puts an entry at its place in an ascending list. -/
def insertEntry (p : Path) (v : α) : List (Path × α) → List (Path × α)
  | [] => [(p, v)]
  | (q, w) :: rest =>
    if p < q then (p, v) :: (q, w) :: rest
    else if p = q then (p, v) :: rest
    else (q, w) :: insertEntry p v rest

theorem mem_insertEntry {p : Path} {v : α} {es : List (Path × α)} {e : Path × α}
    (h : e ∈ insertEntry p v es) : e = (p, v) ∨ e ∈ es := by
  induction es with
  | nil => exact .inl (List.mem_singleton.1 h)
  | cons x rest ih =>
    rw [insertEntry] at h
    split at h
    · exact List.mem_cons.1 h
    · split at h
      · rcases List.mem_cons.1 h with h | h
        · exact .inl h
        · exact .inr (List.mem_cons_of_mem _ h)
      · rcases List.mem_cons.1 h with rfl | h
        · exact .inr (by simp)
        · exact (ih h).imp id (List.mem_cons_of_mem _)

theorem ascending_insertEntry {p : Path} {v : α} {es : List (Path × α)}
    (h : es.Pairwise fun a b => a.1 < b.1) :
    (insertEntry p v es).Pairwise fun a b => a.1 < b.1 := by
  induction es with
  | nil => exact List.pairwise_singleton _ _
  | cons x rest ih =>
    obtain ⟨hx, hrest⟩ := List.pairwise_cons.1 h
    rw [insertEntry]
    split
    · rename_i hlt
      refine List.pairwise_cons.2 ⟨fun e he => ?_, h⟩
      rcases List.mem_cons.1 he with rfl | he
      · exact hlt
      · exact List.lt_trans hlt (hx e he)
    · rename_i hlt
      split
      · rename_i heq
        exact List.pairwise_cons.2 ⟨fun e he => heq ▸ hx e he, hrest⟩
      · rename_i hne
        refine List.pairwise_cons.2 ⟨fun e he => ?_, ih hrest⟩
        rcases mem_insertEntry he with rfl | he
        · rcases Std.lt_trichotomy p x.1 with h' | h' | h'
          · exact absurd h' hlt
          · exact absurd h' hne
          · exact h'
        · exact hx e he

/-- Binds the path to the value, whatever it was bound to before. -/
def put (m : PathMap α) (p : Path) (v : α) : PathMap α :=
  ⟨insertEntry p v m.entries, ascending_insertEntry m.ascending⟩

/-- The entries whose paths begin with `start`, in order. -/
def scan (m : PathMap α) (start : Path) : List (Path × α) :=
  (m.entries.dropWhile (·.1 < start)).takeWhile fun e => start.isPrefixOf e.1

/-- The entries whose paths continue `start` by a single element. -/
def children (m : PathMap α) (start : Path) : List (Path × α) :=
  (m.scan start).filter fun e => !(e.1.drop start.length).contains '/'

theorem nodup_paths (m : PathMap α) : (m.entries.map Prod.fst).Nodup :=
  List.pairwise_map.2 <| m.ascending.imp fun {a b} (h : a.1 < b.1) (he : a.1 = b.1) =>
    List.lt_irrefl b.1 (he ▸ h)

/-- A look-up sees exactly the entries. -/
theorem get?_eq_some_iff {m : PathMap α} {p : Path} {v : α} :
    m.get? p = some v ↔ (p, v) ∈ m.entries := by
  rw [get?, Option.map_eq_some_iff]
  constructor
  · rintro ⟨⟨q, w⟩, h, rfl⟩
    obtain ⟨he, rfl⟩ := (Dictionary.find?_eq_some_iff m.nodup_paths).1 h
    exact he
  · intro h
    exact ⟨(p, v), (Dictionary.find?_eq_some_iff m.nodup_paths).2 ⟨h, rfl⟩, rfl⟩

theorem mem_insertEntry_self (p : Path) (v : α) (es : List (Path × α)) :
    (p, v) ∈ insertEntry p v es := by
  induction es with
  | nil => simp [insertEntry]
  | cons x rest ih =>
    rw [insertEntry]
    split
    · simp
    · split
      · simp
      · exact List.mem_cons_of_mem _ ih

theorem mem_insertEntry_of_ne {p q : Path} {v w : α} {es : List (Path × α)} (h : q ≠ p)
    (he : (q, w) ∈ es) : (q, w) ∈ insertEntry p v es := by
  induction es with
  | nil => cases he
  | cons x rest ih =>
    rw [insertEntry]
    split
    · exact List.mem_cons_of_mem _ he
    · split
      · rename_i hx
        rcases List.mem_cons.1 he with rfl | he
        · exact absurd hx.symm h
        · exact List.mem_cons_of_mem _ he
      · rcases List.mem_cons.1 he with rfl | he
        · exact List.mem_cons_self
        · exact List.mem_cons_of_mem _ (ih he)

theorem get?_retain (keep : Path → Bool) (m : PathMap α) (p : Path) :
    (m.retain keep).get? p = if keep p then m.get? p else none := by
  ext v
  rw [get?_eq_some_iff]
  by_cases h : keep p
  · rw [if_pos h, get?_eq_some_iff]
    simp [retain, h]
  · simp [retain, h]

theorem get?_erase (m : PathMap α) (p q : Path) :
    (m.erase p).get? q = if q = p then none else m.get? q := by
  rw [erase, get?_retain]
  by_cases h : q = p <;> simp [h]

theorem get?_put (m : PathMap α) (p q : Path) (v : α) :
    (m.put p v).get? q = if q = p then some v else m.get? q := by
  ext w
  rw [get?_eq_some_iff, put]
  by_cases h : q = p
  · subst h
    have hself : (m.put q v).get? q = some v := get?_eq_some_iff.2 (mem_insertEntry_self q v m.entries)
    rw [if_pos rfl, Option.some.injEq]
    constructor
    · intro hw
      exact Option.some.inj (hself.symm.trans (get?_eq_some_iff.2 hw))
    · rintro rfl
      exact mem_insertEntry_self q v m.entries
  · rw [if_neg h, get?_eq_some_iff]
    constructor
    · intro hw
      rcases mem_insertEntry hw with he | he
      · exact absurd (congrArg Prod.fst he) h
      · exact he
    · exact mem_insertEntry_of_ne h

end PathMap
end Missive.Store

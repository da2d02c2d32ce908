import Mathlib.Data.List.Basic
import Mathlib.Data.List.Perm.Basic
import Mathlib.Data.Option.Basic
import Missive.Json.Record

/-! What JSON values are records. An object is one with certain fields just if its members are those of
the fields, in any order, among others under other keys; and an array is one if it lists the fields
(`record?_eq_some_iff`). -/

namespace Missive.Json.Value

/-- The members that fields have, without those that are missing. -/
def membersOf (names : List String) (fields : List (Option Value)) :
    List (Option String × Value) :=
  (names.zip fields).flatMap fun f => f.2.toList.map (some f.1, ·)

/-- The value is a record with these fields under these names. -/
inductive RecordOf (names : List String) : List (Option Value) → Value → Prop
  | object {fields : List (Option Value)} {members others : List (Option String × Value)} :
    fields.length = names.length → members.Perm (membersOf names fields ++ others) →
    (∀ m ∈ others, ∃ key, m.1 = some key ∧ key ∉ names) → RecordOf names fields (object members)
  | array {items : List Value} {missing : Nat} : items.length + missing = names.length →
    RecordOf names (items.map some ++ List.replicate missing none) (array items)

theorem RecordOf.object_membersOf {names : List String} {fields : List (Option Value)}
    (h : fields.length = names.length) : RecordOf names fields (.object (membersOf names fields)) :=
  .object h (.of_eq (List.append_nil _).symm) (by simp)

/-! ### The fields of an object -/

section

variable {name : String} {names : List String} {field : Option Value} {fields : List (Option Value)}
  {members : List (Option String × Value)}

theorem field?_eq_some_iff : field? members name = some field ↔
    members.filter (·.1 = some name) = field.toList.map (some name, ·) := by
  have hkeys : ∀ m ∈ members.filter (·.1 = some name), m.1 = some name :=
    fun m hm => of_decide_eq_true (List.mem_filter.1 hm).2
  rw [field?]
  generalize members.filter (·.1 = some name) = found at hkeys ⊢
  match found, hkeys with
  | [], _ => cases field <;> simp
  | [(key, v)], hkeys =>
    obtain rfl : key = some name := hkeys _ List.mem_cons_self
    cases field <;> simp
  | _ :: _ :: _, _ => cases field <;> simp

theorem membersOf_cons : membersOf (name :: names) (field :: fields) =
    field.toList.map (some name, ·) ++ membersOf names fields := rfl

theorem exists_name_of_mem_membersOf {m : Option String × Value}
    (h : m ∈ membersOf names fields) : ∃ name ∈ names, m.1 = some name := by
  obtain ⟨⟨name, field⟩, hmem, hm⟩ := List.mem_flatMap.1 h
  obtain ⟨v, -, rfl⟩ := List.mem_map.1 hm
  exact ⟨name, (List.of_mem_zip hmem).1, rfl⟩

theorem filter_membersOf (h : name ∉ names) :
    (membersOf names fields).filter (·.1 = some name) = [] := by
  rw [List.filter_eq_nil_iff]
  intro m hm hkey
  obtain ⟨name', hname', hm'⟩ := exists_name_of_mem_membersOf hm
  rw [hm', decide_eq_true_eq, Option.some.injEq] at hkey
  exact h (hkey ▸ hname')

/-- A list of at most one element is in order. -/
theorem eq_of_perm_toList {α β : Type} {o : Option α} {f : α → β} {l : List β}
    (h : l.Perm (o.toList.map f)) : l = o.toList.map f := by
  cases o with
  | none => exact h.eq_nil
  | some a => exact List.perm_singleton.1 h

theorem mapM_cons_eq_some_iff : (name :: names).mapM (field? members) = some fields ↔
    ∃ field rest, field? members name = some field ∧ names.mapM (field? members) = some rest ∧
      fields = field :: rest := by
  rw [List.mapM_cons]
  simp only [Option.bind_eq_bind, Option.bind_eq_some_iff, Option.pure_def, Option.some.injEq]
  constructor
  · rintro ⟨field, hfield, rest, hrest, rfl⟩
    exact ⟨field, rest, hfield, hrest, rfl⟩
  · rintro ⟨field, rest, hfield, hrest, rfl⟩
    exact ⟨field, hfield, rest, hrest, rfl⟩

/-- Members with certain fields are those of the fields, and others. -/
theorem perm_of_fields (hnames : names.Nodup) (h : names.mapM (field? members) = some fields) :
    fields.length = names.length ∧ ∃ others, members.Perm (membersOf names fields ++ others) ∧
      ∀ m ∈ others, ∀ name ∈ names, m.1 ≠ some name := by
  induction names generalizing fields with
  | nil =>
    cases h
    exact ⟨rfl, members, .refl _, fun _ _ => nofun⟩
  | cons name names ih =>
    obtain ⟨hname, hnames⟩ := List.nodup_cons.1 hnames
    obtain ⟨field, rest, hfield, hrest, rfl⟩ := mapM_cons_eq_some_iff.1 h
    obtain ⟨hlength, others, hperm, hothers⟩ := ih hnames hrest
    -- the members under the first name are among the others of the rest
    have hfound := hperm.filter (·.1 = some name)
    rw [field?_eq_some_iff.1 hfield, List.filter_append, filter_membersOf hname,
      List.nil_append] at hfound
    have hsplit := (List.filter_append_perm (·.1 = some name) others).symm.trans
      (hfound.symm.append_right _)
    refine ⟨congrArg (· + 1) hlength, others.filter fun m => !decide (m.1 = some name), ?_, ?_⟩
    · rw [membersOf_cons, List.append_assoc]
      exact (hperm.trans (hsplit.append_left _)).trans (List.perm_append_comm_assoc _ _ _)
    · intro m hm
      obtain ⟨hm, hne⟩ := List.mem_filter.1 hm
      exact List.forall_mem_cons.2 ⟨by simpa using hne, hothers m hm⟩

/-- Among others under other names, the members of fields are found. -/
theorem fields_of_perm (hnames : names.Nodup) (hlength : fields.length = names.length)
    {others : List (Option String × Value)} (hperm : members.Perm (membersOf names fields ++ others))
    (hothers : ∀ m ∈ others, ∀ name ∈ names, m.1 ≠ some name) :
    names.mapM (field? members) = some fields := by
  induction names generalizing fields others with
  | nil =>
    rw [List.eq_nil_of_length_eq_zero hlength]
    rfl
  | cons name names ih =>
    obtain ⟨hname, hnames⟩ := List.nodup_cons.1 hnames
    cases fields with
    | nil => cases hlength
    | cons field rest =>
      rw [membersOf_cons] at hperm
      have hrest : members.Perm
          (membersOf names rest ++ (field.toList.map (some name, ·) ++ others)) := by
        rw [List.append_assoc] at hperm
        exact hperm.trans (List.perm_append_comm_assoc _ _ _)
      refine mapM_cons_eq_some_iff.2 ⟨field, rest, field?_eq_some_iff.2 (eq_of_perm_toList ?_),
        ih hnames (Nat.succ.inj hlength) hrest ?_, rfl⟩
      · have hnone : others.filter (·.1 = some name) = [] :=
          List.filter_eq_nil_iff.2 fun m hm => by simpa using hothers m hm name List.mem_cons_self
        have hall : (field.toList.map (some name, ·)).filter (·.1 = some name) =
            field.toList.map (some name, ·) := by cases field <;> simp
        simpa [filter_membersOf hname, hnone, hall] using hperm.filter (·.1 = some name)
      · intro m hm name' hname'
        rcases List.mem_append.1 hm with hm | hm
        · obtain ⟨v, -, rfl⟩ := List.mem_map.1 hm
          rintro ⟨⟩
          exact hname hname'
        · exact hothers m hm name' (List.mem_cons_of_mem _ hname')

end

/-! ### Records -/

/-- What the fields of a record are. -/
theorem record?_eq_some_iff {names : List String} (hnames : names.Nodup)
    {fields : List (Option Value)} {v : Value} :
    record? names v = some fields ↔ RecordOf names fields v := by
  constructor
  · intro h
    cases v with
    | object members =>
      obtain ⟨⟨⟩, hguard, hfields⟩ := Option.bind_eq_some_iff.1 h
      obtain ⟨hlength, others, hperm, hothers⟩ := perm_of_fields hnames hfields
      refine .object hlength hperm fun m hm => ?_
      obtain ⟨key, hkey⟩ := Option.isSome_iff_exists.1
        (List.all_eq_true.1 ((Option.guard_eq_some' ()).1 hguard) m (hperm.mem_iff.2 (List.mem_append_right _ hm)))
      exact ⟨key, hkey, fun hname => hothers m hm key hname hkey⟩
    | array items =>
      obtain ⟨⟨⟩, hguard, hfields⟩ := Option.bind_eq_some_iff.1 h
      cases hfields
      exact .array (Nat.add_sub_cancel' ((Option.guard_eq_some' ()).1 hguard))
    | null | bool | integer | decimal | string | unpaired => cases h
  · intro h
    cases h with
    | @object _ members others hlength hperm hothers =>
      have hkeys : members.all (·.1.isSome) = true := by
        rw [List.all_eq_true]
        intro m hm
        rcases List.mem_append.1 (hperm.mem_iff.1 hm) with hm | hm
        · obtain ⟨name, -, hname⟩ := exists_name_of_mem_membersOf hm
          rw [hname]
          rfl
        · obtain ⟨key, hkey, -⟩ := hothers m hm
          rw [hkey]
          rfl
      refine Option.bind_eq_some_iff.2 ⟨(), (Option.guard_eq_some' ()).2 hkeys, fields_of_perm hnames hlength hperm ?_⟩
      intro m hm name hname hkey
      obtain ⟨key, hkey', hnot⟩ := hothers m hm
      rw [hkey, Option.some.injEq] at hkey'
      exact hnot (hkey' ▸ hname)
    | @array items missing hlength =>
      refine Option.bind_eq_some_iff.2 ⟨(), (Option.guard_eq_some' ()).2 (by omega), ?_⟩
      rw [← hlength, Nat.add_sub_cancel_left]
      rfl

/-! ### Single fields -/

theorem text?_eq_some_iff {field : Option Value} {s : String} :
    text? field = some s ↔ field = some (string s) := by
  constructor
  · intro h
    unfold text? at h
    split at h
    · rw [Option.some.inj h]
    · cases h
  · rintro rfl
    rfl

/-- A field for a text that may be absent: if it is, the field is missing or null. -/
def OptionalText (text : Option String) (field : Option Value) : Prop :=
  match text with
  | none => field = none ∨ field = some null
  | some s => field = some (string s)

theorem optionalText?_eq_some_iff {field : Option Value} {text : Option String} :
    optionalText? field = some text ↔ OptionalText text field := by
  constructor
  · intro h
    unfold optionalText? at h
    split at h
    · cases h
      exact .inl rfl
    · cases h
      exact .inr rfl
    · cases h
      exact rfl
    · cases h
  · intro h
    cases text with
    | none => rcases h with rfl | rfl <;> rfl
    | some s =>
      cases h
      rfl

/-- A field for a choice: its name, or an object that gives null for the name. -/
def ChoiceOf (name : String) (field : Option Value) : Prop :=
  field = some (string name) ∨ field = some (object [(some name, null)])

theorem choice?_eq_some_iff {field : Option Value} {name : String} :
    choice? field = some name ↔ ChoiceOf name field := by
  constructor
  · intro h
    unfold choice? at h
    split at h
    · cases h
      exact .inl rfl
    · cases h
      exact .inr rfl
    · cases h
  · rintro (rfl | rfl) <;> rfl

theorem int32?_eq_some_iff {field : Option Value} {n : Int32} :
    int32? field = some n ↔ field = some (integer n.toInt) := by
  constructor
  · intro h
    unfold int32? at h
    split at h
    · split at h
      · rename_i i hrange
        cases h
        rw [Int32.toInt_ofInt_of_le hrange.1 (Int.lt_of_le_of_lt hrange.2 (by decide))]
      · cases h
    · cases h
  · rintro rfl
    rw [int32?, if_pos ⟨Int32.minValue_le_toInt n, Int32.toInt_le n⟩, Int32.ofInt_toInt]

end Missive.Json.Value

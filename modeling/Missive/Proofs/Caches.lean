import Missive.Cache
import Missive.Proofs.Store.AnyStore

/-! What the caches of all tenants hold. In a cache the snapshots of its keys make up one dictionary
by slot: an operation adds at most the result that it brings, a ticket that is still accepted after
an invalidation was issued after it, and entries may be lost at any time. What is asked of the caches
is done with one of them, which is the one that its tenant is known to have unless it was given up
while it was held. -/

namespace Missive

/-- The operation brings a result to a slot. -/
def Cache.Op.brings : Cache.Op → Slot → Template → Prop
  | .put slot t, slot', t' => slot = slot' ∧ t = t'
  | .fill _ slot t, slot', t' => slot = slot' ∧ t = t'
  | _, _, _ => False

/-- The operation leaves what is cached as it is. -/
def Cache.Op.Looks : Cache.Op → Prop
  | .get _ | .ticket => True
  | _ => False

theorem Cache.Op.Looks.not_covers {op : Cache.Op} (h : op.Looks) (key : TemplateKey) :
    op.covers key = false := by
  cases op with
  | get | ticket => rfl
  | put | fill | invalidate | invalidateScenario => cases h

theorem Cache.Op.Looks.not_brings {op : Cache.Op} (h : op.Looks) (slot : Slot) (t : Template) :
    ¬op.brings slot t := by
  cases op with
  | get | ticket => exact id
  | put | fill | invalidate | invalidateScenario => cases h

/-- The operation drops results, and does nothing else. -/
def Cache.Op.Invalidates : Cache.Op → Prop
  | .invalidate _ | .invalidateScenario .. => True
  | _ => False

theorem Cache.Op.Invalidates.not_brings {op : Cache.Op} (h : op.Invalidates) (slot : Slot)
    (t : Template) : ¬op.brings slot t := by
  cases op with
  | get | ticket | put | fill => cases h
  | invalidate | invalidateScenario => exact id

/-! ### One cache -/

namespace Cache

/-- Under its own key a result takes the place of the one in its locale, and the others are copied;
the snapshots of other keys stay. -/
theorem get_put (keeps : Bool) (c : Cache) (slot slot' : Slot) (t : Template) :
    (c.put keeps slot t).get slot' =
      if keeps = true ∧ slot' = slot then some t else c.get slot' := by
  cases keeps with
  | false => simp [put]
  | true =>
    obtain ⟨key, locale⟩ := slot
    obtain ⟨key', locale'⟩ := slot'
    simp only [put, get, if_true, Dictionary.get?_put, true_and, Slot.mk.injEq]
    by_cases hkey : key' = key
    · subst hkey
      rw [if_pos rfl, Option.bind_some, Dictionary.get?_put]
      cases c.snapshots.get? key' <;> simp
    · rw [if_neg hkey, if_neg fun h => hkey h.1]

theorem get_drop (c : Cache) (dropped : TemplateKey → Bool) (slot : Slot) :
    (c.drop dropped).get slot = if dropped slot.key then none else c.get slot := by
  rw [get, get, drop, Dictionary.get?_retain]
  cases c.snapshots.get? slot.key with
  | none => simp
  | some snapshot => cases dropped slot.key <;> simp [Option.filter]

/-- Some entries are lost. -/
def lose (c : Cache) (lost : Slot → Bool) : Cache :=
  { c with snapshots := c.snapshots.map fun key snapshot =>
      snapshot.retain fun locale _ => !lost ⟨key, locale⟩ }

theorem get_lose (c : Cache) (lost : Slot → Bool) (slot : Slot) :
    (c.lose lost).get slot = if lost slot then none else c.get slot := by
  rw [get, get, lose, Dictionary.get?_map]
  cases c.snapshots.get? slot.key with
  | none => simp
  | some snapshot =>
    rw [Option.map_some, Option.bind_some, Option.bind_some, Dictionary.get?_retain]
    cases snapshot.get? slot.locale <;> cases lost slot <;> simp [Option.filter]

/-- What is there after an operation was there before and has not been dropped, or is what the
operation brings. -/
theorem get_answer {keeps : Bool} {op : Op} {c : Cache} {slot : Slot} {t : Template}
    (h : (answer keeps op c).2.get slot = some t) :
    (c.get slot = some t ∧ op.covers slot.key = false) ∨
      (op.brings slot t ∧ ∀ ticket slot t, op = .fill ticket slot t → c.epoch = ticket.epoch) := by
  cases op with
  | get | ticket => exact .inl ⟨h, rfl⟩
  | put slot' t' =>
    simp only [answer, get_put] at h
    split at h
    · rename_i hslot
      cases h
      exact .inr ⟨⟨hslot.2.symm, rfl⟩, by simp⟩
    · exact .inl ⟨h, rfl⟩
  | fill ticket slot' t' =>
    simp only [answer, fill] at h
    split at h
    · rename_i hepoch
      rw [get_put] at h
      split at h
      · rename_i hslot
        cases h
        refine .inr ⟨⟨hslot.2.symm, rfl⟩, ?_⟩
        rintro _ _ _ ⟨⟩
        exact hepoch
      · exact .inl ⟨h, rfl⟩
    · exact .inl ⟨h, rfl⟩
  | invalidate key =>
    simp only [answer, invalidate, get_drop] at h
    split at h
    · cases h
    · rename_i hkey
      exact .inl ⟨h, by simpa [Op.covers] using hkey⟩
  | invalidateScenario scenario channel =>
    simp only [answer, invalidateScenario, get_drop] at h
    split at h
    · cases h
    · rename_i hkey
      exact .inl ⟨h, by simpa [Op.covers] using hkey⟩

/-- An operation that brings nothing leaves an entry as it is, or drops it. -/
theorem get_answer_of_not_brings {op : Op} (h : op.Looks ∨ op.Invalidates) (keeps : Bool) (c : Cache)
    (slot : Slot) : (answer keeps op c).2.get slot = c.get slot ∨
      (answer keeps op c).2.get slot = none ∧ op.covers slot.key = true := by
  cases op with
  | get | ticket => exact .inl rfl
  | put | fill => rcases h with h | h <;> cases h
  | invalidate key =>
    simp only [answer, invalidate, get_drop]
    split
    · rename_i hkey
      exact .inr ⟨rfl, hkey⟩
    · exact .inl rfl
  | invalidateScenario scenario channel =>
    simp only [answer, invalidateScenario, get_drop]
    split
    · rename_i hkey
      exact .inr ⟨rfl, hkey⟩
    · exact .inl rfl

theorem epoch_le_answer (keeps : Bool) (op : Op) (c : Cache) :
    c.epoch ≤ (answer keeps op c).2.epoch := by
  cases op with
  | get | ticket => exact Nat.le_refl _
  | put slot t => cases keeps <;> exact Nat.le_refl _
  | fill ticket slot t =>
    simp only [answer, fill]
    split
    · cases keeps <;> exact Nat.le_refl _
    · exact Nat.le_refl _
  | invalidate | invalidateScenario => exact Nat.le_succ _

/-- An invalidation is counted. -/
theorem epoch_lt_answer {op : Op} {key : TemplateKey} (h : op.covers key = true) (keeps : Bool)
    (c : Cache) : c.epoch < (answer keeps op c).2.epoch := by
  cases op with
  | get | ticket | put | fill => cases h
  | invalidate | invalidateScenario => exact Nat.lt_succ_self _

end Cache

/-! ### Asking the caches -/

namespace Caches

/-- The query leaves what is cached as it is. -/
def Query.Looks : Query → Prop
  | .once _ op | .held _ op => op.Looks
  | .hold _ => True

/-- The query brings a result to a slot of a tenant. -/
def Query.Brings : Query → TenantId → Slot → Template → Prop
  | .once tenant op, tenant', slot, t => tenant = tenant' ∧ op.brings slot t
  | .held h op, tenant', slot, t => h.tenant = tenant' ∧ op.brings slot t
  | .hold _, _, _, _ => False

/-- The query drops what is cached under the key, in the cache that the tenant is known to have. -/
def Query.Drops : Query → TenantId → TemplateKey → Prop
  | .once tenant op, tenant', key => Store.News.Covers (tenant, op) tenant' key
  | .hold _, _, _ | .held .., _, _ => False

theorem Query.Looks.not_drops {q : Query} (h : q.Looks) (tenant : TenantId) (key : TemplateKey) :
    ¬q.Drops tenant key := by
  cases q with
  | once tenant' op =>
    rintro ⟨-, hcovers⟩
    rw [Cache.Op.Looks.not_covers h key] at hcovers
    cases hcovers
  | hold | held => exact id

/-- The cache is the one that its tenant is known to have. -/
def Registers (c : Caches) (h : Handle) : Prop := c.registered.get? h.tenant = some h.number

/-- What is in a slot of the cache that a tenant is known to have. -/
def entry (c : Caches) (tenant : TenantId) (slot : Slot) : Option Template :=
  (c.registered.get? tenant).bind fun number => (c.content ⟨tenant, number⟩).get slot

/-- The number of invalidations of a cache. -/
def epoch (c : Caches) (h : Handle) : Nat := (c.content h).epoch

/-- The caches have numbers of those that have been made. -/
structure Bounded (c : Caches) : Prop where
  registered : ∀ h, c.Registers h → h.number < c.made
  content : ∀ h, c.made ≤ h.number → c.content h = {}

variable {c : Caches} {tenant tenant' : TenantId} {slot : Slot} {t : Template} {h : Handle}
  {q : Query}

theorem entry_of_registers (hh : c.Registers h) (slot : Slot) :
    c.entry h.tenant slot = (c.content h).get slot := by
  rw [entry, hh]
  rfl

theorem registers_of_entry (hentry : c.entry tenant slot = some t) :
    ∃ h, h.tenant = tenant ∧ c.Registers h ∧ (c.content h).get slot = some t := by
  obtain ⟨number, hnumber, hget⟩ := Option.bind_eq_some_iff.1 hentry
  exact ⟨⟨tenant, number⟩, rfl, hnumber, hget⟩

theorem content_use (c : Caches) (h : Handle) (op : Cache.Op) (h' : Handle) :
    (c.use h op).2.content h' =
      if h' = h then (Cache.answer c.retention.keepsEntries op (c.content h)).2
      else c.content h' := by
  rw [content, use, Dictionary.get?_put]
  split <;> rfl

theorem content_make (c : Caches) (tenant : TenantId) (h : Handle) :
    (c.make tenant).2.content h = if h = ⟨tenant, c.made⟩ then {} else c.content h := by
  rw [content, make, Dictionary.get?_put]
  split <;> rfl

theorem registered_make (c : Caches) (tenant tenant' : TenantId) :
    (c.make tenant).2.registered.get? tenant' =
      if c.keepsPartitions = true ∧ tenant' = tenant then some c.made
      else c.registered.get? tenant' := by
  rw [make]
  cases c.keepsPartitions with
  | false => simp
  | true => simp [Dictionary.get?_put]

/-- A cache that is looked up is the one that is known, or a new one. -/
theorem hold_cases (c : Caches) (tenant : TenantId) :
    (∃ number, c.registered.get? tenant = some number ∧ c.hold tenant = (⟨tenant, number⟩, c)) ∨
      c.registered.get? tenant = none ∧ c.hold tenant = c.make tenant := by
  rw [hold]
  cases c.registered.get? tenant with
  | none => exact .inr ⟨rfl, rfl⟩
  | some number => exact .inl ⟨number, rfl, rfl⟩

theorem hold_of_registers (hh : c.Registers h) : c.hold h.tenant = (h, c) := by
  rw [hold, hh]

@[simp] theorem tenant_hold (c : Caches) (tenant : TenantId) :
    (c.hold tenant).1.tenant = tenant := by
  rcases c.hold_cases tenant with ⟨number, -, hhold⟩ | ⟨-, hhold⟩
  · rw [hhold]
  · rw [hhold]
    rfl

@[simp] theorem retention_hold (c : Caches) (tenant : TenantId) :
    (c.hold tenant).2.retention = c.retention := by
  rcases c.hold_cases tenant with ⟨number, -, hhold⟩ | ⟨-, hhold⟩
  · rw [hhold]
  · rw [hhold]
    rfl

theorem content_hold (hc : c.Bounded) (tenant : TenantId) (h : Handle) :
    (c.hold tenant).2.content h = c.content h := by
  rcases c.hold_cases tenant with ⟨number, -, hhold⟩ | ⟨-, hhold⟩
  · rw [hhold]
  · rw [hhold, content_make]
    split
    · rename_i hnew
      rw [hnew, hc.content _ (Nat.le_refl _)]
    · rfl

/-- To look a cache up leaves everything that is cached. -/
theorem entry_hold (c : Caches) (tenant tenant' : TenantId) (slot : Slot) :
    (c.hold tenant).2.entry tenant' slot = c.entry tenant' slot := by
  rcases c.hold_cases tenant with ⟨number, -, hhold⟩ | ⟨hnone, hhold⟩
  · rw [hhold]
  rw [hhold, entry, entry, registered_make]
  split
  · rename_i hplace
    rw [hplace.2, hnone, Option.bind_some, content_make, if_pos rfl]
    rfl
  · refine Option.bind_congr fun number hnumber => ?_
    rw [content_make, if_neg]
    rintro ⟨⟩
    rw [hnone] at hnumber
    cases hnumber

/-- A cache that is looked up has what its tenant's shows. -/
theorem get_hold (c : Caches) (tenant : TenantId) (slot : Slot) :
    ((c.hold tenant).2.content (c.hold tenant).1).get slot = c.entry tenant slot := by
  rcases c.hold_cases tenant with ⟨number, hnumber, hhold⟩ | ⟨hnone, hhold⟩
  · rw [hhold, entry, hnumber]
    rfl
  · have hnew : (c.make tenant).2.content (c.make tenant).1 = {} :=
      (c.content_make ..).trans (if_pos rfl)
    rw [hhold, hnew, entry, hnone]
    rfl

theorem registers_hold (hh : (c.hold tenant).2.Registers h) :
    c.Registers h ∨ h = (c.hold tenant).1 := by
  rcases c.hold_cases tenant with ⟨number, -, hhold⟩ | ⟨hnone, hhold⟩
  · rw [hhold] at hh
    exact .inl hh
  rw [hhold, Registers, registered_make] at hh
  split at hh
  · rename_i hplace
    right
    rw [hhold]
    obtain ⟨tenant', number⟩ := h
    obtain ⟨-, rfl⟩ := hplace
    cases hh
    rfl
  · exact .inl hh

/-- A cache that becomes known is new. -/
theorem registers_of_hold (hh : (c.hold tenant).2.Registers h) :
    c.Registers h ∨ c.made ≤ h.number := by
  rcases registers_hold hh with hh | rfl
  · exact .inl hh
  · rcases c.hold_cases tenant with ⟨number, hnumber, hhold⟩ | ⟨-, hhold⟩
    · rw [hhold]
      exact .inl hnumber
    · rw [hhold]
      exact .inr (Nat.le_refl _)

/-- A cache that is known stays known while others are looked up. -/
theorem Registers.hold (hh : c.Registers h) (tenant : TenantId) : (c.hold tenant).2.Registers h := by
  rcases c.hold_cases tenant with ⟨number, -, hhold⟩ | ⟨hnone, hhold⟩
  · rw [hhold]
    exact hh
  · rw [hhold, Registers, registered_make, if_neg]
    · exact hh
    · rintro ⟨-, rfl⟩
      rw [Registers, hnone] at hh
      cases hh

theorem made_le_hold (c : Caches) (tenant : TenantId) : c.made ≤ (c.hold tenant).2.made := by
  rcases c.hold_cases tenant with ⟨number, -, hhold⟩ | ⟨-, hhold⟩
  · exact Nat.le_of_eq (by rw [hhold])
  · rw [hhold]
    exact Nat.le_succ _

namespace Bounded

theorem empty (retention : Retention) : Bounded { retention } where
  registered _ hh := by cases hh
  content _ _ := rfl

/-- A cache that has something has been made. -/
theorem made_of_get (hc : c.Bounded) (hget : (c.content h).get slot = some t) :
    h.number < c.made := by
  by_contra hnot
  rw [hc.content h (Nat.not_lt.1 hnot)] at hget
  cases hget

theorem number_hold (hc : c.Bounded) (tenant : TenantId) :
    (c.hold tenant).1.number < (c.hold tenant).2.made := by
  rcases c.hold_cases tenant with ⟨number, hnumber, hhold⟩ | ⟨-, hhold⟩
  · rw [hhold]
    exact hc.registered ⟨tenant, number⟩ hnumber
  · rw [hhold]
    exact Nat.lt_succ_self _

theorem hold (hc : c.Bounded) (tenant : TenantId) : (c.hold tenant).2.Bounded where
  registered h hh := by
    rcases registers_hold hh with hh | rfl
    · exact Nat.lt_of_lt_of_le (hc.registered h hh) (c.made_le_hold tenant)
    · exact hc.number_hold tenant
  content h hh := by
    rw [content_hold hc]
    exact hc.content h (Nat.le_trans (c.made_le_hold tenant) hh)

theorem use (hc : c.Bounded) (hh : h.number < c.made) (op : Cache.Op) : (c.use h op).2.Bounded where
  registered := hc.registered
  content h' hh' := by
    have hne : h' ≠ h := by
      rintro rfl
      exact absurd hh (Nat.not_lt.2 hh')
    rw [content_use, if_neg hne]
    exact hc.content h' hh'

end Bounded

/-- The query is about caches that have been made. -/
def Query.Made (c : Caches) : Query → Prop
  | .held h _ => h.number < c.made
  | .once .. | .hold _ => True

theorem Bounded.answer (hc : c.Bounded) (hq : q.Made c) : (Caches.answer q c).2.Bounded := by
  cases q with
  | once tenant op => exact (hc.hold tenant).use (hc.number_hold tenant) op
  | hold tenant => exact hc.hold tenant
  | held h op => exact hc.use hq op

theorem made_le_answer (q : Query) (c : Caches) : c.made ≤ (answer q c).2.made := by
  cases q with
  | once tenant op => exact c.made_le_hold tenant
  | hold tenant => exact c.made_le_hold tenant
  | held => exact Nat.le_refl _

theorem Registers.answer (hh : c.Registers h) (q : Query) : (Caches.answer q c).2.Registers h := by
  cases q with
  | once tenant op => exact hh.hold tenant
  | hold tenant => exact hh.hold tenant
  | held => exact hh

theorem registers_of_answer (hh : (answer q c).2.Registers h) :
    c.Registers h ∨ c.made ≤ h.number := by
  cases q with
  | once tenant op => exact registers_of_hold hh
  | hold tenant => exact registers_of_hold hh
  | held => exact .inl hh

/-- The query does something with the cache. -/
def Query.Uses (c : Caches) (h : Handle) (op : Cache.Op) : Query → Prop
  | .once tenant op' => h = (c.hold tenant).1 ∧ op' = op
  | .held h' op' => h = h' ∧ op' = op
  | .hold _ => False

theorem Query.Uses.unique {op op' : Cache.Op} (h₁ : q.Uses c h op) (h₂ : q.Uses c h op') :
    op = op' := by
  cases q with
  | once | held => exact h₁.2.symm.trans h₂.2
  | hold => cases h₁

/-- What is in a cache comes of what is done with it. -/
theorem content_answer (hc : c.Bounded) (q : Query) (h : Handle) :
    (∃ op, q.Uses c h op ∧ (answer q c).2.content h =
      (Cache.answer c.retention.keepsEntries op (c.content h)).2) ∨
    (∀ op, ¬q.Uses c h op) ∧ (answer q c).2.content h = c.content h := by
  cases q with
  | hold tenant => exact .inr ⟨fun _ => id, content_hold hc tenant h⟩
  | held h' op =>
    by_cases hh : h = h'
    · subst hh
      exact .inl ⟨op, ⟨rfl, rfl⟩, (content_use c h op h).trans (if_pos rfl)⟩
    · exact .inr ⟨fun _ huses => hh huses.1, (content_use c h' op h).trans (if_neg hh)⟩
  | once tenant op =>
    have hcontent := content_use (c.hold tenant).2 (c.hold tenant).1 op h
    simp only [content_hold hc, retention_hold] at hcontent
    by_cases hh : h = (c.hold tenant).1
    · subst hh
      exact .inl ⟨op, ⟨rfl, rfl⟩, hcontent.trans (if_pos rfl)⟩
    · exact .inr ⟨fun _ huses => hh huses.1, hcontent.trans (if_neg hh)⟩

/-- What is dropped is dropped from the cache that the tenant is known to have. -/
theorem Query.Drops.uses {key : TemplateKey} (hq : q.Drops h.tenant key) (hh : c.Registers h) :
    ∃ op, q.Uses c h op ∧ op.covers key = true := by
  cases q with
  | once tenant op =>
    obtain ⟨rfl, hcovers⟩ := hq
    exact ⟨op, ⟨by rw [hold_of_registers hh], rfl⟩, hcovers⟩
  | hold | held => cases hq

theorem epoch_le_answer (hc : c.Bounded) (q : Query) (h : Handle) :
    c.epoch h ≤ (answer q c).2.epoch h := by
  rcases content_answer hc q h with ⟨op, -, hcontent⟩ | ⟨-, hcontent⟩
  · rw [epoch, epoch, hcontent]
    exact Cache.epoch_le_answer ..
  · exact Nat.le_of_eq (congrArg Cache.epoch hcontent.symm)

/-- What a cache has after a query it had before, unless it was dropped from the cache that is
known, or it is what the query brings. -/
theorem get_answer (hc : c.Bounded) (hget : ((answer q c).2.content h).get slot = some t) :
    ((c.content h).get slot = some t ∧ (q.Drops h.tenant slot.key → ¬c.Registers h)) ∨
      ∃ op, q.Uses c h op ∧ op.brings slot t ∧
        ∀ ticket slot t, op = .fill ticket slot t → c.epoch h = ticket.epoch := by
  rcases content_answer hc q h with ⟨op, huses, hcontent⟩ | ⟨hnot, hcontent⟩
  · rw [hcontent] at hget
    rcases Cache.get_answer hget with ⟨hbefore, hcovers⟩ | ⟨hbrings, hepoch⟩
    · refine .inl ⟨hbefore, fun hdrops hh => ?_⟩
      obtain ⟨op', huses', hcovers'⟩ := hdrops.uses hh
      obtain rfl := huses.unique huses'
      rw [hcovers] at hcovers'
      cases hcovers'
    · exact .inr ⟨op, huses, hbrings, hepoch⟩
  · rw [hcontent] at hget
    refine .inl ⟨hget, fun hdrops hh => ?_⟩
    obtain ⟨op, huses, -⟩ := hdrops.uses hh
    exact hnot op huses

/-- A ticket from before an invalidation is not accepted after it. -/
theorem epoch_eq_of_answer (hc : c.Bounded) {ticket : Cache.Ticket}
    (hticket : ticket.epoch ≤ c.epoch h) (haccepts : (answer q c).2.epoch h = ticket.epoch) :
    c.epoch h = ticket.epoch ∧ ∀ key, q.Drops h.tenant key → ¬c.Registers h := by
  have hle := epoch_le_answer hc q h
  refine ⟨by omega, fun key hdrops hh => ?_⟩
  obtain ⟨op, huses, hcovers⟩ := hdrops.uses hh
  rcases content_answer hc q h with ⟨op', huses', hcontent⟩ | ⟨hnot, -⟩
  · obtain rfl := huses.unique huses'
    have hlt := Cache.epoch_lt_answer hcovers c.retention.keepsEntries (c.content h)
    rw [epoch, hcontent] at haccepts
    rw [epoch] at hticket
    omega
  · exact hnot op huses

/-! ### What the tenants' caches show -/

theorem entry_use (hh : c.Registers h) (op : Cache.Op) (slot : Slot) :
    (c.use h op).2.entry h.tenant slot =
      (Cache.answer c.retention.keepsEntries op (c.content h)).2.get slot := by
  have hh' : (c.use h op).2.Registers h := hh
  rw [entry_of_registers hh', content_use, if_pos rfl]

/-- Elsewhere nothing is shown of it. -/
theorem entry_use_of_not (hh : h.tenant = tenant → ¬c.Registers h) (op : Cache.Op) (slot : Slot) :
    (c.use h op).2.entry tenant slot = c.entry tenant slot := by
  refine Option.bind_congr fun number hnumber => ?_
  rw [content_use, if_neg]
  rintro rfl
  exact hh rfl hnumber

/-- What a tenant's cache shows stays as it is, or comes of what is done with a cache that shows the
same. -/
theorem entry_answer_cases (q : Query) (c : Caches) (tenant : TenantId) (slot : Slot) :
    (answer q c).2.entry tenant slot = c.entry tenant slot ∧
        (∀ key, q.Drops tenant key → c.entry tenant slot = none) ∨
      ∃ op cache, (q = .once tenant op ∨ ∃ h, h.tenant = tenant ∧ q = .held h op) ∧
        cache.get slot = c.entry tenant slot ∧ (answer q c).2.entry tenant slot =
          (Cache.answer c.retention.keepsEntries op cache).2.get slot := by
  cases q with
  | hold tenant' => exact .inl ⟨c.entry_hold tenant' tenant slot, fun _ => False.elim⟩
  | held h op =>
    by_cases hplace : h.tenant = tenant ∧ c.Registers h
    · obtain ⟨rfl, hh⟩ := hplace
      exact .inr ⟨op, c.content h, .inr ⟨h, rfl, rfl⟩, (entry_of_registers hh slot).symm,
        entry_use hh op slot⟩
    · exact .inl ⟨entry_use_of_not (not_and.1 hplace) op slot, fun _ => False.elim⟩
  | once tenant' op =>
    have htenant := c.tenant_hold tenant'
    have hentry := c.entry_hold tenant' tenant slot
    by_cases hplace : (c.hold tenant').1.tenant = tenant ∧
        (c.hold tenant').2.Registers (c.hold tenant').1
    · obtain ⟨rfl, hh⟩ := hplace
      refine .inr ⟨op, (c.hold tenant').2.content (c.hold tenant').1, .inl (by rw [htenant]), ?_, ?_⟩
      · rw [← entry_of_registers hh, hentry]
      · rw [← c.retention_hold tenant']
        exact entry_use hh op slot
    · refine .inl ⟨(entry_use_of_not (not_and.1 hplace) op slot).trans hentry, fun key hdrops => ?_⟩
      -- A cache that shows anything is the one that is looked up.
      by_contra hsome
      obtain ⟨t, ht⟩ := Option.ne_none_iff_exists'.1 hsome
      obtain ⟨h, rfl, hh, -⟩ := registers_of_entry ht
      obtain rfl : tenant' = h.tenant := hdrops.1
      rw [hold_of_registers hh] at hplace
      exact hplace ⟨rfl, hh⟩

/-- What is there after a query was there before and has not been dropped, or is what the query
brings. -/
theorem entry_answer (hentry : (answer q c).2.entry tenant slot = some t) :
    c.entry tenant slot = some t ∧ ¬q.Drops tenant slot.key ∨ q.Brings tenant slot t := by
  rcases entry_answer_cases q c tenant slot with ⟨hsame, hdrops⟩ | ⟨op, cache, hq, hshows, hafter⟩
  · rw [hsame] at hentry
    refine .inl ⟨hentry, fun hdropped => ?_⟩
    rw [hdrops _ hdropped] at hentry
    cases hentry
  · rw [hafter] at hentry
    rcases Cache.get_answer hentry with ⟨hbefore, hcovers⟩ | ⟨hbrings, -⟩
    · refine .inl ⟨hshows.symm.trans hbefore, ?_⟩
      rcases hq with rfl | ⟨h, rfl, rfl⟩
      · rintro ⟨-, hdrops⟩
        rw [hcovers] at hdrops
        cases hdrops
      · exact id
    · rcases hq with rfl | ⟨h, rfl, rfl⟩ <;> exact .inr ⟨rfl, hbrings⟩

/-- A query that looks or drops leaves an entry as it is, or drops it. -/
theorem entry_answer_of_not_brings
    (hq : q.Looks ∨ ∃ tenant op, q = .once tenant op ∧ op.Invalidates) (c : Caches)
    (tenant : TenantId) (slot : Slot) :
    (answer q c).2.entry tenant slot = c.entry tenant slot ∨
      (answer q c).2.entry tenant slot = none ∧ q.Drops tenant slot.key := by
  rcases entry_answer_cases q c tenant slot with ⟨hsame, -⟩ | ⟨op, cache, hplace, hshows, hafter⟩
  · exact .inl hsame
  have hop : op.Looks ∨ op.Invalidates := by
    rcases hplace with rfl | ⟨h, rfl, rfl⟩ <;> rcases hq with hlooks | ⟨_, _, heq, hop⟩
    · exact .inl hlooks
    · cases heq
      exact .inr hop
    · exact .inl hlooks
    · cases heq
  rw [hafter, ← hshows]
  refine (Cache.get_answer_of_not_brings hop c.retention.keepsEntries cache slot).imp_right ?_
  rintro ⟨hnone, hcovers⟩
  refine ⟨hnone, ?_⟩
  rcases hplace with rfl | ⟨h, rfl, rfl⟩
  · exact ⟨rfl, hcovers⟩
  · rcases hq with hlooks | ⟨_, _, heq, -⟩
    · rw [Cache.Op.Looks.not_covers hlooks] at hcovers
      cases hcovers
    · cases heq

/-! ### Losses -/

/-- Some of a tenant's results are lost. -/
def evict (c : Caches) (tenant : TenantId) (lost : Slot → Bool) : Caches :=
  { c with contents := c.contents.map fun h cache =>
      if h.tenant = tenant then cache.lose lost else cache }

theorem content_evict (c : Caches) (tenant : TenantId) (lost : Slot → Bool) (h : Handle) :
    (c.evict tenant lost).content h =
      if h.tenant = tenant then (c.content h).lose lost else c.content h := by
  rw [content, content, evict, Dictionary.get?_map]
  cases c.contents.get? h with
  | none => split <;> rfl
  | some cache => rfl

theorem epoch_evict (c : Caches) (tenant : TenantId) (lost : Slot → Bool) (h : Handle) :
    (c.evict tenant lost).epoch h = c.epoch h := by
  rw [epoch, content_evict]
  split <;> rfl

theorem get_of_evict {lost : Slot → Bool}
    (hget : ((c.evict tenant lost).content h).get slot = some t) :
    (c.content h).get slot = some t := by
  rw [content_evict] at hget
  split at hget
  · rw [Cache.get_lose] at hget
    split at hget
    · cases hget
    · exact hget
  · exact hget

theorem entry_of_evict {lost : Slot → Bool}
    (hentry : (c.evict tenant lost).entry tenant' slot = some t) :
    c.entry tenant' slot = some t := by
  obtain ⟨h, rfl, hh, hget⟩ := registers_of_entry hentry
  have hh : c.Registers h := hh
  rw [entry_of_registers hh]
  exact get_of_evict hget

theorem Bounded.evict (hc : c.Bounded) (tenant : TenantId) (lost : Slot → Bool) :
    (c.evict tenant lost).Bounded where
  registered := hc.registered
  content h hh := by
    rw [content_evict, hc.content h hh]
    split <;> rfl

/-- A tenant's cache is given up, with the count of its invalidations; only those who hold it have it
still. -/
def forget (c : Caches) (tenant : TenantId) : Caches :=
  { c with registered := c.registered.erase tenant }

theorem registers_of_forget (hh : (c.forget tenant).Registers h) : c.Registers h := by
  rw [Registers, forget, Dictionary.get?_erase] at hh
  split at hh
  · cases hh
  · exact hh

theorem entry_of_forget (hentry : (c.forget tenant).entry tenant' slot = some t) :
    c.entry tenant' slot = some t := by
  obtain ⟨h, rfl, hh, hget⟩ := registers_of_entry hentry
  rw [entry_of_registers (registers_of_forget hh)]
  exact hget

theorem Bounded.forget (hc : c.Bounded) (tenant : TenantId) : (c.forget tenant).Bounded where
  registered h hh := hc.registered h (registers_of_forget hh)
  content := hc.content

/-! ### Several queries -/

/-- What the caches are after a list of queries. -/
def afterAll (c : Caches) (asked : List Query) : Caches :=
  asked.foldl (fun c q => (answer q c).2) c

/-- Queries that look or drop leave an entry as it is, or one of them drops it. -/
theorem entry_afterAll (c : Caches) (tenant : TenantId) (slot : Slot) {asked : List Query}
    (h : ∀ q ∈ asked, q.Looks ∨ ∃ tenant op, q = .once tenant op ∧ op.Invalidates) :
    (c.afterAll asked).entry tenant slot = c.entry tenant slot ∨
      (c.afterAll asked).entry tenant slot = none ∧ ∃ q ∈ asked, q.Drops tenant slot.key := by
  induction asked generalizing c with
  | nil => exact .inl rfl
  | cons q rest ih =>
    obtain ⟨hq, hrest⟩ := List.forall_mem_cons.1 h
    rcases ih (answer q c).2 hrest with hsame | ⟨hnone, q', hq', hdrops⟩
    · rcases entry_answer_of_not_brings hq c tenant slot with hkept | ⟨hnone, hdrops⟩
      · exact .inl (hsame.trans hkept)
      · exact .inr ⟨hsame.trans hnone, q, List.mem_cons_self, hdrops⟩
    · exact .inr ⟨hnone, q', List.mem_cons_of_mem q hq', hdrops⟩

end Caches
end Missive

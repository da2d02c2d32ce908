import Mathlib.Data.List.Induction
import Missive.Proofs.Caches

/-! A cache that loses nothing, told by what was done with it. Which tickets it accepts and what is in
it can be read off the operations so far and the replies to them (`past_decides`). -/

namespace Missive.Cache

/-- An operation with the reply to it. -/
abbrev Event := (op : Op) × op.Reply

/-- What was done with a cache, the latest last, and the cache as it is then. -/
structure Past where
  events : List Event := []
  cache : Cache := {}

namespace Past

/-- One more operation, on a cache that keeps what is put into it. -/
def extend (past : Past) (op : Op) : Past where
  events := past.events ++ [⟨op, (answer true op past.cache).1⟩]
  cache := (answer true op past.cache).2

/-- The operations in turn, on a new cache. -/
def ofOps (ops : List Op) : Past := ops.foldl extend {}

theorem ofOps_concat (ops : List Op) (op : Op) : ofOps (ops ++ [op]) = (ofOps ops).extend op :=
  List.foldl_concat ..

end Past

/-- The event is a result coming in to a slot: one that is put there, or a fill that is accepted. -/
inductive Event.Stores (slot : Slot) (t : Template) : Event → Prop where
  | put : Stores slot t ⟨.put slot t, ()⟩
  | fill {ticket} : Stores slot t ⟨.fill ticket slot t, true⟩

/-- The event decides what is in the slot: a result comes in, or the results under the key are
dropped. -/
def Event.Concerns (e : Event) (slot : Slot) : Prop :=
  (∃ t, e.Stores slot t) ∨ e.1.covers slot.key = true

/-- The last event that concerns the slot is this result coming in. -/
def Latest (events : List Event) (slot : Slot) (t : Template) : Prop :=
  ∃ earlier e later, events = earlier ++ e :: later ∧ e.Stores slot t ∧
    ∀ e' ∈ later, ¬e'.Concerns slot

variable {c : Cache} {op : Op} {slot : Slot} {t : Template} {events : List Event} {e : Event}

/-! ### One operation -/

theorem fill_of_eq {ticket : Ticket} (h : c.epoch = ticket.epoch) (slot : Slot) (t : Template) :
    answer true (.fill ticket slot t) c = (true, c.put true slot t) :=
  if_pos h

theorem fill_of_ne {ticket : Ticket} (h : c.epoch ≠ ticket.epoch) (slot : Slot) (t : Template) :
    answer true (.fill ticket slot t) c = (false, c) :=
  if_neg h

/-- A slot that an operation does not concern stays as it is. -/
theorem get_answer_of_not_concerns (h : ¬Event.Concerns ⟨op, (answer true op c).1⟩ slot) :
    (answer true op c).2.get slot = c.get slot := by
  obtain ⟨hstores, hcovers⟩ := not_or.1 h
  cases op with
  | get | ticket => rfl
  | put slot' t' =>
    refine (get_put true c slot' slot t').trans (if_neg ?_)
    rintro ⟨-, rfl⟩
    exact hstores ⟨t', .put⟩
  | fill ticket slot' t' =>
    by_cases hepoch : c.epoch = ticket.epoch
    · rw [fill_of_eq hepoch] at hstores ⊢
      refine (get_put true c slot' slot t').trans (if_neg ?_)
      rintro ⟨-, rfl⟩
      exact hstores ⟨t', .fill⟩
    · rw [fill_of_ne hepoch]
  | invalidate | invalidateScenario =>
    refine (get_drop c _ slot).trans (if_neg ?_)
    simpa [Op.covers] using hcovers

theorem get_answer_of_stores (h : Event.Stores slot t ⟨op, (answer true op c).1⟩) :
    (answer true op c).2.get slot = some t := by
  cases op with
  | get | ticket | invalidate | invalidateScenario => cases h
  | put slot' t' =>
    cases h
    exact (get_put true c slot slot t).trans (if_pos ⟨rfl, rfl⟩)
  | fill ticket slot' t' =>
    by_cases hepoch : c.epoch = ticket.epoch
    · rw [fill_of_eq hepoch] at h ⊢
      cases h
      exact (get_put true c slot slot t).trans (if_pos ⟨rfl, rfl⟩)
    · rw [fill_of_ne hepoch] at h
      cases h

theorem get_answer_of_covers (h : op.covers slot.key = true) :
    (answer true op c).2.get slot = none := by
  cases op with
  | get | ticket | put | fill => cases h
  | invalidate | invalidateScenario =>
    exact (get_drop c _ slot).trans (if_pos (by simpa [Op.covers] using h))

/-- What is in a slot after an operation has come in by it, or was there and is not concerned. -/
theorem get_answer_iff :
    (answer true op c).2.get slot = some t ↔
      Event.Stores slot t ⟨op, (answer true op c).1⟩ ∨
        c.get slot = some t ∧ ¬Event.Concerns ⟨op, (answer true op c).1⟩ slot := by
  constructor
  · intro h
    by_cases hconcerns : Event.Concerns ⟨op, (answer true op c).1⟩ slot
    · rcases hconcerns with ⟨t', hstores⟩ | hcovers
      · rw [get_answer_of_stores hstores] at h
        cases h
        exact .inl hstores
      · rw [get_answer_of_covers hcovers] at h
        cases h
    · rw [get_answer_of_not_concerns hconcerns] at h
      exact .inr ⟨h, hconcerns⟩
  · rintro (hstores | ⟨h, hconcerns⟩)
    · exact get_answer_of_stores hstores
    · rwa [get_answer_of_not_concerns hconcerns]

theorem epoch_answer_of_invalidates (h : op.Invalidates) :
    (answer true op c).2.epoch = c.epoch + 1 := by
  cases op with
  | get | ticket | put | fill => cases h
  | invalidate | invalidateScenario => rfl

/-- Nothing else is counted. -/
theorem epoch_answer_of_not (h : ¬op.Invalidates) : (answer true op c).2.epoch = c.epoch := by
  cases op with
  | get | ticket | put => rfl
  | fill ticket slot t =>
    by_cases hepoch : c.epoch = ticket.epoch
    · rw [fill_of_eq hepoch]
      rfl
    · rw [fill_of_ne hepoch]
  | invalidate | invalidateScenario => exact absurd trivial h

/-! ### All operations so far -/

theorem latest_concat : Latest (events ++ [e]) slot t ↔
    e.Stores slot t ∨ Latest events slot t ∧ ¬e.Concerns slot := by
  constructor
  · rintro ⟨earlier, e', later, hevents, hstores, hlater⟩
    rcases concat_eq_append_cons hevents with ⟨-, -, rfl⟩ | ⟨between, rfl, rfl⟩
    · exact .inl hstores
    · rw [List.forall_mem_append, List.forall_mem_singleton] at hlater
      exact .inr ⟨⟨earlier, e', between, rfl, hstores, hlater.1⟩, hlater.2⟩
  · rintro (hstores | ⟨⟨earlier, e', later, rfl, hstores, hlater⟩, he⟩)
    · exact ⟨events, e, [], rfl, hstores, by simp⟩
    · refine ⟨earlier, e', later ++ [e], by simp, hstores, ?_⟩
      rw [List.forall_mem_append, List.forall_mem_singleton]
      exact ⟨hlater, he⟩

/-- What the events so far tell of the cache. -/
structure Past.Tells (past : Past) : Prop where
  /-- A ticket is as old as the cache exactly if there was no invalidation since. -/
  issued : ∀ earlier ticket later, past.events = earlier ++ ⟨.ticket, ticket⟩ :: later →
    ticket.epoch ≤ past.cache.epoch ∧
      (past.cache.epoch = ticket.epoch ↔ ∀ e ∈ later, ¬e.1.Invalidates)
  latest : ∀ slot t, past.cache.get slot = some t ↔ Latest past.events slot t

namespace Past

variable {past : Past}

theorem tells_new : Tells {} where
  issued := by
    intro earlier ticket later h
    simp at h
  latest := by
    intro slot t
    refine iff_of_false (by simp [get]) ?_
    rintro ⟨earlier, e, later, h, -⟩
    simp at h

theorem Tells.extend (h : past.Tells) (op : Op) : (past.extend op).Tells where
  issued := by
    intro earlier ticket later hevents
    have hevents : past.events ++ [⟨op, (answer true op past.cache).1⟩] =
        earlier ++ ⟨.ticket, ticket⟩ :: later := hevents
    change ticket.epoch ≤ (answer true op past.cache).2.epoch ∧
      ((answer true op past.cache).2.epoch = ticket.epoch ↔ _)
    rcases concat_eq_append_cons hevents with ⟨rfl, -, heq⟩ | ⟨between, rfl, hbefore⟩
    · cases heq
      simp [answer, issue]
    · obtain ⟨hle, hiff⟩ := h.issued _ _ _ hbefore
      rw [List.forall_mem_append, List.forall_mem_singleton, ← hiff]
      by_cases hop : op.Invalidates
      · rw [epoch_answer_of_invalidates hop]
        simp only [hop, not_true, and_false, iff_false]
        omega
      · rw [epoch_answer_of_not hop]
        simpa only [hop, not_false_eq_true, and_true, iff_self] using hle
  latest := by
    intro slot t
    rw [Past.extend, latest_concat, ← h.latest]
    exact get_answer_iff

/-- By induction on the operations, one at the end at a time. -/
theorem tells_ofOps (ops : List Op) : (ofOps ops).Tells := by
  induction ops using List.reverseRecOn with
  | nil => exact tells_new
  | append_singleton ops op ih =>
    rw [ofOps_concat]
    exact ih.extend op

/-- How the events so far decide what comes of the next operation. -/
structure Decides (past : Past) : Prop where
  /-- A fill is accepted exactly if nothing was invalidated since its ticket was issued. -/
  accepts_iff : ∀ earlier ticket later, past.events = earlier ++ ⟨.ticket, ticket⟩ :: later →
    ∀ slot t, (answer true (.fill ticket slot t) past.cache).1 = true ↔
      ∀ e ∈ later, ¬e.1.Invalidates
  fills : ∀ ticket slot t, (answer true (.fill ticket slot t) past.cache).1 = true →
    (answer true (.fill ticket slot t) past.cache).2.get slot = some t
  refuses : ∀ ticket slot t, (answer true (.fill ticket slot t) past.cache).1 = false →
    (answer true (.fill ticket slot t) past.cache).2 = past.cache
  gets_iff : ∀ slot t,
    (answer true (.get slot) past.cache).1 = some t ↔ Latest past.events slot t
  /-- Only results that come in to a slot and invalidations of its key affect it. -/
  frame : ∀ (op : Op) slot, (∀ t, ¬op.brings slot t) → op.covers slot.key = false →
    (answer true op past.cache).2.get slot = past.cache.get slot

end Past

theorem Event.Stores.brings (h : Event.Stores slot t e) : e.1.brings slot t := by
  cases h <;> exact ⟨rfl, rfl⟩

/-- After any operations with any tickets, the cache is as its history says. -/
theorem past_decides (ops : List Op) : (Past.ofOps ops).Decides where
  accepts_iff := by
    intro earlier ticket later hevents slot t
    rw [← ((Past.tells_ofOps ops).issued _ _ _ hevents).2]
    by_cases hepoch : (Past.ofOps ops).cache.epoch = ticket.epoch
    · simp [fill_of_eq hepoch, hepoch]
    · simp [fill_of_ne hepoch, hepoch]
  fills := by
    intro ticket slot t haccepted
    refine get_answer_of_stores ?_
    rw [haccepted]
    exact .fill
  refuses := by
    intro ticket slot t hrefused
    by_cases hepoch : (Past.ofOps ops).cache.epoch = ticket.epoch
    · rw [fill_of_eq hepoch] at hrefused
      cases hrefused
    · rw [fill_of_ne hepoch]
  gets_iff := (Past.tells_ofOps ops).latest
  frame := by
    intro op slot hbrings hcovers
    refine get_answer_of_not_concerns ?_
    rintro (⟨t, hstores⟩ | hcovered)
    · exact hbrings t hstores.brings
    · rw [hcovers] at hcovered
      cases hcovered

end Missive.Cache

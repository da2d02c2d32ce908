import Missive.Proofs.Layers.Reading
import Missive.Proofs.Service.Orderly
import Missive.Store.Tree

/-! Operations one after another, in adverse surroundings: before any request cached results may be
lost, and any store call may fail and have no effect. Nevertheless everything in the caches is what
would be found in the store, except under what is still to be dropped (`Current`). -/

namespace Missive.Service

open Store

/-- Cached results are lost, for want of room or because their time is over. -/
inductive Loss where
  | results (tenant : TenantId) (lost : Slot → Bool)
  /-- A tenant's cache is lost as a whole. -/
  | cache (tenant : TenantId)

def Loss.strike : Loss → Caches → Caches
  | results tenant lost, c => c.evict tenant lost
  | cache tenant, c => c.forget tenant

/-- What happens when a request is made. -/
structure Incident where
  losses : List Loss := []
  /-- The error that a store call fails with. -/
  fault : Option Store.Error := none

namespace Incident

def strike (i : Incident) (s : State AnyStore) : State AnyStore :=
  { s with caches := i.losses.foldl (fun c loss => loss.strike c) s.caches }

/-- A store call that fails has no effect. -/
def answer (i : Incident) : Program.Handler Request Request.Answer (State AnyStore)
  | .store call, s =>
    match i.fault with
    | some e => (.error e, i.strike s)
    | none => Service.answer AnyStore.backend (.store call) (i.strike s)
  | q, s => Service.answer AnyStore.backend q (i.strike s)

end Incident

/-- A cache that is held has nothing new after losses. -/
theorem Incident.get_of_strike {i : Incident} {s : State AnyStore} {handle : Handle} {slot : Slot}
    {t : Template} (h : ((i.strike s).caches.content handle).get slot = some t) :
    (s.caches.content handle).get slot = some t := by
  obtain ⟨losses, fault⟩ := i
  rw [strike] at h
  induction losses generalizing s with
  | nil => exact h
  | cons loss rest ih =>
    rw [List.foldl_cons] at h
    have hget := ih (s := { s with caches := loss.strike s.caches }) h
    cases loss with
    | results tenant lost => exact Caches.get_of_evict hget
    | cache tenant => exact hget

/-- A template that a tenant's cache had for a request. -/
structure Hit where
  tenant : TenantId
  slot : Slot
  template : Template

def hits : (q : Request) → q.Answer → List Hit
  | .cache (.held h (.get slot)), some template => [{ tenant := h.tenant, slot, template }]
  | .cache (.once tenant (.get slot)), some template => [{ tenant, slot, template }]
  | _, _ => []

/-- The course of the operations. -/
structure Course where
  state : State AnyStore
  /-- What will happen at the requests to come; nothing more after the end of the list. -/
  incidents : List Incident := []
  /-- What the caches have answered so far. -/
  hits : List Hit := []

namespace Course

def answer : Program.Handler Request Request.Answer Course := fun q c =>
  let (a, state) := (c.incidents.headD {}).answer q c.state
  (a, { state, incidents := c.incidents.tail, hits := c.hits ++ Service.hits q a })

/-- No store call will fail. -/
def Faultless (c : Course) : Prop := ∀ i ∈ c.incidents, i.fault = none

theorem Faultless.head {c : Course} (h : c.Faultless) : (c.incidents.headD {}).fault = none := by
  cases hincidents : c.incidents with
  | nil => rfl
  | cons i rest =>
    apply h
    rw [hincidents]
    exact List.mem_cons_self

theorem Faultless.answer {c : Course} (h : c.Faultless) (q : Request) :
    (Course.answer q c).2.Faultless :=
  fun i hi => h i (List.mem_of_mem_tail hi)

end Course

/-- An operation with its outcome. -/
abbrev Event := (o : Operation) × Except Failure o.Reply

/-- What there is to tell of one operation. -/
structure Report where
  event : Event
  /-- The state in which it was asked for. -/
  before : State AnyStore
  /-- What the caches have answered. -/
  hits : List Hit

/-- The course without what the caches have answered so far. -/
def Course.anew (c : Course) : Course := { c with hits := [] }

/-- The operations of a course, one after another. -/
def reports (service : Service) : List Operation → Course → List Report
  | [], _ => []
  | o :: rest, c =>
    let (outcome, c') := (service.program o).run Course.answer c.anew
    { event := ⟨o, outcome⟩, before := c.state, hits := c'.hits } :: reports service rest c'

/-- The start over an empty store, with nothing cached. -/
def Course.start (kind : Kind) (retention : Retention) (tenants : Tenant.Lookup)
    (incidents : List Incident) : Course where
  state := { store := .empty kind, caches := { retention }, tenants }
  incidents := incidents

/-- Everything in the caches is what would be found in the store, except under what is pending. -/
structure Current (layers : Layers) (pending : Option News) (s : State AnyStore) : Prop where
  store : s.store.Sound
  entries : ∀ {tenant slot t}, s.caches.entry tenant slot = some t →
    (∃ n, pending = some n ∧ n.Covers tenant slot.key) ∨
      ∀ r : ResolveRequest, r.scope.tenant = tenant → r.slot = slot → layers.Finds s.store r t

namespace Current

variable {layers : Layers} {pending : Option News} {s : State AnyStore}

theorem start (layers : Layers) (kind : Kind) (retention : Retention) (tenants : Tenant.Lookup)
    (incidents : List Incident) :
    Current layers none (Course.start kind retention tenants incidents).state where
  store := AnyStore.sound_empty kind
  entries := by
    rintro tenant slot t ⟨⟩

theorem mono {pending' : Option News} (h : Current layers pending s)
    (hpending : ∀ n, pending = some n → pending' = some n) : Current layers pending' s where
  store := h.store
  entries hentry := (h.entries hentry).imp_left fun ⟨n, hn, hcovers⟩ => ⟨n, hpending n hn, hcovers⟩

/-- It does not matter if results are lost. -/
theorem fewer {caches : Caches} (h : Current layers pending s)
    (hentries : ∀ {tenant slot t}, caches.entry tenant slot = some t →
      s.caches.entry tenant slot = some t) : Current layers pending { s with caches } where
  store := h.store
  entries hentry := h.entries (hentries hentry)

theorem strike (h : Current layers pending s) (i : Incident) :
    Current layers pending (i.strike s) := by
  obtain ⟨losses, fault⟩ := i
  rw [Incident.strike]
  induction losses generalizing s with
  | nil => exact h
  | cons loss rest ih =>
    rw [List.foldl_cons]
    cases loss with
    | results tenant lost => exact ih (h.fewer Caches.entry_of_evict)
    | cache tenant => exact ih (h.fewer Caches.entry_of_forget)

/-- What was pending is done. -/
theorem drop (h : Current layers pending s) {tenant : TenantId} {op : Cache.Op}
    (hop : op.Invalidates) (hpending : ∀ n, pending = some n → n = (tenant, op)) :
    Current layers none (Service.answer AnyStore.backend (.cache (.once tenant op)) s).2 where
  store := h.store
  entries {tenant' slot t} hentry := by
    right
    rcases Caches.entry_answer (q := .once tenant op) hentry with ⟨hentry, hdropped⟩ | ⟨-, hbrings⟩
    · rcases h.entries hentry with ⟨n, hn, hcovers⟩ | hfinds
      · obtain rfl := hpending n hn
        exact absurd hcovers hdropped
      · exact hfinds
    · exact absurd hbrings (hop.not_brings slot t)

/-- The caches may be offered what is in the store. -/
theorem cache (h : Current layers none s) {q : Caches.Query}
    (hbrings : ∀ tenant slot t, q.Brings tenant slot t → ∀ r : ResolveRequest,
      r.scope.tenant = tenant → r.slot = slot → layers.Finds s.store r t) :
    Current layers none (Service.answer AnyStore.backend (.cache q) s).2 where
  store := h.store
  entries {tenant slot t} hentry := by
    rcases Caches.entry_answer (q := q) hentry with ⟨hentry, -⟩ | hop
    · exact h.entries hentry
    · exact .inr (hbrings tenant slot t hop)

/-- A store call leaves pending what its answer tells of. -/
theorem call (h : Current layers none s) {c : Call} (hc : c.Admissible) :
    Current layers (c.news (AnyStore.backend c s.store).1)
      (Service.answer AnyStore.backend (.store c) s).2 where
  store := h.store.step hc
  entries {tenant slot t} hentry := by
    rcases h.entries hentry with ⟨n, hn, -⟩ | hfinds
    · cases hn
    by_cases hsame : ∀ p : Position, p.scope.tenant = tenant → p.key = slot.key →
        (AnyStore.backend c s.store).2.read p = s.store.read p
    · right
      rintro r rfl rfl
      exact (hfinds r rfl rfl).frame hsame
    · left
      push Not at hsame
      obtain ⟨p, rfl, hkey, hread⟩ := hsame
      obtain ⟨n, hn, hcovers⟩ := h.store.news hc hread
      rw [hkey] at hcovers
      exact ⟨n, hn, hcovers⟩

end Current

theorem Current.answer_tenant {layers : Layers} {pending : Option News} {c : Course}
    (h : Current layers pending c.state) (domain : String) :
    Current layers pending (Course.answer (.tenant domain) c).2.state where
  store := h.store
  entries := (h.strike _).entries

theorem Current.answer_cache {layers : Layers} {c : Course} (h : Current layers none c.state)
    {q : Caches.Query} (hbrings : ∀ tenant slot t, q.Brings tenant slot t → ∀ r : ResolveRequest,
      r.scope.tenant = tenant → r.slot = slot → layers.Finds c.state.store r t) :
    Current layers none (Course.answer (.cache q) c).2.state :=
  (h.strike _).cache hbrings

/-- What the program has left is pending after it, or nothing if it failed. -/
def leftBy {α : Type} (left : α → Option News) : Except Failure α → Option News
  | .ok x => left x
  | .error _ => none

/-- A program that keeps the caches informed leaves them current, and takes nothing from them. -/
theorem Orderly.run {layers : Layers} {α : Type} {left : α → Option News} {pending : Option News}
    {p : ServiceProgram α} (h : Orderly left pending p) {c : Course}
    (hc : Current layers pending c.state) :
    Current layers (leftBy left (p.run Course.answer c).1) (p.run Course.answer c).2.state ∧
      (p.run Course.answer c).2.hits = c.hits := by
  induction h generalizing c with
  | returns hpending => exact ⟨hc.mono hpending, rfl⟩
  | fails e => exact ⟨hc, rfl⟩
  | @drops pending tenant op next hpending hop _ ih =>
    have hstep : Current layers none (Course.answer (.cache (.once tenant op)) c).2.state :=
      (hc.strike _).drop hop hpending
    obtain ⟨hcurrent, hhits⟩ := ih _ hstep
    refine ⟨hcurrent, hhits.trans ?_⟩
    cases op with
    | get | ticket | put | fill => cases hop
    | invalidate | invalidateScenario => exact List.append_nil _
  | @asks domain next _ ih =>
    obtain ⟨hcurrent, hhits⟩ := ih _ (hc.answer_tenant domain)
    exact ⟨hcurrent, hhits.trans (List.append_nil _)⟩
  | @calls call next hcall _ ih =>
    have hstep : Current layers (call.news (Course.answer (.store call) c).1)
        (Course.answer (.store call) c).2.state := by
      rw [Course.answer, Incident.answer]
      cases (c.incidents.headD {}).fault with
      | some e =>
        simp only [Call.news_error]
        exact hc.strike _
      | none => exact (hc.strike _).call hcall
    obtain ⟨hcurrent, hhits⟩ := ih _ hstep
    exact ⟨hcurrent, hhits.trans (List.append_nil _)⟩

theorem Quiet.run {layers : Layers} {α : Type} {p : ServiceProgram α} (h : Quiet p) {c : Course}
    (hc : Current layers none c.state) :
    Current layers none (p.run Course.answer c).2.state ∧
      (p.run Course.answer c).2.hits = c.hits := by
  have hleft : ∀ x : Except Failure α, leftBy (fun _ => none) x = none := by
    intro x
    cases x <;> rfl
  have hrun := Orderly.run h hc
  rwa [hleft] at hrun

end Missive.Service

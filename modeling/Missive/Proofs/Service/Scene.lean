import Missive.Proofs.Caches
import Missive.Service

/-! Operations side by side. Any number of them are under way; a move starts one, lets one of them
make its next request, lets a store call fail, or lets cached results or a whole cache be lost. Moves
come in any order, so every request of one operation may fall between any two of another. -/

namespace Missive.Service

open Store

/-- Dropping what is cached under the key. -/
def Request.Drops (q : Request) (tenant : TenantId) (key : TemplateKey) : Prop :=
  match q with
  | .cache query => query.Drops tenant key
  | .tenant _ | .store _ => False

/-- An operation that is under way, or has ended. -/
structure Task where
  operation : Operation
  /-- What is left to do. -/
  rest : ServiceProgram operation.Reply
  /-- The tenants and keys under which it has changed what is read in the store, and has not dropped
  what is cached since. -/
  changed : TenantId → TemplateKey → Prop := fun _ _ => False

namespace Task

/-- The next request is to drop what is cached under the key. -/
def AboutToDrop (task : Task) (tenant : TenantId) (key : TemplateKey) : Prop :=
  ∃ q next, task.rest = .perform q next ∧ q.Drops tenant key

/-- Goes on with the answer to a request, during which the store may have changed. -/
def goOn (o : Operation) (changed : TenantId → TemplateKey → Prop) (q : Request)
    (next : q.Answer → ServiceProgram o.Reply) (a : q.Answer) (before after : AnyStore) : Task where
  operation := o
  rest := next a
  changed tenant key := (changed tenant key ∧ ¬q.Drops tenant key) ∨
    ∃ p : Position, p.scope.tenant = tenant ∧ p.key = key ∧ after.read p ≠ before.read p

end Task

/-- The surroundings and the tasks, in the order in which they were started. -/
structure Scene where
  world : State AnyStore
  tasks : List Task := []

inductive Move where
  | start (o : Operation)
  /-- A task makes its next request. -/
  | step (task : Nat)
  /-- The next request of a task is a store call, which fails. -/
  | fault (task : Nat) (e : Store.Error)
  /-- Some cached results of a tenant are lost. -/
  | lose (tenant : TenantId) (lost : Slot → Bool)
  /-- A tenant's cache is given up; the tasks that hold it go on with it. -/
  | forget (tenant : TenantId)

namespace Scene

/-- The start over an empty store, with nothing cached and nothing under way. -/
def start (kind : Kind) (retention : Retention) (tenants : Tenant.Lookup) : Scene where
  world := { store := .empty kind, caches := { retention }, tenants }

def move (service : Service) (s : Scene) : Move → Scene
  | .start o => { s with tasks := s.tasks ++ [{ operation := o, rest := service.program o }] }
  | .step i =>
    match s.tasks[i]? with
    | some ⟨o, .perform q next, changed⟩ =>
      let (a, world) := answer AnyStore.backend q s.world
      { world, tasks := s.tasks.set i (.goOn o changed q next a s.world.store world.store) }
    | _ => s
  | .fault i e =>
    match s.tasks[i]? with
    | some ⟨o, .perform (.store c) next, changed⟩ =>
      let task := .goOn o changed (.store c) next (.error e) s.world.store s.world.store
      { s with tasks := s.tasks.set i task }
    | _ => s
  | .lose tenant lost => { s with world.caches := s.world.caches.evict tenant lost }
  | .forget tenant => { s with world.caches := s.world.caches.forget tenant }

def play (service : Service) (s : Scene) (moves : List Move) : Scene := moves.foldl (move service) s

end Scene

/-- What a request may be answered: as the surroundings are, or by an error with which a store call
may fail. -/
inductive Answers (fails : Store.Error → Prop) (w : State AnyStore) :
    (q : Request) → q.Answer → State AnyStore → Prop where
  | answer (q : Request) :
      Answers fails w q (answer AnyStore.backend q w).1 (answer AnyStore.backend q w).2
  | fault (c : Call) {e : Store.Error} : fails e → Answers fails w (.store c) (.error e) w

/-- What a move can do. -/
inductive Scene.Moves (service : Service) (fails : Nat → Store.Error → Prop) (s : Scene) :
    Scene → Prop where
  | still : Moves service fails s s
  | start (o : Operation) : Moves service fails s
      { s with tasks := s.tasks ++ [{ operation := o, rest := service.program o }] }
  | answer {i o changed q next a w} : s.tasks[i]? = some ⟨o, .perform q next, changed⟩ →
      Answers (fails i) s.world q a w →
      Moves service fails s
        { world := w, tasks := s.tasks.set i (.goOn o changed q next a s.world.store w.store) }
  | lose (tenant : TenantId) (lost : Slot → Bool) :
      Moves service fails s { s with world.caches := s.world.caches.evict tenant lost }
  | forget (tenant : TenantId) :
      Moves service fails s { s with world.caches := s.world.caches.forget tenant }

theorem Scene.moves_move (service : Service) (s : Scene) (m : Move) :
    s.Moves service (fun i e => m = .fault i e) (s.move service m) := by
  cases m with
  | start o => exact .start o
  | lose tenant lost => exact .lose tenant lost
  | forget tenant => exact .forget tenant
  | step i =>
    simp only [move]
    split
    · rename_i o q next changed htask
      exact .answer htask (.answer q)
    · exact .still
  | fault i e =>
    simp only [move]
    split
    · rename_i o c next changed htask
      exact .answer htask (.fault c rfl)
    · exact .still

/-! ### Answers to requests -/

namespace Answers

variable {w w' : State AnyStore} {fails : Store.Error → Prop}

theorem of_tenant {domain : String} {a : (Request.tenant domain).Answer}
    (h : Answers fails w (.tenant domain) a w') :
    a = (w.tenants.resolve domain).1 ∧ w'.store = w.store ∧ w'.caches = w.caches := by
  cases h
  exact ⟨rfl, rfl, rfl⟩

theorem of_cache {query : Caches.Query} {a : (Request.cache query).Answer}
    (h : Answers fails w (.cache query) a w') :
    a = (Caches.answer query w.caches).1 ∧ w'.store = w.store ∧
      w'.caches = (Caches.answer query w.caches).2 := by
  cases h
  exact ⟨rfl, rfl, rfl⟩

theorem of_store {c : Call} {a : (Request.store c).Answer}
    (h : Answers fails w (.store c) a w') :
    w'.caches = w.caches ∧
      ((a = (AnyStore.backend c w.store).1 ∧ w'.store = (AnyStore.backend c w.store).2) ∨
        ∃ e, a = .error e ∧ fails e ∧ w'.store = w.store) := by
  cases h with
  | answer => exact ⟨rfl, .inl ⟨rfl, rfl⟩⟩
  | fault _ hfails => exact ⟨rfl, .inr ⟨_, rfl, hfails, rfl⟩⟩

variable {q : Request} {a : q.Answer} (h : Answers fails w q a w')
include h

/-- The caches after an answer are the same, or as they are after a query. -/
theorem caches_cases : (w'.caches = w.caches ∧ ∀ tenant key, ¬q.Drops tenant key) ∨
    ∃ query, q = .cache query ∧ w'.caches = (Caches.answer query w.caches).2 := by
  cases q with
  | tenant domain => exact .inl ⟨h.of_tenant.2.2, fun _ _ => id⟩
  | store c => exact .inl ⟨h.of_store.1, fun _ _ => id⟩
  | cache query => exact .inr ⟨query, rfl, h.of_cache.2.2⟩

theorem made_le : w.caches.made ≤ w'.caches.made := by
  rcases h.caches_cases with ⟨hsame, -⟩ | ⟨query, -, hafter⟩
  · exact Nat.le_of_eq (congrArg Caches.made hsame.symm)
  · rw [hafter]
    exact Caches.made_le_answer ..

theorem epoch_le (hcaches : w.caches.Bounded) (handle : Handle) :
    w.caches.epoch handle ≤ w'.caches.epoch handle := by
  rcases h.caches_cases with ⟨hsame, -⟩ | ⟨query, -, hafter⟩
  · exact Nat.le_of_eq (congrArg (Caches.epoch · handle) hsame.symm)
  · rw [hafter]
    exact Caches.epoch_le_answer hcaches query handle

theorem registers {handle : Handle} (hhandle : w.caches.Registers handle) :
    w'.caches.Registers handle := by
  rcases h.caches_cases with ⟨hsame, -⟩ | ⟨query, -, hafter⟩
  · rw [hsame]
    exact hhandle
  · rw [hafter]
    exact hhandle.answer query

/-- A cache that becomes known is new. -/
theorem of_registers {handle : Handle} (hhandle : w'.caches.Registers handle) :
    w.caches.Registers handle ∨ w.caches.made ≤ handle.number := by
  rcases h.caches_cases with ⟨hsame, -⟩ | ⟨query, -, hafter⟩
  · rw [hsame] at hhandle
    exact .inl hhandle
  · rw [hafter] at hhandle
    exact Caches.registers_of_answer hhandle

/-- A ticket that is still accepted has not been overtaken in the cache that is known. -/
theorem epoch_eq (hcaches : w.caches.Bounded) {handle : Handle} {ticket : Cache.Ticket}
    (hticket : ticket.epoch ≤ w.caches.epoch handle)
    (hepoch : w'.caches.epoch handle = ticket.epoch) :
    w.caches.epoch handle = ticket.epoch ∧
      ∀ key, q.Drops handle.tenant key → ¬w.caches.Registers handle := by
  rcases h.caches_cases with ⟨hsame, hdrops⟩ | ⟨query, rfl, hafter⟩
  · rw [hsame] at hepoch
    exact ⟨hepoch, fun key hdropped => absurd hdropped (hdrops _ key)⟩
  · rw [hafter] at hepoch
    exact Caches.epoch_eq_of_answer hcaches hticket hepoch

end Answers
end Missive.Service

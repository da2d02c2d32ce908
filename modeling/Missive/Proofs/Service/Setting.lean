import Missive.Proofs.Layers.Observing
import Missive.Proofs.Service.Plain

/-! What operations ensure whatever happens around them. The tenant lookup answers as it does, a store
call has its effect or, where faults are possible, fails without one, and of the caches nothing is
known but what they have been asked. What a program ensures under these conditions holds of its run in
any course (`Assures.run`). -/

namespace Missive

open Store

namespace Service

/-- The surroundings of an operation, with the ledger that the store keeps. -/
@[ext]
structure Setting where
  store : AnyStore
  ledger : Ledger
  keeps : store.Keeps ledger
  sound : ledger.Sound
  tenants : Tenant.Lookup
  /-- What has been asked of the caches so far. -/
  asked : List Caches.Query

namespace Setting

/-- After a store call that has had its effect. -/
def call (s : Setting) (c : Call) (hc : c.Admissible) : Setting :=
  { s with
    store := (AnyStore.backend c s.store).2
    ledger := (Ledger.backend c s.ledger).2
    keeps := (AnyStore.simulates_ledger s.keeps s.sound hc).2.1
    sound := s.sound.step hc }

/-- After the tenant of a domain was asked for. -/
def told (s : Setting) (domain : String) : Setting :=
  { s with tenants := (s.tenants.resolve domain).2 }

/-- After the caches were asked. -/
def asking (s : Setting) (query : Caches.Query) : Setting :=
  { s with asked := s.asked ++ [query] }

variable {s : Setting}

theorem call_of_observes {c : Call} (h : c.Observes) : s.call c h.admissible = s := by
  ext1
  · exact h.backend s.store
  · exact h.ledger s.ledger
  · rfl
  · rfl

/-- How a call is answered that has its effect, told from the ledger. -/
theorem agrees (s : Setting) {c : Call} (hc : c.Admissible) :
    c.Agrees s.store.form (AnyStore.backend c s.store).1 (Ledger.backend c s.ledger).1 :=
  (AnyStore.simulates_ledger s.keeps s.sound hc).1

theorem shows (s : Setting) : Shows AnyStore.backend s.store s.ledger s.store.form :=
  shows_of_keeps s.keeps s.sound

/-- The second setting differs from the first only in what the store has, which is told by a
ledger. -/
structure Becomes (s : Setting) (l : Ledger) (s' : Setting) : Prop where
  ledger : s'.ledger = l
  form : s'.store.form = s.store.form
  tenants : s'.tenants = s.tenants
  asked : s'.asked = s.asked

theorem Becomes.refl (s : Setting) : s.Becomes s.ledger s := ⟨rfl, rfl, rfl, rfl⟩

theorem becomes_call (s : Setting) {c : Call} (hc : c.Admissible) :
    s.Becomes (Ledger.backend c s.ledger).2 (s.call c hc) :=
  ⟨rfl, (AnyStore.simulates_ledger s.keeps s.sound hc).2.2, rfl, rfl⟩

theorem Becomes.trans {s' s'' : Setting} {l l' : Ledger} (h : s.Becomes l s')
    (h' : s'.Becomes l' s'') : s.Becomes l' s'' :=
  ⟨h'.ledger, h'.form.trans h.form, h'.tenants.trans h.tenants, h'.asked.trans h.asked⟩

end Setting

def Request.Admissible : Request → Prop
  | .store c => c.Admissible
  | .tenant _ | .cache _ => True

/-- How a request may be answered in a setting, and the setting after it. -/
inductive Responds (faulty : Prop) : (q : Request) → Setting → q.Answer → Setting → Prop where
  | tenant (domain : String) (s : Setting) :
      Responds faulty (.tenant domain) s (s.tenants.resolve domain).1 (s.told domain)
  | cache (query : Caches.Query) (s : Setting) (a : query.Reply) :
      Responds faulty (.cache query) s a (s.asking query)
  | call (c : Call) (hc : c.Admissible) (s : Setting) :
      Responds faulty (.store c) s (AnyStore.backend c s.store).1 (s.call c hc)
  | fault (c : Call) (e : Store.Error) (s : Setting) : faulty →
      Responds faulty (.store c) s (.error e) s

/-- The program makes admissible calls, and comes to an outcome and a setting as asked for. -/
abbrev Assures {α : Type} (faulty : Prop) (post : Except Failure α → Setting → Prop)
    (p : ServiceProgram α) (s : Setting) : Prop :=
  p.Ensures Request.Admissible (Responds faulty) post s

/-! ### Runs -/

/-- The course is in the setting, which it has reached from the given caches. Unless there may be
faults or losses, there will be none. -/
structure Course.In (faulty lossy : Prop) (caches : Caches) (c : Course) (s : Setting) : Prop where
  store : c.state.store = s.store
  tenants : c.state.tenants = s.tenants
  faultless : ¬faulty → c.Faultless
  lossless : ¬lossy → ∀ i ∈ c.incidents, i.losses = []
  caches : ¬lossy → c.state.caches = caches.afterAll s.asked

section

variable {faulty lossy : Prop} {caches : Caches} {c : Course} {s : Setting}

theorem Incident.strike_eq {i : Incident} (h : i.losses = []) (w : State AnyStore) :
    i.strike w = w := by
  rw [strike, h]
  rfl

theorem Course.In.headD_losses (h : c.In faulty lossy caches s) (hlossy : ¬lossy) :
    (c.incidents.headD {}).losses = [] := by
  cases hincidents : c.incidents with
  | nil => rfl
  | cons i rest => exact h.lossless hlossy i (hincidents ▸ List.mem_cons_self)

theorem Course.In.anew (h : c.In faulty lossy caches s) : c.anew.In faulty lossy caches s :=
  ⟨h.store, h.tenants, h.faultless, h.lossless, h.caches⟩

/-- The course answers as it may in its setting. -/
theorem Course.In.answer (h : c.In faulty lossy caches s) {q : Request} (hq : q.Admissible) :
    ∃ s', Responds faulty q s (Course.answer q c).1 s' ∧
      (Course.answer q c).2.In faulty lossy caches s' := by
  have hfaultless : ¬faulty → (Course.answer q c).2.Faultless := fun hf => (h.faultless hf).answer q
  have hlossless : ¬lossy → ∀ i ∈ (Course.answer q c).2.incidents, i.losses = [] :=
    fun hlossy i hi => h.lossless hlossy i (List.mem_of_mem_tail hi)
  -- What is left of the caches when the request is answered.
  have hcaches : ¬lossy → ((c.incidents.headD {}).strike c.state).caches = caches.afterAll s.asked :=
    fun hlossy => by rw [Incident.strike_eq (h.headD_losses hlossy), h.caches hlossy]
  cases q with
  | tenant domain =>
    have hanswer : (Course.answer (.tenant domain) c).1 = (s.tenants.resolve domain).1 :=
      congrArg (fun tenants => (Tenant.Lookup.resolve tenants domain).1) h.tenants
    rw [hanswer]
    refine ⟨_, .tenant domain s, h.store, ?_, hfaultless, hlossless, hcaches⟩
    exact congrArg (fun tenants => (Tenant.Lookup.resolve tenants domain).2) h.tenants
  | cache query =>
    refine ⟨_, .cache query s _, h.store, h.tenants, hfaultless, hlossless, fun hlossy => ?_⟩
    rw [Setting.asking, Caches.afterAll, List.foldl_append]
    exact congrArg (fun caches => (Caches.answer query caches).2) (hcaches hlossy)
  | store call =>
    cases hfault : (c.incidents.headD {}).fault with
    | some e =>
      have hanswer : Course.answer (.store call) c = (.error e,
          ⟨(c.incidents.headD {}).strike c.state, c.incidents.tail, c.hits ++ []⟩) := by
        simp only [Course.answer, Incident.answer, hfault]
        rfl
      have hfaulty : faulty := by
        by_contra hnot
        rw [(h.faultless hnot).head] at hfault
        cases hfault
      rw [hanswer] at hfaultless hlossless ⊢
      exact ⟨s, .fault call e s hfaulty, h.store, h.tenants, hfaultless, hlossless, hcaches⟩
    | none =>
      have hanswer : Course.answer (.store call) c = ((AnyStore.backend call s.store).1,
          ⟨{ (c.incidents.headD {}).strike c.state with store := (AnyStore.backend call s.store).2 },
            c.incidents.tail, c.hits ++ []⟩) := by
        simp only [Course.answer, Incident.answer, hfault, ← h.store]
        rfl
      rw [hanswer] at hfaultless hlossless ⊢
      exact ⟨s.call call hq, .call call hq s, rfl, h.tenants, hfaultless, hlossless, hcaches⟩

/-- What is assured in the setting of a course holds after a run. -/
theorem Assures.run {α : Type} {p : ServiceProgram α} {post : Except Failure α → Setting → Prop}
    (hp : Assures faulty post p s) (h : c.In faulty lossy caches s) :
    ∃ s', post (p.run Course.answer c).1 s' ∧
      (p.run Course.answer c).2.In faulty lossy caches s' := by
  refine Program.Ensures.run (h := Course.answer) (R := Course.In faulty lossy caches) ?_ hp h
  exact fun _ _ _ hq hc => hc.answer hq

end

end Service
end Missive

import Missive.Proofs.Service.Evidence

/-! Dropping beats filling. Whatever is cached comes from reads that an invalidation has not
overtaken; so, in any interleaving, it is what would be found in the store, unless a task has changed
the store under its key and is about to drop it. The invariant (`Fine`) holds for any evidence that
takes account of what readers are answered, and it is used with two: with what is in the store now,
and with what has been in the store since some moment. -/

namespace Missive.Service

open Store StoreProgram

/-- Everything in the trusted caches is supported by the evidence, and so will be what comes in. -/
structure Fine (layers : Layers) (ev : Evidence) (sure : Nat → Prop) (s : Scene) : Prop
    extends Backed layers ev s.world.caches where
  store : s.world.store.Sound
  /-- Whoever is sure of the evidence finds caches that are trusted, new ones included. -/
  unmade : ∀ {j}, sure j → ∀ h : Handle, s.world.caches.made ≤ h.number → ev.trusts h
  tasks : ∀ {j task}, s.tasks[j]? = some task →
    Standing layers ev s.world.caches (sure j) task

variable {layers : Layers} {ev ev' : Evidence} {sure : Prop}

/-- How the evidence may change when a request is answered: it admits less only of what the request
drops, and that only from the caches that are known. -/
structure Renews (ev ev' : Evidence) (q : Request) (w w' : State AnyStore) : Prop where
  places : ∀ {p q : Position} {a}, p.ref = q.ref → ev'.read p a → ev'.read q a
  told : ∀ domain x, ev.told domain x → ev'.told domain x
  fails : ∀ e, ev.fails e → ev'.fails e
  read : ∀ p a, ev.read p a → ¬q.Drops p.scope.tenant p.key → ev'.read p a
  registered : ∀ h, w'.caches.Registers h → ev'.trusts h
  trusts : ∀ h : Handle, ev'.trusts h → h.number < w.caches.made → ev.trusts h
  elsewhere : ∀ h : Handle, ev'.trusts h → h.number < w.caches.made → ¬w.caches.Registers h →
    ∀ p a, p.scope.tenant = h.tenant → ev.read p a → ev'.read p a

/-- What was read for a trusted cache counts unless it is dropped from that cache. -/
theorem Renews.kept {q : Request} {w w' : State AnyStore} (h : Renews ev ev' q w w')
    {handle : Handle} (htrusts : ev'.trusts handle) (hmade : handle.number < w.caches.made)
    {p : Position} {a} (htenant : p.scope.tenant = handle.tenant)
    (hdrops : q.Drops handle.tenant p.key → ¬w.caches.Registers handle) (hread : ev.read p a) :
    ev'.read p a := by
  by_cases hregistered : w.caches.Registers handle
  · refine h.read p a hread fun hdropped => ?_
    rw [htenant] at hdropped
    exact hdrops hdropped hregistered
  · exact h.elsewhere handle htrusts hmade hregistered p a htenant hread

/-- What is known where a look-up makes a request holds of the new evidence too, since the request
drops nothing. -/
theorem Knows.renew {w w' : State AnyStore} {fails : Store.Error → Prop} {q : Request}
    {a : q.Answer} (h : Knows layers ev sure fails w) (hanswer : Answers fails w q a w')
    (hrenews : Renews ev ev' q w w') (hdrops : ∀ tenant key, ¬q.Drops tenant key)
    (hsure : sure → ∀ h, ev.trusts h → ev'.trusts h) : Knows layers ev' sure fails w where
  toBacked := h.toBacked.weaken hrenews.places (fun p a hp => hrenews.read p a hp (hdrops _ _))
    (fun _ hhandle => hrenews.registered _ (hanswer.registers hhandle)) hrenews.trusts
  read p := hrenews.read _ _ (h.read p) (hdrops _ _)
  told domain := hrenews.told _ _ (h.told domain)
  fails hyes e he := hrenews.fails e (h.fails hyes e he)
  unmade hyes handle hnew := hsure hyes handle (h.unmade hyes handle hnew)

namespace Fine

variable {sure : Nat → Prop} {s : Scene} {j : Nat} {o : Operation} {q : Request}
  {next : q.Answer → ServiceProgram o.Reply} {a : q.Answer} {w : State AnyStore}
  {changed : TenantId → TemplateKey → Prop} {fails : Store.Error → Prop}

theorem knows (h : Fine layers ev sure s) (j : Nat) (hread : ∀ p, ev.read p (s.world.store.read p))
    (htold : ∀ domain, ev.told domain (s.world.tenants.resolve domain).1)
    (hfails : sure j → ∀ e, fails e → ev.fails e) : Knows layers ev (sure j) fails s.world where
  toBacked := h.toBacked
  read := hread
  told := htold
  fails := hfails
  unmade := h.unmade

/-- A task asks for caches that have been made. -/
theorem made (h : Fine layers ev sure s) {query : Caches.Query}
    {next : query.Reply → ServiceProgram o.Reply}
    (htask : s.tasks[j]? = some ⟨o, .perform (.cache query) next, changed⟩) :
    query.Made s.world.caches := by
  cases h.tasks htask with
  | working _ horderly _ =>
    cases horderly with
    | drops => trivial
  | lookingUp hlook _ =>
    rcases hlook.queries with ⟨_, rfl⟩ | ⟨_, _, rfl, hmade, -⟩
    · trivial
    · exact hmade

theorem bounded_answer (h : Fine layers ev sure s)
    (htask : s.tasks[j]? = some ⟨o, .perform q next, changed⟩)
    (hanswer : Answers fails s.world q a w) : w.caches.Bounded := by
  rcases hanswer.caches_cases with ⟨hsame, -⟩ | ⟨query, rfl, hafter⟩
  · rw [hsame]
    exact h.bounded
  · rw [hafter]
    exact h.bounded.answer (h.made htask)

/-- What a trusted cache has after a request is supported, and has not been dropped by it. -/
theorem get_answer (h : Fine layers ev sure s)
    (htask : s.tasks[j]? = some ⟨o, .perform q next, changed⟩)
    (hanswer : Answers fails s.world q a w) {handle : Handle}
    (htrusts : handle.number < s.world.caches.made → ev.trusts handle) {slot : Slot} {t : Template}
    (hget : (w.caches.content handle).get slot = some t) :
    handle.number < s.world.caches.made ∧
      (q.Drops handle.tenant slot.key → ¬s.world.caches.Registers handle) ∧
      ∃ r : ResolveRequest, r.scope.tenant = handle.tenant ∧ r.slot = slot ∧
        ev.Supports layers r t := by
  -- A cache that has something was made before.
  have hbefore : (s.world.caches.content handle).get slot = some t →
      handle.number < s.world.caches.made ∧ ∃ r : ResolveRequest,
        r.scope.tenant = handle.tenant ∧ r.slot = slot ∧ ev.Supports layers r t := by
    intro hsome
    have hmade := h.bounded.made_of_get hsome
    exact ⟨hmade, h.entries (htrusts hmade) hsome⟩
  rcases hanswer.caches_cases with ⟨hsame, hdrops⟩ | ⟨query, rfl, hafter⟩
  · rw [hsame] at hget
    obtain ⟨hmade, hr⟩ := hbefore hget
    exact ⟨hmade, fun hdropped => absurd hdropped (hdrops _ _), hr⟩
  · rw [hafter] at hget
    rcases Caches.get_answer h.bounded hget with ⟨hsome, hdrops⟩ | ⟨op, huses, hbrings, hepoch⟩
    · obtain ⟨hmade, hr⟩ := hbefore hsome
      exact ⟨hmade, hdrops, hr⟩
    · cases h.tasks htask with
      | working _ horderly _ =>
        cases horderly with
        | drops _ hop _ =>
          obtain ⟨-, rfl⟩ := huses
          exact absurd hbrings (hop.not_brings slot t)
      | lookingUp hlook _ =>
        obtain ⟨hmade, hr⟩ := hlook.supports huses hbrings htrusts hepoch
        exact ⟨hmade, fun hdropped => absurd hdropped (hlook.not_drops _ _), hr⟩

theorem store_answer (h : Fine layers ev sure s)
    (htask : s.tasks[j]? = some ⟨o, .perform q next, changed⟩)
    (hanswer : Answers fails s.world q a w) (hknows : Knows layers ev (sure j) fails s.world) :
    w.store.Sound := by
  cases h.tasks htask with
  | working ho horderly hchanged =>
    have hboth : w.store.Sound ∧ Standing layers ev w.caches (sure j) _ :=
      standing_of_working ho horderly hchanged hanswer h.store
    exact hboth.1
  | lookingUp hlook _ => exact (lookUp_answer hlook hanswer hknows).2 ▸ h.store

/-- The task that has been answered goes on. -/
theorem task_answer (h : Fine layers ev sure s)
    (htask : s.tasks[j]? = some ⟨o, .perform q next, changed⟩)
    (hanswer : Answers fails s.world q a w) (hknows : Knows layers ev (sure j) fails s.world)
    (hrenews : Renews ev ev' q s.world w) (hsure : sure j → ∀ h, ev.trusts h → ev'.trusts h) :
    Standing layers ev' w.caches (sure j) (.goOn o changed q next a s.world.store w.store) := by
  cases h.tasks htask with
  | working ho horderly hchanged =>
    exact (standing_of_working ho horderly hchanged hanswer h.store).2
  | lookingUp hlook hchanged =>
    have hdrops := hlook.not_drops
    have hcarries : Carries ev ev' s.world.caches s.world.caches (sure j) (sure j) :=
      { sure := id
        told := fun _ => hrenews.told
        fails := fun _ => hrenews.fails
        read := fun _ p a hp => hrenews.read p a hp (hdrops _ _)
        trusts := hsure
        made := Nat.le_refl _
        epoch := fun _ => Nat.le_refl _
        accepts := fun hmade _ haccepts => ⟨⟨hrenews.trusts _ haccepts.1 hmade, haccepts.2⟩,
          fun p a _ hp => hrenews.read p a hp (hdrops _ _)⟩ }
    obtain ⟨hnext, hsame⟩ := lookUp_answer (hcarries.lookUp hlook) hanswer
      (hknows.renew hanswer hrenews hdrops hsure)
    refine .lookingUp hnext fun tenant key hafter => ?_
    rcases hafter with ⟨hbefore, -⟩ | ⟨p, -, -, hdiffers⟩
    · exact hchanged tenant key hbefore
    · rw [hsame] at hdiffers
      exact hdiffers rfl

/-- The trusted caches are backed by the new evidence. -/
theorem backed_answer (h : Fine layers ev sure s)
    (htask : s.tasks[j]? = some ⟨o, .perform q next, changed⟩)
    (hanswer : Answers fails s.world q a w) (hrenews : Renews ev ev' q s.world w) :
    Backed layers ev' w.caches where
  places := hrenews.places
  bounded := h.bounded_answer htask hanswer
  registered := hrenews.registered
  entries {handle slot t} htrusts hget := by
    obtain ⟨hmade, hdrops, r, htenant, rfl, hr⟩ :=
      h.get_answer htask hanswer (hrenews.trusts handle htrusts) hget
    refine ⟨r, htenant, rfl, hr.mono fun p a hscope hkey => ?_⟩
    refine hrenews.kept htrusts hmade (hscope.trans htenant) ?_
    rw [hkey]
    exact hdrops

/-- A request is answered, and the evidence changes with it. -/
theorem answer (h : Fine layers ev sure s)
    (htask : s.tasks[j]? = some ⟨o, .perform q next, changed⟩)
    (hanswer : Answers fails s.world q a w) (hread : ∀ p, ev.read p (s.world.store.read p))
    (htold : ∀ domain, ev.told domain (s.world.tenants.resolve domain).1)
    (hfails : sure j → ∀ e, fails e → ev.fails e) (hrenews : Renews ev ev' q s.world w)
    (hsure : ∀ k, sure k → (∀ p a, ev.read p a → ev'.read p a) ∧
      ∀ h, ev.trusts h → ev'.trusts h) :
    Fine layers ev' sure
      { world := w, tasks := s.tasks.set j (.goOn o changed q next a s.world.store w.store) } where
  toBacked := h.backed_answer htask hanswer hrenews
  store := h.store_answer htask hanswer (h.knows j hread htold hfails)
  unmade {k} hk handle hnew :=
    (hsure k hk).2 handle (h.unmade hk handle (Nat.le_trans hanswer.made_le hnew))
  tasks {k task} hk := by
    have hmoved := h.task_answer htask hanswer (h.knows j hread htold hfails) hrenews
      fun hj => (hsure j hj).2
    have hcarries : Carries ev ev' s.world.caches w.caches (sure k) (sure k) :=
      { sure := id
        told := fun _ => hrenews.told
        fails := fun _ => hrenews.fails
        read := fun hk => (hsure k hk).1
        trusts := fun hk => (hsure k hk).2
        made := hanswer.made_le
        epoch := hanswer.epoch_le h.bounded
        accepts := fun hmade hticket haccepts => by
          obtain ⟨hepoch, hdrops⟩ := hanswer.epoch_eq h.bounded hticket haccepts.2
          exact ⟨⟨hrenews.trusts _ haccepts.1 hmade, hepoch⟩, fun p a htenant =>
            hrenews.kept haccepts.1 hmade htenant (hdrops p.key)⟩ }
    rw [List.getElem?_set] at hk
    split at hk
    · rename_i hkj
      subst hkj
      split at hk
      · cases hk
        exact hmoved
      · cases hk
    · exact hcarries.standing (h.tasks hk)

/-- More evidence of reads, for tasks that are yet to start. -/
theorem weaken {sure' : Nat → Prop} (h : Fine layers ev sure s)
    (hplaces : ∀ {p q : Position} {a}, p.ref = q.ref → ev'.read p a → ev'.read q a)
    (hread : ∀ p a, ev.read p a → ev'.read p a)
    (hregistered : ∀ h, s.world.caches.Registers h → ev'.trusts h)
    (htrusts : ∀ h : Handle, ev'.trusts h → h.number < s.world.caches.made → ev.trusts h)
    (hunmade : ∀ k, sure' k → ∀ h : Handle, s.world.caches.made ≤ h.number → ev'.trusts h)
    (hsure : ∀ k, k < s.tasks.length → ¬sure' k) : Fine layers ev' sure' s where
  toBacked := h.toBacked.weaken hplaces hread hregistered htrusts
  store := h.store
  unmade {k} := hunmade k
  tasks {k task} hk := by
    have hnot : ¬sure' k := hsure k (List.getElem?_eq_some_iff.1 hk).1
    have hcarries : Carries ev ev' s.world.caches s.world.caches (sure k) (sure' k) :=
      { sure := fun hk => absurd hk hnot
        told := fun hk => absurd hk hnot
        fails := fun hk => absurd hk hnot
        read := fun hk => absurd hk hnot
        trusts := fun hk => absurd hk hnot
        made := Nat.le_refl _
        epoch := fun _ => Nat.le_refl _
        accepts := fun hmade _ haccepts =>
          ⟨⟨htrusts _ haccepts.1 hmade, haccepts.2⟩, fun p a _ => hread p a⟩ }
    exact hcarries.standing (h.tasks hk)

theorem start (h : Fine layers ev sure s) (o : Operation) :
    Fine layers ev sure
      { s with tasks := s.tasks ++ [{ operation := o, rest := program ⟨layers, true⟩ o }] } where
  toBacked := h.toBacked
  store := h.store
  unmade := h.unmade
  tasks {k task} hk := by
    rw [List.getElem?_append] at hk
    split at hk
    · exact h.tasks hk
    · obtain rfl := List.mem_singleton.1 (List.mem_of_getElem? hk)
      exact standing_program o

/-- Caches change without a request: they keep their epochs, and nothing comes in. -/
theorem shrink (h : Fine layers ev sure s) {caches : Caches} (hcaches : caches.Bounded)
    (hmade : caches.made = s.world.caches.made)
    (hregistered : ∀ h, caches.Registers h → s.world.caches.Registers h)
    (hepoch : ∀ h, caches.epoch h = s.world.caches.epoch h)
    (hget : ∀ {h slot t}, (caches.content h).get slot = some t →
      (s.world.caches.content h).get slot = some t) :
    Fine layers ev sure { s with world.caches := caches } where
  places := h.places
  bounded := hcaches
  registered handle hhandle := h.registered handle (hregistered handle hhandle)
  entries htrusts hsome := h.entries htrusts (hget hsome)
  store := h.store
  unmade hk handle hnew := h.unmade hk handle (Nat.le_trans (Nat.le_of_eq hmade.symm) hnew)
  tasks {k task} hk := by
    have hcarries : Carries ev ev s.world.caches caches (sure k) (sure k) :=
      { sure := id
        told := fun _ _ _ => id
        fails := fun _ _ => id
        read := fun _ _ _ => id
        trusts := fun _ _ => id
        made := Nat.le_of_eq hmade.symm
        epoch := fun handle => Nat.le_of_eq (hepoch handle).symm
        accepts := fun _ _ haccepts =>
          ⟨⟨haccepts.1, (hepoch _).symm.trans haccepts.2⟩, fun _ _ _ => id⟩ }
    exact hcarries.standing (h.tasks hk)

theorem lose (h : Fine layers ev sure s) (tenant : TenantId) (lost : Slot → Bool) :
    Fine layers ev sure { s with world.caches := s.world.caches.evict tenant lost } :=
  h.shrink (h.bounded.evict tenant lost) rfl (fun _ => id) (Caches.epoch_evict _ _ _)
    Caches.get_of_evict

theorem forget (h : Fine layers ev sure s) (tenant : TenantId) :
    Fine layers ev sure { s with world.caches := s.world.caches.forget tenant } :=
  h.shrink (h.bounded.forget tenant) rfl (fun _ => Caches.registers_of_forget) (fun _ => rfl) id

/-- A move while the evidence stays the same. -/
theorem move (h : Fine layers ev sure s) (hread : ∀ p, ev.read p (s.world.store.read p))
    (htold : ∀ domain, ev.told domain (s.world.tenants.resolve domain).1)
    {fails : Nat → Store.Error → Prop} (hfails : ∀ j, sure j → ∀ e, fails j e → ev.fails e)
    {k : Nat} (hk : sure k) {s' : Scene} (hmoves : s.Moves ⟨layers, true⟩ fails s') :
    Fine layers ev sure s' := by
  cases hmoves with
  | still => exact h
  | start o => exact h.start o
  | lose tenant lost => exact h.lose tenant lost
  | forget tenant => exact h.forget tenant
  | @answer i o changed q next a w htask hanswer =>
    have hrenews : Renews ev ev q s.world w :=
      { places := h.places
        told := fun _ _ => id
        fails := fun _ => id
        read := fun _ _ hp _ => hp
        registered := fun handle hhandle =>
          (hanswer.of_registers hhandle).elim (h.registered handle) (h.unmade hk handle)
        trusts := fun _ htrusts _ => htrusts
        elsewhere := fun _ _ _ _ _ _ _ => id }
    exact h.answer htask hanswer hread htold (hfails i) hrenews fun _ _ =>
      ⟨fun _ _ => id, fun _ => id⟩

/-- Moves that add nothing to the evidence. -/
theorem play (h : Fine layers ev sure s) {k : Nat} (hk : sure k) (moves : List Move)
    (hread : ∀ n ≤ moves.length, ∀ p,
      ev.read p ((s.play ⟨layers, true⟩ (moves.take n)).world.store.read p))
    (htold : ∀ n ≤ moves.length, ∀ domain, ev.told domain
      ((s.play ⟨layers, true⟩ (moves.take n)).world.tenants.resolve domain).1)
    (hfails : ∀ j, sure j → ∀ e, .fault j e ∈ moves → ev.fails e) :
    Fine layers ev sure (s.play ⟨layers, true⟩ moves) := by
  induction moves generalizing s with
  | nil => exact h
  | cons m rest ih =>
    have hmoved := h.move (hread 0 (Nat.zero_le _)) (htold 0 (Nat.zero_le _))
      (fun j hj e hm => hfails j hj e (List.mem_cons.2 (.inl hm.symm))) hk
      (s.moves_move ⟨layers, true⟩ m)
    refine ih hmoved ?_ ?_ ?_
    · exact fun n hn => hread (n + 1) (Nat.succ_le_succ hn)
    · exact fun n hn => htold (n + 1) (Nat.succ_le_succ hn)
    · exact fun j hj e he => hfails j hj e (List.mem_cons_of_mem m he)

end Fine

/-! ### What is cached now -/

/-- Under a key none of the tasks has changed and not dropped. -/
def Scene.Clean (s : Scene) (tenant : TenantId) (key : TemplateKey) : Prop :=
  ∀ task ∈ s.tasks, ¬task.changed tenant key

theorem Position.same_key {p q : Position} (h : p.ref = q.ref) :
    p.scope.tenant = q.scope.tenant ∧ p.key = q.key :=
  ⟨congrArg (fun r => r.scenario.tenant) h, congrArg RecordRef.key h⟩

/-- Where nothing is to be dropped, readers have had what is in the store now. Only the caches that
are known are trusted: no invalidation reaches the others. -/
def Scene.evidence (s : Scene) : Evidence where
  read p a := s.Clean p.scope.tenant p.key → a = s.world.store.read p
  told _ _ := True
  fails _ := True
  trusts := s.world.caches.Registers

theorem Scene.places_evidence {s : Scene} (h : s.world.store.Sound) {p q : Position}
    {a : Except Store.Error (Option Template)} (href : p.ref = q.ref) (hp : s.evidence.read p a) :
    s.evidence.read q a := by
  obtain ⟨htenant, hkey⟩ := Position.same_key href
  intro hclean
  rw [← htenant, ← hkey] at hclean
  rw [hp hclean]
  exact h.read_congr href

section

variable {s : Scene} {j : Nat} {o : Operation} {changed : TenantId → TemplateKey → Prop}
  {q : Request} {next : q.Answer → ServiceProgram o.Reply} {a : q.Answer} {w : State AnyStore}
  (htask : s.tasks[j]? = some ⟨o, .perform q next, changed⟩)
include htask

/-- A task that was to drop something still is, unless it has been answered on dropping it. -/
theorem Scene.Clean.before {tenant : TenantId} {key : TemplateKey} (hdrops : ¬q.Drops tenant key)
    (h : Scene.Clean
      ⟨w, s.tasks.set j (.goOn o changed q next a s.world.store w.store)⟩ tenant key) :
    s.Clean tenant key := by
  intro task htask' hchanged
  obtain ⟨k, hk⟩ := List.mem_iff_getElem?.1 htask'
  by_cases hkj : j = k
  · subst hkj
    rw [htask] at hk
    cases hk
    exact h _ (List.mem_set (List.getElem?_eq_some_iff.1 htask).1 _) (.inl ⟨hchanged, hdrops⟩)
  · rw [← List.getElem?_set_ne hkj] at hk
    exact h task (List.mem_of_getElem? hk) hchanged

/-- Where nothing is to be dropped, nothing has changed. -/
theorem Scene.Clean.read_eq {p : Position}
    (h : Scene.Clean ⟨w, s.tasks.set j (.goOn o changed q next a s.world.store w.store)⟩
      p.scope.tenant p.key) : s.world.store.read p = w.store.read p := by
  by_contra hdiffers
  exact h _ (List.mem_set (List.getElem?_eq_some_iff.1 htask).1 _)
    (.inr ⟨p, rfl, rfl, Ne.symm hdiffers⟩)

end

/-- A move keeps what is cached up to date, where nothing is to be dropped. -/
theorem Fine.now {s s' : Scene} {fails : Nat → Store.Error → Prop}
    (h : Fine layers s.evidence (fun _ => False) s) (hmoves : s.Moves ⟨layers, true⟩ fails s') :
    Fine layers s'.evidence (fun _ => False) s' := by
  cases hmoves with
  | still => exact h
  | lose tenant lost => exact h.lose tenant lost
  | forget tenant =>
    exact (h.forget tenant).weaken (Scene.places_evidence h.store) (fun _ _ => id) (fun _ => id)
      (fun _ hregistered _ => Caches.registers_of_forget hregistered) (fun _ => False.elim)
      fun _ _ => id
  | start o =>
    have hstart := h.start o
    refine hstart.weaken (Scene.places_evidence hstart.store) (fun p a hp hclean => ?_)
      (fun _ => id) (fun _ hregistered _ => hregistered) (fun _ => False.elim) fun _ _ => id
    exact hp fun task htask => hclean task (List.mem_append_left _ htask)
  | @answer j o changed q next a w htask hanswer =>
    have hknows : Knows layers s.evidence False (fails j) s.world :=
      h.knows j (fun _ _ => rfl) (fun _ => trivial) fun _ _ _ => trivial
    have hknown : ∀ handle : Handle, w.caches.Registers handle →
        handle.number < s.world.caches.made → s.world.caches.Registers handle :=
      fun _ hhandle hmade =>
        (hanswer.of_registers hhandle).resolve_right (Nat.not_le.2 hmade)
    have hrenews : Renews s.evidence (Scene.evidence ⟨w, s.tasks.set j
        (.goOn o changed q next a s.world.store w.store)⟩) q s.world w :=
      { places := Scene.places_evidence (h.store_answer htask hanswer hknows)
        told := fun _ _ => id
        fails := fun _ => id
        read := fun p a hp hdrops hclean => by
          rw [hp (hclean.before htask hdrops), hclean.read_eq htask]
        registered := fun _ => id
        trusts := hknown
        elsewhere := fun handle htrusts hmade hnot =>
          absurd (hknown handle htrusts hmade) hnot }
    exact h.answer htask hanswer (fun _ _ => rfl) (fun _ => trivial) (fun _ _ _ => trivial) hrenews
      fun _ => False.elim

theorem Fine.now_play {s : Scene} (h : Fine layers s.evidence (fun _ => False) s)
    (moves : List Move) :
    Fine layers (s.play ⟨layers, true⟩ moves).evidence (fun _ => False)
      (s.play ⟨layers, true⟩ moves) := by
  induction moves generalizing s with
  | nil => exact h
  | cons m rest ih => exact ih (h.now (s.moves_move _ m))

theorem fine_start (layers : Layers) (kind : Kind) (retention : Retention)
    (tenants : Tenant.Lookup) :
    Fine layers (Scene.start kind retention tenants).evidence (fun _ => False)
      (.start kind retention tenants) where
  places := Scene.places_evidence (AnyStore.sound_empty kind)
  bounded := .empty retention
  registered _ := id
  entries := by
    intro handle slot t _ hget
    cases hget
  store := AnyStore.sound_empty kind
  unmade := False.elim
  tasks := by
    intro j task htask
    cases htask

/-- Under a clean key, what is cached is what is found. -/
theorem Fine.finds {s : Scene} (h : Fine layers s.evidence (fun _ => False) s)
    {tenant : TenantId} {slot : Slot} {t : Template}
    (hentry : s.world.caches.entry tenant slot = some t) (hclean : s.Clean tenant slot.key) :
    (∃ r : ResolveRequest, r.scope.tenant = tenant ∧ r.slot = slot) ∧
      ∀ r : ResolveRequest, r.scope.tenant = tenant → r.slot = slot →
        layers.Finds s.world.store r t := by
  obtain ⟨handle, rfl, hhandle, hget⟩ := Caches.registers_of_entry hentry
  obtain ⟨r, htenant, rfl, tier, hyields⟩ := h.entries (h.registered handle hhandle) hget
  have hfinds : layers.Finds s.world.store r t := by
    refine Layers.finds_iff_yields.2 ⟨tier, (layers.readsAt_resolve r).yields_mono ?_ hyields⟩
    intro p a hscope hkey hread
    apply hread
    rw [hscope, htenant, hkey]
    exact hclean
  exact ⟨⟨r, htenant, rfl⟩, fun r' htenant' hslot =>
    hfinds.congr h.store (htenant.trans htenant'.symm) hslot.symm⟩

/-! ### What is read from now on -/

/-- What readers have from the scene on until some moves later, under the keys that are clean, and
how calls of one task fail. Caches that are made from now on are trusted too. -/
def Scene.evidenceOf (service : Service) (s : Scene) (moves : List Move)
    (clean : TenantId → TemplateKey → Prop) (task : Nat) : Evidence where
  read p a := clean p.scope.tenant p.key →
    ∃ n ≤ moves.length, a = (s.play service (moves.take n)).world.store.read p
  told domain x := ∃ n ≤ moves.length,
    ((s.play service (moves.take n)).world.tenants.resolve domain).1 = x
  fails e := .fault task e ∈ moves
  trusts h := s.world.caches.Registers h ∨ s.world.caches.made ≤ h.number

/-- A look-up that is started now gives what is read from now on, if the key is clean. -/
theorem Fine.looked_up {s : Scene} (h : Fine layers s.evidence (fun _ => False) s)
    (scenario locale : String) (channel : Channel) (domain : String) (application : Option String)
    (later : List Move) {x : Except Failure Template} {changed : TenantId → TemplateKey → Prop} :
    let now n :=
      (s.move ⟨layers, true⟩ (.start (.resolve scenario locale channel domain application))).play
        ⟨layers, true⟩ (later.take n)
    (now later.length).tasks[s.tasks.length]? =
      some ⟨.resolve scenario locale channel domain application, .done x, changed⟩ →
    (∃ e, x = .error (.ofIdentifier e) ∧ ∀ tenant,
      ResolveRequest.parse scenario locale channel tenant application = .error e) ∨
    (∃ e, x = .error (.unresolvedTenant domain e) ∧
      ∃ n ≤ later.length, ((now n).world.tenants.resolve domain).1 = .error e) ∨
    (∃ context e, x = .error (.storeFailed context e) ∧ .fault s.tasks.length e ∈ later) ∨
    ∃ r : ResolveRequest,
      (∃ n ≤ later.length, ((now n).world.tenants.resolve domain).1 = .ok r.scope.tenant) ∧
      ResolveRequest.parse scenario locale channel r.scope.tenant application = .ok r ∧
      (s.Clean r.scope.tenant r.key →
        layers.YieldsAmong (fun store => ∃ n ≤ later.length, store = (now n).world.store) r x) := by
  intro now htask
  let service : Service := ⟨layers, true⟩
  let s₁ := s.move service (.start (.resolve scenario locale channel domain application))
  let ev := s₁.evidenceOf service later s.Clean s.tasks.length
  have hsound : ∀ n, (now n).world.store.Sound := fun n =>
    ((h.now (s.moves_move service _)).now_play (later.take n)).store
  have hplaces : ∀ {p q : Position} {a}, p.ref = q.ref → ev.read p a → ev.read q a := by
    intro p q a href hp hclean
    obtain ⟨htenant, hkey⟩ := Position.same_key href
    rw [← htenant, ← hkey] at hclean
    obtain ⟨n, hn, rfl⟩ := hp hclean
    exact ⟨n, hn, (hsound n).read_congr href⟩
  have hstart : Fine layers ev (· = s.tasks.length) s₁ := by
    refine (h.weaken hplaces (fun p a hp hclean => ?_) (fun _ => .inl) ?_ (fun _ _ _ => .inr)
      fun k => Nat.ne_of_lt).start _
    · exact ⟨0, Nat.zero_le _, hp hclean⟩
    · exact fun _ htrusts hmade => htrusts.resolve_right (Nat.not_le.2 hmade)
  have hfine := hstart.play rfl later (fun n hn p _ => ⟨n, hn, rfl⟩)
    (fun n hn domain => ⟨n, hn, rfl⟩) (by
      rintro j rfl e he
      exact he)
  have hlast : now later.length = s₁.play service later := by
    change s₁.play service (later.take later.length) = _
    rw [List.take_length]
  rw [hlast] at htask
  cases (hfine.tasks htask).gives rfl with
  | refused hparse => exact .inl ⟨_, rfl, hparse⟩
  | untold htold => exact .inr (.inl ⟨_, rfl, htold⟩)
  | failed context hfails => exact .inr (.inr (.inl ⟨context, _, rfl, hfails⟩))
  | @read r y htold hparse hyields =>
    refine .inr (.inr (.inr ⟨r, htold, hparse, fun hclean => ⟨y, ?_, rfl⟩⟩))
    refine (layers.readsAt_resolve r).yields_mono ?_ hyields
    intro p a htenant hkey hread
    have hclean : s.Clean p.scope.tenant p.key := by
      rw [htenant, hkey]
      exact hclean
    obtain ⟨n, hn, ha⟩ := hread hclean
    exact ⟨_, ⟨n, hn, rfl⟩, ha⟩

/-- In any interleaving, with any losses and faults: what is cached is what looking it up in the
store would give now, unless a task has changed the store under its key. A task that has done so
drops what is cached there with its next request. And a look-up that is started while there is no
such task under its key comes to what the store gives as it has been since then, be that a template
or an error; unless it is malformed, its domain stands for no tenant, or a store call of its own
fails. -/
theorem invalidation_beats_filling (layers : Layers) (kind : Kind) (retention : Retention)
    (tenants : Tenant.Lookup) (moves : List Move) :
    let service : Service := ⟨layers, true⟩
    let scene := (Scene.start kind retention tenants).play service moves
    (∀ tenant slot t, scene.world.caches.entry tenant slot = some t →
      ((∃ r : ResolveRequest, r.scope.tenant = tenant ∧ r.slot = slot) ∧
        ∀ r : ResolveRequest, r.scope.tenant = tenant → r.slot = slot →
          layers.Finds scene.world.store r t) ∨
      ∃ task ∈ scene.tasks, task.changed tenant slot.key) ∧
    (∀ task ∈ scene.tasks, ∀ tenant key, task.changed tenant key → task.AboutToDrop tenant key) ∧
    ∀ scenario locale channel domain application (later : List Move) x changed,
      let now n :=
        (scene.move service (.start (.resolve scenario locale channel domain application))).play
          service (later.take n)
      (now later.length).tasks[scene.tasks.length]? =
        some ⟨.resolve scenario locale channel domain application, .done x, changed⟩ →
      (∃ e, x = .error (.ofIdentifier e) ∧ ∀ tenant,
        ResolveRequest.parse scenario locale channel tenant application = .error e) ∨
      (∃ e, x = .error (.unresolvedTenant domain e) ∧
        ∃ n ≤ later.length, ((now n).world.tenants.resolve domain).1 = .error e) ∨
      (∃ context e, x = .error (.storeFailed context e) ∧ .fault scene.tasks.length e ∈ later) ∨
      ∃ r : ResolveRequest,
        (∃ n ≤ later.length, ((now n).world.tenants.resolve domain).1 = .ok r.scope.tenant) ∧
        ResolveRequest.parse scenario locale channel r.scope.tenant application = .ok r ∧
        ((∀ task ∈ scene.tasks, ¬task.changed r.scope.tenant r.key) →
          layers.YieldsAmong (fun store => ∃ n ≤ later.length, store = (now n).world.store) r x) := by
  intro service scene
  have hfine : Fine layers scene.evidence (fun _ => False) scene :=
    (fine_start layers kind retention tenants).now_play moves
  refine ⟨fun tenant slot t hentry => ?_, fun task htask tenant key hchanged => ?_, ?_⟩
  · by_cases hclean : scene.Clean tenant slot.key
    · exact .inl (hfine.finds hentry hclean)
    · rw [Scene.Clean] at hclean
      push Not at hclean
      exact .inr hclean
  · obtain ⟨j, hj⟩ := List.mem_iff_getElem?.1 htask
    exact (hfine.tasks hj).aboutToDrop hchanged
  · intro scenario locale channel domain application later x changed
    exact hfine.looked_up scenario locale channel domain application later

/-- A look-up has read the first version when the second is stored. What it offers the cache is
refused after the invalidation. -/
example :
    let tenants : Tenant.Lookup := .direct (.ofList [⟨⟨1⟩, "acme.com", .active⟩])
    let write body : Move := .start (.upsert (.sms "otp" "en-us" body) "acme.com" none)
    let moves := write "first" :: List.replicate 9 (.step 0) ++
      .start (.resolve "otp" "fr-fr" .sms "acme.com" none) :: List.replicate 6 (.step 1) ++
      write "second" :: List.replicate 9 (.step 2) ++ List.replicate 2 (.step 1)
    let scene := (Scene.start .tables ⟨10, 10⟩ tenants).play ⟨⟨.empty, {}⟩, true⟩ moves
    scene.world.caches.contents.values.map (fun c => (c.epoch, c.snapshots.entries.length)) =
      [(2, 0)] := by
  decide +kernel

end Missive.Service

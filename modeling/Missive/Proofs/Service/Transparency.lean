import Missive.Proofs.Service.Course
import Missive.Proofs.Service.LookingUp

/-! Caching cannot be told from the results. Whatever a cache answers is what would be found in the
store at that moment, faults or not; and as long as no store call fails, a service that caches and one
that does not give the same results, operation by operation. -/

namespace Missive.Service

open Store StoreProgram

variable {α β : Type} {layers : Layers}

/-! ### Courses with the same store -/

/-- The two have the same store and know the same tenants. -/
structure Course.SameStore (c c' : Course) : Prop where
  store : c.state.store = c'.state.store
  tenants : c.state.tenants = c'.state.tenants

namespace Course

theorem SameStore.refl (c : Course) : c.SameStore c := ⟨rfl, rfl⟩

theorem SameStore.trans {c c' c'' : Course} (h : c.SameStore c') (h' : c'.SameStore c'') :
    c.SameStore c'' :=
  ⟨h.store.trans h'.store, h.tenants.trans h'.tenants⟩

theorem SameStore.symm {c c' : Course} (h : c.SameStore c') : c'.SameStore c :=
  ⟨h.store.symm, h.tenants.symm⟩

/-- What is asked of the caches does not touch the store. -/
theorem sameStore_cache (c : Course) (q : Caches.Query) :
    c.SameStore (answer (.cache q) c).2 :=
  ⟨rfl, rfl⟩

/-- Requests other than those to a cache are answered alike. -/
theorem SameStore.tenant {c c' : Course} (h : c.SameStore c') (domain : String) :
    (answer (.tenant domain) c).1 = (answer (.tenant domain) c').1 ∧
      (answer (.tenant domain) c).2.SameStore (answer (.tenant domain) c').2 := by
  refine ⟨congrArg (fun l => (l.resolve domain).1) h.tenants, h.store, ?_⟩
  exact congrArg (fun l => (l.resolve domain).2) h.tenants

theorem answer_store {c : Course} (h : c.Faultless) (call : Call) :
    (answer (.store call) c).1 = (AnyStore.backend call c.state.store).1 ∧
      (answer (.store call) c).2.state.store = (AnyStore.backend call c.state.store).2 ∧
      (answer (.store call) c).2.state.tenants = c.state.tenants := by
  rw [answer, Incident.answer, h.head]
  exact ⟨rfl, rfl, rfl⟩

theorem SameStore.call {c c' : Course} (h : c.SameStore c') (hc : c.Faultless)
    (hc' : c'.Faultless) (call : Call) :
    (answer (.store call) c).1 = (answer (.store call) c').1 ∧
      (answer (.store call) c).2.SameStore (answer (.store call) c').2 := by
  obtain ⟨ha, hstore, htenants⟩ := answer_store hc call
  obtain ⟨ha', hstore', htenants'⟩ := answer_store hc' call
  rw [ha, ha', h.store]
  refine ⟨rfl, ?_, ?_⟩
  · rw [hstore, hstore', h.store]
  · rw [htenants, htenants', h.tenants]

theorem answer_read (c : Course) (p : Position) :
    c.SameStore (answer (.store (.read p)) c).2 ∧
      ((answer (.store (.read p)) c).1 = c.state.store.read p ∨
        ¬c.Faultless ∧ ∃ e, (answer (.store (.read p)) c).1 = .error e) := by
  have hfaultless := @Faultless.head c
  rw [answer, Incident.answer]
  cases hfault : (c.incidents.headD {}).fault with
  | some e =>
    refine ⟨⟨rfl, rfl⟩, .inr ⟨fun hc => ?_, e, rfl⟩⟩
    rw [hfaultless hc] at hfault
    cases hfault
  | none =>
    simp only [Service.answer, AnyStore.backend_read]
    exact ⟨⟨rfl, rfl⟩, .inl rfl⟩

theorem Faultless.run {c : Course} (h : c.Faultless) (p : ServiceProgram α) :
    (p.run Course.answer c).2.Faultless :=
  Program.run_keeps (fun q _ hc => hc.answer q) p h

end Course

/-! ### Looking up -/

/-- Reading for a look-up finds what is in the store, or fails by a fault. -/
theorem run_storing_of_readsAt {tenant : TenantId} {key : TemplateKey} {q : StoreProgram α}
    (h : ReadsAt tenant key q) (c : Course) :
    c.SameStore ((storing q).run Course.answer c).2 ∧
      (((storing q).run Course.answer c).1 = (q.run AnyStore.backend c.state.store).1 ∨
        ¬c.Faultless ∧ ∃ e, ((storing q).run Course.answer c).1 = .error e) := by
  induction h generalizing c with
  | done x => exact ⟨.refl c, .inl rfl⟩
  | @read p next _ _ _ herror ih =>
    obtain ⟨hsame, ha⟩ := c.answer_read p
    have hfaults : ¬(Course.answer (.store (.read p)) c).2.Faultless → ¬c.Faultless :=
      mt fun hc => hc.answer _
    have hrun : (storing (.perform (.read p) next)).run Course.answer c =
        (storing (next (Course.answer (.store (.read p)) c).1)).run Course.answer
          (Course.answer (.store (.read p)) c).2 := rfl
    rw [hrun, Program.run_perform, AnyStore.backend_read]
    generalize Course.answer (.store (.read p)) c = y at hsame ha hfaults
    obtain ⟨a, c'⟩ := y
    cases a with
    | error e =>
      obtain ⟨context, hf⟩ := herror e
      simp only [hf]
      refine ⟨hsame, ha.imp (fun ha => ?_) fun ⟨hfaults, _⟩ => ⟨hfaults, _, rfl⟩⟩
      simp only at ha
      rw [← ha, hf]
      rfl
    | ok found =>
      have ha : .ok found = c.state.store.read p := by
        rcases ha with ha | ⟨-, e, ha⟩
        · exact ha
        · cases ha
      obtain ⟨hsame', hx⟩ := ih found c'
      refine ⟨hsame.trans hsame', hx.imp (fun hx => ?_) fun hx => ⟨hfaults hx.1, hx.2⟩⟩
      rw [hx, ← ha, hsame.store]

/-- What comes of looking a template up. -/
structure Looked (layers : Layers) (r : ResolveRequest) (c : Course)
    (y : Except Failure Template × Course) : Prop where
  current : Current layers none y.2.state
  same : c.SameStore y.2
  /-- What the cache answers is the outcome, and would be found in the store. -/
  hits : ∀ hit ∈ y.2.hits, hit ∈ c.hits ∨ hit.tenant = r.scope.tenant ∧ hit.slot = r.slot ∧
    y.1 = .ok hit.template ∧ layers.Finds c.state.store r hit.template
  outcome : c.Faultless →
    y.1 = ((layers.resolve r).run AnyStore.backend c.state.store).1.map Resolved.template

theorem quiet_of_readsAt {tenant : TenantId} {key : TemplateKey} {q : StoreProgram α}
    (h : ReadsAt tenant key q) : Quiet (storing q) := by
  induction h with
  | done x => exact quiet_done x
  | @read _ next _ _ _ herror ih =>
    refine .calls trivial fun a => ?_
    cases a with
    | ok found => exact ih found
    | error e =>
      obtain ⟨context, hf⟩ := herror e
      change Orderly _ none (storing (next (.error e)))
      rw [hf]
      exact quiet_throw _

section

variable {r : ResolveRequest} {c : Course} (h : Current layers none c.state) {handle : Handle}
  (htenant : handle.tenant = r.scope.tenant)
include h htenant

/-- After a miss the store is read, and the cache is offered what was found there. -/
theorem looked_reading (ticket : Cache.Ticket) :
    Looked layers r c ((reading r handle ticket (layers.resolve r)).run Course.answer c) := by
  have hreads := layers.readsAt_resolve r
  obtain ⟨hsame, houtcome⟩ := run_storing_of_readsAt hreads c
  obtain ⟨hcurrent, hhits⟩ := Quiet.run (quiet_of_readsAt hreads) h
  rw [reading, Program.run_bind]
  generalize (storing (layers.resolve r)).run Course.answer c = y at hsame houtcome hcurrent hhits
  obtain ⟨x, c'⟩ := y
  cases x with
  | error e =>
    refine ⟨hcurrent, hsame, fun hit hhit => ?_, fun hfaultless => ?_⟩
    · rw [← hhits]
      exact .inl hhit
    · rcases houtcome with houtcome | ⟨hfaults, -⟩
      · rw [← houtcome]
        rfl
      · exact absurd hfaultless hfaults
  | ok found =>
    have hrun : ((layers.resolve r).run AnyStore.backend c.state.store).1 = .ok found := by
      rcases houtcome with houtcome | ⟨-, e, he⟩
      · exact houtcome.symm
      · cases he
    have hfinds : layers.Finds c.state.store r found.template := by
      rw [Layers.Finds, hrun]
      rfl
    change Looked layers r c ((filling r handle ticket found).run Course.answer c')
    rw [filling, Program.run_perform, Program.run_done]
    have hsame' := c'.sameStore_cache (.held handle (.fill ticket r.slot found.template))
    have hoffered : Current layers none
        (Course.answer (.cache (.held handle (.fill ticket r.slot found.template))) c').2.state := by
      apply hcurrent.answer_cache
      rintro tenant slot t ⟨rfl, rfl, rfl⟩ r' htenant' hslot
      rw [← hsame.store]
      exact hfinds.congr h.store (htenant.symm.trans htenant'.symm) hslot.symm
    refine ⟨hoffered, hsame.trans hsame', ?_, ?_⟩
    · intro hit hhit
      rw [← hhits]
      exact .inl (by simpa [Course.answer, Service.hits] using hhit)
    · intro _
      rw [hrun]
      rfl

/-- A look-up that asks a cache first, of which everything would be found in the store. -/
theorem looked_holding (hshows : ∀ t, (c.state.caches.content handle).get r.slot = some t →
      layers.Finds c.state.store r t) :
    Looked layers r c ((holding layers r handle).run Course.answer c) := by
  have hcurrent : Current layers none
      (Course.answer (.cache (.held handle (.get r.slot))) c).2.state :=
    h.answer_cache fun _ _ _ hbrings => hbrings.2.elim
  have hsame := c.sameStore_cache (.held handle (.get r.slot))
  have hanswer : (Course.answer (.cache (.held handle (.get r.slot))) c).1 =
      (((c.incidents.headD {}).strike c.state).caches.content handle).get r.slot := rfl
  have hhits : (Course.answer (.cache (.held handle (.get r.slot))) c).2.hits = c.hits ++
      hits (.cache (.held handle (.get r.slot)))
        (Course.answer (.cache (.held handle (.get r.slot))) c).1 := rfl
  have hfaultless : c.Faultless →
      (Course.answer (.cache (.held handle (.get r.slot))) c).2.Faultless := fun hc => hc.answer _
  rw [holding, Program.run_perform]
  generalize Course.answer (.cache (.held handle (.get r.slot))) c = y at *
  obtain ⟨a, c'⟩ := y
  cases a with
  | some t =>
    have hfinds := hshows t (Incident.get_of_strike hanswer.symm)
    refine ⟨hcurrent, hsame, fun hit hhit => ?_, fun _ => hfinds.symm⟩
    rw [Program.run_done, hhits] at hhit
    rcases List.mem_append.1 hhit with hhit | hhit
    · exact .inl hhit
    · obtain rfl := List.mem_singleton.1 hhit
      exact .inr ⟨htenant, rfl, rfl, hfinds⟩
  | none =>
    have hticket : Current layers none
        (Course.answer (.cache (.held handle .ticket)) c').2.state :=
      Current.answer_cache hcurrent fun _ _ _ hbrings => hbrings.2.elim
    have hlooked := looked_reading hticket htenant
      (Course.answer (.cache (.held handle .ticket)) c').1
    have hsame' : c.SameStore (Course.answer (.cache (.held handle .ticket)) c').2 :=
      hsame.trans (c'.sameStore_cache _)
    have hhits' : (Course.answer (.cache (.held handle .ticket)) c').2.hits = c.hits := by
      simpa [Course.answer, hits] using hhits
    refine ⟨hlooked.current, hsame'.trans hlooked.same, ?_, ?_⟩
    · rw [hsame'.store, ← hhits']
      exact hlooked.hits
    · intro hc
      rw [hsame'.store]
      exact hlooked.outcome ((hfaultless hc).answer _)

end

/-- A look-up begins with the tenant's cache, which is current. -/
theorem looked_looking {r : ResolveRequest} {c : Course} (h : Current layers none c.state) :
    Looked layers r c ((looking layers r).run Course.answer c) := by
  have hcurrent : Current layers none
      (Course.answer (.cache (.hold r.scope.tenant)) c).2.state :=
    h.answer_cache fun _ _ _ => False.elim
  have hsame := c.sameStore_cache (.hold r.scope.tenant)
  have htenant : (Course.answer (.cache (.hold r.scope.tenant)) c).1.tenant = r.scope.tenant :=
    Caches.tenant_hold ..
  have hhits : (Course.answer (.cache (.hold r.scope.tenant)) c).2.hits = c.hits :=
    List.append_nil _
  have hshows : ∀ t, ((Course.answer (.cache (.hold r.scope.tenant)) c).2.state.caches.content
      (Course.answer (.cache (.hold r.scope.tenant)) c).1).get r.slot = some t →
      layers.Finds c.state.store r t := by
    intro t ht
    rcases (h.strike _).entries ((Caches.get_hold ..).symm.trans ht) with ⟨n, hn, -⟩ | hfinds
    · cases hn
    · exact hfinds r rfl rfl
  have hfaultless : c.Faultless →
      (Course.answer (.cache (.hold r.scope.tenant)) c).2.Faultless := fun hc => hc.answer _
  rw [looking, Program.run_perform]
  generalize Course.answer (.cache (.hold r.scope.tenant)) c = y at *
  obtain ⟨handle, c'⟩ := y
  rw [hsame.store] at hshows
  have hlooked := looked_holding hcurrent htenant hshows
  refine ⟨hlooked.current, hsame.trans hlooked.same, ?_, ?_⟩
  · rw [hsame.store, ← hhits]
    exact hlooked.hits
  · intro hc
    rw [hsame.store]
    exact hlooked.outcome (hfaultless hc)

/-- A look-up without a cache. -/
theorem run_uncached (layers : Layers) (r : ResolveRequest) {c : Course} (hc : c.Faultless) :
    let y := (storing (layers.resolve r) >>= fun found =>
      (pure found.template : ServiceProgram Template)).run Course.answer c
    y.1 = ((layers.resolve r).run AnyStore.backend c.state.store).1.map Resolved.template ∧
      c.SameStore y.2 := by
  intro y
  obtain ⟨hsame, houtcome⟩ := run_storing_of_readsAt (layers.readsAt_resolve r) c
  have houtcome := houtcome.resolve_right fun h => h.1 hc
  have hy : y = _ := Program.run_bind Course.answer (storing (layers.resolve r)) _ c
  rw [hy, ← houtcome]
  generalize (storing (layers.resolve r)).run Course.answer c = z at hsame
  obtain ⟨x, c'⟩ := z
  cases x <;> exact ⟨rfl, hsame⟩

/-! ### Programs without their dropping of cached results -/

/-- The second program is the first without what it does with the caches, where nothing comes of
that. -/
inductive Erases : ServiceProgram α → ServiceProgram α → Prop where
  | done (x : Except Failure α) : Erases (.done x) (.done x)
  | tenant {domain next next'} : (∀ a, Erases (next a) (next' a)) →
      Erases (.perform (.tenant domain) next) (.perform (.tenant domain) next')
  | store {call next next'} : (∀ a, Erases (next a) (next' a)) →
      Erases (.perform (.store call) next) (.perform (.store call) next')
  | cache {query next p'} : (∀ a, Erases (next a) p') →
      Erases (.perform (.cache query) next) p'

namespace Erases

variable {p p' : ServiceProgram α}

theorem bind (h : Erases p p') {f f' : α → ServiceProgram β} (hf : ∀ x, Erases (f x) (f' x)) :
    Erases (p >>= f) (p' >>= f') := by
  induction h with
  | done x =>
    cases x with
    | ok x => exact hf x
    | error e => exact .done (.error e)
  | tenant _ ih => exact .tenant ih
  | store _ ih => exact .store ih
  | cache _ ih => exact .cache ih

theorem storing (p : StoreProgram α) : Erases (storing p) (storing p) := by
  induction p with
  | done x => exact .done x
  | perform call next ih => exact .store ih

/-- Without faults the two come to the same over the same store. -/
theorem run (h : Erases p p') {c c' : Course} (hsame : c.SameStore c') (hc : c.Faultless)
    (hc' : c'.Faultless) : (p.run Course.answer c).1 = (p'.run Course.answer c').1 ∧
      (p.run Course.answer c).2.SameStore (p'.run Course.answer c').2 := by
  induction h generalizing c c' with
  | done x => exact ⟨rfl, hsame⟩
  | @tenant domain next next' _ ih =>
    obtain ⟨ha, hsame'⟩ := hsame.tenant domain
    rw [Program.run_perform, Program.run_perform, ← ha]
    exact ih _ hsame' (hc.answer _) (hc'.answer _)
  | @store call next next' _ ih =>
    obtain ⟨ha, hsame'⟩ := hsame.call hc hc' call
    rw [Program.run_perform, Program.run_perform, ← ha]
    exact ih _ hsame' (hc.answer _) (hc'.answer _)
  | @cache query next p' _ ih =>
    exact ih _ ((c.sameStore_cache query).symm.trans hsame) (hc.answer (.cache query)) hc'

end Erases

theorem erases_scopeIn (domain : String) (application : Option String) :
    Erases (scopeIn domain application) (scopeIn domain application) :=
  ((Erases.done _).bind fun _ => .done _).bind fun _ =>
    (Erases.tenant fun _ => .done _).bind fun _ => .done _

theorem erases_request (scenario locale : String) (channel : Channel) (domain : String)
    (application : Option String) : Erases (request scenario locale channel domain application)
      (request scenario locale channel domain application) :=
  (Erases.done _).bind fun _ => (Erases.done _).bind fun _ => (erases_scopeIn ..).bind fun _ =>
    .done _

theorem erases_invalidate (layers : Layers) (tenant : TenantId) (op : Cache.Op) :
    Erases (invalidate ⟨layers, true⟩ tenant op) (invalidate ⟨layers, false⟩ tenant op) :=
  .cache fun _ => .done _

theorem erases_upsert (layers : Layers) (t : Template) (domain : String)
    (application : Option String) :
    Erases (upsert ⟨layers, true⟩ t domain application)
      (upsert ⟨layers, false⟩ t domain application) := by
  rw [upsert, upsert]
  refine (Erases.done _).bind fun _ => (Erases.done _).bind fun s =>
    (erases_scopeIn ..).bind fun scope => ?_
  refine ((Erases.storing (Durable.ensureScenario s t.channel scope.tenant)).bind fun _ => .done _).bind
    fun _ => ?_
  rw [← storing_attempt]
  apply (Erases.storing _).bind
  intro outcome
  rcases outcome with e | u
  · cases e with
    | scenarioNotFound => exact (Erases.storing _).bind fun _ => erases_invalidate ..
    | _ => exact .done _
  · exact erases_invalidate ..

theorem erases_deleteTemplate (layers : Layers) (scenario locale : String) (channel : Channel)
    (domain : String) (application : Option String) :
    Erases (deleteTemplate ⟨layers, true⟩ scenario locale channel domain application)
      (deleteTemplate ⟨layers, false⟩ scenario locale channel domain application) := by
  rw [deleteTemplate, deleteTemplate]
  refine (erases_request ..).bind fun r => (Erases.storing _).bind fun deleted => ?_
  cases deleted with
  | true => exact (erases_invalidate ..).bind fun _ => .done _
  | false => exact .done _

theorem erases_deleteTemplates (layers : Layers) (scenario : String) (channel : Channel)
    (domain : String) (application : Option String) :
    Erases (deleteTemplates ⟨layers, true⟩ scenario channel domain application)
      (deleteTemplates ⟨layers, false⟩ scenario channel domain application) := by
  rw [deleteTemplates, deleteTemplates]
  exact (Erases.done _).bind fun _ => (erases_scopeIn ..).bind fun _ =>
    (Erases.storing _).bind fun _ => (erases_invalidate ..).bind fun _ => .done _

theorem erases_deleteScenario (layers : Layers) (scenario : String) (channel : Channel)
    (domain : String) :
    Erases (deleteScenario ⟨layers, true⟩ scenario channel domain)
      (deleteScenario ⟨layers, false⟩ scenario channel domain) := by
  rw [deleteScenario, deleteScenario]
  refine (Erases.done _).bind fun _ => (Erases.tenant fun _ => .done _).bind fun _ =>
    (Erases.storing _).bind fun removed => ?_
  cases removed with
  | true => exact (erases_invalidate ..).bind fun _ => .done _
  | false => exact .done _

theorem erases_addDefaults (layers : Layers) (tenant : TenantId) (added : Nat)
    (ts : List Template) :
    Erases (addDefaults ⟨layers, true⟩ tenant added ts)
      (addDefaults ⟨layers, false⟩ tenant added ts) := by
  induction ts generalizing added with
  | nil => exact .done _
  | cons t rest ih =>
    refine Erases.bind ?_ fun _ => ih _
    rw [addDefault, addDefault]
    refine (Erases.done _).bind fun _ => (Erases.done _).bind fun _ =>
      (Erases.storing _).bind fun stored => ?_
    cases stored with
    | true => exact .done _
    | false =>
      exact (Erases.storing _).bind fun _ => (erases_invalidate ..).bind fun _ => .done _

/-- Apart from the looking up of templates, an operation does the same with caches and without,
but for the dropping of cached results. -/
theorem erases_program (layers : Layers) {o : Operation}
    (ho : ∀ scenario locale channel domain application,
      o ≠ .resolve scenario locale channel domain application) :
    Erases (program ⟨layers, true⟩ o) (program ⟨layers, false⟩ o) := by
  cases o with
  | resolve => exact (ho _ _ _ _ _ rfl).elim
  | templateExists => exact (erases_request ..).bind fun _ => .storing _
  | scenarioExists | addScenario =>
    exact (Erases.done _).bind fun _ => (Erases.tenant fun _ => .done _).bind fun _ => .storing _
  | listTemplates =>
    exact (Erases.done _).bind fun _ => (erases_scopeIn ..).bind fun _ => .storing _
  | listAllTemplates | listScenarios =>
    exact (Erases.tenant fun _ => .done _).bind fun _ => .storing _
  | upsert => exact erases_upsert ..
  | deleteTemplate => exact erases_deleteTemplate ..
  | deleteTemplates => exact erases_deleteTemplates ..
  | deleteScenario => exact erases_deleteScenario ..
  | addDefaultTemplates =>
    exact (Erases.tenant fun _ => .done _).bind fun _ => erases_addDefaults ..

/-! ### Runs of operations -/

/-- The report is one of looking a template up, the cache's answer is its outcome, and looking it up
in the store gives the same. -/
def Report.Justifies (layers : Layers) (report : Report) (hit : Hit) : Prop :=
  ∃ scenario locale channel domain application r,
    report.event = ⟨.resolve scenario locale channel domain application, .ok hit.template⟩ ∧
    (report.before.tenants.resolve domain).1 = .ok hit.tenant ∧
    ResolveRequest.parse scenario locale channel hit.tenant application = .ok r ∧
    r.slot = hit.slot ∧ layers.Finds report.before.store r hit.template

theorem lookUp_justified {c : Course} (h : Current layers none c.state) (hhits : c.hits = [])
    (scenario locale : String) (channel : Channel) (domain : String) (application : Option String)
    {y : Except Failure Template × Course}
    (hy : y = (request scenario locale channel domain application >>= looking layers).run
      Course.answer c) :
    Current layers none y.2.state ∧ ∀ hit ∈ y.2.hits, Report.Justifies layers
      ⟨⟨.resolve scenario locale channel domain application, y.1⟩, c.state, y.2.hits⟩ hit := by
  subst hy
  rcases request_cases scenario locale channel domain application with
    ⟨e, -, hrequest⟩ | ⟨r, hr, hrequest⟩
  · rw [hrequest]
    refine ⟨h, fun hit hhit => ?_⟩
    change hit ∈ c.hits at hhit
    rw [hhits] at hhit
    cases hhit
  · rw [hrequest, Program.run_perform]
    have htenant := h.answer_tenant domain
    have hnone : (Course.answer (.tenant domain) c).2.hits = [] := by
      rw [← hhits]
      exact List.append_nil _
    have hbefore : (Course.answer (.tenant domain) c).2.state.store = c.state.store := rfl
    have hanswer : (Course.answer (.tenant domain) c).1 = (c.state.tenants.resolve domain).1 := rfl
    generalize Course.answer (.tenant domain) c = z at *
    obtain ⟨answer, c'⟩ := z
    cases answer with
    | error e =>
      refine ⟨htenant, fun hit hhit => ?_⟩
      change hit ∈ c'.hits at hhit
      rw [hnone] at hhit
      cases hhit
    | ok tenant =>
      obtain ⟨hscope, hparse⟩ := hr tenant
      have hlooked := looked_looking (r := r tenant) htenant
      refine ⟨hlooked.current, fun hit hhit => ?_⟩
      rcases hlooked.hits hit hhit with hold | ⟨htold, hslot, houtcome, hfinds⟩
      · rw [hnone] at hold
        cases hold
      · rw [hscope] at htold
        refine ⟨scenario, locale, channel, domain, application, r tenant,
          congrArg (Sigma.mk _) houtcome, ?_, ?_, hslot.symm, hbefore ▸ hfinds⟩
        · rw [← hanswer, htold]
        · rw [htold]
          exact hparse

/-- An operation leaves the caches current, and is justified in what it takes from them. -/
theorem report_justified (c : Course) (h : Current layers none c.state) (hhits : c.hits = [])
    (o : Operation) :
    let y := (program ⟨layers, true⟩ o).run Course.answer c
    Current layers none y.2.state ∧
      ∀ hit ∈ y.2.hits, Report.Justifies layers ⟨⟨o, y.1⟩, c.state, y.2.hits⟩ hit := by
  intro y
  by_cases ho : ∀ scenario locale channel domain application,
      o ≠ .resolve scenario locale channel domain application
  · have hquiet : Quiet (program ⟨layers, true⟩ o) := quiet_program rfl ho
    obtain ⟨hcurrent, hnone⟩ := Quiet.run hquiet h
    refine ⟨hcurrent, fun hit hhit => ?_⟩
    rw [hnone, hhits] at hhit
    cases hhit
  · push Not at ho
    obtain ⟨scenario, locale, channel, domain, application, rfl⟩ := ho
    have hy : y = (request scenario locale channel domain application >>= looking layers).run
        Course.answer c :=
      congrArg (Program.run Course.answer · c) (resolve_eq_looking ..)
    clear_value y
    exact lookUp_justified h hhits scenario locale channel domain application hy

/-- Without faults an operation comes to the same with caches and without. -/
theorem program_transparent (c c' : Course) (h : Current layers none c.state)
    (hsame : c.SameStore c') (hc : c.Faultless) (hc' : c'.Faultless) (o : Operation) :
    let y := (program ⟨layers, true⟩ o).run Course.answer c
    let y' := (program ⟨layers, false⟩ o).run Course.answer c'
    y.1 = y'.1 ∧ y.2.SameStore y'.2 := by
  intro y y'
  by_cases ho : ∀ scenario locale channel domain application,
      o ≠ .resolve scenario locale channel domain application
  · exact (erases_program layers ho).run hsame hc hc'
  push Not at ho
  obtain ⟨scenario, locale, channel, domain, application, rfl⟩ := ho
  have hy : y = (request scenario locale channel domain application >>= looking layers).run
      Course.answer c :=
    congrArg (Program.run Course.answer · c) (resolve_eq_looking ..)
  have hy' : y' = (request scenario locale channel domain application >>= fun r =>
      storing (layers.resolve r) >>= fun found => pure found.template).run Course.answer c' :=
    congrArg (Program.run Course.answer · c') (resolve_eq_storing ..)
  clear_value y y'
  subst hy hy'
  rcases request_cases scenario locale channel domain application with
    ⟨e, -, hrequest⟩ | ⟨r, -, hrequest⟩
  · rw [hrequest]
    exact ⟨rfl, hsame⟩
  · rw [hrequest, hrequest, Program.run_perform, Program.run_perform]
    obtain ⟨hanswer, hsame'⟩ := hsame.tenant domain
    have htenant := h.answer_tenant domain
    have hcf := hc.answer (.tenant domain)
    have hcf' := hc'.answer (.tenant domain)
    rw [← hanswer]
    generalize Course.answer (.tenant domain) c = z at *
    obtain ⟨answer, d⟩ := z
    cases answer with
    | error e => exact ⟨rfl, hsame'⟩
    | ok tenant =>
      have hlooked := looked_looking (r := r tenant) htenant
      obtain ⟨houtcome, hafter⟩ := run_uncached layers (r tenant) hcf'
      rw [onceTold, onceTold]
      refine ⟨?_, (hlooked.same.symm.trans hsame').trans hafter⟩
      rw [hlooked.outcome hcf, houtcome, hsame'.store]

theorem reports_justified {c : Course} (h : Current layers none c.state) (ops : List Operation) :
    ∀ report ∈ reports ⟨layers, true⟩ ops c, ∀ hit ∈ report.hits, report.Justifies layers hit := by
  induction ops generalizing c with
  | nil => simp [reports]
  | cons o rest ih =>
    obtain ⟨hcurrent, hjustified⟩ := report_justified c.anew h rfl o
    rw [reports, List.forall_mem_cons]
    exact ⟨hjustified, ih hcurrent⟩

theorem events_transparent {c c' : Course} (h : Current layers none c.state)
    (hsame : c.SameStore c') (hc : c.Faultless) (hc' : c'.Faultless) (ops : List Operation) :
    (reports ⟨layers, true⟩ ops c).map Report.event =
      (reports ⟨layers, false⟩ ops c').map Report.event := by
  induction ops generalizing c c' with
  | nil => rfl
  | cons o rest ih =>
    have hanew : c.anew.SameStore c'.anew := ⟨hsame.store, hsame.tenants⟩
    have hc : c.anew.Faultless := hc
    have hc' : c'.anew.Faultless := hc'
    obtain ⟨hcurrent, -⟩ := report_justified c.anew h rfl o
    obtain ⟨houtcome, hsame'⟩ := program_transparent c.anew c'.anew h hanew hc hc' o
    rw [reports, reports, List.map_cons, List.map_cons]
    apply congrArg₂ List.cons (congrArg (Sigma.mk o) houtcome)
    exact ih hcurrent hsame' (hc.run _) (hc'.run _)

/-- Whatever a cache answers is what looking it up in the store would give at that moment. Without
faults the operations come to the same with caches and without. -/
theorem caching_is_transparent (layers : Layers) (kind : Kind) (retention : Retention)
    (tenants : Tenant.Lookup) (incidents : List Incident) (ops : List Operation) :
    (∀ report ∈ reports ⟨layers, true⟩ ops (.start kind retention tenants incidents),
      ∀ hit ∈ report.hits, report.Justifies layers hit) ∧
    ((∀ i ∈ incidents, i.fault = none) →
      (reports ⟨layers, true⟩ ops (.start kind retention tenants incidents)).map Report.event =
        (reports ⟨layers, false⟩ ops (.start kind retention tenants [])).map Report.event) := by
  have hstart := Current.start layers kind retention tenants incidents
  have hnone : (Course.start kind retention tenants []).Faultless := by
    intro i hi
    cases hi
  have hsame : (Course.start kind retention tenants incidents).SameStore
      (.start kind retention tenants []) := ⟨rfl, rfl⟩
  exact ⟨reports_justified hstart ops,
    fun hfaults => events_transparent hstart hsame hfaults hnone ops⟩

/-- The second look-up is answered by the cache, the one after the removal is not. -/
example :
    let tenants : Tenant.Lookup := .direct (.ofList [⟨⟨1⟩, "acme.com", .active⟩])
    let lookUp : Operation := .resolve "otp" "fr-fr" .sms "acme.com" none
    let ops := [.upsert (.sms "otp" "en-us" "code") "acme.com" none, lookUp, lookUp,
      .deleteScenario "otp" .sms "acme.com", lookUp]
    (reports ⟨⟨.empty, {}⟩, true⟩ ops (.start .tables ⟨10, 10⟩ tenants [])).map
      (fun report => report.hits.map (·.template.body)) = [[], [], ["code"], [], []] := by
  decide +kernel

end Missive.Service

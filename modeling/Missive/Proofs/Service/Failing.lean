import Missive.Proofs.Service.Halting
import Missive.Proofs.Service.Seeding

/-! Operations that fail. Such an operation leaves all records, names and cached results as they were,
but for the registration of a scenario that an upsert or the seeding of defaults began with, and for
the defaults that were stored where there was nothing. Operations that only read change nothing in the
store, whether they fail or not. -/

namespace Missive

open Store

namespace Service

namespace Operation

/-- The operation is there to look only. -/
def ReadsOnly : Operation → Prop
  | .resolve .. | .templateExists .. | .scenarioExists .. | .listTemplates ..
  | .listAllTemplates .. | .listScenarios .. => True
  | .addScenario .. | .upsert .. | .deleteTemplate .. | .deleteTemplates .. | .deleteScenario ..
  | .addDefaultTemplates .. => False

/-- The templates whose scenarios the operation registers on its way. -/
def registers (defaults : Catalog) : Operation → List Template
  | .upsert t .. => [t]
  | .addDefaultTemplates channel _ => defaults.forChannel channel
  | _ => []

/-- The templates that the operation stores before its end. -/
def stores (defaults : Catalog) : Operation → List Template
  | .addDefaultTemplates channel _ => defaults.forChannel channel
  | _ => []

/-- Nothing is lost, and what has been added is of the operation's templates, at its tenant. -/
def Spares (defaults : Catalog) (o : Operation) (s s' : Setting) : Prop :=
  ∃ tenant named stored, s.Grows tenant named stored s' ∧
    (∀ t ∈ named, t ∈ o.registers defaults ∧ (s.tenants.resolve o.domain).1 = .ok tenant) ∧
    ∀ t ∈ stored, t ∈ o.stores defaults ∧ (s.tenants.resolve o.domain).1 = .ok tenant

/-- What is left behind by an operation, whatever happens. -/
structure Leaves {α : Type} (defaults : Catalog) (o : Operation) (s : Setting) (x : Except Failure α)
    (s' : Setting) : Prop where
  unchanged : o.ReadsOnly → s'.store = s.store
  spared : ∀ e, x = .error e → o.Spares defaults s s'

end Operation

namespace Setting.Grows

variable {tenant : TenantId} {named stored : List Template} {s s' : Setting}

/-- Tenants that have been told make no difference. -/
theorem of_told {domain : String} (h : (s.told domain).Grows tenant named stored s') :
    s.Grows tenant named stored s' :=
  ⟨h.form, h.kept, h.new, h.records, h.asked⟩

end Setting.Grows

variable {defaults : Catalog} {o : Operation} {s s' : Setting}

namespace Operation.Spares

theorem refl (defaults : Catalog) (o : Operation) (s : Setting) : o.Spares defaults s s :=
  ⟨⟨0⟩, [], [], .refl s, List.forall_mem_nil _, List.forall_mem_nil _⟩

theorem told (defaults : Catalog) (o : Operation) (s : Setting) (domain : String) :
    o.Spares defaults s (s.told domain) :=
  ⟨⟨0⟩, [], [], .of_told (.refl _), List.forall_mem_nil _, List.forall_mem_nil _⟩

theorem looking (h : o.Spares defaults s s') {query : Caches.Query} (hquery : query.Looks) :
    o.Spares defaults s (s'.asking query) := by
  obtain ⟨tenant, named, stored, hgrows, hnamed, hstored⟩ := h
  exact ⟨tenant, named, stored, hgrows.asking (.inl hquery), hnamed, hstored⟩

end Operation.Spares

namespace Operation.Leaves

variable {α : Type}

theorem error {e : Failure} (h : o.Spares defaults s s') (hstore : o.ReadsOnly → s'.store = s.store) :
    o.Leaves defaults s (.error e : Except Failure α) s' :=
  ⟨hstore, fun _ _ => h⟩

theorem refused (defaults : Catalog) (s : Setting) (e : Failure) :
    o.Leaves defaults s (.error e : Except Failure α) s :=
  .error (.refl ..) fun _ => rfl

theorem told (defaults : Catalog) (s : Setting) (domain : String) (e : Failure) :
    o.Leaves defaults s (.error e : Except Failure α) (s.told domain) :=
  .error (.told ..) fun _ => rfl

theorem ok {a : α} (hstore : o.ReadsOnly → s'.store = s.store) :
    o.Leaves defaults s (.ok a) s' :=
  ⟨hstore, nofun⟩

end Operation.Leaves

open StoreProgram

variable {faulty : Prop} {α β : Type}

/-! ### Operations that only read -/

theorem leaves_observing {p : StoreProgram α} (hp : Observing p) (domain : String) :
    Assures faulty (o.Leaves defaults s) (storing p) (s.told domain) := by
  refine (assures_observing hp (s.told domain)).mono ?_
  rintro (e | a) s' ⟨rfl, -⟩
  · exact .told ..
  · exact .ok fun _ => rfl

theorem leaves_request {i : Inquiry} {f : ResolveRequest → ServiceProgram α}
    (hf : ∀ r : ResolveRequest, Assures faulty (o.Leaves defaults s) (f r) (s.told i.domain)) :
    Assures faulty (o.Leaves defaults s)
      (request i.scenario i.locale i.channel i.domain i.application >>= f) s :=
  assures_request_bind (fun _ _ => .refused defaults s _) (fun _ _ => .told ..) fun r _ _ => hf r

theorem leaves_checked {parsed : Except Identifier.Error β} {f : β → ServiceProgram α}
    (hf : ∀ b, parsed = .ok b → Assures faulty (o.Leaves defaults s) (f b) s) :
    Assures faulty (o.Leaves defaults s) (checked parsed >>= f) s :=
  assures_checked_bind (fun _ _ => .refused ..) hf

theorem leaves_resolveTenant {domain : String} {f : TenantId → ServiceProgram α}
    (hf : ∀ tenant, (s.tenants.resolve domain).1 = .ok tenant →
      Assures faulty (o.Leaves defaults s) (f tenant) (s.told domain)) :
    Assures faulty (o.Leaves defaults s) (resolveTenant domain >>= f) s :=
  assures_resolveTenant_bind (fun _ _ => .told ..) hf

theorem leaves_scopeIn {domain : String} {application : Option String}
    {f : Scope → ServiceProgram α} (hf : ∀ tenant app, (s.tenants.resolve domain).1 = .ok tenant →
      Assures faulty (o.Leaves defaults s) (f ⟨tenant, app⟩) (s.told domain)) :
    Assures faulty (o.Leaves defaults s) (scopeIn domain application >>= f) s := by
  rw [scopeIn_bind]
  exact leaves_checked fun app _ => leaves_resolveTenant fun tenant => hf tenant app

theorem leaves_resolve (service : Service) (scenario locale : String) (channel : Channel)
    (domain : String) (application : Option String) (s : Setting) :
    Assures faulty
      ((Operation.resolve scenario locale channel domain application).Leaves defaults s)
      (service.resolve scenario locale channel domain application) s := by
  obtain ⟨layers, caches⟩ := service
  cases caches with
  | false =>
    rw [resolve_eq_storing]
    refine leaves_request (i := ⟨scenario, locale, channel, domain, application⟩) fun r => ?_
    refine .bind ((assures_observing (layers.observing_resolve r) _).mono ?_)
    rintro (e | found) s' ⟨rfl, -⟩
    · exact .told ..
    · exact .done (.ok fun _ => rfl)
  | true =>
    rw [resolve_eq_looking]
    refine leaves_request (i := ⟨scenario, locale, channel, domain, application⟩) fun r => ?_
    refine .perform trivial fun handle s₁ hs₁ => ?_
    cases hs₁
    refine .perform trivial fun cached s₂ hs₂ => ?_
    cases hs₂
    cases cached with
    | some t => exact .done (.ok fun _ => rfl)
    | none =>
      refine .perform trivial fun ticket s₃ hs₃ => ?_
      cases hs₃
      change Assures _ _ (storing (layers.resolve r) >>= filling r handle ticket) _
      refine .bind ((assures_observing (layers.observing_resolve r) _).mono ?_)
      rintro (e | found) s' ⟨rfl, -⟩
      · have hlooked := (Operation.Spares.told defaults
          (.resolve scenario locale channel domain application) s domain).looking
            (show (Caches.Query.hold r.scope.tenant).Looks from trivial)
        have hmissed := hlooked.looking
          (show (Caches.Query.held handle (.get r.slot)).Looks from trivial)
        exact .error (hmissed.looking trivial) fun _ => rfl
      · refine .perform trivial fun kept s' hs' => .done ?_
        cases hs'
        exact .ok fun _ => rfl

/-! ### Operations that change the store -/

theorem leaves_addScenario (scenario : String) (channel : Channel) (domain : String) (s : Setting) :
    Assures faulty ((Operation.addScenario scenario channel domain).Leaves defaults s)
      (Service.addScenario scenario channel domain) s := by
  refine leaves_checked fun sc _ => leaves_resolveTenant fun tenant _ => ?_
  refine (assures_addScenario sc channel tenant).mono ?_
  rintro x s' (⟨-, rfl, rfl⟩ | ⟨-, rfl⟩ | ⟨-, rfl, context, e, rfl⟩)
  · exact .told ..
  · exact .ok False.elim
  · exact .told ..

theorem leaves_deleteTemplate (service : Service) (scenario locale : String) (channel : Channel)
    (domain : String) (application : Option String) (s : Setting) :
    Assures faulty
      ((Operation.deleteTemplate scenario locale channel domain application).Leaves defaults s)
      (service.deleteTemplate scenario locale channel domain application) s := by
  refine leaves_request (i := ⟨scenario, locale, channel, domain, application⟩) fun r => ?_
  refine .bind ((assures_ask (c := .delete r.position) trivial (by simp) _).mono ?_)
  rintro x s' (⟨deleted, rfl, -⟩ | ⟨-, rfl, e, rfl⟩)
  · cases deleted with
    | true => exact assures_invalidate_bind (.done (.ok False.elim)) (.done (.ok False.elim))
    | false => exact .done (.ok False.elim)
  · exact .told ..

theorem leaves_deleteTemplates (service : Service) (scenario : String) (channel : Channel)
    (domain : String) (application : Option String) (s : Setting) :
    Assures faulty
      ((Operation.deleteTemplates scenario channel domain application).Leaves defaults s)
      (service.deleteTemplates scenario channel domain application) s := by
  refine leaves_checked fun sc _ => leaves_scopeIn fun tenant app _ => ?_
  refine .bind ((assures_deleteAll sc channel ⟨tenant, app⟩).mono ?_)
  rintro x s' (⟨n, rfl⟩ | ⟨-, rfl, e, rfl⟩)
  · exact assures_invalidate_bind (.done (.ok False.elim)) (.done (.ok False.elim))
  · exact .told ..

theorem leaves_deleteScenario (service : Service) (scenario : String) (channel : Channel)
    (domain : String) (s : Setting) :
    Assures faulty ((Operation.deleteScenario scenario channel domain).Leaves defaults s)
      (service.deleteScenario scenario channel domain) s := by
  refine leaves_checked fun sc _ => leaves_resolveTenant fun tenant _ => ?_
  refine .bind ((assures_ask (c := .remove sc channel tenant) trivial (by simp) _).mono ?_)
  rintro x s' (⟨removed, rfl, -⟩ | ⟨-, rfl, e, rfl⟩)
  · cases removed with
    | true => exact assures_invalidate_bind (.done (.ok False.elim)) (.done (.ok False.elim))
    | false => exact .done (.ok False.elim)
  · exact .told ..

theorem leaves_addDefaultTemplates (service : Service) (channel : Channel) (domain : String)
    (s : Setting) :
    Assures faulty ((Operation.addDefaultTemplates channel domain).Leaves service.layers.defaults s)
      (service.addDefaultTemplates channel domain) s := by
  refine (assures_addDefaultTemplates service channel domain s).mono ?_
  rintro x s' (⟨e, -, rfl, rfl⟩ | ⟨tenant, htenant, hseeds⟩)
  · exact .told ..
  · exact ⟨nofun, fun _ _ => ⟨tenant, _, _, hseeds.grows.of_told, fun t ht => ⟨ht, htenant⟩,
      fun t ht => ⟨ht, htenant⟩⟩⟩

theorem leaves_upsert (service : Service) (t : Template) (domain : String)
    (application : Option String) (s : Setting) :
    Assures faulty ((Operation.upsert t domain application).Leaves defaults s)
      (service.upsert t domain application) s := by
  rw [upsert]
  cases t.validateForWrite with
  | error e => exact .done (.refused ..)
  | ok u =>
    refine leaves_checked fun sc hs => leaves_scopeIn fun tenant app htenant => ?_
    -- From here on the scenario may have been registered, and nothing else.
    have hregistered : ∀ {e : Failure} {s' : Setting},
        (s.told domain).Becomes (s.ledger.register sc t.channel tenant) s' →
        (Operation.upsert t domain application).Leaves defaults s (.error e : Except Failure Unit) s' :=
      fun hbecomes => .error ⟨tenant, [t], [], .of_told (.register hs hbecomes),
        fun u hu => ⟨hu, htenant⟩, List.forall_mem_nil _⟩ False.elim
    refine .bind (.bind
      ((assures_ensureScenario sc t.channel tenant).mono ?_))
    rintro x s₁ (⟨hbecomes, new, rfl⟩ | ⟨hf, rfl, e, rfl⟩)
    · refine .done (.bind (.attempt ((assures_upsert ?_).mono ?_)))
      · rw [hbecomes.ledger]
        exact Ledger.registered_for_write _ hs _
      · have hinvalidate : ∀ s₂ : Setting, Assures faulty
            ((Operation.upsert t domain application).Leaves defaults s)
            (service.invalidate tenant (.invalidate (.of sc t.channel (app.map (·.text))))) s₂ :=
          fun s₂ => assures_invalidate (.ok False.elim) (.ok False.elim)
        rintro x s₂ (⟨-, rfl⟩ | ⟨-, rfl, e, rfl⟩)
        · exact hinvalidate s₂
        · cases e with
          | scenarioNotFound =>
            refine .bind ((assures_registerAndWrite hs ⟨tenant, app⟩).mono ?_)
            rintro x s₃ (⟨-, rfl⟩ | ⟨-, rfl | hagain, e, rfl⟩)
            · exact hinvalidate s₃
            · exact hregistered hbecomes
            · rw [hbecomes.ledger, Ledger.register_register] at hagain
              exact hregistered (hbecomes.trans hagain)
          | _ => exact .done (hregistered hbecomes)
    · exact .told ..

theorem leaves_program (service : Service) (o : Operation) (s : Setting) :
    Assures faulty (o.Leaves service.layers.defaults s) (service.program o) s := by
  cases o with
  | resolve => exact leaves_resolve ..
  | templateExists scenario locale channel domain application =>
    refine leaves_request (i := ⟨scenario, locale, channel, domain, application⟩) fun r => ?_
    exact leaves_observing (service.layers.observing_templateExists r) domain
  | scenarioExists _ _ domain =>
    refine leaves_checked fun sc _ => leaves_resolveTenant fun tenant _ => ?_
    exact leaves_observing (service.layers.observing_scenarioExists ..) domain
  | listTemplates _ _ domain =>
    refine leaves_checked fun sc _ => leaves_scopeIn fun tenant app _ => ?_
    exact leaves_observing (service.layers.observing_listByScenario ..) domain
  | listAllTemplates _ domain =>
    refine leaves_resolveTenant fun tenant _ => ?_
    exact leaves_observing (service.layers.observing_listAll ..) domain
  | listScenarios _ domain =>
    refine leaves_resolveTenant fun tenant _ => ?_
    exact leaves_observing (service.layers.observing_listScenarios ..) domain
  | addScenario => exact leaves_addScenario ..
  | upsert => exact leaves_upsert ..
  | deleteTemplate => exact leaves_deleteTemplate ..
  | deleteTemplates => exact leaves_deleteTemplates ..
  | deleteScenario => exact leaves_deleteScenario ..
  | addDefaultTemplates => exact leaves_addDefaultTemplates ..

/-! ### Any course -/

namespace Course

variable {service : Service} {c : Course} {o : Operation}

/-- The course with faults to come at its next requests, and without losses. -/
def facing (c : Course) (faults : List (Option Store.Error)) : Course :=
  { c with incidents := faults.map fun fault => { fault } }

/-- The store calls that an operation makes, with the answers. -/
def calls (service : Service) (c : Course) (o : Operation) : List Exchange :=
  storeCalls ((service.program o).trace answer c.anew)

/-- A course with a sound store is in a setting. -/
theorem In.of_sound (faulty lossy : Prop) (h : c.state.store.Sound) (hfaultless : ¬faulty → c.Faultless)
    (hlossless : ¬lossy → ∀ i ∈ c.incidents, i.losses = []) :
    ∃ s : Setting, s.asked = [] ∧ c.In faulty lossy c.state.caches s := by
  obtain ⟨l, hkeeps, hl⟩ := h
  exact ⟨⟨c.state.store, l, hkeeps, hl, c.state.tenants, []⟩, rfl, rfl, rfl, hfaultless, hlossless,
    fun _ => rfl⟩

theorem sound_after (h : c.state.store.Sound) (service : Service) (o : Operation) :
    (c.after service o).state.store.Sound := by
  obtain ⟨s, -, hs⟩ := In.of_sound True True h (absurd trivial) (absurd trivial)
  obtain ⟨s', -, hs'⟩ := (leaves_program service o s).run hs.anew
  exact ⟨s'.ledger, hs'.store ▸ s'.keeps, s'.sound⟩

theorem sound_through (h : c.state.store.Sound) (service : Service) (ops : List Operation) :
    (c.through service ops).state.store.Sound := by
  induction ops generalizing c with
  | nil => exact h
  | cons o rest ih => exact ih (sound_after h service o)

end Course

namespace Setting

variable {s s' : Setting}

theorem read_eq (s : Setting) (p : Position) :
    s.store.read p = .ok ((s.ledger.records.get? p.ref).map s.store.form) :=
  AnyStore.read_of_keeps s.keeps s.sound p

theorem read_eq_none_iff (s : Setting) (p : Position) :
    s.store.read p = .ok none ↔ s.ledger.records.get? p.ref = none := by
  rw [read_eq, Except.ok.injEq, Option.map_eq_none_iff]

theorem registers_iff (s : Setting) {ref : ScenarioRef} {name : String} :
    s.store.Registers ref name ↔ s.ledger.names.get? ref = some name :=
  AnyStore.registers_iff s.keeps s.sound

/-- Of what the caches had before, only what a stored template may have outdated is dropped. -/
theorem Grows.entry {tenant : TenantId} {named stored : List Template}
    (h : s.Grows tenant named stored s') (hasked : s.asked = []) (caches : Caches)
    (tenant' : TenantId) (slot : Slot) :
    (caches.afterAll s'.asked).entry tenant' slot = caches.entry tenant' slot ∨
      (caches.afterAll s'.asked).entry tenant' slot = none ∧ tenant' = tenant ∧
        ∃ t ∈ stored, slot.key = (t.home tenant).key ∧ ∃ p : Position, p.ref = t.home tenant ∧
          s.store.read p = .ok none ∧ s'.store.read p ≠ .ok none := by
  obtain ⟨news, hnews, hall⟩ := h.asked
  rw [hasked, List.nil_append] at hnews
  rw [hnews]
  have hquiet : ∀ q ∈ news, q.Looks ∨ ∃ tenant op, q = .once tenant op ∧ op.Invalidates := by
    intro q hq
    refine (hall q hq).imp_right ?_
    rintro ⟨t, -, rfl, -⟩
    exact ⟨_, _, rfl, trivial⟩
  refine (caches.entry_afterAll tenant' slot hquiet).imp_right ?_
  rintro ⟨hentry, q, hq, hdrops⟩
  rcases hall q hq with hlooks | ⟨t, ht, rfl, hnone, hsome⟩
  · exact absurd hdrops (hlooks.not_drops _ _)
  · obtain ⟨htenant, hcovers⟩ := hdrops
    have hkey : slot.key = (t.home tenant).key := by simpa [Cache.Op.covers] using hcovers
    obtain ⟨u, hu⟩ := Option.ne_none_iff_exists'.1 hsome
    obtain ⟨p, hp, -⟩ := s'.sound.records hu
    refine ⟨hentry, htenant.symm, t, ht, hkey, p, hp, ?_⟩
    rw [s.read_eq_none_iff, ne_eq, s'.read_eq_none_iff, hp]
    exact ⟨hnone, hsome⟩

end Setting

/-- What a failed operation has left of a course. Only its own templates can be new, at its own tenant:
their scenarios may be registered, and some of them stored where there was nothing. -/
structure Spared (service : Service) (o : Operation) (before after : Course) : Prop where
  records : ∀ p : Position, after.state.store.read p = before.state.store.read p ∨
    before.state.store.read p = .ok none ∧ ∃ t ∈ o.stores service.layers.defaults,
      (before.state.tenants.resolve o.domain).1 = .ok p.scope.tenant ∧
      p.ref = t.home p.scope.tenant ∧ ∃ u name, after.state.store.read p = .ok (some u) ∧
        u.Alike { t.normalized with scenario := name }
  kept : ∀ ref name, before.state.store.Registers ref name → after.state.store.Registers ref name
  new : ∀ ref name, after.state.store.Registers ref name → before.state.store.Registers ref name ∨
    ∃ t ∈ o.registers service.layers.defaults,
      (before.state.tenants.resolve o.domain).1 = .ok ref.tenant ∧
      ref = (t.home ref.tenant).scenario ∧ name = t.normalized.scenario
  /-- Cached results are dropped only where a template was stored. -/
  entries : ∀ tenant slot,
    after.state.caches.entry tenant slot = before.state.caches.entry tenant slot ∨
    after.state.caches.entry tenant slot = none ∧ ∃ t ∈ o.stores service.layers.defaults,
      (before.state.tenants.resolve o.domain).1 = .ok tenant ∧ slot.key = (t.home tenant).key ∧
      ∃ p : Position, p.ref = t.home tenant ∧ before.state.store.read p = .ok none ∧
        after.state.store.read p ≠ .ok none

/-- In a course without losses, what an operation spares of the setting is spared of the course. -/
theorem Operation.Spares.spared {service : Service} {faulty lossy : Prop} {before after : Course}
    (h : o.Spares service.layers.defaults s s') (hasked : s.asked = []) (hlossy : ¬lossy)
    (hbefore : before.In faulty lossy before.state.caches s)
    (hafter : after.In faulty lossy before.state.caches s') : Spared service o before after := by
  obtain ⟨tenant, named, stored, hgrows, hnamed, hstored⟩ := h
  have hcaches := hafter.caches hlossy
  obtain ⟨hstore, htenants, -, -, -⟩ := hbefore
  obtain ⟨hstore', -, -, -, -⟩ := hafter
  constructor
  · intro p
    rw [hstore, hstore', htenants, s.read_eq_none_iff, s.read_eq, s'.read_eq, hgrows.form]
    rcases hgrows.records p.ref with hsame | ⟨hnone, t, ht, hp, name, hsome⟩
    · exact .inl (by rw [hsame])
    · have htenant : p.scope.tenant = tenant := congrArg (·.scenario.tenant) hp
      obtain ⟨hmem, hresolved⟩ := hstored t ht
      rw [htenant, hsome]
      exact .inr ⟨hnone, t, hmem, hresolved, hp, _, name, rfl, Template.Neutral.alike _⟩
  · intro ref name hname
    rw [hstore, s.registers_iff] at hname
    rw [hstore', s'.registers_iff]
    exact hgrows.kept hname
  · intro ref name hname
    rw [hstore', s'.registers_iff] at hname
    rw [hstore, s.registers_iff, htenants]
    refine (hgrows.new hname).imp_right ?_
    rintro ⟨t, ht, rfl, rfl⟩
    exact ⟨t, (hnamed t ht).1, (hnamed t ht).2, rfl, rfl⟩
  · intro tenant' slot
    rw [hcaches, hstore, hstore', htenants]
    refine (hgrows.entry hasked _ tenant' slot).imp_right ?_
    rintro ⟨hentry, rfl, t, ht, hkey, hplace⟩
    exact ⟨hentry, t, (hstored t ht).1, (hstored t ht).2, hkey, hplace⟩

/-- Whatever store calls fail during an operation, the first failure ends it and is reported, and if
the operation fails it has done no damage; operations that only read never touch the store. -/
theorem failing_calls_end_operations (service : Service) (kind : Kind) (retention : Retention)
    (tenants : Tenant.Lookup) (incidents : List Incident) (ops : List Operation)
    (faults : List (Option Store.Error)) (o : Operation) :
    let before := ((Course.start kind retention tenants incidents).through service ops).facing faults
    let after := before.after service o
    o.Halts (before.outcome service o) (before.calls service o) ∧
      (∀ e, before.outcome service o = .error e → Spared service o before after) ∧
      (o.ReadsOnly → after.state.store = before.state.store) := by
  intro before after
  refine ⟨halts_program service o Course.answer before.anew, ?_⟩
  have hsound : before.state.store.Sound :=
    Course.sound_through (AnyStore.sound_empty kind) service ops
  have hlossless : ∀ i ∈ before.incidents, i.losses = [] := by
    intro i hi
    obtain ⟨fault, -, rfl⟩ := List.mem_map.1 hi
    rfl
  obtain ⟨s, hasked, hs⟩ := Course.In.of_sound True False hsound (absurd trivial) fun _ => hlossless
  obtain ⟨s', hleaves, hs'⟩ := (leaves_program service o s).run hs.anew
  refine ⟨fun e he => ?_, fun ho => ?_⟩
  · exact (hleaves.spared e he).spared hasked id hs hs'
  · exact hs'.store.trans ((hleaves.unchanged ho).trans hs.store.symm)

end Service
end Missive

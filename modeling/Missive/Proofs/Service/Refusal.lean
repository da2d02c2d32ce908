import Missive.Proofs.Catalog
import Missive.Proofs.Service.Footprint

/-! Input that is refused. An operation reports the first fault of its input, in the order scenario,
locale, body and channel fields, application, before it asks for anything; and if there is no fault, it
reports none later, however often the same texts are checked again on the way. -/

namespace Missive

open Store Identifier

/-- The fault that an identifier is refused for. -/
def InputFault.ofVerdict {α : Type} : Except Identifier.Error α → Option InputFault
  | .ok _ => none
  | .error e => some (.ofIdentifier e)

/-- What is wrong with a text, if it is there. -/
def InputFault.found (check : String → Except Identifier.Error Unit) (text : Option String) :
    Option InputFault :=
  text.bind fun text => ofVerdict (check text)

/-- What is wrong with the body of a template and with the fields of its channel. -/
def Template.fieldFaults (t : Template) : List InputFault :=
  (if Text.onlyBlank t.body then [.blankBody] else []) ++
    match t.channel with
    | .email => if t.subject.all Text.onlyBlank then [.blankSubject] else []
    | .sms =>
      [("subject", t.subject), ("footer", t.footer), ("content_type", t.contentType)].filterMap
        fun (name, value) => value.map fun _ => .notForSms name

namespace Service.Operation

/-- What is wrong with the input of the operation, in the order in which it is reported. -/
def faults (o : Operation) : List InputFault :=
  (InputFault.found ScenarioName.check o.scenario?).toList ++
    ((InputFault.found LocaleTag.check o.locale?).toList ++
      (o.template?.elim [] Template.fieldFaults ++
        (InputFault.found ApplicationId.check o.application?).toList))

end Service.Operation

/-! ### No fault is reported -/

/-- Whatever it is answered, the program does not find fault with its input. -/
abbrev Program.Accepts {σ : Type} {ρ : σ → Type} {α : Type} (p : Program σ ρ Failure α) : Prop :=
  p.Ensures (fun _ => True) (fun _ (_ : Unit) _ _ => True)
    (fun x _ => ∀ fault, x ≠ .error (.invalidInput fault)) ()

namespace Program

variable {σ S : Type} {ρ : σ → Type} {α β : Type} {p : Program σ ρ Failure α}

theorem Accepts.run (h : p.Accepts) (handler : Handler σ ρ S) (s : S) (fault : InputFault) :
    (p.run handler s).1 ≠ .error (.invalidInput fault) := by
  obtain ⟨-, hrun, -⟩ := Ensures.run (h := handler) (R := fun _ _ => True) (t := s)
    (fun _ _ _ _ _ => ⟨(), trivial, trivial⟩) h trivial
  exact hrun fault

theorem Accepts.bind {f : α → Program σ ρ Failure β} (h : p.Accepts) (hf : ∀ a, (f a).Accepts) :
    (p >>= f).Accepts := by
  refine Ensures.bind (h.mono ?_)
  rintro (e | a) - hx
  · exact fun fault he => hx fault (congrArg Except.error (Except.error.inj he))
  · exact hf a

theorem accepts_pure (a : α) : (pure a : Program σ ρ Failure α).Accepts := .done nofun

theorem accepts_throw {e : Failure} (he : ∀ fault, e ≠ .invalidInput fault) :
    (throw e : Program σ ρ Failure α).Accepts :=
  .done fun fault heq => he fault (Except.error.inj heq)

/-- A request of which every answer is accepted. -/
theorem accepts_perform {q : σ} {next : ρ q → Program σ ρ Failure α}
    (h : ∀ a, (next a).Accepts) : (perform q next).Accepts :=
  .perform trivial fun a _ _ => h a

end Program

open Program

variable {α β : Type}

namespace Durable

theorem accepts_ask (purpose : String) (c : Call) : (ask purpose c).Accepts := by
  refine accepts_perform fun a => .done ?_
  cases a <;> nofun

theorem accepts_addScenario (s : Scenario) (channel : Channel) (tenant : TenantId) :
    (addScenario s channel tenant).Accepts := by
  refine (accepts_ask _ _).bind fun registered => ?_
  cases registered with
  | true => exact .done nofun
  | false => exact accepts_ask ..

theorem accepts_ensureScenario (s : Scenario) (channel : Channel) (tenant : TenantId) :
    (ensureScenario s channel tenant).Accepts := by
  refine Ensures.bind (.attempt ((accepts_addScenario s channel tenant).mono ?_))
  rintro (e | u) - hx
  · cases e with
    | invalidInput fault => exact absurd rfl (hx fault)
    | scenarioAlreadyExists => exact accepts_pure _
    | _ => exact accepts_throw nofun
  · exact accepts_pure _

theorem accepts_upsert {t : Template} (ht : t.validateForWrite = .ok ()) (scope : Scope) :
    (Durable.upsert t scope).Accepts := by
  rw [Durable.upsert, ht]
  refine accepts_perform fun a => .done ?_
  cases a with
  | ok u => rintro fault ⟨⟩
  | error e => cases e <;> rintro fault ⟨⟩

theorem accepts_deleteAll (s : Scenario) (channel : Channel) (scope : Scope) :
    (deleteAll s channel scope).Accepts := by
  refine (accepts_ask _ _).bind fun registered => ?_
  cases registered with
  | true => exact accepts_ask ..
  | false => exact accepts_pure _

theorem accepts_isStored (r : ResolveRequest) : (isStored r).Accepts :=
  (accepts_ask _ _).bind fun _ => accepts_pure _

end Durable

namespace Layers

variable (layers : Layers)

theorem accepts_lookup (r : ResolveRequest) (tier : Tier) : (layers.lookup r tier).Accepts := by
  cases tier with
  | exact | defaultLocale => exact Durable.accepts_ask ..
  | systemDefault | unsatisfied => exact accepts_pure _

theorem accepts_resolveIn (r : ResolveRequest) (tiers : List Tier) :
    (layers.resolveIn r tiers).Accepts := by
  induction tiers with
  | nil => exact accepts_throw nofun
  | cons tier rest ih =>
    refine (layers.accepts_lookup r tier).bind fun found => ?_
    cases found with
    | none => exact ih
    | some t =>
      change (if t.hasContent then _ else _ : StoreProgram Resolved).Accepts
      split
      · exact accepts_pure _
      · exact accepts_throw nofun

theorem accepts_listByScenario (s : Scenario) (channel : Channel) (scope : Scope) :
    (layers.listByScenario s channel scope).Accepts := by
  refine (Durable.accepts_ask _ _).bind fun registered => ?_
  cases registered with
  | true => exact (Durable.accepts_ask _ _).bind fun _ => accepts_pure _
  | false =>
    cases layers.defaults.get? s channel with
    | none => exact accepts_throw nofun
    | some t => exact accepts_pure _

end Layers

namespace Service

open Operation

/-- The store's part of an operation. -/
theorem accepts_storing {p : StoreProgram α} (h : p.Accepts) : (storing p).Accepts := by
  induction p with
  | done x =>
    cases h with
    | done hx => exact .done hx
  | perform c next ih =>
    cases h with
    | perform _ hnext => exact accepts_perform fun a => ih a (hnext a () trivial)

theorem accepts_caching (query : Caches.Query) : (caching query).Accepts :=
  accepts_perform fun _ => accepts_pure _

theorem accepts_invalidate (service : Service) (tenant : TenantId) (op : Cache.Op) :
    (service.invalidate tenant op).Accepts := by
  rw [invalidate]
  cases service.caches with
  | true => exact accepts_perform fun _ => accepts_pure _
  | false => exact accepts_pure _

theorem accepts_resolveTenant (domain : String) : (resolveTenant domain).Accepts := by
  refine accepts_perform fun a => .done ?_
  cases a <;> nofun

theorem accepts_registerAndWrite {t : Template} (ht : t.validateForWrite = .ok ()) (sc : Scenario)
    (scope : Scope) : (registerAndWrite sc t scope).Accepts :=
  ((Durable.accepts_ensureScenario sc t.channel scope.tenant).bind fun _ => accepts_pure _).bind
    fun _ => Durable.accepts_upsert ht scope

/-- A default that has passed the checks of a write passes those on the way to the store. -/
theorem accepts_addDefault (service : Service) (tenant : TenantId) {t : Template}
    (ht : t.validateForWrite = .ok ()) : (service.addDefault tenant t).Accepts := by
  obtain ⟨hname, htag, -⟩ := Template.validateForWrite_eq_ok_iff.1 ht
  obtain ⟨sc, hs⟩ := Scenario.parse_of_check hname
  obtain ⟨locale, hlocale⟩ := Locale.parse_of_check htag
  rw [addDefault, hs, hlocale]
  refine (accepts_storing (Durable.accepts_isStored _)).bind fun stored => ?_
  cases stored with
  | true => exact accepts_pure _
  | false =>
    refine (accepts_storing (accepts_registerAndWrite ht sc _)).bind fun _ => ?_
    exact (service.accepts_invalidate tenant _).bind fun _ => accepts_pure _

theorem accepts_addDefaults (service : Service) (tenant : TenantId) {ts : List Template}
    (hts : ∀ t ∈ ts, t.validateForWrite = .ok ()) (added : Nat) :
    (service.addDefaults tenant added ts).Accepts := by
  induction ts generalizing added with
  | nil => exact accepts_pure _
  | cons t rest ih =>
    obtain ⟨hhead, htail⟩ := List.forall_mem_cons.1 hts
    exact (service.accepts_addDefault tenant hhead).bind fun isNew => ih htail _

/-! ### Faults are reported in their order -/

/-- The program reports the first of the faults before it asks for anything. If there is none, it
reports none later. -/
structure Checks (faults : List InputFault) (p : ServiceProgram α) : Prop where
  refuses : ∀ fault, faults.head? = some fault → p = .done (.error (.invalidInput fault))
  accepts : faults = [] → p.Accepts

theorem Checks.nothing {p : ServiceProgram α} (h : p.Accepts) : Checks [] p := ⟨nofun, fun _ => h⟩

/-- A check that finds a fault comes before all others. -/
theorem Checks.cons (fault : InputFault) (rest : List InputFault) :
    Checks (fault :: rest) (.done (.error (.invalidInput fault)) : ServiceProgram α) where
  refuses _ hfault := by rw [← Option.some.inj hfault]
  accepts := nofun

/-- An identifier is checked, and the rest of the program finds the rest of the faults. -/
theorem checks_checked_bind {rest : List InputFault} {parsed : Except Identifier.Error β}
    {f : β → ServiceProgram α} (hf : ∀ b, parsed = .ok b → Checks rest (f b)) :
    Checks ((InputFault.ofVerdict parsed).toList ++ rest) (checked parsed >>= f) := by
  cases parsed with
  | error e => exact .cons (.ofIdentifier e) rest
  | ok b => exact hf b rfl

theorem found_scenario (text : String) :
    InputFault.found ScenarioName.check (some text) = InputFault.ofVerdict (Scenario.parse text) := by
  rw [InputFault.found, Option.bind_some, Scenario.parse]
  split <;> rename_i hcheck <;> exact congrArg InputFault.ofVerdict hcheck

theorem found_locale (text : String) :
    InputFault.found LocaleTag.check (some text) = InputFault.ofVerdict (Locale.parse text) := by
  rw [InputFault.found, Option.bind_some, Locale.parse]
  split <;> rename_i hcheck <;> exact congrArg InputFault.ofVerdict hcheck

theorem found_application (application : Option String) :
    InputFault.found ApplicationId.check application =
      InputFault.ofVerdict (parseApplication application) := by
  cases application with
  | none => rfl
  | some text =>
    rw [InputFault.found, Option.bind_some, parseApplication, ApplicationId.parse]
    split <;> rename_i hcheck <;> exact congrArg InputFault.ofVerdict hcheck

theorem checks_scenario_bind {rest : List InputFault} {text : String}
    {f : Scenario → ServiceProgram α} (hf : ∀ sc, Checks rest (f sc)) :
    Checks ((InputFault.found ScenarioName.check (some text)).toList ++ rest)
      (checked (Scenario.parse text) >>= f) := by
  rw [found_scenario]
  exact checks_checked_bind fun sc _ => hf sc

/-- What is accepted before the tenant is asked for is accepted after that. -/
theorem checks_scopeIn_bind {domain : String} {application : Option String}
    {f : Scope → ServiceProgram α} (hf : ∀ scope, (f scope).Accepts) :
    Checks (InputFault.found ApplicationId.check application).toList
      (scopeIn domain application >>= f) := by
  rw [found_application, scopeIn_bind, ← List.append_nil (Option.toList _)]
  exact checks_checked_bind fun app _ =>
    .nothing ((accepts_resolveTenant domain).bind fun tenant => hf ⟨tenant, app⟩)

/-- The checks of a request for a template. -/
theorem checks_request_bind {scenario locale : String} {channel : Channel} {domain : String}
    {application : Option String} {f : ResolveRequest → ServiceProgram α}
    (hf : ∀ r, (f r).Accepts) :
    Checks ((InputFault.found ScenarioName.check (some scenario)).toList ++
        ((InputFault.found LocaleTag.check (some locale)).toList ++
          (InputFault.found ApplicationId.check application).toList))
      (request scenario locale channel domain application >>= f) := by
  rw [found_scenario, found_locale, found_application, request]
  simp only [scopeIn_bind]
  cases Scenario.parse scenario with
  | error e => exact .cons ..
  | ok sc =>
    cases Locale.parse locale with
    | error e => exact .cons ..
    | ok loc =>
      cases parseApplication application with
      | error e => exact .cons ..
      | ok app =>
        refine .nothing (accepts_perform fun a => ?_)
        cases a with
        | ok tenant => exact hf ⟨sc, loc, channel, ⟨tenant, app⟩⟩
        | error e => exact .done (by rintro fault ⟨⟩)

/-- The checks of a write, with what is wrong with the fields. -/
theorem validateForWrite_of_fieldFaults {t : Template}
    (hname : ScenarioName.check t.scenario = .ok ()) (htag : LocaleTag.check t.locale = .ok ()) :
    t.fieldFaults = [] ∧ t.validateForWrite = .ok () ∨
      ∃ fault rest, t.fieldFaults = fault :: rest ∧
        t.validateForWrite = .error (.invalidInput fault) := by
  rw [Template.fieldFaults, Template.validateForWrite, hname, htag, Template.hasContent,
    Template.checkChannelFields]
  cases Text.onlyBlank t.body with
  | true => exact .inr ⟨_, _, rfl, rfl⟩
  | false =>
    cases t.channel with
    | email =>
      cases t.subject.all Text.onlyBlank with
      | true => exact .inr ⟨_, _, rfl, rfl⟩
      | false => exact .inl ⟨rfl, rfl⟩
    | sms =>
      cases t.subject with
      | some subject => exact .inr ⟨_, _, rfl, rfl⟩
      | none =>
        cases t.footer with
        | some footer => exact .inr ⟨_, _, rfl, rfl⟩
        | none =>
          cases t.contentType with
          | some contentType => exact .inr ⟨_, _, rfl, rfl⟩
          | none => exact .inl ⟨rfl, rfl⟩

/-- The checks of a write. -/
theorem checks_validate_bind {t : Template} {rest : List InputFault} {f : Unit → ServiceProgram α}
    (hf : t.validateForWrite = .ok () → Checks rest (f ())) :
    Checks ((InputFault.found ScenarioName.check (some t.scenario)).toList ++
        ((InputFault.found LocaleTag.check (some t.locale)).toList ++ (t.fieldFaults ++ rest)))
      (Program.done t.validateForWrite >>= f) := by
  rw [InputFault.found, InputFault.found, Option.bind_some, Option.bind_some]
  cases hname : ScenarioName.check t.scenario with
  | error e =>
    rw [Template.validateForWrite, hname]
    exact .cons ..
  | ok u =>
    cases htag : LocaleTag.check t.locale with
    | error e =>
      rw [Template.validateForWrite, hname, htag]
      exact .cons ..
    | ok v =>
      rcases validateForWrite_of_fieldFaults hname htag with
        ⟨hfaults, hvalid⟩ | ⟨fault, others, hfaults, hvalid⟩
      · rw [hfaults, hvalid]
        exact hf hvalid
      · rw [hfaults, hvalid]
        exact .cons ..

theorem checks_upsert (service : Service) (t : Template) (domain : String)
    (application : Option String) :
    Checks (Operation.upsert t domain application).faults (service.upsert t domain application) := by
  refine checks_validate_bind fun ht => ?_
  -- The scenario has been checked with the template.
  obtain ⟨sc, hs⟩ := Scenario.parse_of_check (Template.validateForWrite_eq_ok_iff.1 ht).1
  rw [hs]
  refine checks_scopeIn_bind fun scope => ?_
  refine ((accepts_storing (Durable.accepts_ensureScenario ..)).bind fun _ => accepts_pure _).bind
    fun _ => ?_
  refine Ensures.bind (.attempt ((accepts_storing (Durable.accepts_upsert ht _)).mono ?_))
  rintro (e | u) - hx
  · cases e with
    | invalidInput fault => exact absurd rfl (hx fault)
    | scenarioNotFound =>
      exact (accepts_storing (accepts_registerAndWrite ht sc _)).bind fun _ =>
        service.accepts_invalidate ..
    | _ => exact .done nofun
  · exact service.accepts_invalidate ..

/-- Each operation finds the faults of its input first. -/
theorem checks_program (service : Service)
    (hdefaults : ∀ t ∈ service.layers.defaults.templates, t.validateForWrite = .ok ())
    (o : Operation) : Checks o.faults (service.program o) := by
  cases o with
  | resolve scenario locale channel domain application =>
    refine checks_request_bind fun r => ?_
    have hresolve := accepts_storing (service.layers.accepts_resolveIn r
      (Tier.plan (service.layers.requestedIsDefault r)))
    cases service.caches with
    | false => exact hresolve.bind fun _ => accepts_pure _
    | true =>
      refine (accepts_caching _).bind fun handle => (accepts_caching _).bind fun cached => ?_
      cases cached with
      | some t => exact accepts_pure _
      | none =>
        refine (accepts_caching _).bind fun ticket => hresolve.bind fun found => ?_
        exact ((accepts_caching _).bind fun _ => accepts_pure _).bind fun _ => accepts_pure _
  | templateExists scenario locale channel domain application =>
    refine checks_request_bind fun r => accepts_storing ?_
    refine (Durable.accepts_isStored r).bind fun stored => ?_
    cases stored <;> exact accepts_pure _
  | scenarioExists scenario channel domain =>
    refine checks_scenario_bind fun sc => .nothing ?_
    refine (accepts_resolveTenant domain).bind fun tenant => accepts_storing ?_
    refine (Durable.accepts_ask _ _).bind fun registered => ?_
    cases registered <;> exact accepts_pure _
  | listTemplates scenario channel domain application =>
    refine checks_scenario_bind fun sc => checks_scopeIn_bind fun scope => ?_
    exact accepts_storing (service.layers.accepts_listByScenario ..)
  | listAllTemplates channel domain =>
    refine .nothing ((accepts_resolveTenant domain).bind fun tenant => accepts_storing ?_)
    exact (Durable.accepts_ask _ _).bind fun _ => accepts_pure _
  | listScenarios channel domain =>
    refine .nothing ((accepts_resolveTenant domain).bind fun tenant => accepts_storing ?_)
    exact (Durable.accepts_ask _ _).bind fun _ => accepts_pure _
  | addScenario scenario channel domain =>
    refine checks_scenario_bind fun sc => .nothing ?_
    exact (accepts_resolveTenant domain).bind fun tenant =>
      accepts_storing (Durable.accepts_addScenario ..)
  | upsert t domain application => exact checks_upsert ..
  | deleteTemplate scenario locale channel domain application =>
    refine checks_request_bind fun r => ?_
    refine (accepts_storing (Durable.accepts_ask _ _)).bind fun deleted => ?_
    cases deleted with
    | true => exact (service.accepts_invalidate _ _).bind fun _ => accepts_pure _
    | false => exact accepts_pure _
  | deleteTemplates scenario channel domain application =>
    refine checks_scenario_bind fun sc => checks_scopeIn_bind fun scope => ?_
    refine (accepts_storing (Durable.accepts_deleteAll ..)).bind fun n => ?_
    exact (service.accepts_invalidate _ _).bind fun _ => accepts_pure _
  | deleteScenario scenario channel domain =>
    refine checks_scenario_bind fun sc => .nothing ?_
    refine (accepts_resolveTenant domain).bind fun tenant => ?_
    refine (accepts_storing (Durable.accepts_ask _ _)).bind fun removed => ?_
    cases removed with
    | true => exact (service.accepts_invalidate _ _).bind fun _ => accepts_pure _
    | false => exact accepts_pure _
  | addDefaultTemplates channel domain =>
    refine .nothing ((accepts_resolveTenant domain).bind fun tenant => ?_)
    exact service.accepts_addDefaults tenant
      (fun t ht => hdefaults t (List.mem_of_mem_filter ht)) 0

/-- An operation whose input has no fault has a scope at every tenant. -/
theorem Operation.scope_of_faults_eq_nil {o : Operation} (h : o.faults = []) (tenant : TenantId) :
    ∃ scope, Scope.parse tenant o.application? = .ok scope ∧ scope.tenant = tenant := by
  rw [faults, List.append_eq_nil_iff, List.append_eq_nil_iff, List.append_eq_nil_iff,
    Option.toList_eq_nil_iff, Option.toList_eq_nil_iff, Option.toList_eq_nil_iff,
    found_application] at h
  obtain ⟨-, -, -, happlication⟩ := h
  rw [scope_parse_eq]
  cases happ : parseApplication o.application? with
  | ok app => exact ⟨_, rfl, rfl⟩
  | error e =>
    rw [happ] at happlication
    cases happlication

/-- Malformed input is refused at once and with its first fault, whatever the surroundings are like;
input without a fault is never refused, and gives a scope at every tenant. -/
theorem malformed_input_is_refused_first (service : Service) {locales : DefaultLocales}
    {templates : List Template}
    (hcatalog : Catalog.ofTemplates locales templates = .ok service.layers.defaults)
    (o : Operation) {S : Type} (surroundings : Program.Handler Request Request.Answer S) (s : S) :
    (∀ fault, ((service.program o).run surroundings s).1 = .error (.invalidInput fault) ↔
        o.faults.head? = some fault) ∧
      (o.faults ≠ [] → (service.program o).trace surroundings s = [] ∧
        ((service.program o).run surroundings s).2 = s) ∧
      (o.faults = [] → ∀ tenant, ∃ scope, Scope.parse tenant o.application? = .ok scope ∧
        scope.tenant = tenant) := by
  have hchecks : Checks o.faults (service.program o) :=
    checks_program service
      (fun t ht => ((Catalog.valid_ofTemplates hcatalog).storable t ht).valid) o
  cases hfaults : o.faults with
  | nil =>
    refine ⟨fun fault => ⟨fun hrun => ?_, nofun⟩, absurd rfl, fun _ => ?_⟩
    · exact absurd hrun ((hchecks.accepts hfaults).run surroundings s fault)
    · exact Operation.scope_of_faults_eq_nil hfaults
  | cons first rest =>
    have hrefused := hchecks.refuses first (by rw [hfaults]; rfl)
    rw [hrefused]
    refine ⟨fun fault => ?_, fun _ => ⟨rfl, rfl⟩, nofun⟩
    simp

/-- Four faults, of which the one in the locale comes first. -/
theorem malformed_input_is_refused_first_english :
    let otp : Template := .sms "otp" "en-us" "code"
    let service : Service := ⟨⟨⟨[otp]⟩, {}⟩, true⟩
    let o : Operation := .upsert (.email "welcome" "english" " " "") "acme.com" (some "a b")
    let start : State AnyStore :=
      { store := .tables .empty, caches := { retention := ⟨10, 10⟩ }, tenants := .direct {} }
    let fault : InputFault := .ofIdentifier (.malformedLocale "english")
    Catalog.ofTemplates {} [otp] = .ok service.layers.defaults ∧ o.faults.length = 4 ∧
      ((service.program o).run (answer AnyStore.backend) start).1 = .error (.invalidInput fault) ∧
      (service.program o).trace (answer AnyStore.backend) start = [] ∧
      ((service.program o).run (answer AnyStore.backend) start).2 = start := by
  intro otp service o start fault
  have hcatalog : Catalog.ofTemplates {} [otp] = .ok service.layers.defaults := by decide +kernel
  have hfirst : o.faults.head? = some fault := by decide +kernel
  have hfaults : o.faults ≠ [] := by decide +kernel
  obtain ⟨hexact, hearly, -⟩ := malformed_input_is_refused_first service hcatalog o
    (answer AnyStore.backend) start
  exact ⟨hcatalog, by decide +kernel, (hexact fault).2 hfirst, hearly hfaults⟩

end Service
end Missive

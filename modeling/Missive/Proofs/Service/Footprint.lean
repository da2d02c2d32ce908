import Missive.Proofs.Layers.Footprint
import Missive.Proofs.Service.LookingUp

/-! What the operations of the service look at. An operation is about the scenario that it names, or
about all scenarios of its channel, at the tenant of its domain; and as long as those look the same,
it does the same without caches. -/

namespace Missive

open Store

namespace Service

namespace Operation

def channel : Operation → Channel
  | .resolve _ _ channel _ _ | .templateExists _ _ channel _ _ | .scenarioExists _ channel _
  | .listTemplates _ channel _ _ | .listAllTemplates channel _ | .listScenarios channel _
  | .addScenario _ channel _ | .deleteTemplate _ _ channel _ _ | .deleteTemplates _ channel _ _
  | .deleteScenario _ channel _ | .addDefaultTemplates channel _ => channel
  | .upsert template _ _ => template.channel

def domain : Operation → String
  | .resolve _ _ _ domain _ | .templateExists _ _ _ domain _ | .scenarioExists _ _ domain
  | .listTemplates _ _ domain _ | .listAllTemplates _ domain | .listScenarios _ domain
  | .addScenario _ _ domain | .upsert _ domain _ | .deleteTemplate _ _ _ domain _
  | .deleteTemplates _ _ domain _ | .deleteScenario _ _ domain | .addDefaultTemplates _ domain =>
    domain

/-- The scenario that the operation names, unless it is about all of a channel. -/
def scenario? : Operation → Option String
  | .resolve scenario .. | .templateExists scenario .. | .scenarioExists scenario ..
  | .listTemplates scenario .. | .addScenario scenario .. | .deleteTemplate scenario ..
  | .deleteTemplates scenario .. | .deleteScenario scenario .. => some scenario
  | .upsert template .. => some template.scenario
  | .listAllTemplates .. | .listScenarios .. | .addDefaultTemplates .. => none

def locale? : Operation → Option String
  | .resolve _ locale .. | .templateExists _ locale .. | .deleteTemplate _ locale .. => some locale
  | .upsert t .. => some t.locale
  | _ => none

def template? : Operation → Option Template
  | .upsert t .. => some t
  | _ => none

def application? : Operation → Option String
  | .resolve _ _ _ _ application | .templateExists _ _ _ _ application
  | .listTemplates _ _ _ application | .upsert _ _ application
  | .deleteTemplate _ _ _ _ application | .deleteTemplates _ _ _ application => application
  | _ => none

/-- The operation is about the scenario, by name or with its whole channel. -/
def Concerns (directory : Tenant.Directory) (o : Operation) (ref : ScenarioRef) : Prop :=
  ref.channel = o.channel ∧ directory.resolve o.domain = .ok ref.tenant ∧
    ∀ text, o.scenario? = some text → ∃ s, Scenario.parse text = .ok s ∧ s.key = ref.key

/-- The same reply, up to the order of a listing. -/
def Same : (o : Operation) → o.Reply → o.Reply → Prop
  | .listTemplates .., a, b | .listAllTemplates .., a, b => a.Perm b
  | .listScenarios .., a, b => a.Perm b
  | .resolve .., a, b => a = b
  | .templateExists .., a, b | .scenarioExists .., a, b | .addScenario .., a, b | .upsert .., a, b
  | .deleteTemplate .., a, b | .deleteTemplates .., a, b | .deleteScenario .., a, b
  | .addDefaultTemplates .., a, b => a = b

/-- The same outcome, up to the order of a listing. -/
abbrev SameOutcome (o : Operation) (x y : Except Failure o.Reply) : Prop := Outcome.Alike o.Same x y

namespace SameOutcome

variable {o : Operation} {x y z : Except Failure o.Reply}

theorem symm (h : o.SameOutcome x y) : o.SameOutcome y x := by
  refine Outcome.Alike.symm (fun a b hab => ?_) h
  cases o with
  | listTemplates | listAllTemplates | listScenarios => exact List.Perm.symm hab
  | _ => exact Eq.symm hab

theorem trans (h : o.SameOutcome x y) (h' : o.SameOutcome y z) : o.SameOutcome x z := by
  refine Outcome.Alike.trans (fun a b c hab hbc => ?_) h h'
  cases o with
  | listTemplates | listAllTemplates | listScenarios => exact List.Perm.trans hab hbc
  | _ => exact Eq.trans hab hbc

end SameOutcome

end Operation

/-- Store calls within a region, and no use of a cache. -/
def Request.Within (region : ScenarioRef → Prop) : Request → Prop
  | .tenant _ => True
  | .store c => c.Admissible ∧ c.Within region
  | .cache _ => False

/-- Answers that look the same; tenants are those of a directory. -/
def Request.Tells (directory : Tenant.Directory) : (q : Request) → q.Answer → q.Answer → Prop
  | .tenant domain, a, b => a = directory.resolve domain ∧ b = directory.resolve domain
  | .store c, a, b => Outcome.Alike (c.Tells id) a b
  | .cache _, a, b => a = b

/-- Programs that make the same requests within a region, as long as the answers look the same. -/
abbrev Matching {α β : Type} (directory : Tenant.Directory) (region : ScenarioRef → Prop)
    (R : α → β → Prop) (p : ServiceProgram α) (p' : ServiceProgram β) : Prop :=
  Program.Similar (Request.Within region) (Request.Tells directory) R p p'

/-- A request that an inquiry stands for. -/
structure Inquiry.Means (directory : Tenant.Directory) (i : Inquiry) (r : ResolveRequest) :
    Prop where
  tenant : directory.resolve i.domain = .ok r.scope.tenant
  parsed : ResolveRequest.parse i.scenario i.locale i.channel r.scope.tenant i.application = .ok r

variable {α β : Type} {directory : Tenant.Directory} {region : ScenarioRef → Prop}
  {R : α → β → Prop}

theorem matching_storing {p : StoreProgram α} {p' : StoreProgram β}
    (h : p.Matching region id R p') : Matching directory region R (storing p) (storing p') := by
  induction h with
  | done hxy => exact .done hxy
  | perform hq _ ih => exact .perform hq ih

theorem matching_checked {γ : Type} {parsed : Except Identifier.Error γ}
    {f : γ → ServiceProgram α} {f' : γ → ServiceProgram β}
    (h : ∀ x, parsed = .ok x → Matching directory region R (f x) (f' x)) :
    Matching directory region R (checked parsed >>= f) (checked parsed >>= f') := by
  cases parsed with
  | error e => exact .throw _
  | ok x => exact h x rfl

theorem matching_resolveTenant {domain : String} {f : TenantId → ServiceProgram α}
    {f' : TenantId → ServiceProgram β} (h : ∀ tenant, directory.resolve domain = .ok tenant →
      Matching directory region R (f tenant) (f' tenant)) :
    Matching directory region R (resolveTenant domain >>= f) (resolveTenant domain >>= f') := by
  refine .perform trivial ?_
  rintro a b ⟨rfl, rfl⟩
  cases htenant : directory.resolve domain with
  | error e => exact .throw _
  | ok tenant => exact h tenant htenant

theorem matching_scopeIn {domain : String} {application : Option String}
    {f : Scope → ServiceProgram α} {f' : Scope → ServiceProgram β}
    (h : ∀ tenant app, directory.resolve domain = .ok tenant →
      Matching directory region R (f ⟨tenant, app⟩) (f' ⟨tenant, app⟩)) :
    Matching directory region R (scopeIn domain application >>= f)
      (scopeIn domain application >>= f') := by
  simp only [scopeIn_bind]
  exact matching_checked fun app _ => matching_resolveTenant fun tenant => h tenant app

theorem matching_request {i : Inquiry} {f : ResolveRequest → ServiceProgram α}
    {f' : ResolveRequest → ServiceProgram β}
    (h : ∀ r, i.Means directory r → Matching directory region R (f r) (f' r)) :
    Matching directory region R
      (request i.scenario i.locale i.channel i.domain i.application >>= f)
      (request i.scenario i.locale i.channel i.domain i.application >>= f') := by
  rcases request_cases i.scenario i.locale i.channel i.domain i.application with
    ⟨e, -, hrequest⟩ | ⟨r, hr, hrequest⟩
  · rw [hrequest]
    exact .throw (Failure.ofIdentifier e)
  · rw [hrequest, hrequest]
    refine .perform trivial ?_
    rintro a b ⟨rfl, rfl⟩
    cases htenant : directory.resolve i.domain with
    | error e => exact .throw _
    | ok tenant =>
      obtain ⟨hscope, hparse⟩ := hr tenant
      exact h (r tenant) ⟨by rw [htenant, hscope], by rw [hscope, hparse]⟩

/-- The scenario of a request that an operation of the same inquiry makes. -/
theorem Inquiry.Means.concerns {i : Inquiry} {r : ResolveRequest} (h : i.Means directory r)
    {o : Operation} (hchannel : o.channel = i.channel) (hdomain : o.domain = i.domain)
    (hscenario : o.scenario? = some i.scenario) : o.Concerns directory r.ref := by
  obtain ⟨hs, -, hr, -⟩ := ResolveRequest.parse_eq_ok h.parsed
  refine ⟨hr.trans hchannel.symm, hdomain ▸ h.tenant, fun text htext => ?_⟩
  rw [hscenario] at htext
  cases htext
  exact ⟨r.scenario, hs, rfl⟩

section

variable (layers : Layers)

theorem matching_registerAndWrite {s : Scenario} {t : Template} {scope : Scope}
    (hs : Scenario.parse t.scenario = .ok s) (h : region (.of s t.channel scope.tenant)) :
    Matching directory region Eq (storing (registerAndWrite s t scope))
      (storing (registerAndWrite s t scope)) := by
  apply matching_storing
  have hwrite : region (.ofTemplate t.normalized scope) := by
    rwa [ScenarioRef.ofTemplate_normalized hs]
  exact ((Durable.matching_ensureScenario h).bind fun _ _ _ => .pure rfl).bind fun _ _ _ =>
    Durable.matching_upsert hwrite

theorem matching_upsert {t : Template} {domain : String} {application : Option String}
    (h : ∀ ref, (Operation.upsert t domain application).Concerns directory ref → region ref) :
    Matching directory region Eq (upsert ⟨layers, false⟩ t domain application)
      (upsert ⟨layers, false⟩ t domain application) := by
  rw [upsert]
  refine (Program.Similar.done (R := Eq) ?_).bind fun _ _ _ => ?_
  · cases t.validateForWrite <;> exact rfl
  refine matching_checked fun s hs => matching_scopeIn fun tenant app htenant => ?_
  have hregion : region (.of s t.channel tenant) :=
    h _ ⟨rfl, htenant, fun text htext => ⟨s, by cases htext; exact hs, rfl⟩⟩
  have hwrite : region (.ofTemplate t.normalized ⟨tenant, app⟩) := by
    rwa [ScenarioRef.ofTemplate_normalized hs]
  refine ((matching_storing (Durable.matching_ensureScenario hregion)).bind
    fun _ _ _ => .pure rfl).bind fun _ _ _ => ?_
  apply (matching_storing (Durable.matching_upsert hwrite)).attempt.bind
  intro x y hxy
  rcases x with e | u <;> rcases y with e' | u'
  · cases hxy
    cases e with
    | scenarioNotFound =>
      exact (matching_registerAndWrite hs hregion).bind fun _ _ _ => .pure rfl
    | _ => exact .throw _
  · cases hxy
  · cases hxy
  · exact .pure rfl

theorem matching_addDefaults {channel : Channel} {tenant : TenantId}
    (h : ∀ ref : ScenarioRef, ref.tenant = tenant ∧ ref.channel = channel → region ref)
    {ts : List Template} (hts : ∀ t ∈ ts, t.channel = channel) (added : Nat) :
    Matching directory region Eq (addDefaults ⟨layers, false⟩ tenant added ts)
      (addDefaults ⟨layers, false⟩ tenant added ts) := by
  induction ts generalizing added with
  | nil => exact .pure rfl
  | cons t rest ih =>
    obtain ⟨rfl, hrest⟩ := List.forall_mem_cons.1 hts
    refine Program.Similar.bind (R := Eq) ?_ fun x y hxy => hxy ▸ ih hrest _
    refine matching_checked fun s hs => matching_checked fun locale _ => ?_
    have hregion : region (.of s t.channel tenant) := h _ ⟨rfl, rfl⟩
    refine (matching_storing (Durable.matching_isStored hregion)).bind fun x y hxy => ?_
    subst hxy
    cases x with
    | true => exact .pure rfl
    | false => exact (matching_registerAndWrite hs hregion).bind fun _ _ _ => .pure rfl

/-- Without caches an operation stays within any region that has the scenarios it concerns, and is
determined by what it sees there. -/
theorem matching_program {o : Operation} (h : ∀ ref, o.Concerns directory ref → region ref) :
    Matching directory region o.Same (program ⟨layers, false⟩ o) (program ⟨layers, false⟩ o) := by
  have hnamed : ∀ {s : Scenario} {text : String} {tenant : TenantId},
      o.scenario? = some text → Scenario.parse text = .ok s →
      directory.resolve o.domain = .ok tenant → region (.of s o.channel tenant) :=
    fun hname hs htenant => h _ ⟨rfl, htenant, fun text htext =>
      ⟨_, by rw [hname] at htext; cases htext; exact hs, rfl⟩⟩
  have hall : o.scenario? = none → ∀ {tenant : TenantId},
      directory.resolve o.domain = .ok tenant →
      ∀ ref : ScenarioRef, ref.tenant = tenant ∧ ref.channel = o.channel → region ref := by
    rintro hname _ htenant ref ⟨rfl, hchannel⟩
    exact h ref ⟨hchannel, htenant, by rw [hname]; nofun⟩
  have hlists : ∀ as bs, Template.ListsTell id as bs → as.Perm bs := by
    intro as bs hperm
    rwa [Template.ListsTell, List.map_id, List.map_id] at hperm
  cases o with
  | resolve scenario locale channel domain application =>
    apply matching_request (i := ⟨scenario, locale, channel, domain, application⟩)
    intro r hr
    have hregion : region r.ref := h _ (hr.concerns rfl rfl rfl)
    exact (matching_storing (layers.matching_resolve hregion)).bind fun _ _ hfound => .pure hfound.1
  | templateExists scenario locale channel domain application =>
    apply matching_request (i := ⟨scenario, locale, channel, domain, application⟩)
    intro r hr
    exact matching_storing (layers.matching_templateExists (h _ (hr.concerns rfl rfl rfl)))
  | scenarioExists =>
    refine matching_checked fun s hs => matching_resolveTenant fun tenant htenant => ?_
    exact matching_storing (layers.matching_scenarioExists (hnamed rfl hs htenant))
  | listTemplates _ channel =>
    refine matching_checked fun s hs => matching_scopeIn fun tenant app htenant => ?_
    have hregion : region (.of s channel (Scope.mk tenant app).tenant) := hnamed rfl hs htenant
    exact (matching_storing (layers.matching_listByScenario hregion)).mono (fun _ => id)
      (fun _ _ _ => id) hlists
  | listAllTemplates =>
    refine matching_resolveTenant fun tenant htenant => ?_
    exact (matching_storing (layers.matching_listAll (hall rfl htenant))).mono
      (fun _ => id) (fun _ _ _ => id) hlists
  | listScenarios =>
    refine matching_resolveTenant fun tenant htenant => ?_
    exact matching_storing (layers.matching_listScenarios (hall rfl htenant))
  | addScenario =>
    refine matching_checked fun s hs => matching_resolveTenant fun tenant htenant => ?_
    exact matching_storing (Durable.matching_addScenario (hnamed rfl hs htenant))
  | upsert => exact matching_upsert layers h
  | deleteTemplate scenario locale channel domain application =>
    apply matching_request (i := ⟨scenario, locale, channel, domain, application⟩)
    intro r hr
    have hregion : region r.position.ref.scenario := h _ (hr.concerns rfl rfl rfl)
    refine (matching_storing (Durable.matching_delete hregion)).bind fun x y hxy => ?_
    subst hxy
    cases x <;> exact .pure rfl
  | deleteTemplates _ channel =>
    refine matching_checked fun s hs => matching_scopeIn fun tenant app htenant => ?_
    have hregion : region (.of s channel (Scope.mk tenant app).tenant) := hnamed rfl hs htenant
    refine (matching_storing (Durable.matching_deleteAll hregion)).bind fun x y hxy => ?_
    exact .pure hxy
  | deleteScenario =>
    refine matching_checked fun s hs => matching_resolveTenant fun tenant htenant => ?_
    refine (matching_storing (Durable.matching_removeScenario
      (hnamed rfl hs htenant))).bind fun x y hxy => ?_
    subst hxy
    cases x <;> exact .pure rfl
  | addDefaultTemplates channel domain =>
    refine matching_resolveTenant fun tenant htenant => ?_
    refine matching_addDefaults layers (hall rfl htenant) (fun t ht => ?_) 0
    exact of_decide_eq_true (List.mem_filter.1 ht).2

end

end Service
end Missive

import Missive.Proofs.Layers.Reading
import Missive.Proofs.Parsing
import Missive.Service

/-! The stages of looking a template up with a cache: the tenant is asked for, then the tenant's cache,
which is held from now on, and then that cache for the template. After a miss a ticket is taken, the
store is read, and the cache that is held is offered what was found. -/

namespace Missive

namespace Service

/-- The texts of a request for a template. -/
structure Inquiry where
  scenario : String
  locale : String
  channel : Channel
  domain : String
  application : Option String

def Inquiry.operation (i : Inquiry) : Operation :=
  .resolve i.scenario i.locale i.channel i.domain i.application

variable {layers : Layers}

/-- The cache is offered what was found. -/
def filling (r : ResolveRequest) (h : Handle) (ticket : Cache.Ticket) (found : Resolved) :
    ServiceProgram Template :=
  .perform (.cache (.held h (.fill ticket r.slot found.template))) fun _ =>
    .done (.ok found.template)

/-- The store is read, of which `q` is left to do. -/
def reading (r : ResolveRequest) (h : Handle) (ticket : Cache.Ticket) (q : StoreProgram Resolved) :
    ServiceProgram Template :=
  (storing q).bind (filling r h ticket)

theorem reading_found (r : ResolveRequest) (h : Handle) (ticket : Cache.Ticket) (found : Resolved) :
    reading r h ticket (.done (.ok found)) = filling r h ticket found := rfl

theorem reading_call (r : ResolveRequest) (h : Handle) (ticket : Cache.Ticket) (c : Store.Call)
    (next : c.Answer → StoreProgram Resolved) :
    reading r h ticket (.perform c next) =
      .perform (.store c) fun a => reading r h ticket (next a) :=
  rfl

/-- The cache has nothing. -/
def missed (layers : Layers) (r : ResolveRequest) (h : Handle) : ServiceProgram Template :=
  .perform (.cache (.held h .ticket)) fun ticket => reading r h ticket (layers.resolve r)

/-- The cache is held. -/
def holding (layers : Layers) (r : ResolveRequest) (h : Handle) : ServiceProgram Template :=
  .perform (.cache (.held h (.get r.slot))) fun
    | some t => .done (.ok t)
    | none => missed layers r h

/-- The tenant is known. -/
def looking (layers : Layers) (r : ResolveRequest) : ServiceProgram Template :=
  .perform (.cache (.hold r.scope.tenant)) fun h => holding layers r h

theorem resolve_eq_looking (layers : Layers) (scenario locale : String) (channel : Channel)
    (domain : String) (application : Option String) :
    Service.resolve ⟨layers, true⟩ scenario locale channel domain application =
      request scenario locale channel domain application >>= looking layers := by
  rw [resolve]
  refine congrArg _ (funext fun r => ?_)
  refine congrArg (Program.perform _) (funext fun h => ?_)
  refine congrArg (Program.perform _) (funext fun cached => ?_)
  cases cached <;> rfl

theorem resolve_eq_storing (layers : Layers) (scenario locale : String) (channel : Channel)
    (domain : String) (application : Option String) :
    Service.resolve ⟨layers, false⟩ scenario locale channel domain application =
      request scenario locale channel domain application >>= fun r =>
        storing (layers.resolve r) >>= fun found => pure found.template :=
  rfl

/-- Goes on when the tenant is told. -/
def onceTold {α : Type} (domain : String) (r : TenantId → ResolveRequest)
    (f : ResolveRequest → ServiceProgram α) : Except Tenant.Error TenantId → ServiceProgram α
  | .ok tenant => f (r tenant)
  | .error e => .done (.error (.unresolvedTenant domain e))

theorem scope_parse_eq_ok {tenant : TenantId} {application : Option String} {scope : Scope}
    (h : Scope.parse tenant application = .ok scope) :
    ∃ app, parseApplication application = .ok app ∧ scope = ⟨tenant, app⟩ := by
  rw [scope_parse_eq] at h
  cases happ : parseApplication application with
  | error e =>
    rw [happ] at h
    cases h
  | ok app =>
    rw [happ] at h
    exact ⟨app, rfl, (Except.ok.inj h).symm⟩

/-- A request is malformed and refused at once, or asks for the tenant and is complete with it. -/
theorem request_cases (scenario locale : String) (channel : Channel) (domain : String)
    (application : Option String) :
    (∃ e, (∀ tenant, ResolveRequest.parse scenario locale channel tenant application = .error e) ∧
      request scenario locale channel domain application = .done (.error (.ofIdentifier e))) ∨
      ∃ r : TenantId → ResolveRequest,
        (∀ tenant, (r tenant).scope.tenant = tenant ∧
          ResolveRequest.parse scenario locale channel tenant application = .ok (r tenant)) ∧
        ∀ {α : Type} (f : ResolveRequest → ServiceProgram α),
          request scenario locale channel domain application >>= f =
            .perform (.tenant domain) (onceTold domain r f) := by
  simp only [request, scopeIn_bind, ResolveRequest.parse, scope_parse_eq]
  cases Scenario.parse scenario with
  | error e => exact .inl ⟨e, fun _ => rfl, rfl⟩
  | ok s =>
    cases Locale.parse locale with
    | error e => exact .inl ⟨e, fun _ => rfl, rfl⟩
    | ok l =>
      cases parseApplication application with
      | error e => exact .inl ⟨e, fun _ => rfl, rfl⟩
      | ok app =>
        refine .inr ⟨fun tenant => ⟨s, l, channel, ⟨tenant, app⟩⟩, fun _ => ⟨rfl, rfl⟩, ?_⟩
        intro α f
        refine congrArg (Program.perform _) (funext fun answer => ?_)
        cases answer <;> rfl

end Service
end Missive

import Missive.Proofs.Service.LookingUp
import Missive.Proofs.Service.Orderly
import Missive.Proofs.Service.Scene

/-! What a task is known to be up to, in the midst of others. It is told by evidence: the answers that
readers may have had. A look-up goes through its stages, and what it has read so far is what the
evidence admits; what it offers a cache is then supported by the evidence. A cache that is given up
while it is held is invalidated no more; so the evidence also tells which caches are trusted. Any
other task keeps the caches informed. -/

namespace Missive.Service

open Store StoreProgram

structure Evidence where
  /-- The answers that readers may have had. -/
  read : Position → Except Store.Error (Option Template) → Prop
  /-- What may have been told of domains. -/
  told : String → Except Tenant.Error TenantId → Prop
  /-- The errors that the store calls of a look-up may have been made to fail with. -/
  fails : Store.Error → Prop
  /-- The caches whose results are to be supported. -/
  trusts : Handle → Prop

namespace Evidence

def Admits (ev : Evidence) : (c : Call) → c.Answer → Prop
  | .read p, a => ev.read p a
  | _, _ => False

/-- A look-up may have found the template. -/
def Supports (ev : Evidence) (layers : Layers) (r : ResolveRequest) (t : Template) : Prop :=
  ∃ tier, (layers.resolve r).Yields ev.Admits (.ok ⟨t, tier⟩)

/-- What an inquiry may come to: it is malformed, its domain stands for no tenant, a store call has
failed, or it is as the answers to its reads have it. -/
inductive Gives (ev : Evidence) (layers : Layers) (i : Inquiry) :
    Except Failure Template → Prop where
  | refused {e} : (∀ tenant,
      ResolveRequest.parse i.scenario i.locale i.channel tenant i.application = .error e) →
      Gives ev layers i (.error (.ofIdentifier e))
  | untold {e} : ev.told i.domain (.error e) →
      Gives ev layers i (.error (.unresolvedTenant i.domain e))
  | failed {e} (context : String) : ev.fails e →
      Gives ev layers i (.error (.storeFailed context e))
  | read {r : ResolveRequest} {y} : ev.told i.domain (.ok r.scope.tenant) →
      ResolveRequest.parse i.scenario i.locale i.channel r.scope.tenant i.application = .ok r →
      (layers.resolve r).Yields ev.Admits y → Gives ev layers i (y.map Resolved.template)

/-- The request of an inquiry, with a tenant that its domain may have stood for. -/
structure Asks (ev : Evidence) (sure : Prop) (i : Inquiry) (r : ResolveRequest) : Prop where
  told : sure → ev.told i.domain (.ok r.scope.tenant)
  parsed : ResolveRequest.parse i.scenario i.locale i.channel r.scope.tenant i.application = .ok r

/-- The cache that is held for a request. -/
structure Holds (ev : Evidence) (caches : Caches) (sure : Prop) (r : ResolveRequest) (h : Handle) :
    Prop where
  tenant : h.tenant = r.scope.tenant
  made : h.number < caches.made
  trusted : sure → ev.trusts h

/-- A fill with the ticket is of consequence: the cache is trusted and would keep it. -/
def Accepts (ev : Evidence) (caches : Caches) (h : Handle) (ticket : Cache.Ticket) : Prop :=
  ev.trusts h ∧ caches.epoch h = ticket.epoch

/-- Reading has come to an end because a store call has failed. -/
def HasFailed (ev : Evidence) (sure : Prop) (q : StoreProgram Resolved) : Prop :=
  ∃ context e, q = .done (.error (.storeFailed context e)) ∧ (sure → ev.fails e)

end Evidence

/-- How far a look-up has come. Where it is not sure that all of it has happened since the evidence
began, its reads count as long as the cache would take its result. -/
inductive LookUp (layers : Layers) (ev : Evidence) (caches : Caches) (sure : Prop) (i : Inquiry)
    (p : ServiceProgram Template) : Prop where
  | asking {r : TenantId → ResolveRequest} :
      (∀ tenant, (r tenant).scope.tenant = tenant ∧
        ResolveRequest.parse i.scenario i.locale i.channel tenant i.application = .ok (r tenant)) →
      p = .perform (.tenant i.domain) (onceTold i.domain r (looking layers)) →
      LookUp layers ev caches sure i p
  | looking {r} : ev.Asks sure i r → p = looking layers r → LookUp layers ev caches sure i p
  | holding {r h} : ev.Asks sure i r → ev.Holds caches sure r h → p = holding layers r h →
      LookUp layers ev caches sure i p
  | missed {r h} : ev.Asks sure i r → ev.Holds caches sure r h → p = missed layers r h →
      LookUp layers ev caches sure i p
  | reading {r h ticket q} : ev.Asks sure i r → ev.Holds caches sure r h →
      p = reading r h ticket q → ticket.epoch ≤ caches.epoch h → ReadsAt r.scope.tenant r.key q →
      (sure ∨ ev.Accepts caches h ticket →
        ev.HasFailed sure q ∨ (layers.resolve r).Leads ev.Admits q) →
      LookUp layers ev caches sure i p
  | ended {x} : p = .done x → (sure → ev.Gives layers i x) → LookUp layers ev caches sure i p

/-- How a task stands: it keeps the caches informed, and what is pending covers all it has changed;
or it looks a template up, and changes nothing. -/
inductive Standing (layers : Layers) (ev : Evidence) (caches : Caches) (sure : Prop) :
    Task → Prop where
  | working {o rest changed pending} : (∀ i : Inquiry, o ≠ i.operation) →
      Orderly (fun _ => none) pending rest →
      (∀ tenant key, changed tenant key → ∃ n, pending = some n ∧ n.Covers tenant key) →
      Standing layers ev caches sure ⟨o, rest, changed⟩
  | lookingUp {scenario locale channel domain application} {rest : ServiceProgram Template} {changed} :
      LookUp layers ev caches sure ⟨scenario, locale, channel, domain, application⟩ rest →
      (∀ tenant key, ¬changed tenant key) →
      Standing layers ev caches sure
        ⟨.resolve scenario locale channel domain application, rest, changed⟩

/-- Everything in the trusted caches is supported by the evidence. -/
structure Backed (layers : Layers) (ev : Evidence) (caches : Caches) : Prop where
  /-- Readers see the place alone. -/
  places : ∀ {p q : Position} {a}, p.ref = q.ref → ev.read p a → ev.read q a
  bounded : caches.Bounded
  registered : ∀ h, caches.Registers h → ev.trusts h
  entries : ∀ {h slot t}, ev.trusts h → (caches.content h).get slot = some t →
    ∃ r : ResolveRequest, r.scope.tenant = h.tenant ∧ r.slot = slot ∧ ev.Supports layers r t

/-- What is known where a look-up makes a request, of the surroundings in which it is answered.
Whoever is sure of the evidence finds caches that are trusted, new ones included. -/
structure Knows (layers : Layers) (ev : Evidence) (sure : Prop) (fails : Store.Error → Prop)
    (w : State AnyStore) : Prop extends Backed layers ev w.caches where
  read : ∀ p, ev.read p (w.store.read p)
  told : ∀ domain, ev.told domain (w.tenants.resolve domain).1
  fails : sure → ∀ e, fails e → ev.fails e
  unmade : sure → ∀ h : Handle, w.caches.made ≤ h.number → ev.trusts h

variable {layers : Layers} {ev ev' : Evidence} {caches caches' : Caches} {sure sure' : Prop}

theorem Evidence.Supports.mono {r : ResolveRequest} {t : Template} (h : ev.Supports layers r t)
    (hread : ∀ (p : Position) a, p.scope.tenant = r.scope.tenant → p.key = r.key →
      ev.read p a → ev'.read p a) : ev'.Supports layers r t := by
  obtain ⟨tier, h⟩ := h
  exact ⟨tier, (layers.readsAt_resolve r).yields_mono hread h⟩

/-- What is known of a task that makes no request carries over to other evidence and caches. -/
structure Carries (ev ev' : Evidence) (caches caches' : Caches) (sure sure' : Prop) : Prop where
  sure : sure' → sure
  told : sure' → ∀ domain x, ev.told domain x → ev'.told domain x
  fails : sure' → ∀ e, ev.fails e → ev'.fails e
  read : sure' → ∀ p a, ev.read p a → ev'.read p a
  trusts : sure' → ∀ h, ev.trusts h → ev'.trusts h
  made : caches.made ≤ caches'.made
  epoch : ∀ h, caches.epoch h ≤ caches'.epoch h
  accepts : ∀ {h : Handle} {ticket : Cache.Ticket}, h.number < caches.made →
    ticket.epoch ≤ caches.epoch h → ev'.Accepts caches' h ticket → ev.Accepts caches h ticket ∧
      ∀ (p : Position) a, p.scope.tenant = h.tenant → ev.read p a → ev'.read p a

namespace Carries

variable (h : Carries ev ev' caches caches' sure sure')
include h

theorem asks {i : Inquiry} {r : ResolveRequest} (hasks : ev.Asks sure i r) :
    ev'.Asks sure' i r where
  told hsure := h.told hsure _ _ (hasks.told (h.sure hsure))
  parsed := hasks.parsed

theorem holds {r : ResolveRequest} {handle : Handle} (hholds : ev.Holds caches sure r handle) :
    ev'.Holds caches' sure' r handle where
  tenant := hholds.tenant
  made := Nat.lt_of_lt_of_le hholds.made h.made
  trusted hsure := h.trusts hsure _ (hholds.trusted (h.sure hsure))

theorem hasFailed {q : StoreProgram Resolved} (hfailed : ev.HasFailed sure q) :
    ev'.HasFailed sure' q := by
  obtain ⟨context, e, hq, hfails⟩ := hfailed
  exact ⟨context, e, hq, fun hsure => h.fails hsure e (hfails (h.sure hsure))⟩

theorem gives {i : Inquiry} {x : Except Failure Template} (hsure : sure')
    (hgives : ev.Gives layers i x) : ev'.Gives layers i x := by
  cases hgives with
  | refused hparse => exact .refused hparse
  | untold htold => exact .untold (h.told hsure _ _ htold)
  | failed context hfails => exact .failed context (h.fails hsure _ hfails)
  | @read r y htold hparse hyields =>
    exact .read (h.told hsure _ _ htold) hparse
      ((layers.readsAt_resolve r).yields_mono (fun p a _ _ => h.read hsure p a) hyields)

theorem lookUp {i : Inquiry} {p : ServiceProgram Template}
    (hlook : LookUp layers ev caches sure i p) : LookUp layers ev' caches' sure' i p := by
  cases hlook with
  | asking hr hp => exact .asking hr hp
  | looking hasks hp => exact .looking (h.asks hasks) hp
  | holding hasks hholds hp => exact .holding (h.asks hasks) (h.holds hholds) hp
  | missed hasks hholds hp => exact .missed (h.asks hasks) (h.holds hholds) hp
  | @reading r handle ticket q hasks hholds hp hticket hq hleads =>
    refine .reading (h.asks hasks) (h.holds hholds) hp (Nat.le_trans hticket (h.epoch _)) hq ?_
    rintro (hsure | haccepts)
    · exact (hleads (.inl (h.sure hsure))).imp h.hasFailed
        ((layers.readsAt_resolve r).leads_mono fun p a _ _ => h.read hsure p a)
    · obtain ⟨haccepts, hread⟩ := h.accepts hholds.made hticket haccepts
      refine (hleads (.inr haccepts)).imp h.hasFailed
        ((layers.readsAt_resolve r).leads_mono fun p a htenant _ => hread p a ?_)
      rw [htenant, hholds.tenant]
  | ended hp hgives => exact .ended hp fun hsure => h.gives hsure (hgives (h.sure hsure))

theorem standing {task : Task} (htask : Standing layers ev caches sure task) :
    Standing layers ev' caches' sure' task := by
  cases htask with
  | working ho horderly hchanged => exact .working ho horderly hchanged
  | lookingUp hlook hchanged => exact .lookingUp (h.lookUp hlook) hchanged

end Carries

/-- Evidence may admit more reads, of no more caches. -/
theorem Backed.weaken (h : Backed layers ev caches)
    (hplaces : ∀ {p q : Position} {a}, p.ref = q.ref → ev'.read p a → ev'.read q a)
    (hread : ∀ p a, ev.read p a → ev'.read p a)
    (hregistered : ∀ h, caches.Registers h → ev'.trusts h)
    (htrusts : ∀ h : Handle, ev'.trusts h → h.number < caches.made → ev.trusts h) :
    Backed layers ev' caches where
  places := hplaces
  bounded := h.bounded
  registered := hregistered
  entries {handle slot t} htrusted hget := by
    have hbefore := htrusts handle htrusted (h.bounded.made_of_get hget)
    obtain ⟨r, htenant, hslot, hr⟩ := h.entries hbefore hget
    exact ⟨r, htenant, hslot, hr.mono fun p a _ _ => hread p a⟩

/-! ### Look-ups go on -/

section

variable {w w' : State AnyStore} {fails : Store.Error → Prop}

/-- A look-up goes on reading, or offers the cache what it has found. -/
theorem reading_answer {i : Inquiry} {r : ResolveRequest} {h : Handle} {ticket : Cache.Ticket}
    {rest : StoreProgram Resolved} {q : Request} {next : q.Answer → ServiceProgram Template}
    {a : q.Answer} (hanswer : Answers fails w q a w') (hread : ∀ p, ev.read p (w.store.read p))
    (hfails : sure → ∀ e, fails e → ev.fails e) (hasks : ev.Asks sure i r)
    (hholds : ev.Holds w.caches sure r h) (hp : .perform q next = reading r h ticket rest)
    (hticket : ticket.epoch ≤ w.caches.epoch h) (hrest : ReadsAt r.scope.tenant r.key rest)
    (hleads : sure ∨ ev.Accepts w.caches h ticket →
      ev.HasFailed sure rest ∨ (layers.resolve r).Leads ev.Admits rest) :
    LookUp layers ev w'.caches sure i (next a) ∧ w'.store = w.store := by
  have hafter := hrest
  cases hrest with
  | done x =>
    cases x with
    | error e => cases hp
    | ok found =>
      rw [reading_found, filling] at hp
      cases hp
      obtain ⟨-, hstore, -⟩ := hanswer.of_cache
      refine ⟨.ended rfl fun hsure => ?_, hstore⟩
      rcases hleads (.inl hsure) with ⟨_, _, hfailed, -⟩ | hleads
      · cases hfailed
      · exact .read (y := .ok found) (hasks.told hsure) hasks.parsed (hleads.yields .done)
  | @read p following htenant hkey hnext herror =>
    rw [reading_call] at hp
    cases hp
    have hled : Program.Leads (fun _ _ => True) (.perform (.read p) following) (following a) :=
      .answer .refl trivial
    obtain ⟨hsame, hanswer⟩ := hanswer.of_store
    rw [hsame]
    rcases hanswer with ⟨ha, hstore⟩ | ⟨e, rfl, he, hstore⟩
    · rw [AnyStore.backend_read] at ha hstore
      refine ⟨.reading hasks hholds rfl hticket (hafter.leads hled) fun htrust => .inr ?_, hstore⟩
      rcases hleads htrust with ⟨_, _, hfailed, -⟩ | hleads
      · cases hfailed
      · have hadmits : ev.Admits (.read p) a := by
          rw [ha]
          exact hread p
        exact .answer hleads hadmits
    · obtain ⟨context, hfailed⟩ := herror e
      exact ⟨.reading hasks hholds rfl hticket (hafter.leads hled) fun _ =>
        .inl ⟨context, e, hfailed, fun hsure => hfails hsure e he⟩, hstore⟩

/-- A cache that is looked up is trusted. -/
theorem Knows.holds (h : Knows layers ev sure fails w) (r : ResolveRequest) :
    ev.Holds (w.caches.hold r.scope.tenant).2 sure r (w.caches.hold r.scope.tenant).1 where
  tenant := Caches.tenant_hold ..
  made := h.bounded.number_hold _
  trusted hsure := by
    rcases w.caches.hold_cases r.scope.tenant with ⟨number, hnumber, hhold⟩ | ⟨-, hhold⟩
    · rw [hhold]
      exact h.registered _ hnumber
    · rw [hhold]
      exact h.unmade hsure _ (Nat.le_refl _)

/-- A look-up goes on, and leaves the store as it is. -/
theorem lookUp_answer {i : Inquiry} {q : Request} {next : q.Answer → ServiceProgram Template}
    {a : q.Answer} (h : LookUp layers ev w.caches sure i (.perform q next))
    (hanswer : Answers fails w q a w') (hknows : Knows layers ev sure fails w) :
    LookUp layers ev w'.caches sure i (next a) ∧ w'.store = w.store := by
  cases h with
  | @asking r hr hp =>
    cases hp
    obtain ⟨rfl, hstore, -⟩ := hanswer.of_tenant
    refine ⟨?_, hstore⟩
    have htold := hknows.told i.domain
    cases hresolve : (w.tenants.resolve i.domain).1 with
    | error e =>
      rw [hresolve] at htold
      exact .ended rfl fun _ => .untold htold
    | ok tenant =>
      obtain ⟨hscope, hparse⟩ := hr tenant
      refine .looking ⟨fun _ => ?_, ?_⟩ rfl
      · rw [hscope, ← hresolve]
        exact htold
      · rw [hscope]
        exact hparse
  | @looking r hasks hp =>
    rw [looking] at hp
    cases hp
    obtain ⟨rfl, hstore, hcaches⟩ := hanswer.of_cache
    rw [hcaches]
    exact ⟨.holding hasks (hknows.holds r) rfl, hstore⟩
  | @holding r handle hasks hholds hp =>
    rw [holding] at hp
    cases hp
    obtain ⟨rfl, hstore, hcaches⟩ := hanswer.of_cache
    refine ⟨?_, hstore⟩
    have hget : (Caches.answer (.held handle (.get r.slot)) w.caches).1 =
        (w.caches.content handle).get r.slot := rfl
    rw [hget, hcaches]
    cases hentry : (w.caches.content handle).get r.slot with
    | none => exact .missed hasks ⟨hholds.tenant, hholds.made, hholds.trusted⟩ rfl
    | some t =>
      refine .ended rfl fun hsure => ?_
      obtain ⟨r', htenant, hslot, tier, hyields⟩ := hknows.entries (hholds.trusted hsure) hentry
      exact .read (y := .ok ⟨t, tier⟩) (hasks.told hsure) hasks.parsed
        (layers.yields_resolve_congr (fun _ _ _ => hknows.places) (htenant.trans hholds.tenant)
          hslot hyields)
  | @missed r handle hasks hholds hp =>
    rw [missed] at hp
    cases hp
    obtain ⟨rfl, hstore, hcaches⟩ := hanswer.of_cache
    rw [hcaches]
    refine ⟨?_, hstore⟩
    exact .reading hasks ⟨hholds.tenant, hholds.made, hholds.trusted⟩ rfl
      (Caches.epoch_le_answer hknows.bounded ..) (layers.readsAt_resolve r) fun _ => .inr .refl
  | reading hasks hholds hp hticket hq hleads =>
    exact reading_answer hanswer hknows.read hknows.fails hasks hholds hp hticket hq hleads
  | ended hp => cases hp

/-- What a look-up asks of the caches is to look one up, or something of the cache that it holds. What
it offers that cache comes of its reads. -/
theorem LookUp.queries {i : Inquiry} {query : Caches.Query}
    {next : query.Reply → ServiceProgram Template}
    (h : LookUp layers ev caches sure i (.perform (.cache query) next)) :
    (∃ tenant, query = .hold tenant) ∨
      ∃ handle op, query = .held handle op ∧ handle.number < caches.made ∧
        (op.Looks ∨ ∃ (r : ResolveRequest) (ticket : Cache.Ticket) (found : Resolved),
          op = .fill ticket r.slot found.template ∧ handle.tenant = r.scope.tenant ∧
          (ev.Accepts caches handle ticket → (layers.resolve r).Yields ev.Admits (.ok found))) := by
  cases h with
  | asking _ hp => cases hp
  | looking _ hp =>
    rw [Service.looking] at hp
    cases hp
    exact .inl ⟨_, rfl⟩
  | holding _ hholds hp =>
    rw [Service.holding] at hp
    cases hp
    exact .inr ⟨_, _, rfl, hholds.made, .inl trivial⟩
  | missed _ hholds hp =>
    rw [Service.missed] at hp
    cases hp
    exact .inr ⟨_, _, rfl, hholds.made, .inl trivial⟩
  | @reading r handle ticket q _ hholds hp _ _ hleads =>
    rcases q with ⟨e | found⟩ | ⟨c, next'⟩
    · cases hp
    · rw [reading_found, filling] at hp
      cases hp
      refine .inr ⟨_, _, rfl, hholds.made, .inr ⟨r, ticket, found, rfl, hholds.tenant, ?_⟩⟩
      intro haccepts
      rcases hleads (.inr haccepts) with ⟨_, _, hfailed, -⟩ | hleads
      · cases hfailed
      · exact hleads.yields .done
    · cases hp
  | ended hp => cases hp

/-- What a look-up offers a trusted cache is supported, if the cache takes it. -/
theorem LookUp.supports {i : Inquiry} {query : Caches.Query}
    {next : query.Reply → ServiceProgram Template} {h : Handle} {op : Cache.Op} {slot : Slot}
    {t : Template} (hlook : LookUp layers ev caches sure i (.perform (.cache query) next))
    (huses : query.Uses caches h op) (hbrings : op.brings slot t)
    (htrusts : h.number < caches.made → ev.trusts h)
    (hepoch : ∀ ticket slot t, op = .fill ticket slot t → caches.epoch h = ticket.epoch) :
    h.number < caches.made ∧
      ∃ r : ResolveRequest, r.scope.tenant = h.tenant ∧ r.slot = slot ∧ ev.Supports layers r t := by
  rcases hlook.queries with ⟨tenant, rfl⟩ | ⟨handle, op, rfl, hmade, hop⟩
  · cases huses
  obtain ⟨rfl, rfl⟩ := huses
  rcases hop with hlooks | ⟨r, ticket, found, rfl, htenant, hyields⟩
  · exact absurd hbrings (hlooks.not_brings slot t)
  · obtain ⟨rfl, rfl⟩ := hbrings
    exact ⟨hmade, r, htenant.symm, rfl, found.tier, hyields ⟨htrusts hmade, hepoch _ _ _ rfl⟩⟩

/-- A look-up drops nothing. -/
theorem LookUp.not_drops {i : Inquiry} {q : Request} {next : q.Answer → ServiceProgram Template}
    (h : LookUp layers ev caches sure i (.perform q next)) (tenant : TenantId)
    (key : TemplateKey) : ¬q.Drops tenant key := by
  cases q with
  | tenant | store => exact id
  | cache query => rcases h.queries with ⟨_, rfl⟩ | ⟨_, _, rfl, -⟩ <;> exact id

/-- A working task goes on: what its answer tells of is pending, and covers what has changed. -/
theorem standing_of_working {o : Operation} {q : Request}
    {next : q.Answer → ServiceProgram o.Reply} {a : q.Answer} {pending : Option News}
    {changed : TenantId → TemplateKey → Prop} (ho : ∀ i : Inquiry, o ≠ i.operation)
    (h : Orderly (fun _ => none) pending (.perform q next))
    (hchanged : ∀ tenant key, changed tenant key → ∃ n, pending = some n ∧ n.Covers tenant key)
    (hanswer : Answers fails w q a w') (hstore : w.store.Sound) :
    w'.store.Sound ∧ Standing layers ev caches sure
      (.goOn o changed q next a w.store w'.store) := by
  cases h with
  | drops hpending hop hnext =>
    obtain ⟨-, hsame, -⟩ := hanswer.of_cache
    refine ⟨hsame ▸ hstore, .working ho (hnext a) fun tenant key h => ?_⟩
    rcases h with ⟨hbefore, hdrops⟩ | ⟨p, -, -, hread⟩
    · obtain ⟨n, hn, hcovers⟩ := hchanged tenant key hbefore
      obtain rfl := hpending n hn
      exact absurd hcovers hdrops
    · rw [hsame] at hread
      exact absurd rfl hread
  | asks hnext =>
    obtain ⟨-, hsame, -⟩ := hanswer.of_tenant
    refine ⟨hsame ▸ hstore, .working ho (hnext a) fun tenant key h => ?_⟩
    rcases h with ⟨hbefore, -⟩ | ⟨p, -, -, hread⟩
    · obtain ⟨n, hn, -⟩ := hchanged tenant key hbefore
      cases hn
    · rw [hsame] at hread
      exact absurd rfl hread
  | @calls c next hc hnext =>
    obtain ⟨-, hanswer⟩ := hanswer.of_store
    have hafter : w'.store.Sound := by
      rcases hanswer with ⟨-, hafter⟩ | ⟨-, -, -, hsame⟩
      · exact hafter ▸ hstore.step hc
      · exact hsame ▸ hstore
    refine ⟨hafter, .working ho (hnext a) fun tenant key h => ?_⟩
    rcases h with ⟨hbefore, -⟩ | ⟨p, rfl, rfl, hread⟩
    · obtain ⟨n, hn, -⟩ := hchanged tenant key hbefore
      cases hn
    · rcases hanswer with ⟨rfl, hafter⟩ | ⟨-, -, -, hsame⟩
      · rw [hafter] at hread
        exact hstore.news hc hread
      · rw [hsame] at hread
        exact absurd rfl hread

end

theorem standing_program (o : Operation) :
    Standing layers ev caches sure { operation := o, rest := program ⟨layers, true⟩ o } := by
  by_cases ho : ∀ i : Inquiry, o ≠ i.operation
  · have hquiet : Quiet (program ⟨layers, true⟩ o) :=
      quiet_program rfl fun scenario locale channel domain application =>
        ho ⟨scenario, locale, channel, domain, application⟩
    exact .working ho hquiet fun _ _ => False.elim
  push Not at ho
  obtain ⟨i, rfl⟩ := ho
  refine .lookingUp ?_ fun _ _ => id
  have hprogram : program ⟨layers, true⟩ i.operation =
      request i.scenario i.locale i.channel i.domain i.application >>= looking layers :=
    resolve_eq_looking ..
  rcases request_cases i.scenario i.locale i.channel i.domain i.application with
    ⟨e, hparse, hrequest⟩ | ⟨r, hr, hrequest⟩
  · rw [hrequest] at hprogram
    exact .ended hprogram fun _ => .refused hparse
  · exact .asking hr (hprogram.trans (hrequest _))

/-- What a task has changed it is about to drop. -/
theorem Standing.aboutToDrop {task : Task} (h : Standing layers ev caches sure task)
    {tenant : TenantId} {key : TemplateKey} (hchanged : task.changed tenant key) :
    task.AboutToDrop tenant key := by
  cases h with
  | @working o rest changed pending _ horderly hcovered =>
    obtain ⟨n, rfl, hcovers⟩ := hcovered tenant key hchanged
    cases horderly with
    | returns hleft => cases hleft n rfl
    | @drops _ tenant' op next hpending =>
      obtain rfl := hpending n rfl
      exact ⟨_, next, rfl, hcovers⟩
  | lookingUp _ hnone => exact absurd hchanged (hnone tenant key)

/-- A look-up that has ended has come to what the evidence gives. -/
theorem Standing.gives (hsure : sure) {scenario locale : String} {channel : Channel}
    {domain : String} {application : Option String} {x : Except Failure Template}
    {changed : TenantId → TemplateKey → Prop}
    (h : Standing layers ev caches sure
      ⟨.resolve scenario locale channel domain application, .done x, changed⟩) :
    ev.Gives layers ⟨scenario, locale, channel, domain, application⟩ x := by
  cases h with
  | working ho => exact (ho ⟨scenario, locale, channel, domain, application⟩ rfl).elim
  | lookingUp hlook =>
    cases hlook with
    | asking _ hp | looking _ hp | holding _ _ hp | missed _ _ hp => cases hp
    | @reading r handle ticket q hasks _ hp _ _ hleads =>
      rcases q with ⟨e | found⟩ | ⟨c, next⟩
      · cases hp
        rcases hleads (.inl hsure) with ⟨context, e', hfailed, hfails⟩ | hleads
        · cases hfailed
          exact .failed context (hfails hsure)
        · exact .read (y := .error e) (hasks.told hsure) hasks.parsed (hleads.yields .done)
      · cases hp
      · cases hp
    | ended hp hgives =>
      cases hp
      exact hgives hsure

end Missive.Service

import Missive.Proofs.Layers.Reading
import Missive.Proofs.Store.Footprint

/-! What the operations of the layers come to. Looking up and listing are told from the sound ledger
that is seen in a store and from the defaults, and writing from a ledger. -/

namespace Missive

open Store

theorem Program.run_bind_ok {σ S ε α β : Type} {ρ : σ → Type} {h : Handler σ ρ S}
    {p : Program σ ρ ε α} {s s' : S} {a : α} (hp : p.run h s = (.ok a, s'))
    (f : α → Program σ ρ ε β) : (p >>= f).run h s = (f a).run h s' := by
  have hbind := run_bind h p f s
  rwa [hp] at hbind

/-- Readers see a ledger in the store, in some form, and leave the store as it is. -/
structure Store.Shows {S : Type} (b : Backend S) (s : S) (l : Ledger)
    (form : Template → Template) : Prop where
  read (p : Position) : b (.read p) s = (.ok ((l.records.get? p.ref).map form), s)
  isRegistered (scenario : Scenario) (channel : Channel) (tenant : TenantId) :
    b (.isRegistered scenario channel tenant) s =
      (.ok (l.names.contains (.of scenario channel tenant)), s)
  list (scenario : Scenario) (channel : Channel) (scope : Scope) :
    ∃ ts, b (.list scenario channel scope) s = (.ok ts, s) ∧
      ts.Perm ((l.within (.of scenario channel scope.tenant) scope.applicationText).map form)

theorem Store.shows_giving (l : Ledger) (form : Template → Template) :
    Shows (Ledger.giving form) l l form where
  read _ := rfl
  isRegistered _ _ _ := rfl
  list _ _ _ := ⟨_, rfl, .refl _⟩

/-- Listing changes nothing. -/
theorem Store.AnyStore.backend_list (s : AnyStore) (scenario : Scenario) (channel : Channel)
    (scope : Scope) : (backend (.list scenario channel scope) s).2 = s := by
  cases s with
  | forest f => rfl
  | tables t =>
    simp only [backend, Tables.backend]
    cases t.row? scenario channel scope.tenant <;> rfl

theorem Store.shows_of_keeps {s : AnyStore} {l : Ledger} (h : s.Keeps l) (hl : l.Sound) :
    Shows AnyStore.backend s l s.form where
  read p := by rw [AnyStore.backend_read, AnyStore.read_of_keeps h hl]
  isRegistered scenario channel tenant := by
    obtain ⟨hagree, -⟩ := AnyStore.simulates_ledger h hl (c := .isRegistered scenario channel tenant)
      trivial
    obtain ⟨registered, ha, rfl⟩ := hagree.ok
    rw [← ha]
    cases s <;> rfl
  list scenario channel scope := by
    obtain ⟨hagree, -⟩ := AnyStore.simulates_ledger h hl (c := .list scenario channel scope) trivial
    obtain ⟨ts, ha, hperm⟩ := hagree.ok
    exact ⟨ts, Prod.ext ha (AnyStore.backend_list s scenario channel scope), hperm⟩

/-- A scenario that is not registered has no records to list. -/
theorem Store.Ledger.Owned.within_eq_nil {l : Ledger} (h : l.Owned) {ref : ScenarioRef}
    (href : l.names.contains ref = false) (application : Option String) :
    l.within ref application = [] := by
  rw [Dictionary.contains, Option.isSome_eq_false_iff, Option.isNone_iff_eq_none] at href
  rw [within, Dictionary.values, List.map_eq_nil_iff, List.eq_nil_iff_forall_not_mem]
  rintro ⟨r, t⟩ hr
  obtain ⟨hentry, hplace⟩ := List.mem_filter.1 hr
  have hname := h r t (Dictionary.get?_eq_some_iff.2 hentry)
  rw [(of_decide_eq_true hplace).1, href] at hname
  cases hname

variable {S : Type} {b : Backend S} {s s' : S} {l : Ledger} {form : Template → Template}

theorem Durable.run_ask {c : Call} {x : c.Reply} (h : b c s = (.ok x, s')) (purpose : String) :
    (ask purpose c).run b s = (.ok x, s') := by
  rw [ask, Program.run_perform, h]
  rfl

namespace Layers

variable (layers : Layers)

/-- What a request comes to if the store has nothing for it. -/
def fromDefaults (r : ResolveRequest) : Except Failure Template :=
  match layers.defaults.get? r.scenario r.channel with
  | none => .error r.notFound
  | some t =>
    if t.hasContent then .ok t.withUtf8Charset
    else .error (.emptyContent r.scenario.displayName t.locale r.channel Tier.systemDefault.name)

/-- The record for a request: the one in its own locale, or else the one in the channel's default
locale. -/
def recordFor (l : Ledger) (r : ResolveRequest) : Option Template :=
  (l.records.get? r.position.ref).or
    (l.records.get? (r.positionIn (layers.locales.forChannel r.channel)).ref)

/-- What a request comes to, told from the ledger. -/
def resolution (l : Ledger) (form : Template → Template) (r : ResolveRequest) :
    Except Failure Template :=
  match layers.recordFor l r with
  | some t => .ok (form t).withUtf8Charset
  | none => layers.fromDefaults r

variable {r : ResolveRequest}

/-- What is registered makes no difference to a request. -/
theorem resolution_congr {l l' : Ledger} (h : l'.records = l.records) (form : Template → Template)
    (r : ResolveRequest) : layers.resolution l' form r = layers.resolution l form r := by
  rw [resolution, resolution, recordFor, recordFor, h]

section

variable (h : Shows b s l form)
include h

/-- A tier in the store: if it has a record, that is the answer, and otherwise the rest decides. -/
theorem run_resolveIn_stored [Template.Neutral form] (hl : l.Sound) (tier : Tier) {locale : Locale}
    {rest : List Tier} (hlookup : layers.lookup r tier = lookup.readTier r tier locale)
    {y : Except Failure Template}
    (hrest : ((layers.resolveIn r rest).run b s).1.map Resolved.template = y ∧
      ((layers.resolveIn r rest).run b s).2 = s) :
    ((layers.resolveIn r (tier :: rest)).run b s).1.map Resolved.template =
        (match l.records.get? (r.positionIn locale).ref with
          | some t => .ok (form t).withUtf8Charset
          | none => y) ∧
      ((layers.resolveIn r (tier :: rest)).run b s).2 = s := by
  have hread : (layers.lookup r tier).run b s =
      (.ok ((l.records.get? (r.positionIn locale).ref).map form), s) := by
    rw [hlookup]
    exact Durable.run_ask (h.read _) _
  rw [resolveIn_cons, Program.run_bind_ok hread]
  cases hrecord : l.records.get? (r.positionIn locale).ref with
  | none => exact hrest
  | some t =>
    obtain ⟨-, -, hstorable, -⟩ := hl.records hrecord
    have hcontent : (form t).hasContent = true :=
      (Template.Neutral.alike t).hasContent.trans
        (Template.validateForWrite_eq_ok_iff.1 hstorable.valid).2.2.1
    simp only [Option.map_some, goOn, hcontent, if_true]
    exact ⟨rfl, rfl⟩

omit h in
theorem run_resolveIn_defaults (r : ResolveRequest) :
    ((layers.resolveIn r [.systemDefault]).run b s).1.map Resolved.template =
        layers.fromDefaults r ∧ ((layers.resolveIn r [.systemDefault]).run b s).2 = s := by
  have hlookup : (layers.lookup r .systemDefault).run b s =
      (.ok (layers.defaults.get? r.scenario r.channel), s) := rfl
  rw [resolveIn_cons, Program.run_bind_ok hlookup, fromDefaults]
  cases layers.defaults.get? r.scenario r.channel with
  | none => exact ⟨rfl, rfl⟩
  | some t =>
    simp only [goOn]
    by_cases hcontent : t.hasContent = true
    · rw [if_pos hcontent, if_pos hcontent]
      exact ⟨rfl, rfl⟩
    · rw [if_neg hcontent, if_neg hcontent]
      exact ⟨rfl, rfl⟩

/-- Looking a template up gives what the ledger has, in the requested locale or the default one, or
else what the defaults have. -/
theorem run_resolve [Template.Neutral form] (hl : l.Sound) (r : ResolveRequest) :
    ((layers.resolve r).run b s).1.map Resolved.template = layers.resolution l form r ∧
      ((layers.resolve r).run b s).2 = s := by
  have hlast := layers.run_resolveIn_defaults (b := b) (s := s) r
  rw [resolve, resolution, recordFor]
  cases hrequested : layers.requestedIsDefault r with
  | true =>
    have hlocale : r.locale = layers.locales.forChannel r.channel := of_decide_eq_true hrequested
    have hrun := layers.run_resolveIn_stored h hl .exact rfl hlast
    rw [← hlocale, ResolveRequest.position, Option.or_self]
    exact hrun
  | false =>
    have hrun := layers.run_resolveIn_stored h hl .exact rfl
      (layers.run_resolveIn_stored h hl .defaultLocale rfl hlast)
    rw [ResolveRequest.position]
    cases hrecord : l.records.get? (r.positionIn r.locale).ref with
    | some t =>
      rw [hrecord] at hrun
      exact hrun
    | none =>
      rw [hrecord] at hrun
      exact hrun

theorem run_templateExists (r : ResolveRequest) :
    (layers.templateExists r).run b s =
      (.ok ((l.records.contains r.position.ref) ||
        (layers.defaults.get? r.scenario r.channel).any (·.locale = r.locale.tag)), s) := by
  have hstored : (Durable.isStored r).run b s = (.ok (l.records.contains r.position.ref), s) := by
    rw [Durable.isStored, Program.run_bind_ok (Durable.run_ask (h.read _) _), Dictionary.contains]
    cases l.records.get? r.position.ref <;> rfl
  rw [templateExists, Program.run_bind_ok hstored]
  cases l.records.contains r.position.ref <;> rfl

theorem run_scenarioExists (sc : Scenario) (channel : Channel) (tenant : TenantId) :
    (layers.scenarioExists sc channel tenant).run b s =
      (.ok (l.names.contains (.of sc channel tenant) || layers.defaults.contains sc channel), s) := by
  have hregistered := Durable.run_ask (h.isRegistered sc channel tenant)
    s!"checking scenario '{sc}' ({channel}) in tenant {tenant}"
  rw [scenarioExists, Durable.isRegistered, Program.run_bind_ok hregistered]
  cases l.names.contains (.of sc channel tenant) <;> rfl

/-- A scenario that is known is listed with its records and its default. -/
theorem run_listByScenario (hl : l.Sound) (sc : Scenario) (channel : Channel) (scope : Scope) :
    ∃ stored : List Template,
      stored.Perm ((l.within (.of sc channel scope.tenant) scope.applicationText).map form) ∧
      (layers.listByScenario sc channel scope).run b s =
        (if l.names.contains (.of sc channel scope.tenant) || layers.defaults.contains sc channel then
            .ok (finish stored (layers.defaults.get? sc channel).toList)
          else .error (.scenarioNotFound sc.displayName channel scope.tenant), s) := by
  have hregistered := Durable.run_ask (h.isRegistered sc channel scope.tenant)
    s!"checking scenario '{sc}' ({channel}) in tenant {scope.tenant}"
  rw [listByScenario, Durable.isRegistered, Program.run_bind_ok hregistered, Catalog.contains]
  cases hname : l.names.contains (.of sc channel scope.tenant) with
  | true =>
    obtain ⟨stored, hlist, hperm⟩ := h.list sc channel scope
    refine ⟨stored, hperm, ?_⟩
    have hask := Durable.run_ask hlist s!"listing templates of '{sc}' ({channel}) in {scope}"
    exact Program.run_bind_ok hask _
  | false =>
    refine ⟨[], ?_, ?_⟩
    · rw [hl.owned.within_eq_nil hname, List.map_nil]
    · cases layers.defaults.get? sc channel <;> rfl

end

end Layers

/-! ### Writing -/

namespace Store.Ledger

/-- The ledger with a scenario registered; one that is registered keeps its name. -/
def register (l : Ledger) (s : Scenario) (channel : Channel) (tenant : TenantId) : Ledger :=
  (Ledger.backend (.add s channel tenant) l).2

theorem names_register (l : Ledger) (s : Scenario) (channel : Channel) (tenant : TenantId)
    (ref : ScenarioRef) : (l.register s channel tenant).names.get? ref =
      if ref = .of s channel tenant then some ((l.names.get? ref).getD s.displayName)
      else l.names.get? ref := by
  rw [register, Ledger.backend]
  by_cases hnew : l.names.contains (.of s channel tenant) = true
  · rw [if_pos hnew]
    split
    · rename_i href
      subst href
      obtain ⟨name, hname⟩ := Option.isSome_iff_exists.1 hnew
      rw [hname]
      rfl
    · rfl
  · rw [if_neg hnew]
    rw [Dictionary.contains, Option.not_isSome_iff_eq_none] at hnew
    simp only [Dictionary.get?_put]
    split
    · rename_i href
      rw [href, hnew]
      rfl
    · rfl

theorem register_of_contains {l : Ledger} {s : Scenario} {channel : Channel} {tenant : TenantId}
    (h : l.names.contains (.of s channel tenant) = true) : l.register s channel tenant = l := by
  rw [register, Ledger.backend, if_pos h]

@[simp] theorem records_register (l : Ledger) (s : Scenario) (channel : Channel)
    (tenant : TenantId) : (l.register s channel tenant).records = l.records := by
  rw [register, Ledger.backend]
  split <;> rfl

/-- The ledger without a scenario, its name and its records. -/
def forget (l : Ledger) (ref : ScenarioRef) : Ledger where
  names := l.names.erase ref
  records := l.records.retain fun r _ => r.scenario ≠ ref

end Store.Ledger

namespace Durable

theorem run_addScenario (sc : Scenario) (channel : Channel) (tenant : TenantId) :
    (addScenario sc channel tenant).run (Ledger.giving form) l =
      (if l.names.contains (.of sc channel tenant) then
          .error (.scenarioAlreadyExists sc.displayName channel tenant)
        else .ok (), l.register sc channel tenant) := by
  have hregistered := run_ask ((shows_giving l form).isRegistered sc channel tenant)
    s!"checking scenario '{sc}' ({channel}) in tenant {tenant}"
  have hadd : Ledger.giving form (.add sc channel tenant) l =
      (.ok (), l.register sc channel tenant) := rfl
  rw [addScenario, isRegistered, Program.run_bind_ok hregistered]
  cases hname : l.names.contains (.of sc channel tenant) with
  | true =>
    rw [Ledger.register_of_contains hname]
    rfl
  | false => exact run_ask hadd _

theorem run_ensureScenario (sc : Scenario) (channel : Channel) (tenant : TenantId) :
    (ensureScenario sc channel tenant).run (Ledger.giving form) l =
      (.ok (!l.names.contains (.of sc channel tenant)), l.register sc channel tenant) := by
  have hadd := Program.run_attempt (Ledger.giving form) (addScenario sc channel tenant) l
  rw [run_addScenario] at hadd
  rw [ensureScenario, Program.run_bind_ok hadd]
  cases l.names.contains (.of sc channel tenant) <;> rfl

/-- Writing for a registered scenario. -/
theorem run_upsert {t : Template} (ht : t.validateForWrite = .ok ()) {scope : Scope} {name : String}
    (hname : l.names.get? (.ofTemplate t.normalized scope) = some name) :
    (upsert t scope).run (Ledger.giving form) l =
      (.ok (), { l with
        records := l.records.put
          ⟨.ofTemplate t.normalized scope, scope.applicationText, t.normalized.locale⟩
          { t.normalized with scenario := name } }) := by
  have hwrite : Ledger.giving form (.write t.normalized scope) l = (.ok (), { l with
      records := l.records.put
        ⟨.ofTemplate t.normalized scope, scope.applicationText, t.normalized.locale⟩
        { t.normalized with scenario := name } }) := by
    rw [Ledger.giving, Ledger.backend, hname]
    rfl
  rw [upsert, ht]
  change (Program.perform _ _).run (Ledger.giving form) l = _
  rw [Program.run_perform, hwrite]
  rfl

end Durable
end Missive

import Missive.Proofs.Listing
import Missive.Store.Tables

/-! The ledger: what a store is, without the way it is kept. It has the display names of the
registered scenarios and the records at their places, and it answers each store call from these two
maps alone. A kind of store is right if it gives the ledger's answers. -/

namespace Missive.Store

attribute [ext] ScenarioRef

/-- The place of a record as plain data: what its scenario is found by, the application if there is
one, and the text of the locale. -/
@[ext]
structure RecordRef where
  scenario : ScenarioRef
  application : Option String
  locale : String
  deriving DecidableEq

def Position.ref (p : Position) : RecordRef where
  scenario := .of p.scenario p.channel p.scope.tenant
  application := p.scope.applicationText
  locale := p.locale.tag

/-- The scenario that a template written in a scope belongs to. -/
def ScenarioRef.ofTemplate (t : Template) (scope : Scope) : ScenarioRef where
  tenant := scope.tenant
  channel := t.channel
  key := t.scenarioKey

/-- The record that a template written in a scope goes to. -/
def RecordRef.ofTemplate (t : Template) (scope : Scope) : RecordRef where
  scenario := .ofTemplate t scope
  application := scope.applicationText
  locale := t.locale

structure Ledger where
  /-- The display names of the registered scenarios. -/
  names : Dictionary ScenarioRef String := ∅
  records : Dictionary RecordRef Template := ∅

namespace Ledger

def empty : Ledger := {}

/-- The templates of a scenario in the organization or an application. -/
def within (l : Ledger) (scenario : ScenarioRef) (application : Option String) : List Template :=
  (l.records.retain fun r _ => r.scenario = scenario ∧ r.application = application).values

/-- The organization's templates for all scenarios of a channel. -/
def organization (l : Ledger) (channel : Channel) (tenant : TenantId) : List Template :=
  (l.records.retain fun r _ =>
    (r.scenario.tenant = tenant ∧ r.scenario.channel = channel) ∧ r.application = none).values

/-- The names of the scenarios that are registered for a channel. -/
def namesOf (l : Ledger) (channel : Channel) (tenant : TenantId) : Dictionary ScenarioRef String :=
  l.names.retain fun ref _ => ref.tenant = tenant ∧ ref.channel = channel

/-- How the ledger answers. A template is stored under the display name of its scenario, in place
of one for the same application and locale. A scenario keeps the name it was first registered with,
and takes its records along when it is removed. -/
def backend : Backend Ledger
  | .read p, l => (.ok (l.records.get? p.ref), l)
  | .write t scope, l =>
    match l.names.get? (.ofTemplate t scope) with
    | none => (.error (.unknownScenario t.scenario), l)
    | some name =>
      let ref : RecordRef := ⟨.ofTemplate t scope, scope.applicationText, t.locale⟩
      (.ok (), { l with records := l.records.put ref { t with scenario := name } })
  | .delete p, l =>
    (.ok (l.records.contains p.ref), { l with records := l.records.erase p.ref })
  | .list s channel scope, l => (.ok (l.within (.of s channel scope.tenant) scope.applicationText), l)
  | .listAll channel tenant, l => (.ok (l.organization channel tenant), l)
  | .deleteAll s channel scope, l =>
    let ref := ScenarioRef.of s channel scope.tenant
    (.ok (l.within ref scope.applicationText).length,
      { l with records := l.records.retain fun r _ =>
          ¬(r.scenario = ref ∧ r.application = scope.applicationText) })
  | .add s channel tenant, l =>
    let ref := ScenarioRef.of s channel tenant
    (.ok (), if l.names.contains ref then l else { l with names := l.names.put ref s.displayName })
  | .isRegistered s channel tenant, l => (.ok (l.names.contains (.of s channel tenant)), l)
  | .listScenarios channel tenant, l => (.ok (l.namesOf channel tenant).values, l)
  | .remove s channel tenant, l =>
    let ref := ScenarioRef.of s channel tenant
    (.ok (l.names.contains ref),
      { names := l.names.erase ref
        records := l.records.retain fun r _ => r.scenario ≠ ref })

theorem mem_within {l : Ledger} {scenario : ScenarioRef} {application : Option String}
    {t : Template} : t ∈ l.within scenario application ↔
      ∃ tag, l.records.get? ⟨scenario, application, tag⟩ = some t := by
  simp only [within, Dictionary.values, List.mem_map, Dictionary.mem_retain]
  constructor
  · rintro ⟨⟨r, t⟩, ⟨hr, rfl, rfl⟩, rfl⟩
    exact ⟨r.locale, hr⟩
  · rintro ⟨tag, ht⟩
    exact ⟨(_, t), ⟨ht, rfl, rfl⟩, rfl⟩

theorem mem_organization {l : Ledger} {channel : Channel} {tenant : TenantId} {t : Template} :
    t ∈ l.organization channel tenant ↔ ∃ r, l.records.get? r = some t ∧
      (r.scenario.tenant = tenant ∧ r.scenario.channel = channel) ∧ r.application = none := by
  simp only [organization, Dictionary.values, List.mem_map, Dictionary.mem_retain]
  constructor
  · rintro ⟨⟨r, t⟩, ⟨hr, hplace⟩, rfl⟩
    exact ⟨r, hr, hplace⟩
  · rintro ⟨r, hr, hplace⟩
    exact ⟨⟨r, t⟩, ⟨hr, hplace⟩, rfl⟩

/-- The templates of a scenario in one scope are listed by any dictionary that has them once for each
locale. -/
theorem perm_within {κ : Type} [DecidableEq κ] {l : Ledger} {scenario : ScenarioRef}
    {application : Option String} {d : Dictionary κ Template} (locale : κ → String)
    (inj : ∀ {k k' t t'}, d.get? k = some t → d.get? k' = some t' → locale k = locale k' → k = k')
    (hget : ∀ tag t, l.records.get? ⟨scenario, application, tag⟩ = some t ↔
      ∃ k, d.get? k = some t ∧ locale k = tag) :
    d.values.Perm (l.within scenario application) := by
  rw [← List.map_id d.values]
  refine Dictionary.perm_values (fun k => ⟨scenario, application, locale k⟩) id ?_ ?_
  · intro k k' t t' hk hk' h
    exact inj hk hk' (congrArg RecordRef.locale h)
  · rintro ⟨scenario', application', tag⟩ t
    simp only [Dictionary.get?_retain_key, Option.ite_none_right_eq_some, decide_eq_true_eq]
    constructor
    · rintro ⟨⟨rfl, rfl⟩, ht⟩
      obtain ⟨k, hk, rfl⟩ := (hget tag t).1 ht
      exact ⟨k, t, hk, rfl, rfl⟩
    · rintro ⟨k, t', hk, hplace, rfl⟩
      obtain ⟨rfl, rfl, rfl⟩ := RecordRef.mk.inj hplace
      exact ⟨⟨rfl, rfl⟩, (hget _ _).2 ⟨k, hk, rfl⟩⟩

/-- Every record belongs to a registered scenario and bears its display name. -/
def Owned (l : Ledger) : Prop :=
  ∀ ref t, l.records.get? ref = some t → l.names.get? ref.scenario = some t.scenario

theorem Owned.record_none {l : Ledger} (h : l.Owned) {r : RecordRef}
    (hname : l.names.get? r.scenario = none) : l.records.get? r = none := by
  cases hr : l.records.get? r with
  | none => rfl
  | some t =>
    have hregistered := h r t hr
    rw [hname] at hregistered
    cases hregistered

/-- The organization's templates, put together from those of the registered scenarios. -/
theorem Owned.perm_organization {l : Ledger} (h : l.Owned) (channel : Channel)
    (tenant : TenantId) :
    (((l.namesOf channel tenant).entries.map Prod.fst).flatMap fun ref => l.within ref none).Perm
      (l.organization channel tenant) := by
  have hgroups := (perm_flatMap_filter (fun e : RecordRef × Template => e.1.scenario)
    (l.namesOf channel tenant).distinct
    (l.records.entries.filter fun e => e.1.application = none)).map Prod.snd
  have hleft : ((l.namesOf channel tenant).entries.map Prod.fst).flatMap
        (fun ref => l.within ref none) =
      (((l.namesOf channel tenant).entries.map Prod.fst).flatMap fun ref =>
        (l.records.entries.filter fun e => e.1.application = none).filter
          (·.1.scenario = ref)).map Prod.snd := by
    rw [List.map_flatMap]
    apply List.flatMap_congr
    intro ref _
    simp only [within, Dictionary.values, Dictionary.retain, List.filter_filter, Bool.decide_and]
  have hright : (l.records.entries.filter fun e => e.1.application = none).filter
        (·.1.scenario ∈ (l.namesOf channel tenant).entries.map Prod.fst) =
      (l.records.retain fun r _ =>
        (r.scenario.tenant = tenant ∧ r.scenario.channel = channel) ∧ r.application = none).entries := by
    rw [Dictionary.retain, List.filter_filter]
    apply List.filter_congr
    intro e he
    have hname := h e.1 e.2 (Dictionary.get?_eq_some_iff.2 he)
    have hiff : e.1.scenario ∈ (l.namesOf channel tenant).entries.map Prod.fst ↔
        e.1.scenario.tenant = tenant ∧ e.1.scenario.channel = channel := by
      have hentry := Dictionary.get?_eq_some_iff.1 hname
      simp only [namesOf, Dictionary.retain, List.mem_map, List.mem_filter, decide_eq_true_eq]
      constructor
      · rintro ⟨n, ⟨-, hn⟩, heq⟩
        rwa [← heq]
      · intro hn
        exact ⟨_, ⟨hentry, hn⟩, rfl⟩
    simp [hiff]
  rw [hleft, organization, Dictionary.values, ← hright]
  exact hgroups

end Ledger
end Missive.Store

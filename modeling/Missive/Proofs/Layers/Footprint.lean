import Missive.Proofs.Layers.Operation
import Missive.Proofs.Merge
import Missive.Proofs.Store.Footprint

/-! What the operations of the layers look at. As long as the answers to its calls look the same, an
operation makes the same calls and comes to an outcome that looks the same; and its calls stay within
any region that has the scenario it is about. -/

namespace Missive

open Store

/-- The scenario that a request is about. -/
def ResolveRequest.ref (r : ResolveRequest) : ScenarioRef := .of r.scenario r.channel r.scope.tenant

/-- Found in the same tier, and looking the same. -/
def Resolved.Tells (view : Template → Template) (a b : Resolved) : Prop :=
  view a.template = view b.template ∧ a.tier = b.tier

/-- The same templates in any order, as they look. -/
def Template.ListsTell (view : Template → Template) (as bs : List Template) : Prop :=
  (as.map view).Perm (bs.map view)

/-- Programs that make the same calls within a region, as long as the answers look the same. -/
abbrev StoreProgram.Matching {α β : Type} (region : ScenarioRef → Prop)
    (view : Template → Template) (R : α → β → Prop) (p : StoreProgram α)
    (p' : StoreProgram β) : Prop :=
  Program.Similar (fun c => c.Admissible ∧ c.Within region)
    (fun c => Outcome.Alike (c.Tells view)) R p p'

variable {region : ScenarioRef → Prop} {view : Template → Template}

namespace Durable

open StoreProgram

theorem matching_ask (c : Call) (purpose : String) (hc : c.Admissible) (hregion : c.Within region) :
    Matching region view (c.Tells view) (ask purpose c) (ask purpose c) := by
  refine .perform ⟨hc, hregion⟩ fun x y h => .done ?_
  cases x <;> cases y
  · exact congrArg _ h
  · cases h
  · cases h
  · exact h

theorem matching_isStored {r : ResolveRequest} (h : region r.ref) :
    Matching region view Eq (isStored r) (isStored r) := by
  refine (matching_ask (.read _) _ trivial fun _ heq => heq ▸ h).bind fun a b hab => .pure ?_
  have hsome := congrArg Option.isSome hab
  rwa [Option.isSome_map, Option.isSome_map] at hsome

section

variable {s : Scenario} {channel : Channel} {tenant : TenantId} (h : region (.of s channel tenant))
include h

theorem matching_isRegistered : Matching region view Eq (isRegistered s channel tenant)
    (isRegistered s channel tenant) :=
  matching_ask (.isRegistered ..) _ trivial fun _ heq => heq ▸ h

theorem matching_addScenario : Matching region view Eq (addScenario s channel tenant)
    (addScenario s channel tenant) := by
  apply (matching_isRegistered h).bind
  intro a b hab
  subst hab
  cases a
  · exact matching_ask (.add ..) _ trivial fun _ heq => heq ▸ h
  · exact .throw _

theorem matching_ensureScenario : Matching region view Eq (ensureScenario s channel tenant)
    (ensureScenario s channel tenant) := by
  apply (matching_addScenario h).attempt.bind
  intro a b hab
  cases a <;> cases b
  · rename_i e _
    cases hab
    cases e
    case scenarioAlreadyExists => exact .pure rfl
    all_goals exact .throw _
  · cases hab
  · cases hab
  · exact .pure rfl

theorem matching_removeScenario : Matching region view Eq (removeScenario s channel tenant)
    (removeScenario s channel tenant) :=
  matching_ask (.remove ..) _ trivial fun _ heq => heq ▸ h

end

theorem matching_upsert {t : Template} {scope : Scope}
    (h : region (.ofTemplate t.normalized scope)) :
    Matching region view Eq (upsert t scope) (upsert t scope) := by
  cases ht : t.validateForWrite with
  | error e =>
    rw [upsert, ht]
    exact .throw e
  | ok u =>
    rw [upsert, ht]
    refine .perform ⟨Template.storable_normalized ht, fun _ heq => heq ▸ h⟩ fun x y hxy => .done ?_
    cases x <;> cases y
    · exact congrArg _ hxy
    · cases hxy
    · cases hxy
    · exact hxy

theorem matching_delete {p : Position} (h : region p.ref.scenario) :
    Matching region view Eq (delete p) (delete p) :=
  matching_ask (.delete p) _ trivial fun _ heq => heq ▸ h

theorem matching_deleteAll {s : Scenario} {channel : Channel} {scope : Scope}
    (h : region (.of s channel scope.tenant)) :
    Matching region view Eq (deleteAll s channel scope) (deleteAll s channel scope) := by
  apply (matching_isRegistered h).bind
  intro a b hab
  subst hab
  cases a
  · exact .pure rfl
  · exact matching_ask (.deleteAll ..) _ trivial fun _ heq => heq ▸ h

end Durable

namespace Layers

open StoreProgram

variable (layers : Layers)

theorem matching_templateExists {r : ResolveRequest} (h : region r.ref) :
    Matching region view Eq (layers.templateExists r) (layers.templateExists r) := by
  apply (Durable.matching_isStored h).bind
  intro a b hab
  subst hab
  cases a <;> exact .pure rfl

theorem matching_scenarioExists {s : Scenario} {channel : Channel} {tenant : TenantId}
    (h : region (.of s channel tenant)) :
    Matching region view Eq (layers.scenarioExists s channel tenant)
      (layers.scenarioExists s channel tenant) := by
  apply (Durable.matching_isRegistered h).bind
  intro a b hab
  subst hab
  cases a <;> exact .pure rfl

theorem matching_listScenarios {channel : Channel} {tenant : TenantId}
    (h : ∀ ref : ScenarioRef, ref.tenant = tenant ∧ ref.channel = channel → region ref) :
    Matching region view List.Perm (layers.listScenarios channel tenant)
      (layers.listScenarios channel tenant) := by
  refine (Durable.matching_ask (.listScenarios ..) _ trivial h).bind fun a b hab => .pure ?_
  obtain ⟨hperm, hnodup⟩ := hab
  have hkeys := hperm.map Identifier.ScenarioName.key
  obtain ⟨added, ha, hb⟩ := merge_append hnodup (hkeys.nodup_iff.1 hnodup) (fun _ => hkeys.mem_iff)
    (layers.defaults.scenarioNames channel)
  rw [mergeNames, mergeNames, ha, hb]
  exact hperm.append_right added

theorem matching_lookup {r : ResolveRequest} (h : region r.ref) (tier : Tier) :
    Matching region view (fun a b => a.map view = b.map view) (layers.lookup r tier)
      (layers.lookup r tier) := by
  cases tier with
  | exact | defaultLocale => exact Durable.matching_ask (.read _) _ trivial fun _ heq => heq ▸ h
  | systemDefault | unsatisfied => exact .pure rfl

variable [Template.Neutral view]

theorem matching_resolveIn {r : ResolveRequest} (h : region r.ref) (tiers : List Tier) :
    Matching region view (Resolved.Tells view) (layers.resolveIn r tiers)
      (layers.resolveIn r tiers) := by
  induction tiers with
  | nil => exact .throw _
  | cons tier rest ih =>
    apply (layers.matching_lookup h tier).bind
    intro a b hab
    cases a with
    | none =>
      obtain rfl := Option.map_eq_none_iff.1 hab.symm
      exact ih
    | some t =>
      obtain ⟨t', rfl, heq⟩ := Option.map_eq_some_iff.1 hab.symm
      have halike : t.Alike t' := Template.Neutral.alike_of_eq heq.symm
      simp only [halike.hasContent, halike.locale]
      split
      · refine .pure ⟨?_, rfl⟩
        simp only [Template.Neutral.withUtf8Charset, heq]
      · exact .throw _

theorem matching_resolve {r : ResolveRequest} (h : region r.ref) :
    Matching region view (Resolved.Tells view) (layers.resolve r) (layers.resolve r) :=
  layers.matching_resolveIn h _

/-- Merging with the defaults and completing for sending. -/
theorem listsTell_finish {as bs : List Template} (h : Template.ListsTell view as bs)
    (hnodup : (as.map Template.mergeKey).Nodup) (defaults : List Template) :
    Template.ListsTell view (finish as defaults) (finish bs defaults) := by
  have hkeys := h.map Template.mergeKey
  rw [Template.Neutral.map_mergeKey, Template.Neutral.map_mergeKey] at hkeys
  obtain ⟨added, ha, hb⟩ := merge_append hnodup (hkeys.nodup_iff.1 hnodup) (fun _ => hkeys.mem_iff)
    defaults
  rw [finish, finish, mergeTemplates, mergeTemplates, ha, hb, Template.ListsTell,
    Template.Neutral.map_withUtf8Charset, Template.Neutral.map_withUtf8Charset]
  apply List.Perm.map
  rw [List.map_append, List.map_append]
  exact h.append_right _

theorem matching_listByScenario {s : Scenario} {channel : Channel} {scope : Scope}
    (h : region (.of s channel scope.tenant)) :
    Matching region view (Template.ListsTell view) (layers.listByScenario s channel scope)
      (layers.listByScenario s channel scope) := by
  apply (Durable.matching_isRegistered h).bind
  intro a b hab
  subst hab
  cases a with
  | true =>
    exact (Durable.matching_ask (.list ..) _ trivial fun _ heq => heq ▸ h).bind fun _ _ h =>
      .pure (listsTell_finish h.1 h.2 _)
  | false =>
    cases layers.defaults.get? s channel with
    | none => exact .throw _
    | some default => exact .pure (.refl _)

theorem matching_listAll {channel : Channel} {tenant : TenantId}
    (h : ∀ ref : ScenarioRef, ref.tenant = tenant ∧ ref.channel = channel → region ref) :
    Matching region view (Template.ListsTell view) (layers.listAll channel tenant)
      (layers.listAll channel tenant) :=
  (Durable.matching_ask (.listAll ..) _ trivial h).bind fun _ _ h =>
    .pure (listsTell_finish h.1 h.2 _)

/-- Replies that look the same, up to the order of listings. -/
def Operation.Tells (view : Template → Template) : (o : Operation) → o.Reply → o.Reply → Prop
  | .resolve _, a, b => a.Tells view b
  | .listScenarios .., a, b => a.Perm b
  | .listByScenario .., a, b | .listAll .., a, b => Template.ListsTell view a b
  | .templateExists _, a, b | .isStored _, a, b | .scenarioExists .., a, b | .addScenario .., a, b
  | .ensureScenario .., a, b | .upsert .., a, b | .delete _, a, b | .deleteAll .., a, b
  | .removeScenario .., a, b => a = b

variable (view) in
theorem matching_program (o : Operation) :
    Matching (fun _ => True) view (o.Tells view) (layers.program o) (layers.program o) := by
  cases o with
  | resolve => exact layers.matching_resolve trivial
  | templateExists => exact layers.matching_templateExists trivial
  | isStored => exact Durable.matching_isStored trivial
  | scenarioExists => exact layers.matching_scenarioExists trivial
  | listScenarios => exact layers.matching_listScenarios fun _ _ => trivial
  | listByScenario => exact layers.matching_listByScenario trivial
  | listAll => exact layers.matching_listAll fun _ _ => trivial
  | addScenario => exact Durable.matching_addScenario trivial
  | ensureScenario => exact Durable.matching_ensureScenario trivial
  | upsert => exact Durable.matching_upsert trivial
  | delete => exact Durable.matching_delete trivial
  | deleteAll => exact Durable.matching_deleteAll trivial
  | removeScenario => exact Durable.matching_removeScenario trivial

end Layers
end Missive

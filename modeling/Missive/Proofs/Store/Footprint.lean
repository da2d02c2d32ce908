import Missive.Proofs.Program
import Missive.Proofs.Store.AnyStore

/-! What store calls look at and change. Scenarios are independent of each other: a call's answer
depends on the scenarios that it concerns alone, and it leaves all others as they were. Any store
answers as its ledger does, but for the order of listings. -/

namespace Missive.Store

/-- A template is written for the scenario that its name stands for. -/
theorem ScenarioRef.ofTemplate_normalized {t : Template} {s : Scenario}
    (h : Scenario.parse t.scenario = .ok s) (scope : Scope) :
    ScenarioRef.ofTemplate t.normalized scope = .of s t.channel scope.tenant := by
  rw [Scenario.parse] at h
  split at h
  · cases h
    rfl
  · cases h

/-- The scenarios that a call looks at or changes. -/
def Call.Concerns : Call → ScenarioRef → Prop
  | .read p, ref | .delete p, ref => ref = p.ref.scenario
  | .write t scope, ref => ref = .ofTemplate t scope
  | .list s channel scope, ref | .deleteAll s channel scope, ref =>
    ref = .of s channel scope.tenant
  | .add s channel tenant, ref | .isRegistered s channel tenant, ref
  | .remove s channel tenant, ref => ref = .of s channel tenant
  | .listAll channel tenant, ref | .listScenarios channel tenant, ref =>
    ref.tenant = tenant ∧ ref.channel = channel

/-- It concerns no scenario outside of the region. -/
def Call.Within (region : ScenarioRef → Prop) (c : Call) : Prop := ∀ ref, c.Concerns ref → region ref

/-- Replies that look the same, up to the order of listings; nothing is listed twice. -/
def Call.Tells (view : Template → Template) : (c : Call) → c.Reply → c.Reply → Prop
  | .read _, a, b => a.map view = b.map view
  | .list .., a, b | .listAll .., a, b =>
    (a.map view).Perm (b.map view) ∧ (a.map Template.mergeKey).Nodup
  | .listScenarios .., a, b => a.Perm b ∧ (a.map Identifier.ScenarioName.key).Nodup
  | .write .., a, b | .delete _, a, b | .deleteAll .., a, b | .add .., a, b | .isRegistered .., a, b
  | .remove .., a, b => a = b

/-- A reply with its templates in a form of choice. -/
def Call.present (form : Template → Template) : (c : Call) → c.Reply → c.Reply
  | .read _, found => found.map form
  | .list .., ts | .listAll .., ts => ts.map form
  | .write .., a | .delete _, a | .deleteAll .., a | .add .., a | .isRegistered .., a
  | .listScenarios .., a | .remove .., a => a

instance (s : AnyStore) : Template.Neutral s.form := by
  cases s with
  | tables => exact inferInstanceAs (Template.Neutral id)
  | forest => exact inferInstanceAs (Template.Neutral Template.dropEmptyFooter)

namespace Ledger

/-- The ledger as a store that gives templates back in a form. -/
def giving (form : Template → Template) : Backend Ledger := fun c l =>
  ((Ledger.backend c l).1.map (c.present form), (Ledger.backend c l).2)

/-- They have the same in a region. -/
structure AgreeOn (region : ScenarioRef → Prop) (l l' : Ledger) : Prop where
  names : ∀ {ref}, region ref → l.names.get? ref = l'.names.get? ref
  records : ∀ {r : RecordRef}, region r.scenario → l.records.get? r = l'.records.get? r

variable {region : ScenarioRef → Prop} {l l' l'' : Ledger} {c : Call} {form : Template → Template}

namespace AgreeOn

theorem refl (l : Ledger) : l.AgreeOn region l := ⟨fun _ => rfl, fun _ => rfl⟩

theorem symm (h : l.AgreeOn region l') : l'.AgreeOn region l :=
  ⟨fun href => (h.names href).symm, fun hr => (h.records hr).symm⟩

theorem trans (h : l.AgreeOn region l') (h' : l'.AgreeOn region l'') : l.AgreeOn region l'' :=
  ⟨fun href => (h.names href).trans (h'.names href),
    fun hr => (h.records hr).trans (h'.records hr)⟩

/-- A selection of records from the region has the same values. -/
theorem perm_values (h : l.AgreeOn region l') {p : RecordRef → Bool}
    (hp : ∀ r, p r → region r.scenario) :
    (l.records.retain fun r _ => p r).values.Perm (l'.records.retain fun r _ => p r).values := by
  apply Dictionary.perm_values_of_get?
  intro r
  rw [Dictionary.get?_retain_key, Dictionary.get?_retain_key]
  by_cases hr : p r
  · rw [if_pos hr, if_pos hr, h.records (hp r hr)]
  · rw [if_neg hr, if_neg hr]

theorem perm_within (h : l.AgreeOn region l') {ref : ScenarioRef} (href : region ref)
    (application : Option String) : (l.within ref application).Perm (l'.within ref application) :=
  h.perm_values fun _ hr => (of_decide_eq_true hr).1 ▸ href

theorem perm_organization (h : l.AgreeOn region l') {channel : Channel} {tenant : TenantId}
    (hregion : ∀ ref : ScenarioRef, ref.tenant = tenant ∧ ref.channel = channel → region ref) :
    (l.organization channel tenant).Perm (l'.organization channel tenant) :=
  h.perm_values fun r hr => hregion r.scenario (of_decide_eq_true hr).1

theorem perm_names (h : l.AgreeOn region l') {channel : Channel} {tenant : TenantId}
    (hregion : ∀ ref : ScenarioRef, ref.tenant = tenant ∧ ref.channel = channel → region ref) :
    (l.namesOf channel tenant).values.Perm (l'.namesOf channel tenant).values := by
  apply Dictionary.perm_values_of_get?
  intro ref
  rw [namesOf, namesOf, Dictionary.get?_retain_key, Dictionary.get?_retain_key]
  by_cases href : ref.tenant = tenant ∧ ref.channel = channel
  · simp only [href, and_self, decide_true, if_true, h.names (hregion ref href)]
  · simp only [href, decide_false, Bool.false_eq_true, if_false]

/-- Ledgers that agree on a region answer the calls within it alike. -/
theorem answer [Template.Neutral form] (h : l.AgreeOn region l') (hl : l.Sound)
    (hc : c.Within region) :
    Outcome.Alike (c.Tells id) (giving form c l).1 (giving form c l').1 := by
  have hlists : ∀ {ts ts' : List Template}, ts.Perm ts' → (ts.map Template.mergeKey).Nodup →
      ((ts.map form).map id).Perm ((ts'.map form).map id) ∧
        ((ts.map form).map Template.mergeKey).Nodup := by
    intro ts ts' hperm hnodup
    rw [Template.Neutral.map_mergeKey]
    exact ⟨(hperm.map form).map id, hnodup⟩
  cases c with
  | read p => exact congrArg (fun t => (Option.map form t).map id) (h.records (hc _ rfl))
  | write t scope =>
    have hname := h.names (hc _ rfl)
    simp only [giving, Ledger.backend, hname]
    cases l'.names.get? (.ofTemplate t scope) <;> exact rfl
  | delete p => exact congrArg Option.isSome (h.records (hc _ rfl))
  | list s channel scope => exact hlists (h.perm_within (hc _ rfl) _) (hl.nodup_within _ _)
  | listAll channel tenant => exact hlists (h.perm_organization hc) (hl.nodup_organization _ _)
  | deleteAll s channel scope => exact (h.perm_within (hc _ rfl) _).length_eq
  | add => exact rfl
  | isRegistered s channel tenant => exact congrArg Option.isSome (h.names (hc _ rfl))
  | listScenarios channel tenant => exact ⟨h.perm_names hc, hl.nodup_names _ _⟩
  | remove s channel tenant => exact congrArg Option.isSome (h.names (hc _ rfl))

/-- They still agree on it afterwards. -/
theorem step (h : l.AgreeOn region l') (hc : c.Within region) :
    (Ledger.backend c l).2.AgreeOn region (Ledger.backend c l').2 := by
  cases c with
  | read | list | listAll | isRegistered | listScenarios => exact h
  | write t scope =>
    have hname := h.names (hc _ rfl)
    simp only [Ledger.backend, hname]
    cases l'.names.get? (.ofTemplate t scope) with
    | none => exact h
    | some name =>
      refine ⟨h.names, fun hr => ?_⟩
      rw [Dictionary.get?_put, Dictionary.get?_put, h.records hr]
  | delete p =>
    refine ⟨h.names, fun hr => ?_⟩
    simp only [Ledger.backend, Dictionary.get?_erase, h.records hr]
  | deleteAll s channel scope =>
    refine ⟨h.names, fun hr => ?_⟩
    simp only [Ledger.backend, Dictionary.get?_retain_key, h.records hr]
  | add s channel tenant =>
    have hregistered : l.names.contains (.of s channel tenant) =
        l'.names.contains (.of s channel tenant) := congrArg Option.isSome (h.names (hc _ rfl))
    rw [Ledger.backend, Ledger.backend, hregistered]
    by_cases hnew : l'.names.contains (.of s channel tenant) = true
    · rw [if_pos hnew, if_pos hnew]
      exact h
    · rw [if_neg hnew, if_neg hnew]
      refine ⟨fun href => ?_, h.records⟩
      rw [Dictionary.get?_put, Dictionary.get?_put, h.names href]
  | remove s channel tenant =>
    refine ⟨fun href => ?_, fun hr => ?_⟩
    · simp only [Ledger.backend, Dictionary.get?_erase, h.names href]
    · simp only [Ledger.backend, Dictionary.get?_retain_key, h.records hr]

/-- A call that concerns no scenario of a region leaves the region as it is. -/
theorem frame (l : Ledger) (hc : ∀ ref, c.Concerns ref → ¬region ref) :
    (Ledger.backend c l).2.AgreeOn region l := by
  have hne : ∀ {ref ref'}, c.Concerns ref' → region ref → ref ≠ ref' := by
    rintro ref _ href' href rfl
    exact hc ref href' href
  cases c with
  | read | list | listAll | isRegistered | listScenarios => exact .refl l
  | write t scope =>
    simp only [Ledger.backend]
    split
    · exact .refl l
    · refine ⟨fun _ => rfl, fun hr => ?_⟩
      rw [Dictionary.get?_put, if_neg]
      exact fun heq => hne rfl hr (congrArg RecordRef.scenario heq)
  | delete p =>
    refine ⟨fun _ => rfl, fun hr => ?_⟩
    rw [Ledger.backend, Dictionary.get?_erase, if_neg]
    exact fun heq => hne rfl hr (congrArg RecordRef.scenario heq)
  | deleteAll s channel scope =>
    refine ⟨fun _ => rfl, fun hr => ?_⟩
    rw [Ledger.backend, Dictionary.get?_retain_key, if_pos]
    exact decide_eq_true fun heq => hne rfl hr heq.1
  | add s channel tenant =>
    simp only [Ledger.backend]
    split
    · exact .refl l
    · refine ⟨fun href => ?_, fun _ => rfl⟩
      rw [Dictionary.get?_put, if_neg (hne rfl href)]
  | remove s channel tenant =>
    refine ⟨fun href => ?_, fun hr => ?_⟩
    · rw [Ledger.backend, Dictionary.get?_erase, if_neg (hne rfl href)]
    · rw [Ledger.backend, Dictionary.get?_retain_key, if_pos]
      exact decide_eq_true (hne rfl hr)

end AgreeOn
end Ledger

namespace AnyStore

variable {s : AnyStore} {l : Ledger} {c : Call}

/-- A store answers as the ledger that it keeps, in its form, and goes on keeping it. -/
theorem realizes (h : s.Keeps l) (hl : l.Sound) (hc : c.Admissible) :
    Outcome.Alike (c.Tells id) (backend c s).1 (Ledger.giving s.form c l).1 ∧
      (backend c s).2.Keeps (Ledger.backend c l).2 ∧ (backend c s).2.form = s.form := by
  obtain ⟨hagree, hkeeps, hform⟩ := simulates_ledger h hl hc
  refine ⟨?_, hkeeps, hform⟩
  have hrefl : l.AgreeOn (fun _ => True) l := .refl l
  have hself : Outcome.Alike (c.Tells id) (Ledger.giving s.form c l).1
      (Ledger.giving s.form c l).1 := hrefl.answer hl fun _ _ => trivial
  rw [Ledger.giving] at hself ⊢
  cases hx : (Ledger.backend c l).1 with
  | error e =>
    rw [hx] at hagree
    rw [hagree.error]
    exact rfl
  | ok x =>
    rw [hx] at hagree hself
    obtain ⟨a, ha, hmatch⟩ := hagree.ok
    rw [ha]
    change c.Tells id a (c.present s.form x)
    change c.Tells id (c.present s.form x) (c.present s.form x) at hself
    cases c with
    | read => exact congrArg (Option.map id) hmatch
    | list | listAll =>
      exact ⟨hmatch.map id, ((hmatch.map Template.mergeKey).nodup_iff).2 hself.2⟩
    | listScenarios =>
      exact ⟨hmatch, ((hmatch.map Identifier.ScenarioName.key).nodup_iff).2 hself.2⟩
    | write | delete | deleteAll | add | isRegistered | remove => exact hmatch

/-- The store lists the scenario under a display name. -/
def Registers (s : AnyStore) (ref : ScenarioRef) (name : String) : Prop :=
  ∃ names, (backend (.listScenarios ref.channel ref.tenant) s).1 = .ok names ∧ name ∈ names ∧
    Identifier.ScenarioName.key name = ref.key

theorem registers_iff (h : s.Keeps l) (hl : l.Sound) {ref : ScenarioRef} {name : String} :
    s.Registers ref name ↔ l.names.get? ref = some name := by
  obtain ⟨hagree, -⟩ := simulates_ledger h hl (c := .listScenarios ref.channel ref.tenant) trivial
  obtain ⟨names, hnames, hperm⟩ := hagree.ok
  have hmem : ∀ n, n ∈ names ↔ ∃ ref' : ScenarioRef, l.names.get? ref' = some n ∧
      ref'.tenant = ref.tenant ∧ ref'.channel = ref.channel := by
    intro n
    rw [List.Perm.mem_iff hperm]
    simp only [Ledger.namesOf, Dictionary.values, Dictionary.retain, List.mem_map, List.mem_filter,
      decide_eq_true_eq, Dictionary.get?_eq_some_iff]
    constructor
    · rintro ⟨e, ⟨he, hplace⟩, rfl⟩
      exact ⟨e.1, he, hplace⟩
    · rintro ⟨ref', he, hplace⟩
      exact ⟨⟨ref', n⟩, ⟨he, hplace⟩, rfl⟩
  constructor
  · rintro ⟨names', hnames', hname, hkey⟩
    rw [hnames] at hnames'
    cases hnames'
    obtain ⟨ref', href, htenant, hchannel⟩ := (hmem name).1 hname
    obtain ⟨sc, rfl, hsc⟩ := hl.names href
    obtain rfl : ref' = ref := ScenarioRef.ext htenant hchannel (hsc.symm.trans hkey)
    exact href
  · intro href
    obtain ⟨sc, rfl, hsc⟩ := hl.names href
    exact ⟨names, hnames, (hmem _).2 ⟨ref, href, rfl, rfl⟩, hsc⟩

end AnyStore
end Missive.Store

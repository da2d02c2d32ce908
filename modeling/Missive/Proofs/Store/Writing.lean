import Mathlib.Tactic.ByContra
import Missive.Proofs.Store.Unchecked

/-! What writing does, whatever template is given. A write is refused just if the scenario is not
registered, and else shows at its own place alone; but the trees look for the scenario, and put the
record, at paths that are put together from the template's texts, and with slashes in them these can
be the paths of other records. -/

namespace Missive.Store

/-! ### What putting an entry leaves as it was -/

namespace PathMap

variable {α : Type}

theorem filter_insertEntry {p : Path} {v : α} {es : List (Path × α)} {keep : Path × α → Bool}
    (h : ∀ w, keep (p, w) = false) : (insertEntry p v es).filter keep = es.filter keep := by
  induction es with
  | nil => simp [insertEntry, h]
  | cons x rest ih =>
    rw [insertEntry]
    split
    · rw [List.filter_cons, h]
      rfl
    · split
      · rename_i hp
        obtain ⟨q, w⟩ := x
        obtain rfl : p = q := hp
        simp [h]
      · rw [List.filter_cons, List.filter_cons, ih]

/-- Putting an entry that is not right below a path. -/
theorem children_put (m : PathMap α) {start p : Path} {v : α}
    (h : start <+: p → '/' ∈ p.drop start.length) :
    (m.put p v).children start = m.children start := by
  simp only [children, scan_eq_filter, List.filter_filter]
  refine filter_insertEntry fun w => ?_
  rw [Bool.and_eq_false_iff, Bool.not_eq_false', List.contains_iff_mem]
  by_cases hp : start <+: p
  · exact .inl (h hp)
  · exact .inr (Bool.eq_false_iff.2 (mt List.isPrefixOf_iff_prefix.1 hp))

end PathMap

namespace Tables

theorem templatesOf_putTemplate (t : Tables) {id id' : Nat} {app app' : Option String}
    (tpl : Template) (h : ¬(id' = id ∧ app' = app)) :
    (t.putTemplate id app tpl).templatesOf id' app' = t.templatesOf id' app' := by
  cases app with
  | none =>
    cases app' with
    | none =>
      exact Dictionary.values_retain_put _ _ fun _ => decide_eq_false fun hid => h ⟨hid.symm, rfl⟩
    | some app' => rfl
  | some app =>
    cases app' with
    | none => rfl
    | some app' =>
      refine Dictionary.values_retain_put _ _ fun _ => decide_eq_false ?_
      rintro ⟨rfl, rfl⟩
      exact h ⟨rfl, rfl⟩

end Tables

/-! ### Where a write shows -/

/-- Different records that the trees have under one path. -/
def Kind.Confuses (k : Kind) (r r' : RecordRef) : Prop :=
  k = .forest ∧ r ≠ r' ∧ r.scenario.tenant = r'.scenario.tenant ∧
    (Place.record r).path = (Place.record r').path

/-- Nothing is confused with a record whose key and locale have no slash. -/
theorem Kind.not_confuses_of_plain {k : Kind} {t : Template} {scope : Scope} {r : RecordRef}
    (hkey : Path.Plain t.scenarioKey) (hlocale : Path.Plain t.locale) (hr : (Place.record r).Plain) :
    ¬k.Confuses (.ofTemplate t scope) r := by
  rintro ⟨-, hne, htenant, hpath⟩
  have hplain : (Place.record (.ofTemplate t scope)).Plain :=
    Place.plain_of_texts hkey (Place.plain_application scope) hlocale
  exact hne (Place.record.inj ((Place.path_inj hplain hr htenant).1 hpath))

namespace AnyStore

/-- Readers and listings that look elsewhere get the same answers, if what they look for is not
confused with the record in question. -/
structure AgreesElsewhere (s s' : AnyStore) (target : RecordRef) (confused : RecordRef → Prop) :
    Prop where
  read : ∀ {p : Position}, p.ref ≠ target → ¬confused p.ref → s'.read p = s.read p
  list : ∀ {sc : Scenario} {channel : Channel} {scope : Scope},
    ¬(.of sc channel scope.tenant = target.scenario ∧ scope.applicationText = target.application) →
    (∀ locale, Path.Plain locale →
      ¬confused ⟨.of sc channel scope.tenant, scope.applicationText, locale⟩) →
    (backend (.list sc channel scope) s').1 = (backend (.list sc channel scope) s).1

/-- A record is where the scenario would have its node. -/
def Overlaid (s : AnyStore) (ref : ScenarioRef) : Prop :=
  match s with
  | tables _ => False
  | forest f => ∃ node, (f.tree ref.tenant).get? (Tree.scenarioPath ref.channel ref.key) = some node ∧
      node.isRecord = true

end AnyStore

namespace Tables

variable {t : Tables} {l : Ledger}

theorem agreesElsewhere (h : t.Keeps l) (tpl : Template) (scope : Scope) :
    (AnyStore.tables t).AgreesElsewhere (.tables (backend (.write tpl scope) t).2)
      (.ofTemplate tpl scope) (Kind.Confuses .tables (.ofTemplate tpl scope)) := by
  simp only [backend]
  cases hrow : t.scenarios.get? ⟨scope.tenant, tpl.channel, tpl.scenarioKey⟩ with
  | none => exact ⟨fun _ _ => rfl, fun _ _ => rfl⟩
  | some row =>
    constructor
    · intro p hp _
      simp only [AnyStore.read, AnyStore.backend, backend, row?, scenarios_putTemplate]
      cases hrow' : t.scenarios.get? (.of p.scenario p.channel p.scope.tenant) with
      | none => rfl
      | some row' =>
        rw [Option.bind_some, Option.bind_some, template?_putTemplate, if_neg]
        rintro ⟨hid, happ, hlocale⟩
        exact hp (RecordRef.ext ((h.id_eq_iff hrow' hrow).1 hid) happ hlocale)
    · intro sc channel scope' hscope _
      simp only [AnyStore.backend, backend, row?, scenarios_putTemplate]
      cases hrow' : t.scenarios.get? (.of sc channel scope'.tenant) with
      | none => rfl
      | some row' =>
        simp only
        rw [templatesOf_putTemplate]
        rintro ⟨hid, happ⟩
        exact hscope ⟨(h.id_eq_iff hrow' hrow).1 hid, happ⟩

end Tables

namespace Forest

variable {f : Forest} {calls : List Call}

theorem agreesElsewhere (f : Forest) (t : Template) (scope : Scope) :
    (AnyStore.forest f).AgreesElsewhere (.forest (backend (.write t scope) f).2)
      (.ofTemplate t scope) (Kind.Confuses .forest (.ofTemplate t scope)) := by
  simp only [backend, Tree.write]
  cases (f.tree scope.tenant).get? (Tree.scenarioPath t.channel t.scenarioKey) with
  | none => exact ⟨fun _ _ => rfl, fun _ _ => rfl⟩
  | some node =>
    have htarget : Tree.recordPath t.channel t.scenarioKey scope.applicationText t.locale =
        (Place.record (.ofTemplate t scope)).path := Tree.recordPath_eq (.ofTemplate t scope)
    constructor
    · intro p hp hconfuses
      simp only [AnyStore.read, AnyStore.backend, backend, tree_put]
      split
      · rename_i htenant
        have hpath : Tree.positionPath p = (Place.record p.ref).path := Tree.recordPath_eq p.ref
        have hne : Tree.positionPath p ≠ (Place.record (.ofTemplate t scope)).path := by
          intro heq
          exact hconfuses ⟨rfl, hp.symm, htenant.symm, heq.symm.trans hpath⟩
        simp only [Tree.read, htarget, PathMap.get?_put, if_neg hne, htenant]
      · rfl
    · intro sc channel scope' hscope hconfuses
      simp only [AnyStore.backend, backend, tree_put]
      split
      · rename_i htenant
        simp only [Tree.templatesBelow, Tree.recordsBelow]
        rw [PathMap.children_put, htenant]
        rintro ⟨rest, hrest⟩
        rw [← hrest, List.drop_left]
        by_contra hslash
        refine hconfuses (String.ofList rest) ?_ ⟨rfl, ?_, htenant.symm, ?_⟩
        · rwa [Path.Plain, String.toList_ofList]
        · rintro heq
          exact hscope ⟨congrArg RecordRef.scenario heq.symm, congrArg RecordRef.application heq.symm⟩
        · rw [← htarget, ← hrest, ← Tree.recordPath_eq, Tree.recordPath, String.toList_ofList]
          rfl
      · rfl

theorem Founded.overlaid (h : Founded f calls) {ref : ScenarioRef}
    (hover : (AnyStore.forest f).Overlaid ref) :
    ¬Path.Plain ref.key ∧ ¬Registered calls ref := by
  obtain ⟨node, hnode, hrecord⟩ := hover
  have hkey := (h.shaped hnode).record_iff.1 hrecord
  refine ⟨hkey, fun href => hkey ?_⟩
  obtain ⟨s, hs⟩ := href.exists_scenario
  exact hs ▸ Place.plain_key s

/-- Where a scenario would have its node there is nothing just if it is not registered and no record
has come there instead. -/
theorem Founded.get?_eq_none_iff (h : Founded f calls) (ref : ScenarioRef) :
    (f.tree ref.tenant).get? (Tree.scenarioPath ref.channel ref.key) = none ↔
      ¬Registered calls ref ∧ ¬(AnyStore.forest f).Overlaid ref := by
  constructor
  · intro hnone
    constructor
    · intro href
      obtain ⟨s, hs⟩ := href.exists_scenario
      have hcontains := (h.names (hs ▸ Place.plain_key s)).2 href
      rw [PathMap.contains, hnone] at hcontains
      cases hcontains
    · rintro ⟨node, hnode, -⟩
      cases hnone.symm.trans hnode
  · rintro ⟨href, hover⟩
    rw [Option.eq_none_iff_forall_ne_some]
    intro node hnode
    by_cases hkey : Path.Plain ref.key
    · exact href ((h.names hkey).1 (by rw [PathMap.contains, hnode]; rfl))
    · exact hover ⟨node, hnode, (h.shaped hnode).record_iff.2 hkey⟩

end Forest

/-! ### The contract of a write -/

theorem Tables.keeps_after (calls : List Call) :
    (after Tables.backend calls .empty).Keeps (after Ledger.backend calls .empty) := by
  induction calls using List.reverseRecOn with
  | nil => exact .empty
  | append_singleton calls c ih =>
    rw [after_concat, after_concat]
    exact (Tables.simulates_ledger c _ _ trivial ih).2

namespace AnyStore

theorem after_tables (calls : List Call) (t : Tables) :
    after backend calls (tables t) = tables (after Tables.backend calls t) :=
  after_map tables (fun _ _ => rfl) calls t

theorem after_forest (calls : List Call) (f : Forest) :
    after backend calls (forest f) = forest (after Forest.backend calls f) :=
  after_map forest (fun _ _ => rfl) calls f

theorem write_refused_iff (k : Kind) (calls : List Call) (t : Template) (scope : Scope) :
    (backend (.write t scope) (after backend calls (empty k))).1 =
        .error (.unknownScenario t.scenario) ↔
      ¬Registered calls (.ofTemplate t scope) ∧
        ¬(after backend calls (empty k)).Overlaid (.ofTemplate t scope) := by
  cases k with
  | tables =>
    rw [empty, after_tables, ← Ledger.contains_after, (Tables.keeps_after calls).contains]
    simp only [backend, Tables.backend, Dictionary.contains, ScenarioRef.ofTemplate, Overlaid]
    cases (after Tables.backend calls .empty).scenarios.get?
      ⟨scope.tenant, t.channel, t.scenarioKey⟩ <;> simp
  | forest =>
    rw [empty, after_forest, ← (Forest.founded_after calls).get?_eq_none_iff]
    simp only [backend, Forest.backend, Tree.write, ScenarioRef.ofTemplate]
    cases ((after Forest.backend calls ∅).tree scope.tenant).get?
      (Tree.scenarioPath t.channel t.scenarioKey) <;> simp

/-- A write that is refused leaves the store as it is. -/
theorem write_cases (s : AnyStore) (t : Template) (scope : Scope) :
    (backend (.write t scope) s).1 = .ok () ∨
      backend (.write t scope) s = (.error (.unknownScenario t.scenario), s) := by
  cases s with
  | tables t' =>
    simp only [backend, Tables.backend]
    cases t'.scenarios.get? ⟨scope.tenant, t.channel, t.scenarioKey⟩ <;> simp
  | forest f =>
    simp only [backend, Forest.backend, Tree.write]
    cases (f.tree scope.tenant).get? (Tree.scenarioPath t.channel t.scenarioKey) <;> simp

theorem overlaid_after {k : Kind} {calls : List Call} {ref : ScenarioRef}
    (h : (after backend calls (empty k)).Overlaid ref) :
    k = .forest ∧ ¬Path.Plain ref.key ∧ ¬Registered calls ref := by
  cases k with
  | tables =>
    rw [empty, after_tables] at h
    exact absurd h id
  | forest =>
    rw [empty, after_forest] at h
    exact ⟨rfl, (Forest.founded_after calls).overlaid h⟩

theorem agreesElsewhere (k : Kind) (calls : List Call) (t : Template) (scope : Scope) :
    (after backend calls (empty k)).AgreesElsewhere
      (backend (.write t scope) (after backend calls (empty k))).2 (.ofTemplate t scope)
      (k.Confuses (.ofTemplate t scope)) := by
  cases k with
  | tables =>
    rw [empty, after_tables]
    exact Tables.agreesElsewhere (Tables.keeps_after calls) t scope
  | forest =>
    rw [empty, after_forest]
    exact Forest.agreesElsewhere _ t scope

/-- Whatever template is written to whatever store: it is refused just if its scenario is not
registered, and then the store stays as it is; if it is not refused, that shows to no reader and in no
listing elsewhere. Trees keep to this except where a record is at the path of an unregistered
scenario's key, or where another record has the path of the written one; either takes a slash in the
template's scenario or locale. -/
theorem writing_stays_in_place (k : Kind) (calls : List Call) (t : Template) (scope : Scope) :
    let s := after backend calls (empty k)
    let target := RecordRef.ofTemplate t scope
    let answer := (backend (.write t scope) s).1
    let s' := (backend (.write t scope) s).2
    (answer = .error (.unknownScenario t.scenario) ↔
      ¬Registered calls target.scenario ∧ ¬s.Overlaid target.scenario) ∧
    (s.Overlaid target.scenario →
      k = .forest ∧ ¬Path.Plain t.scenarioKey ∧ ¬Registered calls target.scenario) ∧
    (answer = .ok () ∨ answer = .error (.unknownScenario t.scenario) ∧
      ∀ later, exchanges backend later s' = exchanges backend later s) ∧
    s.AgreesElsewhere s' target (k.Confuses target) ∧
    (k = .tables ∨ (Path.Plain t.scenarioKey ∧ Path.Plain t.locale) →
      s.AgreesElsewhere s' target fun _ => False) := by
  intro s target answer s'
  have helsewhere : s.AgreesElsewhere s' target (k.Confuses target) :=
    agreesElsewhere k calls t scope
  refine ⟨write_refused_iff k calls t scope, overlaid_after, ?_, helsewhere, fun hclear => ?_⟩
  · rcases write_cases s t scope with hok | hrefused
    · exact .inl hok
    · refine .inr ⟨congrArg Prod.fst hrefused, fun later => ?_⟩
      rw [show s' = s from congrArg Prod.snd hrefused]
  · have hconfuses {r : RecordRef} (hr : (Place.record r).Plain) : ¬k.Confuses target r := by
      rcases hclear with rfl | ⟨hkey, hlocale⟩
      · exact nofun
      · exact Kind.not_confuses_of_plain hkey hlocale hr
    constructor
    · intro p hp _
      exact helsewhere.read hp (hconfuses (Place.plain_record p))
    · intro sc channel scope' hscope _
      refine helsewhere.list hscope fun locale hlocale => hconfuses ?_
      exact Place.plain_of_texts (Place.plain_key sc) (Place.plain_application scope') hlocale

/-- With slashes in its texts a template is written for a scenario that is not registered, and one of
the organization is read as one of an application. -/
theorem slashes_lead_to_other_records :
    let login : Scenario := ⟨"login", by rfl, by decide +kernel⟩
    let organization : Scope := { tenant := ⟨1⟩ }
    let calls := [.add login .sms ⟨1⟩, .write (.sms "login" "en-us" "code") organization]
    let s := after backend calls (empty .forest)
    let beneath := Template.sms "login/en-us" "fr" "mot"
    let across := Template.sms "login" "apps/web/en-us" "word"
    let application : Scope := { tenant := ⟨1⟩, application := some ⟨"web", by rfl⟩ }
    let web : Position := ⟨login, .enUs, .sms, application⟩
    (¬Registered calls (.ofTemplate beneath organization) ∧
      (backend (.write beneath organization) s).1 = .ok ()) ∧
    web.ref.application ≠ organization.applicationText ∧
      (backend (.write across organization) s).1 = .ok () ∧
      s.read web = .ok none ∧
      (backend (.write across organization) s).2.read web = .ok (some across) := by
  intro login organization calls s beneath across application web
  refine ⟨⟨?_, by decide +kernel⟩, Option.some_ne_none _, by decide +kernel, by decide +kernel,
    by decide +kernel⟩
  rw [← Ledger.contains_after]
  decide +kernel

end AnyStore
end Missive.Store

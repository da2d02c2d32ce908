import Missive.Proofs.Store.Agreement
import Missive.Proofs.Store.Ledger

/-! The tables are a way to keep a ledger (`Tables.Keeps`). Records are found through the number of
their scenario's row, so what has to be kept is that numbers are never shared and never given twice,
and that no record refers to a number without a row. -/

namespace Missive.Store.Tables

/-! ### What the changes of the template tables do to a look-up -/

theorem template?_putTemplate (t : Tables) (id id' : Nat) (app app' : Option String)
    (tpl : Template) (locale : String) :
    (t.putTemplate id app tpl).template? id' app' locale =
      if id' = id ∧ app' = app ∧ locale = tpl.locale then some tpl
      else t.template? id' app' locale := by
  cases app <;> cases app' <;> simp [putTemplate, template?, Dictionary.get?_put]

theorem template?_dropTemplate (t : Tables) (id id' : Nat) (app app' : Option String)
    (locale locale' : String) :
    (t.dropTemplate id app locale).template? id' app' locale' =
      if id' = id ∧ app' = app ∧ locale' = locale then none
      else t.template? id' app' locale' := by
  cases app <;> cases app' <;> simp [dropTemplate, template?, Dictionary.get?_erase]

theorem template?_dropTemplatesOf (t : Tables) (id id' : Nat) (app app' : Option String)
    (locale : String) :
    (t.dropTemplatesOf id app).template? id' app' locale =
      if id' = id ∧ app' = app then none else t.template? id' app' locale := by
  cases app <;> cases app' <;> simp [dropTemplatesOf, template?, Dictionary.get?_retain_key]
  grind

theorem template?_unregister (t : Tables) (ref : ScenarioRef) (id id' : Nat) (app : Option String)
    (locale : String) :
    (t.unregister ref id).template? id' app locale =
      if id' = id then none else t.template? id' app locale := by
  cases app <;> simp [unregister, template?, Dictionary.get?_retain_key]

theorem template?_register (t : Tables) (ref : ScenarioRef) (name : String) (id : Nat)
    (app : Option String) (locale : String) :
    (t.register ref name).template? id app locale = t.template? id app locale := by
  cases app <;> rfl

@[simp] theorem scenarios_register (t : Tables) (ref : ScenarioRef) (name : String) :
    (t.register ref name).scenarios = t.scenarios.put ref ⟨t.lastId + 1, name⟩ := rfl

@[simp] theorem scenarios_putTemplate (t : Tables) (id : Nat) (app : Option String)
    (tpl : Template) : (t.putTemplate id app tpl).scenarios = t.scenarios := by
  cases app <;> rfl

@[simp] theorem scenarios_dropTemplate (t : Tables) (id : Nat) (app : Option String)
    (locale : String) : (t.dropTemplate id app locale).scenarios = t.scenarios := by
  cases app <;> rfl

@[simp] theorem scenarios_dropTemplatesOf (t : Tables) (id : Nat) (app : Option String) :
    (t.dropTemplatesOf id app).scenarios = t.scenarios := by
  cases app <;> rfl

@[simp] theorem lastId_putTemplate (t : Tables) (id : Nat) (app : Option String)
    (tpl : Template) : (t.putTemplate id app tpl).lastId = t.lastId := by
  cases app <;> rfl

@[simp] theorem lastId_dropTemplate (t : Tables) (id : Nat) (app : Option String)
    (locale : String) : (t.dropTemplate id app locale).lastId = t.lastId := by
  cases app <;> rfl

@[simp] theorem lastId_dropTemplatesOf (t : Tables) (id : Nat) (app : Option String) :
    (t.dropTemplatesOf id app).lastId = t.lastId := by
  cases app <;> rfl

/-! ### The tables of a ledger -/

/-- The tables keep a ledger: a record lies under the number of its scenario's row. -/
structure Keeps (t : Tables) (l : Ledger) : Prop where
  names : ∀ ref, l.names.get? ref = (t.scenarios.get? ref).map ScenarioRow.displayName
  records : ∀ r, l.records.get? r =
    (t.scenarios.get? r.scenario).bind fun row => t.template? row.id r.application r.locale
  /-- No two scenarios share a number. -/
  distinct : ∀ {ref ref' row row'}, t.scenarios.get? ref = some row →
    t.scenarios.get? ref' = some row' → row.id = row'.id → ref = ref'
  bounded : ∀ {ref row}, t.scenarios.get? ref = some row → row.id ≤ t.lastId
  /-- A record refers to a row, and bears its display name. -/
  owned : ∀ {id app locale tpl}, t.template? id app locale = some tpl →
    ∃ ref row, t.scenarios.get? ref = some row ∧ row.id = id ∧ tpl.scenario = row.displayName

namespace Keeps

variable {t : Tables} {l : Ledger}

theorem empty : Keeps .empty .empty where
  names _ := rfl
  records _ := rfl
  distinct h := nomatch h
  bounded h := nomatch h
  owned {_ app _ _} h := by cases app <;> exact nomatch h

/-- A number that is in use names its scenario. -/
theorem id_eq_iff (h : Keeps t l) {ref ref' : ScenarioRef} {row row' : ScenarioRow}
    (hrow : t.scenarios.get? ref = some row) (hrow' : t.scenarios.get? ref' = some row') :
    row.id = row'.id ↔ ref = ref' := by
  constructor
  · exact h.distinct hrow hrow'
  · intro heq
    subst heq
    rw [Option.some.inj (hrow.symm.trans hrow')]

theorem name (h : Keeps t l) {ref : ScenarioRef} {row : ScenarioRow}
    (hrow : t.scenarios.get? ref = some row) : l.names.get? ref = some row.displayName := by
  rw [h.names, hrow]
  rfl

theorem contains (h : Keeps t l) (ref : ScenarioRef) :
    l.names.contains ref = t.scenarios.contains ref := by
  simp [Dictionary.contains, h.names]

theorem record (h : Keeps t l) {ref : ScenarioRef} {row : ScenarioRow}
    (hrow : t.scenarios.get? ref = some row) (app : Option String) (locale : String) :
    l.records.get? ⟨ref, app, locale⟩ = t.template? row.id app locale := by
  rw [h.records, hrow]
  rfl

theorem record_none (h : Keeps t l) {r : RecordRef}
    (hrow : t.scenarios.get? r.scenario = none) : l.records.get? r = none := by
  rw [h.records, hrow]
  rfl

theorem ledger_owned (h : Keeps t l) : l.Owned := by
  intro r tpl hr
  rw [h.records, Option.bind_eq_some_iff] at hr
  obtain ⟨row, hrow, htpl⟩ := hr
  obtain ⟨ref, row', hrow', hid, hname⟩ := h.owned htpl
  obtain rfl := (h.id_eq_iff hrow' hrow).1 hid
  rw [h.name hrow', hname]

/-- Only what the ledger shows counts. -/
theorem congr (h : Keeps t l) {l' : Ledger} (hnames : ∀ ref, l'.names.get? ref = l.names.get? ref)
    (hrecords : ∀ r, l'.records.get? r = l.records.get? r) : Keeps t l' where
  names ref := (hnames ref).trans (h.names ref)
  records r := (hrecords r).trans (h.records r)
  distinct := h.distinct
  bounded := h.bounded
  owned := h.owned

/-! ### Each change of the tables is one of the ledger -/

theorem register (h : Keeps t l) {ref : ScenarioRef} (hnew : t.scenarios.get? ref = none)
    (name : String) : Keeps (t.register ref name) { l with names := l.names.put ref name } where
  names ref' := by
    simp only [scenarios_register, Dictionary.get?_put, h.names]
    split <;> rfl
  records r := by
    simp only [scenarios_register, template?_register, Dictionary.get?_put]
    split
    · rename_i hr
      rw [h.record_none (hr ▸ hnew)]
      -- the new number is greater than all that are in use, so no record refers to it
      cases htpl : t.template? (t.lastId + 1) r.application r.locale with
      | none => simp [htpl]
      | some tpl =>
        obtain ⟨ref', row', hrow', hid, -⟩ := h.owned htpl
        have := h.bounded hrow'
        omega
    · exact h.records r
  distinct {a b x y} ha hb hid := by
    simp only [scenarios_register, Dictionary.get?_put] at ha hb
    split at ha <;> split at hb
    · simp_all
    · cases ha
      have := h.bounded hb
      simp only at hid
      omega
    · cases hb
      have := h.bounded ha
      simp only at hid
      omega
    · exact h.distinct ha hb hid
  bounded {a x} ha := by
    simp only [scenarios_register, Dictionary.get?_put] at ha
    split at ha
    · cases ha
      exact Nat.le_refl _
    · exact Nat.le_succ_of_le (h.bounded ha)
  owned {id app locale tpl} htpl := by
    rw [template?_register] at htpl
    obtain ⟨ref', row', hrow', hid, hname⟩ := h.owned htpl
    have hne : ref' ≠ ref := by
      intro heq
      subst heq
      rw [hnew] at hrow'
      cases hrow'
    exact ⟨ref', row', by simp [Dictionary.get?_put, hne, hrow'], hid, hname⟩

/-- A change of the template tables alone. -/
theorem change (h : Keeps t l) {t' : Tables} {records : Dictionary RecordRef Template}
    (hscenarios : t'.scenarios = t.scenarios) (hlast : t'.lastId = t.lastId)
    (hnone : ∀ r, t.scenarios.get? r.scenario = none → records.get? r = none)
    (hsome : ∀ ref row, t.scenarios.get? ref = some row → ∀ app locale,
      records.get? ⟨ref, app, locale⟩ = t'.template? row.id app locale)
    (howned : ∀ id app locale tpl, t'.template? id app locale = some tpl →
      ∃ ref row, t.scenarios.get? ref = some row ∧ row.id = id ∧ tpl.scenario = row.displayName) :
    Keeps t' { l with records } where
  names ref := by rw [hscenarios]; exact h.names ref
  records r := by
    rw [hscenarios]
    cases hrow : t.scenarios.get? r.scenario with
    | none => exact hnone r hrow
    | some row => exact hsome r.scenario row hrow r.application r.locale
  distinct := by rw [hscenarios]; exact h.distinct
  bounded := by rw [hscenarios, hlast]; exact h.bounded
  owned := by rw [hscenarios]; exact howned _ _ _ _

theorem putTemplate (h : Keeps t l) {ref : ScenarioRef} {row : ScenarioRow}
    (hrow : t.scenarios.get? ref = some row) (app : Option String) {tpl : Template}
    (hname : tpl.scenario = row.displayName) :
    Keeps (t.putTemplate row.id app tpl)
      { l with records := l.records.put ⟨ref, app, tpl.locale⟩ tpl } := by
  refine h.change (by simp) (by simp) ?_ ?_ ?_
  · intro r hr
    have hne : r ≠ ⟨ref, app, tpl.locale⟩ := by
      intro heq
      subst heq
      rw [hrow] at hr
      cases hr
    rw [Dictionary.get?_put, if_neg hne, h.record_none hr]
  · intro ref' row' hrow' app' locale
    simp [Dictionary.get?_put, template?_putTemplate, h.record hrow', h.id_eq_iff hrow' hrow]
  · intro id app' locale tpl' htpl
    rw [template?_putTemplate] at htpl
    split at htpl
    · rename_i heq
      cases htpl
      exact ⟨ref, row, hrow, heq.1.symm, hname⟩
    · exact h.owned htpl

theorem dropTemplate (h : Keeps t l) {ref : ScenarioRef} {row : ScenarioRow}
    (hrow : t.scenarios.get? ref = some row) (app : Option String) (locale : String) :
    Keeps (t.dropTemplate row.id app locale)
      { l with records := l.records.erase ⟨ref, app, locale⟩ } := by
  refine h.change (by simp) (by simp) ?_ ?_ ?_
  · intro r hr
    rw [Dictionary.get?_erase, h.record_none hr, ite_self]
  · intro ref' row' hrow' app' locale'
    simp [Dictionary.get?_erase, template?_dropTemplate, h.record hrow', h.id_eq_iff hrow' hrow]
  · intro id app' locale' tpl htpl
    rw [template?_dropTemplate] at htpl
    split at htpl
    · cases htpl
    · exact h.owned htpl

theorem dropTemplatesOf (h : Keeps t l) {ref : ScenarioRef} {row : ScenarioRow}
    (hrow : t.scenarios.get? ref = some row) (app : Option String) :
    Keeps (t.dropTemplatesOf row.id app)
      { l with records := l.records.retain fun r _ => ¬(r.scenario = ref ∧ r.application = app) } := by
  refine h.change (by simp) (by simp) ?_ ?_ ?_
  · intro r hr
    rw [Dictionary.get?_retain_key, h.record_none hr, ite_self]
  · intro ref' row' hrow' app' locale
    simp only [Dictionary.get?_retain_key, template?_dropTemplatesOf, h.record hrow',
      h.id_eq_iff hrow' hrow, decide_eq_true_eq, ite_not]
  · intro id app' locale tpl htpl
    rw [template?_dropTemplatesOf] at htpl
    split at htpl
    · cases htpl
    · exact h.owned htpl

theorem unregister (h : Keeps t l) {ref : ScenarioRef} {row : ScenarioRow}
    (hrow : t.scenarios.get? ref = some row) :
    Keeps (t.unregister ref row.id)
      { names := l.names.erase ref
        records := l.records.retain fun r _ => r.scenario ≠ ref } where
  names ref' := by
    simp only [Tables.unregister, Dictionary.get?_erase, h.names]
    split <;> rfl
  records r := by
    rw [show (t.unregister ref row.id).scenarios = t.scenarios.erase ref from rfl,
      Dictionary.get?_retain_key, Dictionary.get?_erase]
    by_cases hr : r.scenario = ref
    · simp [hr]
    · cases hrow' : t.scenarios.get? r.scenario with
      | none => simp [hr, h.record_none hrow']
      | some row' =>
        have hid : row'.id ≠ row.id := fun hid => hr (h.distinct hrow' hrow hid)
        simp [hr, template?_unregister, hid, h.records, hrow']
  distinct {a b x y} ha hb := by
    simp only [Tables.unregister, Dictionary.get?_erase, Option.ite_none_left_eq_some] at ha hb
    exact h.distinct ha.2 hb.2
  bounded {a x} ha := by
    simp only [Tables.unregister, Dictionary.get?_erase, Option.ite_none_left_eq_some] at ha
    exact h.bounded ha.2
  owned {id app locale tpl} htpl := by
    rw [template?_unregister, Option.ite_none_left_eq_some] at htpl
    obtain ⟨hid, htpl⟩ := htpl
    obtain ⟨ref', row', hrow', rfl, hname⟩ := h.owned htpl
    have hne : ref' ≠ ref := by
      intro heq
      subst heq
      exact hid (by rw [Option.some.inj (hrow.symm.trans hrow')])
    exact ⟨ref', row', by simp [Tables.unregister, Dictionary.get?_erase, hne, hrow'], rfl, hname⟩

/-! ### Listings -/

theorem perm_templatesOf (h : Keeps t l) {ref : ScenarioRef} {row : ScenarioRow}
    (hrow : t.scenarios.get? ref = some row) (app : Option String) :
    (t.templatesOf row.id app).Perm (l.within ref app) := by
  cases app with
  | none =>
    refine Ledger.perm_within Prod.snd ?_ ?_
    · intro k k' v v' hk hk' hlocale
      simp only [Dictionary.get?_retain_key, Option.ite_none_right_eq_some,
        decide_eq_true_eq] at hk hk'
      exact Prod.ext (hk.1.trans hk'.1.symm) hlocale
    · intro tag v
      simp [h.record hrow, template?, Dictionary.get?_retain_key]
  | some app =>
    refine Ledger.perm_within (fun k => k.2.2) ?_ ?_
    · intro k k' v v' hk hk' hlocale
      simp only [Dictionary.get?_retain_key, Option.ite_none_right_eq_some,
        decide_eq_true_eq] at hk hk'
      exact Prod.ext (hk.1.1.trans hk'.1.1.symm) (Prod.ext (hk.1.2.trans hk'.1.2.symm) hlocale)
    · intro tag v
      simp [h.record hrow, template?, Dictionary.get?_retain_key]

theorem within_none (h : Keeps t l) {ref : ScenarioRef} (hrow : t.scenarios.get? ref = none)
    (app : Option String) : l.within ref app = [] := by
  rw [Ledger.within, Dictionary.values, List.map_eq_nil_iff, Dictionary.retain,
    List.filter_eq_nil_iff]
  rintro ⟨r, tpl⟩ hr hmatch
  simp only [decide_eq_true_eq] at hmatch
  have hget := h.record_none (hmatch.1 ▸ hrow)
  rw [Dictionary.get?_eq_some_iff.2 hr] at hget
  cases hget

theorem perm_names (h : Keeps t l) (channel : Channel) (tenant : TenantId) :
    ((t.rowsOf channel tenant).map ScenarioRow.displayName).Perm
      (l.namesOf channel tenant).values := by
  refine Dictionary.perm_values id ScenarioRow.displayName (fun _ _ h => h) ?_
  intro ref name
  simp only [Ledger.namesOf, Dictionary.get?_retain_key, Option.ite_none_right_eq_some, h.names,
    Option.map_eq_some_iff]
  constructor
  · rintro ⟨hscope, row, hrow, rfl⟩
    exact ⟨ref, row, ⟨hscope, hrow⟩, rfl, rfl⟩
  · rintro ⟨_, row, ⟨hscope, hrow⟩, rfl, rfl⟩
    exact ⟨hscope, row, hrow, rfl⟩

theorem perm_organization (h : Keeps t l) (channel : Channel) (tenant : TenantId) :
    ((t.rowsOf channel tenant).flatMap fun row => t.templatesOf row.id none).Perm
      (l.organization channel tenant) := by
  have hrows : ∀ e ∈ (t.scenarios.retain fun k _ => k.tenant = tenant ∧ k.channel = channel).entries,
      t.scenarios.get? e.1 = some e.2 := by
    intro e he
    exact Dictionary.get?_eq_some_iff.2 (List.mem_filter.1 he).1
  have hrefs : ((t.scenarios.retain fun k _ => k.tenant = tenant ∧ k.channel = channel).entries.map
      Prod.fst).Perm ((l.namesOf channel tenant).entries.map Prod.fst) := by
    apply (List.perm_ext_iff_of_nodup (Dictionary.distinct _) (Dictionary.distinct _)).2
    intro ref
    have hiff : ∀ {α : Type} (d : Dictionary ScenarioRef α),
        ref ∈ d.entries.map Prod.fst ↔ (d.get? ref).isSome := by
      intro α d
      rw [← Dictionary.contains, Dictionary.contains_iff]
      simp
    simp only [hiff, Ledger.namesOf, Dictionary.get?_retain_key, h.names]
    split <;> simp
  rw [rowsOf, Dictionary.values, List.flatMap_map]
  refine (List.Perm.flatMap_left _ fun e he => h.perm_templatesOf (hrows e he) none).trans ?_
  rw [← List.flatMap_map (f := Prod.fst) (g := fun ref => l.within ref none)]
  exact (hrefs.flatMap_right _).trans (h.ledger_owned.perm_organization channel tenant)

end Keeps

/-- Call by call the tables answer like the ledger they keep. -/
theorem simulates_ledger : Simulates id (fun _ => True) backend Ledger.backend Keeps := by
  intro c t l _ h
  cases c with
  | read p => exact ⟨Call.agrees_of_eq (h.records p.ref).symm, h⟩
  | write tpl scope =>
    simp only [backend, Ledger.backend, h.names, ScenarioRef.ofTemplate]
    cases hrow : t.scenarios.get? ⟨scope.tenant, tpl.channel, tpl.scenarioKey⟩ with
    | none => exact ⟨rfl, h⟩
    | some row => exact ⟨rfl, h.putTemplate hrow _ rfl⟩
  | delete p =>
    simp only [backend, Ledger.backend, row?, Dictionary.contains]
    cases hrow : t.scenarios.get? (.of p.scenario p.channel p.scope.tenant) with
    | none =>
      have hnone : l.records.get? p.ref = none := h.record_none hrow
      exact ⟨Call.agrees_of_eq (by simp [hnone]),
        h.congr (fun _ => rfl) (Dictionary.get?_erase_absent hnone)⟩
    | some row =>
      have hrecord := h.record hrow p.scope.applicationText p.locale.tag
      exact ⟨Call.agrees_of_eq (congrArg Option.isSome hrecord.symm), h.dropTemplate hrow _ _⟩
  | list s channel scope =>
    simp only [backend, Ledger.backend, row?]
    cases hrow : t.scenarios.get? (.of s channel scope.tenant) with
    | none =>
      refine ⟨?_, h⟩
      simp [Call.Agrees, Call.Matches, h.within_none hrow]
    | some row =>
      refine ⟨?_, h⟩
      simpa [Call.Agrees, Call.Matches] using h.perm_templatesOf hrow scope.applicationText
  | listAll channel tenant =>
    refine ⟨?_, h⟩
    simpa [backend, Ledger.backend, Call.Agrees, Call.Matches] using
      h.perm_organization channel tenant
  | deleteAll s channel scope =>
    simp only [backend, Ledger.backend, row?]
    cases hrow : t.scenarios.get? (.of s channel scope.tenant) with
    | none =>
      refine ⟨Call.agrees_of_eq (by simp [h.within_none hrow]), h.congr (fun _ => rfl) ?_⟩
      apply Dictionary.get?_retain_absent
      intro r hr
      rw [decide_eq_false_iff_not, not_not] at hr
      exact h.record_none (by rw [hr.1, hrow])
    | some row =>
      exact ⟨Call.agrees_of_eq (h.perm_templatesOf hrow _).length_eq, h.dropTemplatesOf hrow _⟩
  | add s channel tenant =>
    refine ⟨rfl, ?_⟩
    simp only [backend, Ledger.backend, h.contains]
    split
    · exact h
    · rename_i hnew
      exact h.register (by simpa [Dictionary.contains] using hnew) s.displayName
  | isRegistered s channel tenant => exact ⟨Call.agrees_of_eq (h.contains _).symm, h⟩
  | listScenarios channel tenant => exact ⟨h.perm_names channel tenant, h⟩
  | remove s channel tenant =>
    simp only [backend, Ledger.backend, row?, Dictionary.contains]
    cases hrow : t.scenarios.get? (.of s channel tenant) with
    | none =>
      have hname : l.names.get? (.of s channel tenant) = none := by rw [h.names, hrow]; rfl
      refine ⟨Call.agrees_of_eq (by simp [hname]),
        h.congr (Dictionary.get?_erase_absent hname) ?_⟩
      apply Dictionary.get?_retain_absent
      intro r hr
      rw [decide_eq_false_iff_not, not_not] at hr
      exact h.record_none (by rw [hr, hrow])
    | some row =>
      exact ⟨Call.agrees_of_eq (by simp [h.name hrow]), h.unregister hrow⟩

/-- Whatever calls are made on empty tables, the answers are those of the ledger. -/
theorem exchanges_agree_with_ledger (calls : List Call) :
    List.Forall₂ (Exchange.Agree id) (exchanges backend calls .empty)
      (exchanges Ledger.backend calls .empty) :=
  simulates_ledger.exchanges (fun _ _ => trivial) .empty

end Missive.Store.Tables

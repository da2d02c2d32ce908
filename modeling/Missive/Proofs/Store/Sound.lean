import Missive.Proofs.Store.Ledger
import Missive.Proofs.Template

/-! Ledgers that come about by calls as the operations make them: names and positions have been
checked, and what is written is accepted and normalized. Then every name in the ledger is that of a
scenario, and every record is an accepted template at a checked position. -/

namespace Missive.Store

/-- What is written has passed the checks of a write. -/
def Call.Admissible : Call → Prop
  | .write t _ => t.Storable
  | _ => True

namespace Ledger

/-- Every name is the name of a scenario, and every record stands at a checked position whose
scenario, channel and locale are its own. -/
structure Sound (l : Ledger) : Prop where
  names : ∀ {ref name}, l.names.get? ref = some name →
    ∃ s : Scenario, s.displayName = name ∧ s.key = ref.key
  records : ∀ {r t}, l.records.get? r = some t → ∃ p : Position, p.ref = r ∧ t.Storable ∧
    t.channel = p.channel ∧ t.locale = p.locale.tag ∧ l.names.get? r.scenario = some t.scenario

namespace Sound

variable {l : Ledger}

theorem empty : Sound .empty := ⟨nofun, nofun⟩

theorem owned (h : l.Sound) : l.Owned := by
  intro r t hr
  obtain ⟨-, -, -, -, -, hname⟩ := h.records hr
  exact hname

theorem scenarioKey (h : l.Sound) {r : RecordRef} {t : Template} (hr : l.records.get? r = some t) :
    t.scenarioKey = r.scenario.key := by
  obtain ⟨s, hs, hkey⟩ := h.names (h.owned r t hr)
  rw [Template.scenarioKey, ← hs, ← hkey]
  rfl

theorem channel (h : l.Sound) {r : RecordRef} {t : Template} (hr : l.records.get? r = some t) :
    t.channel = r.scenario.channel := by
  obtain ⟨p, rfl, -, hchannel, -⟩ := h.records hr
  exact hchannel

theorem locale (h : l.Sound) {r : RecordRef} {t : Template} (hr : l.records.get? r = some t) :
    t.locale = r.locale := by
  obtain ⟨p, rfl, -, -, hlocale, -⟩ := h.records hr
  exact hlocale

/-- Losing records does no harm. -/
theorem fewer (h : l.Sound) {records : Dictionary RecordRef Template}
    (hrecords : ∀ {r t}, records.get? r = some t → l.records.get? r = some t) :
    Sound { l with records } where
  names := h.names
  records hr := h.records (hrecords hr)

theorem write (h : l.Sound) {t : Template} (ht : t.Storable) (scope : Scope) {name : String}
    (hname : l.names.get? (.ofTemplate t scope) = some name) :
    Sound { l with
      records := l.records.put ⟨.ofTemplate t scope, scope.applicationText, t.locale⟩
        { t with scenario := name } } where
  names := h.names
  records {r t'} hr := by
    rw [Dictionary.get?_put] at hr
    split at hr
    · rename_i heq
      subst heq
      cases hr
      obtain ⟨s, hs⟩ := ht.exists_scenario
      obtain ⟨locale, hlocale⟩ := ht.exists_locale
      obtain ⟨registered, rfl, -⟩ := h.names hname
      refine ⟨⟨s, locale, t.channel, scope⟩, ?_, ht.withName registered, rfl, hlocale.symm, hname⟩
      simp [Position.ref, ScenarioRef.of, ScenarioRef.ofTemplate, Scenario.key,
        Template.scenarioKey, hs, hlocale]
    · exact h.records hr

theorem add (h : l.Sound) (s : Scenario) (channel : Channel) (tenant : TenantId)
    (hnew : l.names.get? (.of s channel tenant) = none) :
    Sound { l with names := l.names.put (.of s channel tenant) s.displayName } where
  names {ref name} hname := by
    rw [Dictionary.get?_put] at hname
    split at hname
    · rename_i heq
      subst heq
      cases hname
      exact ⟨s, rfl, rfl⟩
    · exact h.names hname
  records {r t} hr := by
    obtain ⟨p, hp, ht, hchannel, hlocale, hname⟩ := h.records hr
    refine ⟨p, hp, ht, hchannel, hlocale, ?_⟩
    have hne : r.scenario ≠ .of s channel tenant := by
      intro heq
      rw [heq, hnew] at hname
      cases hname
    rw [Dictionary.get?_put, if_neg hne, hname]

theorem remove (h : l.Sound) (ref : ScenarioRef) :
    Sound { names := l.names.erase ref
            records := l.records.retain fun r _ => r.scenario ≠ ref } where
  names hname := by
    rw [Dictionary.get?_erase, Option.ite_none_left_eq_some] at hname
    exact h.names hname.2
  records {r t} hr := by
    rw [Dictionary.get?_retain_key, Option.ite_none_right_eq_some, decide_eq_true_eq] at hr
    obtain ⟨p, hp, ht, hchannel, hlocale, hname⟩ := h.records hr.2
    exact ⟨p, hp, ht, hchannel, hlocale, by rw [Dictionary.get?_erase, if_neg hr.1, hname]⟩

/-- Admissible calls keep a ledger sound. -/
theorem step (h : l.Sound) {c : Call} (hc : c.Admissible) : (Ledger.backend c l).2.Sound := by
  cases c with
  | read | list | listAll | isRegistered | listScenarios => exact h
  | write t scope =>
    simp only [Ledger.backend]
    split
    · exact h
    · rename_i name hname
      exact h.write hc scope hname
  | delete p =>
    refine h.fewer fun {r t} hr => ?_
    rw [Dictionary.get?_erase, Option.ite_none_left_eq_some] at hr
    exact hr.2
  | deleteAll s channel scope =>
    refine h.fewer fun {r t} hr => ?_
    rw [Dictionary.get?_retain_key, Option.ite_none_right_eq_some] at hr
    exact hr.2
  | add s channel tenant =>
    simp only [Ledger.backend]
    split
    · exact h
    · rename_i hnew
      exact h.add s channel tenant (by simpa [Dictionary.contains] using hnew)
  | remove s channel tenant => exact h.remove _

/-! ### A sound ledger lists everything once -/

theorem mergeKey (h : l.Sound) {r : RecordRef} {t : Template} (hr : l.records.get? r = some t) :
    t.mergeKey = (r.scenario.key, r.scenario.channel, r.locale) := by
  obtain ⟨-, -, ht, -⟩ := h.records hr
  have hlocale : Identifier.LocaleTag.normalize t.locale = t.locale :=
    congrArg Template.locale ht.normal
  rw [Template.mergeKey, hlocale, h.scenarioKey hr, h.channel hr, h.locale hr]

/-- Within one tenant and application no two records are for the same use. -/
theorem nodup_mergeKeys (h : l.Sound) {p : RecordRef → Bool}
    (hp : ∀ r r', p r → p r' → r.scenario.tenant = r'.scenario.tenant ∧
      r.application = r'.application) :
    ((l.records.retain fun r _ => p r).values.map Template.mergeKey).Nodup := by
  have hmap : (l.records.retain fun r _ => p r).values.map Template.mergeKey =
      ((l.records.retain fun r _ => p r).entries.map Prod.fst).map fun r =>
        (r.scenario.key, r.scenario.channel, r.locale) := by
    rw [Dictionary.values, List.map_map, List.map_map]
    apply List.map_congr_left
    intro e he
    exact h.mergeKey (Dictionary.get?_eq_some_iff.2 (List.mem_filter.1 he).1)
  rw [hmap]
  apply (Dictionary.distinct _).map_on
  intro r hr r' hr' heq
  obtain ⟨e, he, rfl⟩ := List.mem_map.1 hr
  obtain ⟨e', he', rfl⟩ := List.mem_map.1 hr'
  obtain ⟨htenant, happ⟩ := hp _ _ (List.mem_filter.1 he).2 (List.mem_filter.1 he').2
  simp only [Prod.mk.injEq] at heq
  exact RecordRef.ext (ScenarioRef.ext htenant heq.2.1 heq.1) happ heq.2.2

theorem nodup_within (h : l.Sound) (ref : ScenarioRef) (app : Option String) :
    ((l.within ref app).map Template.mergeKey).Nodup := by
  apply h.nodup_mergeKeys
  intro r r' hr hr'
  simp only [decide_eq_true_eq] at hr hr'
  exact ⟨by rw [hr.1, hr'.1], by rw [hr.2, hr'.2]⟩

theorem nodup_organization (h : l.Sound) (channel : Channel) (tenant : TenantId) :
    ((l.organization channel tenant).map Template.mergeKey).Nodup := by
  apply h.nodup_mergeKeys
  intro r r' hr hr'
  simp only [decide_eq_true_eq] at hr hr'
  exact ⟨by rw [hr.1.1, hr'.1.1], by rw [hr.2, hr'.2]⟩

theorem nodup_names (h : l.Sound) (channel : Channel) (tenant : TenantId) :
    ((l.namesOf channel tenant).values.map Identifier.ScenarioName.key).Nodup := by
  have hmap : (l.namesOf channel tenant).values.map Identifier.ScenarioName.key =
      ((l.namesOf channel tenant).entries.map Prod.fst).map ScenarioRef.key := by
    rw [Dictionary.values, List.map_map, List.map_map]
    apply List.map_congr_left
    intro e he
    obtain ⟨s, hs, hkey⟩ := h.names (Dictionary.get?_eq_some_iff.2 (List.mem_filter.1 he).1)
    simp only [Function.comp_apply, ← hs, ← hkey]
    rfl
  rw [hmap]
  apply (Dictionary.distinct _).map_on
  intro ref hr ref' hr' heq
  obtain ⟨e, he, rfl⟩ := List.mem_map.1 hr
  obtain ⟨e', he', rfl⟩ := List.mem_map.1 hr'
  have hmatch := of_decide_eq_true (List.mem_filter.1 he).2
  have hmatch' := of_decide_eq_true (List.mem_filter.1 he').2
  exact ScenarioRef.ext (hmatch.1.trans hmatch'.1.symm) (hmatch.2.trans hmatch'.2.symm) heq

end Sound
end Ledger
end Missive.Store

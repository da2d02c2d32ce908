import Missive.Durable
import Missive.Proofs.Identifier.Characters

/-! What accepted texts stand for. -/

namespace Missive

theorem Scenario.displayName_of_parse {text : String} {sc : Scenario}
    (h : Scenario.parse text = .ok sc) : sc.displayName = Text.strip text := by
  rw [Scenario.parse] at h
  split at h
  · cases h
    rfl
  · cases h

theorem Scenario.key_of_parse {text : String} {sc : Scenario} (h : Scenario.parse text = .ok sc) :
    sc.key = Identifier.ScenarioName.key text := by
  rw [key, displayName_of_parse h, Identifier.ScenarioName.key_strip]

theorem Scenario.parse_of_check {text : String}
    (h : Identifier.ScenarioName.check text = .ok ()) : ∃ sc, Scenario.parse text = .ok sc := by
  rw [Scenario.parse]
  split
  · exact ⟨_, rfl⟩
  · rename_i herror
    rw [h] at herror
    cases herror

theorem Locale.ext_tag {a b : Locale} (h : a.tag = b.tag) : a = b := by
  cases a
  cases b
  cases h
  rfl

theorem Identifier.ApplicationId.ext_text {a b : ApplicationId} (h : a.text = b.text) : a = b := by
  cases a
  cases b
  cases h
  rfl

theorem Locale.tag_of_parse {text : String} {locale : Locale} (h : Locale.parse text = .ok locale) :
    locale.tag = Identifier.LocaleTag.normalize text := by
  rw [Locale.parse] at h
  split at h
  · cases h
    rfl
  · cases h

theorem Locale.parse_of_check {text : String} (h : Identifier.LocaleTag.check text = .ok ()) :
    ∃ locale, Locale.parse text = .ok locale := by
  rw [Locale.parse]
  split
  · exact ⟨_, rfl⟩
  · rename_i herror
    rw [h] at herror
    cases herror

/-- Only without an application is the scope the organization. -/
theorem Scope.parse_eq_organization {tenant tenant' : TenantId} {application : Option String}
    (h : Scope.parse tenant application = .ok (.organization tenant')) : application = none := by
  cases application with
  | none => rfl
  | some text =>
    rw [Scope.parse] at h
    cases hid : Identifier.ApplicationId.parse text with
    | error e =>
      rw [hid] at h
      cases h
    | ok id =>
      rw [hid] at h
      cases h

theorem ResolveRequest.parse_eq_ok {scenario locale : String} {channel : Channel}
    {tenant : TenantId} {application : Option String} {r : ResolveRequest}
    (h : ResolveRequest.parse scenario locale channel tenant application = .ok r) :
    Scenario.parse scenario = .ok r.scenario ∧ Locale.parse locale = .ok r.locale ∧
      r.channel = channel ∧ Scope.parse tenant application = .ok r.scope := by
  rw [ResolveRequest.parse] at h
  cases hs : Scenario.parse scenario with
  | error e =>
    rw [hs] at h
    cases h
  | ok s =>
    cases hl : Locale.parse locale with
    | error e =>
      rw [hs, hl] at h
      cases h
    | ok l =>
      cases hscope : Scope.parse tenant application with
      | error e =>
        rw [hs, hl, hscope] at h
        cases h
      | ok scope =>
        rw [hs, hl, hscope] at h
        cases h
        exact ⟨rfl, rfl, rfl, rfl⟩

end Missive

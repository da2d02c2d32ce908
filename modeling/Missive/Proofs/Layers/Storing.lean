import Missive.Proofs.Layers.Consistency
import Missive.Proofs.Parsing

/-! Reading back what has been stored. A record in a tree keeps the texts of a template in one array,
with the empty text where there is none, so that an empty footer comes back as none. Everything else
comes back as it was given. -/

namespace Missive

open Store

namespace Layers

variable (layers : Layers)

/-- A template that is accepted is stored for a registered scenario, and read back under the name of the
scenario, in the form in which the store gives its templates. -/
theorem read_stored {s : AnyStore} {l : Ledger} (h : s.Keeps l) (hl : l.Sound) {t : Template}
    (ht : t.validateForWrite = .ok ()) (scope : Scope) {name : String}
    (hname : s.Registers (.ofTemplate t.normalized scope) name) :
    layers.outcome s (.upsert t scope) = .ok () ∧ ∀ p : Position,
      p.ref = ⟨.ofTemplate t.normalized scope, scope.applicationText, t.normalized.locale⟩ →
      (layers.through s [.upsert t scope]).read p =
        .ok (some (s.form { t.normalized with scenario := name })) := by
  obtain ⟨halike, hkeeps, hsound, hform⟩ := layers.realizes_program h hl (.upsert t scope)
  rw [AnyStore.registers_iff h hl] at hname
  have hwrite : (layers.program (.upsert t scope)).run (Ledger.giving s.form) l = _ :=
    Durable.run_upsert ht hname
  rw [hwrite] at halike hkeeps hsound
  refine ⟨Outcome.Alike.eq halike, fun p hp => ?_⟩
  refine (AnyStore.read_of_keeps hkeeps hsound p).trans ?_
  rw [hform, hp, Dictionary.get?_put, if_pos rfl]
  rfl

/-- Trees give back every template that is accepted, at any scope and under any spelling of its place:
the normalized template with the registered name of its scenario, and without a footer if that is
empty. -/
theorem forest_gives_back (ops : List Operation) {t : Template} (ht : t.validateForWrite = .ok ())
    (scope : Scope) {name : String}
    (hname : (layers.through (.empty .forest) ops).Registers (.ofTemplate t.normalized scope) name) :
    let before := layers.through (.empty .forest) ops
    let after := layers.through before [.upsert t scope]
    layers.outcome before (.upsert t scope) = .ok () ∧ ∃ scenario locale,
      Scenario.parse t.scenario = .ok scenario ∧ Locale.parse t.locale = .ok locale ∧
      ∀ p : Position, p.scope = scope → p.channel = t.channel → p.scenario.key = scenario.key →
        p.locale = locale → after.read p = .ok (some
          { t.normalized with scenario := name, footer := t.footer.filter (· ≠ "") }) := by
  intro before after
  obtain ⟨l, hkeeps, hl, hform⟩ :=
    layers.keeps_through Forest.Keeps.empty Ledger.Sound.empty (s := AnyStore.empty .forest) ops
  obtain ⟨hok, hread⟩ := layers.read_stored hkeeps hl ht scope hname
  obtain ⟨hs, hlocale, -⟩ := Template.validateForWrite_eq_ok_iff.1 ht
  obtain ⟨scenario, hs⟩ := Scenario.parse_of_check hs
  obtain ⟨locale, hlocale⟩ := Locale.parse_of_check hlocale
  refine ⟨hok, scenario, locale, hs, hlocale, ?_⟩
  rintro p rfl hchannel hkey rfl
  have href : p.ref = ⟨.ofTemplate t.normalized p.scope, p.scope.applicationText,
      t.normalized.locale⟩ := by
    rw [ScenarioRef.ofTemplate_normalized hs, Position.ref, Locale.tag_of_parse hlocale]
    exact congrArg (RecordRef.mk · _ _) (ScenarioRef.ext rfl hchannel hkey)
  rw [hread p href, hform]
  rfl

/-- An e-mail with all fields, stored for an application, is read back under the registered name. -/
theorem forest_gives_back_welcome :
    let layers : Layers := ⟨.empty, {}⟩
    let welcome : Scenario := ⟨"Welcome", by rfl, by decide +kernel⟩
    let scope : Scope := { tenant := ⟨1⟩, application := some ⟨"shop", by rfl⟩ }
    let t := ((Template.email " wel come " "EN_us" "Hello" "text").withFooter " ").withContentType ""
    let before := layers.through (.empty .forest) [.addScenario welcome .email ⟨1⟩]
    t.validateForWrite = .ok () ∧ before.Registers (.ofTemplate t.normalized scope) "Welcome" ∧
      (layers.through before [.upsert t scope]).read ⟨welcome, .enUs, .email, scope⟩ =
        .ok (some (((Template.email "Welcome" "en-us" "Hello" "text").withFooter " ").withContentType
          "")) := by
  intro layers welcome scope t before
  have ht : t.validateForWrite = .ok () := by decide +kernel
  have hname : before.Registers (.ofTemplate t.normalized scope) "Welcome" :=
    ⟨["Welcome"], by decide +kernel, by decide +kernel, by decide +kernel⟩
  obtain ⟨-, scenario, locale, hs, hlocale, hread⟩ := forest_gives_back layers
    [.addScenario welcome .email ⟨1⟩] ht scope hname
  have hkey : welcome.key = scenario.key := calc
    welcome.key = Identifier.ScenarioName.key " wel come " := by decide +kernel
    _ = scenario.key := (Scenario.key_of_parse hs).symm
  have htag : Locale.enUs.tag = locale.tag := calc
    Locale.enUs.tag = Identifier.LocaleTag.normalize "EN_us" := by decide +kernel
    _ = locale.tag := (Locale.tag_of_parse hlocale).symm
  refine ⟨ht, hname, ?_⟩
  rw [hread ⟨welcome, .enUs, .email, scope⟩ rfl rfl hkey (Locale.ext_tag htag)]
  decide +kernel

/-- An empty footer is accepted and stored, but it comes back as none. -/
theorem empty_footer_comes_back_as_none :
    let layers : Layers := ⟨.empty, {}⟩
    let welcome : Scenario := ⟨"Welcome", by rfl, by decide +kernel⟩
    let scope : Scope := .organization ⟨1⟩
    let t := (Template.email "Welcome" "en-us" "Hello" "text").withFooter ""
    let before := layers.through (.empty .forest) [.addScenario welcome .email ⟨1⟩]
    let found := (layers.through before [.upsert t scope]).read ⟨welcome, .enUs, .email, scope⟩
    t.validateForWrite = .ok () ∧ before.Registers (.ofTemplate t.normalized scope) "Welcome" ∧
      layers.outcome before (.upsert t scope) = .ok () ∧
      found = .ok (some { t with footer := none }) ∧
      found ≠ .ok (some { t.normalized with scenario := "Welcome" }) := by
  intro layers welcome scope t before found
  have hfound : found = .ok (some { t with footer := none }) := by decide +kernel
  refine ⟨by decide +kernel, ⟨["Welcome"], by decide +kernel, by decide +kernel, by decide +kernel⟩,
    by decide +kernel, hfound, ?_⟩
  rw [hfound]
  decide +kernel

end Layers
end Missive

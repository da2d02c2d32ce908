import Mathlib.Data.List.Perm.Basic
import Missive.Merge
import Missive.Proofs.Identifier.Characters

/-! Templates as they are stored: accepted by the checks of a write, and normalized. Some stores keep
an empty footer and others none, so templates are compared with empty footers left out. -/

namespace Missive.Template

open Identifier

theorem validateForWrite_eq_ok_iff {t : Template} :
    t.validateForWrite = .ok () ↔
      ScenarioName.check t.scenario = .ok () ∧ LocaleTag.check t.locale = .ok () ∧
        t.hasContent = true ∧ t.checkChannelFields = .ok () := by
  rw [validateForWrite]
  cases ScenarioName.check t.scenario with
  | error e => simp [Except.mapError, Bind.bind, Except.bind]
  | ok u =>
    cases LocaleTag.check t.locale with
    | error e => simp [Except.mapError, Bind.bind, Except.bind]
    | ok v =>
      cases t.hasContent with
      | false => simp [Except.mapError, Bind.bind, Except.bind, throw, throwThe, MonadExceptOf.throw]
      | true =>
        cases t.checkChannelFields <;>
          simp [Except.mapError, Bind.bind, Except.bind]

theorem exists_fault_of_validateForWrite {t : Template} {e : Failure}
    (h : t.validateForWrite = .error e) : ∃ fault, e = .invalidInput fault := by
  rw [validateForWrite] at h
  cases hname : ScenarioName.check t.scenario with
  | error e' =>
    rw [hname] at h
    exact ⟨_, (Except.error.inj h).symm⟩
  | ok u =>
    cases htag : LocaleTag.check t.locale with
    | error e' =>
      rw [hname, htag] at h
      exact ⟨_, (Except.error.inj h).symm⟩
    | ok v =>
      rw [hname, htag] at h
      cases hbody : t.hasContent with
      | false =>
        rw [hbody] at h
        exact ⟨_, (Except.error.inj h).symm⟩
      | true =>
        rw [hbody] at h
        cases hfields : t.checkChannelFields with
        | error fault =>
          rw [hfields] at h
          exact ⟨_, (Except.error.inj h).symm⟩
        | ok w =>
          rw [hfields] at h
          cases h

/-- Accepted and normalized. -/
structure Storable (t : Template) : Prop where
  valid : t.validateForWrite = .ok ()
  normal : t.normalized = t

theorem storable_normalized {t : Template} (h : t.validateForWrite = .ok ()) :
    t.normalized.Storable := by
  obtain ⟨hname, htag, hbody, hfields⟩ := validateForWrite_eq_ok_iff.1 h
  constructor
  · refine validateForWrite_eq_ok_iff.2 ⟨?_, LocaleTag.check_normalize htag, hbody, hfields⟩
    exact (ScenarioName.check_strip _).trans hname
  · simp [normalized, Text.strip_idem, LocaleTag.normalize_normalize htag]

namespace Storable

variable {t : Template}

theorem exists_scenario (h : t.Storable) : ∃ s : Scenario, s.displayName = t.scenario :=
  ⟨⟨t.scenario, (validateForWrite_eq_ok_iff.1 h.valid).1, congrArg Template.scenario h.normal⟩, rfl⟩

theorem exists_locale (h : t.Storable) : ∃ l : Locale, l.tag = t.locale :=
  ⟨⟨t.locale, (validateForWrite_eq_ok_iff.1 h.valid).2.1, congrArg Template.locale h.normal⟩, rfl⟩

/-- A template may be stored under any accepted name. -/
theorem withName (h : t.Storable) (s : Scenario) :
    { t with scenario := s.displayName : Template }.Storable := by
  obtain ⟨-, htag, hbody, hfields⟩ := validateForWrite_eq_ok_iff.1 h.valid
  constructor
  · exact validateForWrite_eq_ok_iff.2 ⟨s.accepted, htag, hbody, hfields⟩
  · have hlocale : LocaleTag.normalize t.locale = t.locale := congrArg Template.locale h.normal
    simp [normalized, s.trimmed, hlocale]

theorem subject_of_email (h : t.Storable) (hchannel : t.channel = .email) :
    ∃ subject, t.subject = some subject ∧ subject ≠ "" := by
  have hfields := (validateForWrite_eq_ok_iff.1 h.valid).2.2.2
  rw [checkChannelFields, hchannel] at hfields
  cases hsubject : t.subject with
  | none => simp [hsubject] at hfields
  | some subject =>
    refine ⟨subject, rfl, ?_⟩
    intro heq
    subst heq
    simp [hsubject, Text.onlyBlank] at hfields

theorem fields_of_sms (h : t.Storable) (hchannel : t.channel = .sms) :
    t.subject = none ∧ t.footer = none ∧ t.contentType = none := by
  have hfields := (validateForWrite_eq_ok_iff.1 h.valid).2.2.2
  rw [checkChannelFields, hchannel] at hfields
  cases hsubject : t.subject <;> cases hfooter : t.footer <;> cases htype : t.contentType <;>
    simp_all

end Storable

/-- The template with an empty footer left out. -/
def dropEmptyFooter (t : Template) : Template :=
  { t with footer := t.footer.filter (· ≠ "") }

@[simp] theorem dropEmptyFooter_dropEmptyFooter (t : Template) :
    t.dropEmptyFooter.dropEmptyFooter = t.dropEmptyFooter := by
  simp [dropEmptyFooter]

@[simp] theorem withUtf8Charset_dropEmptyFooter (t : Template) :
    t.dropEmptyFooter.withUtf8Charset = t.withUtf8Charset.dropEmptyFooter := by
  unfold withUtf8Charset
  simp only [dropEmptyFooter]
  split
  · split <;> rfl
  · rfl

/-- The same, but for an empty footer. -/
def Alike (a b : Template) : Prop := a.dropEmptyFooter = b.dropEmptyFooter

/-- The same templates in any order, but for empty footers. -/
def AlikeLists (as bs : List Template) : Prop :=
  (as.map dropEmptyFooter).Perm (bs.map dropEmptyFooter)

theorem Alike.scenario {a b : Template} (h : a.Alike b) : a.scenario = b.scenario := by
  have hscenario := congrArg Template.scenario h
  exact hscenario

theorem Alike.locale {a b : Template} (h : a.Alike b) : a.locale = b.locale := by
  have hlocale := congrArg Template.locale h
  exact hlocale

theorem Alike.hasContent {a b : Template} (h : a.Alike b) : a.hasContent = b.hasContent := by
  have hcontent := congrArg Template.hasContent h
  exact hcontent

theorem Alike.withUtf8Charset {a b : Template} (h : a.Alike b) :
    a.withUtf8Charset.Alike b.withUtf8Charset := by
  rw [Alike, ← withUtf8Charset_dropEmptyFooter, ← withUtf8Charset_dropEmptyFooter, h]

theorem Alike.mergeKey {a b : Template} (h : a.Alike b) : a.mergeKey = b.mergeKey := by
  have hkey := congrArg Template.mergeKey h
  exact hkey

/-- A change that only an empty footer can show, and that commutes with completing the character
set. -/
class Neutral (f : Template → Template) : Prop where
  alike (t : Template) : (f t).Alike t
  withUtf8Charset (t : Template) : f t.withUtf8Charset = (f t).withUtf8Charset

namespace Neutral

instance : Neutral id := ⟨fun _ => rfl, fun _ => rfl⟩

instance : Neutral dropEmptyFooter :=
  ⟨dropEmptyFooter_dropEmptyFooter, fun t => (withUtf8Charset_dropEmptyFooter t).symm⟩

variable {f : Template → Template} [Neutral f]

/-- What is the same after such changes was the same before, but for an empty footer. -/
theorem alike_of_eq {a b : Template} (h : f a = f b) : a.Alike b := by
  have hb := alike (f := f) b
  rw [← h] at hb
  exact (alike (f := f) a).symm.trans hb

theorem scenarioKey (t : Template) : (f t).scenarioKey = t.scenarioKey :=
  congrArg Prod.fst (alike t).mergeKey

theorem filter_scenarioKey (p : String → Bool) (l : List Template) :
    (l.map f).filter (p ·.scenarioKey) = (l.filter (p ·.scenarioKey)).map f := by
  have hform : (fun t : Template => p t.scenarioKey) ∘ f = fun t => p t.scenarioKey := by
    funext t
    rw [Function.comp_apply, scenarioKey]
  rw [List.filter_map, hform]

theorem map_mergeKey (l : List Template) :
    (l.map f).map Template.mergeKey = l.map Template.mergeKey := by
  rw [List.map_map]
  exact List.map_congr_left fun t _ => (alike t).mergeKey

theorem map_withUtf8Charset (l : List Template) :
    (l.map Template.withUtf8Charset).map f = (l.map f).map Template.withUtf8Charset := by
  rw [List.map_map, List.map_map]
  exact List.map_congr_left fun t _ => withUtf8Charset t

end Neutral

end Missive.Template

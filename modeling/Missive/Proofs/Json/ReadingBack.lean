import Missive.Proofs.Json.Record
import Missive.Proofs.Json.Rendering
import Missive.Template.Json
import Missive.Tenant.Json

/-! Templates and tenants come back from their JSON texts as they were, and so do those that came from
any other text: which values are read as a template or a tenant is told by `SpelledBy`, and what is
written is one of them. -/

namespace Missive

open Json.Value (OptionalText ChoiceOf RecordOf)

/-! ### Templates -/

theorem Channel.ofName?_eq_some_iff {name : String} {c : Channel} :
    ofName? name = some c ↔ name = c.name := by
  constructor
  · intro h
    unfold ofName? at h
    split at h <;> cases h <;> rfl
  · rintro rfl
    cases c <;> rfl

namespace Template

/-- The fields that a template may be written with, in their order. -/
inductive Fields (t : Template) : List (Option Json.Value) → Prop
  | intro {channel subject footer contentType : Option Json.Value} :
    ChoiceOf t.channel.name channel → OptionalText t.subject subject →
    OptionalText t.footer footer → OptionalText t.contentType contentType →
    Fields t [some (.string t.scenario), channel, some (.string t.locale), subject,
      some (.string t.body), footer, contentType]

/-- The JSON value is a record of the template: an object with its members in any order, among others
under other keys, or an array of its fields. -/
def SpelledBy (t : Template) (v : Json.Value) : Prop :=
  ∃ fields, t.Fields fields ∧ RecordOf fieldNames fields v

theorem ofJson?_eq_some_iff {t : Template} {v : Json.Value} :
    ofJson? v = some t ↔ t.SpelledBy v := by
  have hnames : fieldNames.Nodup := by decide
  constructor
  · intro h
    obtain ⟨fields, hfields, h⟩ := Option.bind_eq_some_iff.1 h
    refine ⟨fields, ?_, (Json.Value.record?_eq_some_iff hnames).1 hfields⟩
    split at h
    · simp only [Option.bind_eq_bind, Option.bind_eq_some_iff, Json.Value.text?_eq_some_iff,
        Json.Value.optionalText?_eq_some_iff, Json.Value.choice?_eq_some_iff,
        Channel.ofName?_eq_some_iff, exists_eq_right, Option.pure_def, Option.some.injEq] at h
      obtain ⟨scenario, rfl, channel, hchannel, locale, rfl, subject, hsubject, body, rfl, footer,
        hfooter, contentType, htype, rfl⟩ := h
      exact .intro hchannel hsubject hfooter htype
    · cases h
  · rintro ⟨fields, ⟨hchannel, hsubject, hfooter, htype⟩, hrecord⟩
    simp only [ofJson?, (Json.Value.record?_eq_some_iff hnames).2 hrecord, Option.bind_eq_bind,
      Option.bind_some, Json.Value.text?, Json.Value.choice?_eq_some_iff.2 hchannel,
      Channel.ofName?_eq_some_iff.2 rfl, Json.Value.optionalText?_eq_some_iff.2 hsubject,
      Json.Value.optionalText?_eq_some_iff.2 hfooter, Json.Value.optionalText?_eq_some_iff.2 htype]
    rfl

theorem spelledBy_toJson (t : Template) : t.SpelledBy t.toJson := by
  have hoptional (text : Option String) : OptionalText text (text.map .string) := by
    cases text with
    | none => exact .inl rfl
    | some s => rfl
  refine ⟨_, .intro (.inl rfl) (hoptional _) (hoptional _) (hoptional _), ?_⟩
  have hmembers : t.toJson = .object (Json.Value.membersOf fieldNames
      [some (.string t.scenario), some (.string t.channel.name), some (.string t.locale),
        t.subject.map .string, some (.string t.body), t.footer.map .string,
        t.contentType.map .string]) := by
    obtain ⟨scenario, channel, locale, subject, body, footer, contentType⟩ := t
    cases subject <;> cases footer <;> cases contentType <;> rfl
  rw [hmembers]
  exact .object_membersOf rfl

theorem integral_toJson (t : Template) : t.toJson.Integral := by
  refine .object fun m hm => ?_
  simp only [List.mem_append, List.mem_cons, List.mem_map, List.not_mem_nil, or_false] at hm
  rcases hm with (((((rfl | rfl | rfl) | ⟨s, -, rfl⟩) | rfl) | ⟨s, -, rfl⟩) | ⟨s, -, rfl⟩) <;>
    exact .string _

end Template

/-! ### Tenants -/

namespace Tenant

theorem Status.ofName?_eq_some_iff {name : String} {s : Status} :
    ofName? name = some s ↔ name = s.name := by
  constructor
  · intro h
    unfold ofName? at h
    split at h <;> cases h <;> rfl
  · rintro rfl
    cases s <;> rfl

/-- The fields that a tenant may be written with, in their order. -/
inductive Fields (t : Tenant) : List (Option Json.Value) → Prop
  | intro {status : Option Json.Value} : ChoiceOf t.status.name status →
    Fields t [some (.integer t.id.value.toInt), some (.string t.domain), status]

/-- The JSON value is a record of the tenant. -/
def SpelledBy (t : Tenant) (v : Json.Value) : Prop :=
  ∃ fields, t.Fields fields ∧ RecordOf fieldNames fields v

theorem ofJson?_eq_some_iff {t : Tenant} {v : Json.Value} : ofJson? v = some t ↔ t.SpelledBy v := by
  have hnames : fieldNames.Nodup := by decide
  constructor
  · intro h
    obtain ⟨fields, hfields, h⟩ := Option.bind_eq_some_iff.1 h
    refine ⟨fields, ?_, (Json.Value.record?_eq_some_iff hnames).1 hfields⟩
    split at h
    · simp only [Option.bind_eq_bind, Option.bind_eq_some_iff, Json.Value.text?_eq_some_iff,
        Json.Value.int32?_eq_some_iff, Json.Value.choice?_eq_some_iff, Status.ofName?_eq_some_iff,
        exists_eq_right, Option.pure_def, Option.some.injEq] at h
      obtain ⟨id, rfl, domain, rfl, status, hstatus, rfl⟩ := h
      exact .intro hstatus
    · cases h
  · rintro ⟨fields, ⟨hstatus⟩, hrecord⟩
    simp only [ofJson?, (Json.Value.record?_eq_some_iff hnames).2 hrecord, Option.bind_eq_bind,
      Option.bind_some, Json.Value.int32?_eq_some_iff.2 (Eq.refl _), Json.Value.text?,
      Json.Value.choice?_eq_some_iff.2 hstatus, Status.ofName?_eq_some_iff.2 rfl]
    rfl

theorem spelledBy_toJson (t : Tenant) : t.SpelledBy t.toJson :=
  ⟨_, .intro (.inl rfl), .object_membersOf rfl⟩

theorem integral_toJson (t : Tenant) : t.toJson.Integral := by
  refine .object fun m hm => ?_
  simp only [List.mem_cons, List.not_mem_nil, or_false] at hm
  rcases hm with rfl | rfl | rfl
  · exact .integer _
  · exact .string _
  · exact .string _

end Tenant

/-! ### JSON texts -/

/-- What is written as JSON is read back. -/
structure Json.ReadsBack {α : Type} (toJson : α → Json.Value) (ofJson? : Json.Value → Option α)
    (spelledBy : α → Json.Value → Prop) : Prop where
  written : ∀ a, (Json.Value.parse? (toJson a).render).bind ofJson? = some a
  distinct : ∀ a b, (toJson a).render = (toJson b).render → a = b
  /-- A text is read just if it has a value that spells what is read. -/
  read_iff : ∀ text a, (Json.Value.parse? text).bind ofJson? = some a ↔
    ∃ v, Json.Value.parse? text = some v ∧ spelledBy a v
  again : ∀ text a, (Json.Value.parse? text).bind ofJson? = some a →
    (Json.Value.parse? (toJson a).render).bind ofJson? = some a

theorem Json.ReadsBack.of_spelled {α : Type} {toJson : α → Json.Value}
    {ofJson? : Json.Value → Option α} {spelledBy : α → Json.Value → Prop}
    (hspelled : ∀ {a v}, ofJson? v = some a ↔ spelledBy a v)
    (hwritten : ∀ a, spelledBy a (toJson a)) (hintegral : ∀ a, (toJson a).Integral) :
    Json.ReadsBack toJson ofJson? spelledBy := by
  have hread (a : α) : (Json.Value.parse? (toJson a).render).bind ofJson? = some a := by
    rw [Json.Value.parse?_render (hintegral a), Option.bind_some]
    exact hspelled.2 (hwritten a)
  refine ⟨hread, fun a b h => ?_, fun text a => ?_, fun _ a _ => hread a⟩
  · have hsame := hread a
    rw [h, hread b] at hsame
    exact (Option.some.inj hsame).symm
  · simp only [Option.bind_eq_some_iff, hspelled]

/-- Templates and tenants are read back from what they are written as, absent texts as absent and empty
ones as empty; and so are those that were read from any text, be its keys in another order or among
unknown ones, its absent fields null, or the record an array. -/
theorem json_texts_read_back :
    Json.ReadsBack Template.toJson Template.ofJson? Template.SpelledBy ∧
      Json.ReadsBack Tenant.toJson Tenant.ofJson? Tenant.SpelledBy :=
  ⟨.of_spelled Template.ofJson?_eq_some_iff Template.spelledBy_toJson Template.integral_toJson,
    .of_spelled Tenant.ofJson?_eq_some_iff Tenant.spelledBy_toJson Tenant.integral_toJson⟩

/-- A template as an array, without the fields that an SMS does not have. -/
example : (Json.Value.parse? "[\"otp\",\"SMS\",\"en-us\",null,\"code\"]").bind Template.ofJson? =
    some (.sms "otp" "en-us" "code") := by
  decide +kernel

end Missive

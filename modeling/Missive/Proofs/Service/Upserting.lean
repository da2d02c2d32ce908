import Missive.Proofs.Service.Evaluation

/-! The footprint of an upsert. Whoever asks for the template afterwards gets it: under any spelling,
and also in other locales if it is in the default locale and nothing is stored in theirs. All other
requests come to what they came to before. -/

namespace Missive

open Store

/-- The request is answered from a place: the place is the request's own, or it is the one in the
default locale and nothing is stored at the request's own. -/
def ResolveRequest.AnsweredFrom (layers : Layers) (s : AnyStore) (p : Position)
    (r : ResolveRequest) : Prop :=
  r.position.ref = p.ref ∨
    (r.positionIn p.locale).ref = p.ref ∧ p.locale = layers.locales.forChannel p.channel ∧
      s.read r.position = .ok none

namespace Layers

variable {layers : Layers} {l l' : Ledger} {form : Template → Template} {p : Position}
  {t : Template} {r : ResolveRequest}

/-- The requests that are answered from a place get the template that is put there. -/
theorem resolution_put (hrecords : l'.records = l.records.put p.ref t)
    (hr : r.position.ref = p.ref ∨ (r.positionIn p.locale).ref = p.ref ∧
      p.locale = layers.locales.forChannel p.channel ∧ l.records.get? r.position.ref = none) :
    layers.resolution l' form r = .ok (form t).withUtf8Charset := by
  have hrecord : layers.recordFor l' r = some t := by
    rw [recordFor, hrecords, Dictionary.get?_put, Dictionary.get?_put]
    by_cases hown : r.position.ref = p.ref
    · rw [if_pos hown, Option.some_or]
    · obtain ⟨hdefault, hlocale, hnone⟩ := hr.resolve_left hown
      have hchannel : r.channel = p.channel := congrArg (·.scenario.channel) hdefault
      rw [hlocale, ← hchannel] at hdefault
      rw [if_neg hown, hnone, Option.none_or, if_pos hdefault]
  rw [resolution, hrecord]

/-- The others get what they got before. -/
theorem resolution_put_of_not (hrecords : l'.records = l.records.put p.ref t)
    (hr : ¬(r.position.ref = p.ref ∨ (r.positionIn p.locale).ref = p.ref ∧
      p.locale = layers.locales.forChannel p.channel ∧ l.records.get? r.position.ref = none)) :
    layers.resolution l' form r = layers.resolution l form r := by
  obtain ⟨hown, hdefault⟩ := not_or.1 hr
  have hrecord : layers.recordFor l' r = layers.recordFor l r := by
    rw [recordFor, recordFor, hrecords, Dictionary.get?_put, Dictionary.get?_put, if_neg hown]
    cases hstored : l.records.get? r.position.ref with
    | some u => rfl
    | none =>
      rw [if_neg]
      intro href
      have hchannel : r.channel = p.channel := congrArg (·.scenario.channel) href
      have hlocale : layers.locales.forChannel r.channel = p.locale :=
        Locale.ext_tag (congrArg RecordRef.locale href)
      exact hdefault ⟨hlocale ▸ href, by rw [← hlocale, hchannel], hstored⟩
  rw [resolution, hrecord, resolution]

end Layers

namespace Service

variable {service : Service} {directory : Tenant.Directory} {c : Course} {l : Ledger}

/-- What an upsert that succeeds has done: the template can be looked up under the name that its
scenario is registered with, from its own locale and, if it is in the default locale, from those in
which there is nothing, and all other look-ups come to what they came to before. -/
structure Upserted (service : Service) (directory : Tenant.Directory) (before after : Course)
    (t : Template) (p : Position) (name : String) : Prop where
  registered : after.state.store.Registers p.ref.scenario name
  /-- A scenario that was registered keeps its name. -/
  kept : ∀ old, before.state.store.Registers p.ref.scenario old → old = name
  answered : ∀ (i : Inquiry) r, i.Means directory r →
    r.AnsweredFrom service.layers before.state.store p →
    ∃ u, after.outcome service i.operation = .ok u ∧
      u.Alike { t.normalized with scenario := name : Template }.withUtf8Charset
  unchanged : ∀ i : Inquiry,
    (∀ r, i.Means directory r → ¬r.AnsweredFrom service.layers before.state.store p) →
    after.outcome service i.operation = before.outcome service i.operation

theorem Course.Keeps.upserted (h : c.Keeps service directory l) {t : Template} {domain : String}
    {application : Option String}
    (hok : c.outcome service (.upsert t domain application) = .ok ()) :
    ∃ p name, UpsertsAt directory t domain application p ∧
      Upserted service directory c (c.after service (.upsert t domain application)) t p name := by
  obtain ⟨houtcome, hafter, hform⟩ := h.step (.upsert t domain application)
  have hplain : (plainly service.layers directory c.state.store.form
      (.upsert t domain application) l).1 = .ok () := (Outcome.Alike.eq houtcome).symm.trans hok
  obtain ⟨ht, p, hp⟩ := upsertsAt_of_plainly hplain
  have hname : (l.register p.scenario p.channel p.scope.tenant).names.get? p.ref.scenario =
      some ((l.names.get? p.ref.scenario).getD p.scenario.displayName) := by
    rw [Ledger.names_register]
    exact if_pos rfl
  rw [plainly_upsert ht hp hname] at hafter
  have hread : ∀ q : Position, c.state.store.read q = .ok none ↔ l.records.get? q.ref = none := by
    intro q
    rw [AnyStore.read_of_keeps h.store h.sound, Except.ok.injEq, Option.map_eq_none_iff]
  refine ⟨p, _, hp, (AnyStore.registers_iff hafter.store hafter.sound).2 hname, ?_, ?_, ?_⟩
  · intro old hold
    rw [(AnyStore.registers_iff h.store h.sound).1 hold]
    rfl
  · intro i r hr hanswered
    rw [ResolveRequest.AnsweredFrom, hread] at hanswered
    rw [hafter.outcome_means hr, Layers.resolution_put rfl hanswered]
    exact ⟨_, rfl, (Template.Neutral.alike _).withUtf8Charset⟩
  · intro i hi
    refine h.outcome_inquiry_congr hafter fun r hr => ?_
    have hanswered := hi r hr
    rw [ResolveRequest.AnsweredFrom, hread] at hanswered
    rw [hform, Layers.resolution_put_of_not rfl hanswered]

/-- An upsert leaves its footprint and nothing else, after any operations, with caches or without. -/
theorem upsert_leaves_its_footprint (service : Service) (kind : Kind) (retention : Retention)
    (directory : Tenant.Directory) (losses : List (List Loss)) (ops : List Operation)
    (t : Template) (domain : String) (application : Option String)
    (hok : ((Course.faultFree kind retention directory losses).through service ops).outcome service
      (.upsert t domain application) = .ok ()) :
    let before := (Course.faultFree kind retention directory losses).through service ops
    let after := before.after service (.upsert t domain application)
    ∃ p name, UpsertsAt directory t domain application p ∧
      Upserted service directory before after t p name := by
  have hstart := Course.Keeps.start service kind retention directory losses
  obtain ⟨l, hkeeps⟩ := hstart.through ops
  exact hkeeps.upserted hok

/-- An e-mail with an empty footer, stored in the default locale for a scenario registered before. -/
theorem upsert_leaves_its_footprint_welcome :
    let service : Service := ⟨⟨.empty, {}⟩, true⟩
    let directory : Tenant.Directory := .ofList [⟨⟨1⟩, "acme.com", .active⟩]
    let start := Course.faultFree .forest ⟨10, 10⟩ directory []
    let before := start.through service [.addScenario "Welcome" .email "acme.com",
      .resolve "welcome" "fr-fr" .email "acme.com" (some "shop")]
    let t := (Template.email " welcome " "EN_us" "Hello" "text").withFooter ""
    let upsert : Operation := .upsert t "ACME.com" (some "shop")
    before.outcome service upsert = .ok () ∧
      ∃ p name, UpsertsAt directory t "ACME.com" (some "shop") p ∧
        Upserted service directory before (before.after service upsert) t p name := by
  intro service directory start before t upsert
  have hok : before.outcome service upsert = .ok () := by decide +kernel
  exact ⟨hok, upsert_leaves_its_footprint service .forest ⟨10, 10⟩ directory [] _ t "ACME.com"
    (some "shop") hok⟩

end Service
end Missive

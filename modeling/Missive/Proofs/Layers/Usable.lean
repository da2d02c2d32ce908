import Missive.Proofs.Layers.Consistency

/-! Templates as callers get them: accepted by the checks of a write, normalized and with a character
set. What is stored and the defaults are accepted and normalized, and the layers complete them. -/

namespace Missive

open Store

/-- A template that can be sent as it is. -/
structure Template.Usable (t : Template) (channel : Channel) : Prop where
  valid : t.validateForWrite = .ok ()
  normal : t.normalized = t
  charset : t.withUtf8Charset = t
  channel : t.channel = channel

namespace Template

theorem namesCharset_append (contentType : String) :
    namesCharset (contentType ++ "; charset=UTF-8") = true := by
  have hascii : ∀ c ∈ "; charset=UTF-8".toList, c.toNat < 128 := by simp
  obtain ⟨head, hhead⟩ := Text.lowerChars_append_ascii hascii contentType.toList
  rw [namesCharset, String.toList_append, hhead, Text.occursIn_iff]
  refine ⟨head ++ "; ".toList, "=utf-8".toList, ?_⟩
  rw [List.append_assoc, List.append_assoc]
  rfl

/-- Completing changes nothing, or it gives an e-mail a content type with a character set. -/
theorem withUtf8Charset_cases (t : Template) : t.withUtf8Charset = t ∨
    t.channel = .email ∧ ∃ contentType, namesCharset contentType = true ∧
      t.withUtf8Charset = { t with contentType := some contentType } := by
  unfold withUtf8Charset
  split
  · rename_i contentType hchannel _
    split
    · exact .inl rfl
    · exact .inr ⟨hchannel, _, namesCharset_append contentType, rfl⟩
  · exact .inl rfl

theorem withUtf8Charset_idem (t : Template) :
    t.withUtf8Charset.withUtf8Charset = t.withUtf8Charset := by
  rcases t.withUtf8Charset_cases with hsame | ⟨hchannel, contentType, hcharset, hcomplete⟩
  · rw [hsame, hsame]
  · rw [hcomplete]
    simp only [withUtf8Charset, hchannel, hcharset, if_true]

variable {t : Template}

theorem Storable.withUtf8Charset (h : t.Storable) : t.withUtf8Charset.Storable := by
  rcases t.withUtf8Charset_cases with hsame | ⟨hchannel, contentType, -, hcomplete⟩
  · rwa [hsame]
  · obtain ⟨hname, htag, hbody, hfields⟩ := validateForWrite_eq_ok_iff.1 h.valid
    rw [hcomplete]
    constructor
    · refine validateForWrite_eq_ok_iff.2 ⟨hname, htag, hbody, ?_⟩
      rw [checkChannelFields, hchannel] at hfields ⊢
      exact hfields
    · exact congrArg (fun t : Template => { t with contentType := some contentType }) h.normal

/-- What is stored is accepted also without an empty footer. -/
theorem Storable.dropEmptyFooter (h : t.Storable) : t.dropEmptyFooter.Storable := by
  obtain ⟨hname, htag, hbody, hfields⟩ := validateForWrite_eq_ok_iff.1 h.valid
  constructor
  · refine validateForWrite_eq_ok_iff.2 ⟨hname, htag, hbody, ?_⟩
    cases hchannel : t.channel with
    | email =>
      rw [checkChannelFields, hchannel] at hfields
      rw [checkChannelFields, Template.dropEmptyFooter, hchannel]
      exact hfields
    | sms =>
      have hsame : t.dropEmptyFooter = t := by
        rw [Template.dropEmptyFooter, (h.fields_of_sms hchannel).2.1]
        exact congrArg (fun footer => { t with footer }) (h.fields_of_sms hchannel).2.1.symm
      rwa [hsame]
  · exact congrArg Template.dropEmptyFooter h.normal

/-- What can be stored can be sent, once it is completed. -/
theorem Storable.usable (h : t.Storable) : t.withUtf8Charset.Usable t.channel where
  valid := h.withUtf8Charset.valid
  normal := h.withUtf8Charset.normal
  charset := t.withUtf8Charset_idem
  channel := by
    rcases t.withUtf8Charset_cases with hsame | ⟨-, contentType, -, hcomplete⟩
    · rw [hsame]
    · rw [hcomplete]

end Template

/-- Accepted, normalized, and at its own place. -/
structure Template.Fits (t : Template) (r : RecordRef) : Prop where
  storable : t.Storable
  key : t.scenarioKey = r.scenario.key
  channel : t.channel = r.scenario.channel
  locale : t.locale = r.locale

theorem Template.Fits.usable {t : Template} {r : RecordRef} (h : t.Fits r) :
    t.withUtf8Charset.Usable r.scenario.channel :=
  h.channel ▸ h.storable.usable

namespace Store

theorem AnyStore.storable_form (s : AnyStore) {t : Template} (h : t.Storable) :
    (s.form t).Storable := by
  cases s with
  | tables => exact h
  | forest => exact h.dropEmptyFooter

theorem Ledger.Sound.fits {l : Ledger} (h : l.Sound) {r : RecordRef} {t : Template}
    (hr : l.records.get? r = some t) (s : AnyStore) : (s.form t).Fits r := by
  obtain ⟨-, -, hstorable, -⟩ := h.records hr
  have halike := Template.Neutral.alike (f := s.form) t
  refine ⟨s.storable_form hstorable, ?_, ?_, halike.locale.trans (h.locale hr)⟩
  · exact (congrArg (·.1) halike.mergeKey).trans (h.scenarioKey hr)
  · exact (congrArg (·.2.1) halike.mergeKey).trans (h.channel hr)

end Store

namespace Layers

variable {layers : Layers} (hcatalog : layers.defaults.Valid layers.locales) {s : AnyStore}
  {l : Ledger} {r : ResolveRequest} {t : Template}

/-- A finished listing has what is stored and the defaults, completed. -/
theorem mem_finish {stored defaults : List Template} (h : t ∈ finish stored defaults) :
    ∃ u, (u ∈ stored ∨ u ∈ defaults) ∧ u.withUtf8Charset = t := by
  obtain ⟨u, hu, rfl⟩ := List.mem_map.1 h
  exact ⟨u, mem_merge hu, rfl⟩

include hcatalog

/-- What is found for a request is a record in the requested locale or in the default one, or a
default. -/
theorem fits_of_resolution (hl : l.Sound) (h : layers.resolution l s.form r = .ok t) :
    ∃ u : Template, ∃ locale, (locale = r.locale ∨ locale = layers.locales.forChannel r.channel) ∧
      u.Fits (r.positionIn locale).ref ∧ u.withUtf8Charset = t := by
  rw [resolution, recordFor] at h
  cases hrecord : l.records.get? r.position.ref with
  | some u =>
    rw [hrecord] at h
    exact ⟨s.form u, r.locale, .inl rfl, hl.fits hrecord s, Except.ok.inj h⟩
  | none =>
    rw [hrecord, Option.none_or] at h
    cases hother : l.records.get? (r.positionIn (layers.locales.forChannel r.channel)).ref with
    | some u =>
      rw [hother] at h
      exact ⟨s.form u, _, .inr rfl, hl.fits hother s, Except.ok.inj h⟩
    | none =>
      rw [hother] at h
      change layers.fromDefaults r = .ok t at h
      rw [fromDefaults_eq layers hcatalog] at h
      cases hdefault : layers.defaults.get? r.scenario r.channel with
      | none =>
        rw [hdefault] at h
        cases h
      | some u =>
        rw [hdefault] at h
        obtain ⟨hmem, hchannel, hkey⟩ := Catalog.get?_eq_some hdefault
        refine ⟨u, _, .inr rfl, ⟨hcatalog.storable u hmem, hkey, hchannel, ?_⟩, Except.ok.inj h⟩
        rw [hcatalog.locale u hmem, hchannel]
        rfl

/-- With a valid catalog, there is one way for a request to fail. -/
theorem error_of_resolution {e : Failure} (h : layers.resolution l s.form r = .error e) :
    e = r.notFound := by
  rw [resolution] at h
  cases hrecord : layers.recordFor l r with
  | some u =>
    rw [hrecord] at h
    cases h
  | none =>
    rw [hrecord] at h
    change layers.fromDefaults r = .error e at h
    rw [fromDefaults_eq layers hcatalog] at h
    cases hdefault : layers.defaults.get? r.scenario r.channel with
    | none =>
      rw [hdefault] at h
      exact (Except.error.inj h).symm
    | some u =>
      rw [hdefault] at h
      cases h

end Layers
end Missive

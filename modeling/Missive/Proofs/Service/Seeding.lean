import Missive.Proofs.Service.Assurance

/-! Storing defaults, one after another, with a fault possible at each store call. Nothing that was
there is lost or changed on the way (`Setting.Grows`), and if the end is reached, each default has a
record, and those are counted that had none before (`Seeds`). -/

namespace Missive

open Store

/-- The place of a template in the organization of a tenant. -/
def Template.home (t : Template) (tenant : TenantId) : RecordRef where
  scenario := .ofTemplate t.normalized (.organization tenant)
  application := none
  locale := t.normalized.locale

theorem Template.home_scenario {t : Template} {sc : Scenario}
    (h : Scenario.parse t.scenario = .ok sc) (tenant : TenantId) :
    (t.home tenant).scenario = .of sc t.channel tenant :=
  ScenarioRef.ofTemplate_normalized h (.organization tenant)

theorem Template.home_eq {t : Template} {sc : Scenario} {locale : Locale}
    (hs : Scenario.parse t.scenario = .ok sc) (hlocale : Locale.parse t.locale = .ok locale)
    (tenant : TenantId) :
    (ResolveRequest.mk sc locale t.channel (.organization tenant)).position.ref =
      t.home tenant := by
  rw [Template.home, ScenarioRef.ofTemplate_normalized hs]
  exact congrArg (RecordRef.mk _ _) (Locale.tag_of_parse hlocale)

namespace Service

/-- The second setting has what the first one has. Scenarios of some templates may have been registered
and some templates stored at a tenant where there was nothing; no cached results were dropped but those
that may show such a template. -/
structure Setting.Grows (tenant : TenantId) (named stored : List Template) (s s' : Setting) :
    Prop where
  form : s'.store.form = s.store.form
  kept : ∀ {ref name}, s.ledger.names.get? ref = some name →
    s'.ledger.names.get? ref = some name
  new : ∀ {ref name}, s'.ledger.names.get? ref = some name →
    s.ledger.names.get? ref = some name ∨
      ∃ t ∈ named, ref = (t.home tenant).scenario ∧ name = t.normalized.scenario
  records : ∀ r, s'.ledger.records.get? r = s.ledger.records.get? r ∨
    s.ledger.records.get? r = none ∧ ∃ t ∈ stored, r = t.home tenant ∧
      ∃ name, s'.ledger.records.get? r = some { t.normalized with scenario := name }
  asked : ∃ news, s'.asked = s.asked ++ news ∧ ∀ q ∈ news, q.Looks ∨
    ∃ t ∈ stored, q = .once tenant (.invalidate (t.home tenant).key) ∧
      s.ledger.records.get? (t.home tenant) = none ∧
      s'.ledger.records.get? (t.home tenant) ≠ none

namespace Setting.Grows

variable {tenant : TenantId} {named stored : List Template} {s s' s'' : Setting}

theorem refl (s : Setting) : s.Grows tenant named stored s where
  form := rfl
  kept := id
  new := .inl
  records _ := .inl rfl
  asked := ⟨[], (List.append_nil _).symm, List.forall_mem_nil _⟩

/-- A record that is there stays. -/
theorem get? (h : s.Grows tenant named stored s') {r : RecordRef}
    (hr : s.ledger.records.get? r ≠ none) :
    s'.ledger.records.get? r = s.ledger.records.get? r :=
  (h.records r).resolve_right fun hnew => hr hnew.1

/-- What is not there was not there before. -/
theorem get?_eq_none (h : s.Grows tenant named stored s') {r : RecordRef}
    (hr : s'.ledger.records.get? r = none) : s.ledger.records.get? r = none := by
  by_contra hne
  exact hne ((h.get? hne).symm.trans hr)

theorem trans (h : s.Grows tenant named stored s') (h' : s'.Grows tenant named stored s'') :
    s.Grows tenant named stored s'' where
  form := h'.form.trans h.form
  kept hname := h'.kept (h.kept hname)
  new hname := by
    rcases h'.new hname with hname | hnew
    · exact h.new hname
    · exact .inr hnew
  records r := by
    rcases h'.records r with heq | ⟨hnone, hnew⟩
    · rw [heq]
      exact h.records r
    · exact .inr ⟨h.get?_eq_none hnone, hnew⟩
  asked := by
    obtain ⟨news, hasked, hnews⟩ := h.asked
    obtain ⟨news', hasked', hnews'⟩ := h'.asked
    refine ⟨news ++ news', by rw [hasked', hasked, List.append_assoc], fun q hq => ?_⟩
    rcases List.mem_append.1 hq with hq | hq
    · refine (hnews q hq).imp_right fun ⟨t, ht, hq, hnone, hsome⟩ => ⟨t, ht, hq, hnone, ?_⟩
      rwa [h'.get? hsome]
    · refine (hnews' q hq).imp_right fun ⟨t, ht, hq, hnone, hsome⟩ => ⟨t, ht, hq, ?_, hsome⟩
      exact h.get?_eq_none hnone

theorem mono {named' stored' : List Template} (h : s.Grows tenant named stored s')
    (hnamed : ∀ t ∈ named, t ∈ named') (hstored : ∀ t ∈ stored, t ∈ stored') :
    s.Grows tenant named' stored' s' where
  form := h.form
  kept := h.kept
  new hname := (h.new hname).imp_right fun ⟨t, ht, hplace⟩ => ⟨t, hnamed t ht, hplace⟩
  records r := (h.records r).imp_right fun ⟨hnone, t, ht, hplace⟩ =>
    ⟨hnone, t, hstored t ht, hplace⟩
  asked := by
    obtain ⟨news, hasked, hnews⟩ := h.asked
    exact ⟨news, hasked, fun q hq => (hnews q hq).imp_right fun ⟨t, ht, hplace⟩ =>
      ⟨t, hstored t ht, hplace⟩⟩

/-- A setting in which only the names of scenarios and the records have changed. -/
theorem of_becomes {l : Ledger} (h : s.Becomes l s')
    (kept : ∀ {ref name}, s.ledger.names.get? ref = some name → l.names.get? ref = some name)
    (new : ∀ {ref name}, l.names.get? ref = some name → s.ledger.names.get? ref = some name ∨
      ∃ t ∈ named, ref = (t.home tenant).scenario ∧ name = t.normalized.scenario)
    (records : ∀ r, l.records.get? r = s.ledger.records.get? r ∨
      s.ledger.records.get? r = none ∧ ∃ t ∈ stored, r = t.home tenant ∧
        ∃ name, l.records.get? r = some { t.normalized with scenario := name }) :
    s.Grows tenant named stored s' := by
  obtain ⟨rfl, hform, -, hasked⟩ := h
  exact ⟨hform, kept, new, records, [], by rw [hasked, List.append_nil], List.forall_mem_nil _⟩

variable {t : Template} {sc : Scenario}

theorem kept_register (l : Ledger) (sc : Scenario) (channel : Channel) (tenant : TenantId)
    {ref : ScenarioRef} {name : String} (h : l.names.get? ref = some name) :
    (l.register sc channel tenant).names.get? ref = some name := by
  rw [Ledger.names_register, h]
  split <;> rfl

theorem new_register {l : Ledger} (hs : Scenario.parse t.scenario = .ok sc) {ref : ScenarioRef}
    {name : String} (h : (l.register sc t.channel tenant).names.get? ref = some name) :
    l.names.get? ref = some name ∨
      ∃ u ∈ [t], ref = (u.home tenant).scenario ∧ name = u.normalized.scenario := by
  rw [Ledger.names_register] at h
  split at h
  · rename_i href
    cases hname : l.names.get? ref with
    | some old =>
      rw [hname] at h
      exact .inl h
    | none =>
      rw [hname] at h
      refine .inr ⟨t, List.mem_singleton_self t, ?_, ?_⟩
      · exact href.trans (Template.home_scenario hs tenant).symm
      · rw [← Option.some.inj h]
        exact Scenario.displayName_of_parse hs
  · exact .inl h

/-- Registering the scenario of a template. -/
theorem register (hs : Scenario.parse t.scenario = .ok sc)
    (h : s.Becomes (s.ledger.register sc t.channel tenant) s') : s.Grows tenant [t] stored s' := by
  refine of_becomes h (kept_register s.ledger sc t.channel tenant) (new_register hs) fun r => ?_
  rw [Ledger.records_register]
  exact .inl rfl

/-- Storing a template where there was nothing. -/
theorem seat (hs : Scenario.parse t.scenario = .ok sc)
    (hnone : s.ledger.records.get? (t.home tenant) = none)
    (h : s.Becomes (s.ledger.seat sc t (.organization tenant)) s') :
    s.Grows tenant [t] [t] s' ∧ s'.ledger.records.get? (t.home tenant) ≠ none := by
  obtain ⟨name, hrecords⟩ := s.ledger.records_seat hs (.organization tenant)
  have hget : ∀ r, (s.ledger.seat sc t (.organization tenant)).records.get? r =
      if r = t.home tenant then some { t.normalized with scenario := name }
      else s.ledger.records.get? r := by
    intro r
    rw [hrecords, Dictionary.get?_put]
    rfl
  constructor
  · refine of_becomes h ?_ ?_ fun r => ?_
    · rw [Ledger.names_seat]
      exact kept_register s.ledger sc t.channel tenant
    · rw [Ledger.names_seat]
      exact new_register hs
    · rw [hget]
      split
      · rename_i hr
        subst hr
        exact .inr ⟨hnone, t, List.mem_singleton_self t, rfl, name, rfl⟩
      · exact .inl rfl
  · rw [h.ledger, hget, if_pos rfl]
    exact Option.some_ne_none _

/-- The caches may be asked for something, or to drop what may show a template that has been stored. -/
theorem asking (h : s.Grows tenant named stored s') {query : Caches.Query}
    (hquery : query.Looks ∨ ∃ t ∈ stored, query = .once tenant (.invalidate (t.home tenant).key) ∧
      s.ledger.records.get? (t.home tenant) = none ∧
      s'.ledger.records.get? (t.home tenant) ≠ none) :
    s.Grows tenant named stored (s'.asking query) where
  form := h.form
  kept := h.kept
  new := h.new
  records := h.records
  asked := by
    obtain ⟨news, hasked, hnews⟩ := h.asked
    refine ⟨news ++ [query], ?_, fun q hq => ?_⟩
    · rw [Setting.asking, hasked, List.append_assoc]
    · rcases List.mem_append.1 hq with hq | hq
      · exact hnews q hq
      · obtain rfl := List.mem_singleton.1 hq
        exact hquery

end Setting.Grows

/-! ### One default -/

variable {faulty : Prop}

/-- A template is stored unless its place is taken; in that case nothing happens. -/
structure Adds (faulty : Prop) (tenant : TenantId) (t : Template) (s : Setting)
    (x : Except Failure Bool) (s' : Setting) : Prop where
  grows : s.Grows tenant [t] [t] s'
  tenants : s'.tenants = s.tenants
  taken : s.ledger.records.get? (t.home tenant) ≠ none →
    s' = s ∧ ∀ isNew, x = .ok isNew → isNew = false
  free : s.ledger.records.get? (t.home tenant) = none → ∀ isNew, x = .ok isNew →
    isNew = true ∧ s'.ledger.records.get? (t.home tenant) ≠ none
  succeeds : ¬faulty → t.validateForWrite = .ok () → ∃ isNew, x = .ok isNew

namespace Adds

variable {tenant : TenantId} {t : Template} {s s' : Setting}

/-- Nothing has happened because of a fault, or because the template is not accepted. -/
theorem idle {e : Failure} (h : ¬faulty → t.validateForWrite ≠ .ok ()) :
    Adds faulty tenant t s (.error e) s where
  grows := .refl s
  tenants := rfl
  taken _ := ⟨rfl, nofun⟩
  free _ := nofun
  succeeds hf hvalid := absurd hvalid (h hf)

theorem registered {sc : Scenario} (hs : Scenario.parse t.scenario = .ok sc) {e : Failure}
    (h : ¬faulty → t.validateForWrite ≠ .ok ())
    (hnone : s.ledger.records.get? (t.home tenant) = none)
    (hbecomes : s.Becomes (s.ledger.register sc t.channel tenant) s') :
    Adds faulty tenant t s (.error e) s' where
  grows := .register hs hbecomes
  tenants := hbecomes.tenants
  taken hsome := absurd hnone hsome
  free _ := nofun
  succeeds hf hvalid := absurd hvalid (h hf)

theorem present {u : Template} (h : s.ledger.records.get? (t.home tenant) = some u) :
    Adds faulty tenant t s (.ok false) s where
  grows := .refl s
  tenants := rfl
  taken _ := ⟨rfl, fun _ hnew => (Except.ok.inj hnew).symm⟩
  free hnone := by
    rw [h] at hnone
    cases hnone
  succeeds _ _ := ⟨false, rfl⟩

theorem stored (hnone : s.ledger.records.get? (t.home tenant) = none)
    (hgrows : s.Grows tenant [t] [t] s') (htenants : s'.tenants = s.tenants)
    (hsome : s'.ledger.records.get? (t.home tenant) ≠ none) :
    Adds faulty tenant t s (.ok true) s' where
  grows := hgrows
  tenants := htenants
  taken hnot := absurd hnone hnot
  free _ _ hnew := ⟨(Except.ok.inj hnew).symm, hsome⟩
  succeeds _ _ := ⟨true, rfl⟩

end Adds

theorem assures_addDefault (service : Service) (tenant : TenantId) (t : Template) (s : Setting) :
    Assures faulty (Adds faulty tenant t s) (service.addDefault tenant t) s := by
  rw [addDefault]
  -- Both parsers accept what the check of a write accepts, so that only faults are in the way.
  refine assures_checked_bind (fun e he => .idle fun _ hvalid => ?_) fun sc hs => ?_
  · obtain ⟨sc, hs⟩ := Scenario.parse_of_check (Template.validateForWrite_eq_ok_iff.1 hvalid).1
    rw [hs] at he
    cases he
  refine assures_checked_bind (fun e he => .idle fun _ hvalid => ?_) fun locale hlocale => ?_
  · obtain ⟨locale, hlocale⟩ :=
      Locale.parse_of_check (Template.validateForWrite_eq_ok_iff.1 hvalid).2.1
    rw [hlocale] at he
    cases he
  refine .bind ((assures_isStored _).mono ?_)
  rintro x s' ⟨rfl, rfl | ⟨hf, context, e, rfl⟩⟩
  · rw [Template.home_eq hs hlocale, Dictionary.contains]
    cases hrecord : s'.ledger.records.get? (t.home tenant) with
    | some u => exact .done (.present hrecord)
    | none =>
      refine .bind ((assures_registerAndWrite hs (.organization tenant)).mono ?_)
      rintro x s'' (⟨hseated, rfl⟩ | ⟨hvalid, rfl | hregistered, e, rfl⟩)
      · obtain ⟨hgrows, hsome⟩ := Setting.Grows.seat hs hrecord hseated
        have hkey : TemplateKey.of sc t.channel none = (t.home tenant).key := by
          rw [RecordRef.key, Template.home_scenario hs]
          rfl
        rw [hkey]
        have hasked := hgrows.asking (.inr ⟨t, List.mem_singleton_self t, rfl, hrecord, hsome⟩)
        exact assures_invalidate_bind (.done (.stored hrecord hgrows hseated.tenants hsome))
          (.done (.stored hrecord hasked hseated.tenants hsome))
      · exact .idle hvalid
      · exact .registered hs hvalid hrecord hregistered
  · exact .idle fun hnot => absurd hf hnot

/-! ### The defaults of a channel -/

/-- Templates are stored where there is nothing. When all are through, each has a record, and those
are counted that had none. -/
structure Seeds (faulty : Prop) (tenant : TenantId) (ts : List Template) (added : Nat) (s : Setting)
    (x : Except Failure Nat) (s' : Setting) : Prop where
  grows : s.Grows tenant ts ts s'
  tenants : s'.tenants = s.tenants
  complete : ∀ n, x = .ok n → ∀ t ∈ ts, s'.ledger.records.get? (t.home tenant) ≠ none
  counted : ∀ n, x = .ok n → (ts.map (Template.home · tenant)).Nodup →
    n = added + ts.countP fun t => s.ledger.records.get? (t.home tenant) = none
  idle : (∀ t ∈ ts, s.ledger.records.get? (t.home tenant) ≠ none) → s' = s
  succeeds : ¬faulty → (∀ t ∈ ts, t.validateForWrite = .ok ()) → ∃ n, x = .ok n

namespace Seeds

variable {tenant : TenantId} {t : Template} {rest : List Template} {added : Nat}
  {s s' s'' : Setting} {x : Except Failure Nat}

theorem nil (tenant : TenantId) (added : Nat) (s : Setting) :
    Seeds faulty tenant [] added s (.ok added) s where
  grows := .refl s
  tenants := rfl
  complete _ _ := List.forall_mem_nil _
  counted _ hn _ := (Except.ok.inj hn).symm
  idle _ := rfl
  succeeds _ _ := ⟨added, rfl⟩

/-- The first template was not stored, and none was tried after it. -/
theorem cons_error {e : Failure} (h : Adds faulty tenant t s (.error e) s') :
    Seeds faulty tenant (t :: rest) added s (.error e) s' where
  grows := h.grows.mono (by simp) (by simp)
  tenants := h.tenants
  complete _ := nofun
  counted _ := nofun
  idle hall := (h.taken (hall t List.mem_cons_self)).1
  succeeds hf hvalid := by
    obtain ⟨isNew, hnew⟩ := h.succeeds hf (hvalid t List.mem_cons_self)
    cases hnew

theorem cons_ok {isNew : Bool} (h : Adds faulty tenant t s (.ok isNew) s')
    (hrest : Seeds faulty tenant rest (if isNew then added + 1 else added) s' x s'') :
    Seeds faulty tenant (t :: rest) added s x s'' where
  grows :=
    (h.grows.mono (by simp) (by simp)).trans
      (hrest.grows.mono (fun _ => List.mem_cons_of_mem t) fun _ => List.mem_cons_of_mem t)
  tenants := hrest.tenants.trans h.tenants
  complete n hn := by
    refine List.forall_mem_cons.2 ⟨?_, hrest.complete n hn⟩
    have hsome : s'.ledger.records.get? (t.home tenant) ≠ none := by
      by_cases hnone : s.ledger.records.get? (t.home tenant) = none
      · exact (h.free hnone isNew rfl).2
      · rwa [h.grows.get? hnone]
    rwa [hrest.grows.get? hsome]
  counted n hn hnodup := by
    obtain ⟨hhead, htail⟩ := List.nodup_cons.1 hnodup
    -- The first template makes no difference to the places of the others.
    have hsame : ∀ u ∈ rest, s'.ledger.records.get? (u.home tenant) =
        s.ledger.records.get? (u.home tenant) := by
      intro u hu
      refine (h.grows.records _).resolve_right ?_
      rintro ⟨-, v, hv, hplace, -⟩
      obtain rfl := List.mem_singleton.1 hv
      exact hhead (List.mem_map.2 ⟨u, hu, hplace⟩)
    have hcount : (rest.countP fun u => s'.ledger.records.get? (u.home tenant) = none) =
        rest.countP fun u => s.ledger.records.get? (u.home tenant) = none :=
      List.countP_congr fun u hu => by rw [hsame u hu]
    rw [hrest.counted n hn htail, hcount, List.countP_cons]
    by_cases hnone : s.ledger.records.get? (t.home tenant) = none
    · rw [(h.free hnone isNew rfl).1, if_pos rfl, if_pos (decide_eq_true hnone)]
      omega
    · rw [(h.taken hnone).2 isNew rfl, if_neg Bool.false_ne_true, if_neg (by simpa using hnone)]
      omega
  idle hall := by
    obtain ⟨hhead, htail⟩ := List.forall_mem_cons.1 hall
    obtain rfl := (h.taken hhead).1
    exact hrest.idle htail
  succeeds hf hvalid := hrest.succeeds hf (List.forall_mem_cons.1 hvalid).2

end Seeds

theorem assures_addDefaults (service : Service) (tenant : TenantId) (ts : List Template) (added : Nat)
    (s : Setting) :
    Assures faulty (Seeds faulty tenant ts added s) (service.addDefaults tenant added ts) s := by
  induction ts generalizing added s with
  | nil => exact .done (.nil tenant added s)
  | cons t rest ih =>
    rw [addDefaults]
    refine .bind ((assures_addDefault service tenant t s).mono ?_)
    rintro (e | isNew) s' hadds
    · exact .cons_error hadds
    · exact (ih _ s').mono fun x s'' hseeds => .cons_ok hadds hseeds

theorem assures_addDefaultTemplates (service : Service) (channel : Channel) (domain : String)
    (s : Setting) :
    Assures faulty
      (fun x s' => (∃ e, (s.tenants.resolve domain).1 = .error e ∧
          x = .error (.unresolvedTenant domain e) ∧ s' = s.told domain) ∨
        ∃ tenant, (s.tenants.resolve domain).1 = .ok tenant ∧
          Seeds faulty tenant (service.layers.defaults.forChannel channel) 0 (s.told domain) x s')
      (service.addDefaultTemplates channel domain) s := by
  rw [addDefaultTemplates]
  refine assures_resolveTenant_bind (fun e he => .inl ⟨e, he, rfl, rfl⟩) fun tenant htenant => ?_
  exact (assures_addDefaults service tenant _ 0 _).mono fun x s' hseeds =>
    .inr ⟨tenant, htenant, hseeds⟩

theorem seeds_addDefaultTemplates (service : Service) (channel : Channel) {domain : String}
    {s : Setting} {tenant : TenantId} (h : (s.tenants.resolve domain).1 = .ok tenant) :
    Assures faulty
      (Seeds faulty tenant (service.layers.defaults.forChannel channel) 0 (s.told domain))
      (service.addDefaultTemplates channel domain) s := by
  refine (assures_addDefaultTemplates service channel domain s).mono ?_
  rintro x s' (⟨e, he, -⟩ | ⟨tenant', htenant', hseeds⟩)
  · cases h.symm.trans he
  · cases h.symm.trans htenant'
    exact hseeds

end Service
end Missive

import Missive.Proofs.Parsing
import Missive.Proofs.Store.Unchecked

/-! What the scans of a tree find. After calls that write validated templates only, the records below
the path of a scope are those that are stored there, the collections of a channel are the registered
scenarios, and what is below the path of a scenario, and goes with it, are the records of the
scenario (`Forest.ScansFind`). -/

namespace Missive.Store

namespace Tree

/-- A template's path tells its place within the tenant. -/
theorem positionPath_inj {p q : Position} : positionPath p = positionPath q ↔
    p.channel = q.channel ∧ p.scenario.key = q.scenario.key ∧
      p.scope.application = q.scope.application ∧ p.locale = q.locale := by
  constructor
  · intro h
    -- the same place in the other tenant has the same path
    let q' : Position := { q with scope := { q.scope with tenant := p.scope.tenant } }
    have hpath : (Place.record p.ref).path = (Place.record q'.ref).path :=
      (recordPath_eq p.ref).symm.trans (h.trans (recordPath_eq q'.ref))
    have href : p.ref = q'.ref :=
      Place.record.inj ((Place.path_inj (Place.plain_record p) (Place.plain_record q') rfl).1 hpath)
    refine ⟨congrArg (·.scenario.channel) href, congrArg (·.scenario.key) href, ?_, ?_⟩
    · exact Option.map_injective (fun _ _ => Identifier.ApplicationId.ext_text)
        (congrArg RecordRef.application href)
    · exact Locale.ext_tag (congrArg RecordRef.locale href)
  · rintro ⟨hchannel, hkey, happ, hlocale⟩
    rw [positionPath, positionPath, hchannel, hkey, hlocale, Scope.applicationText, happ,
      Scope.applicationText]

end Tree

namespace Forest

/-- What the scans find in the trees that calls lead to, each entry once, and what goes when a scenario
is removed. -/
structure ScansFind (f : Forest) (calls : List Call) : Prop where
  /-- Below the path of a scope are the records that are stored for the scenario in this scope. -/
  records : ∀ (s : Scenario) (channel : Channel) (scope : Scope),
    let found := (f.tree scope.tenant).recordsBelow
      (Tree.scopePath channel s.key scope.applicationText)
    (found.map Prod.fst).Nodup ∧ ∀ path node, (path, node) ∈ found ↔ ∃ locale t name,
      Stored calls ⟨.of s channel scope.tenant, scope.applicationText, locale⟩ t ∧
      RegisteredAs calls (.of s channel scope.tenant) name ∧
      path = Tree.recordPath channel s.key scope.applicationText locale ∧ node = .encode t name
  /-- The collections of a channel are the scenarios that are registered, under their names. -/
  collections : ∀ (channel : Channel) (tenant : TenantId),
    let found := (f.tree tenant).collections channel
    (found.map Prod.fst).Nodup ∧
    (∀ path node, (path, node) ∈ found ↔ ∃ key name,
      RegisteredAs calls ⟨tenant, channel, key⟩ name ∧
      path = Tree.scenarioPath channel key ∧ node = .collection name) ∧
    ∀ key, Registered calls ⟨tenant, channel, key⟩ ↔
      Tree.scenarioPath channel key ∈ found.map Prod.fst
  /-- Below the path of a scenario are the records that are stored for it in all scopes. -/
  below : ∀ (s : Scenario) (channel : Channel) (tenant : TenantId) (path : Path),
    (f.tree tenant).contains path = true ∧ Tree.scenarioPath channel s.key ++ ['/'] <+: path ↔
      ∃ app locale t, Stored calls ⟨.of s channel tenant, app, locale⟩ t ∧
        path = Tree.recordPath channel s.key app locale
  /-- Removing a scenario drops its own path and these. -/
  dropped : ∀ (s : Scenario) (channel : Channel) (tenant : TenantId) (path : Path),
    (f.tree tenant).contains path = true ∧
        ((backend (.remove s channel tenant) f).2.tree tenant).contains path = false ↔
      (Registered calls (.of s channel tenant) ∧ path = Tree.scenarioPath channel s.key) ∨
        ∃ app locale t, Stored calls ⟨.of s channel tenant, app, locale⟩ t ∧
          path = Tree.recordPath channel s.key app locale

namespace Keeps

variable {f : Forest} {l : Ledger} {path : Path} {node : Node}

theorem mem_recordsOf (h : Keeps f l) (hl : l.Tidy) (s : Scenario) (channel : Channel)
    (scope : Scope) :
    (path, node) ∈ (f.tree scope.tenant).recordsBelow
        (Tree.scopePath channel s.key scope.applicationText) ↔
      ∃ locale t, l.records.get? ⟨.of s channel scope.tenant, scope.applicationText, locale⟩ =
          some t ∧
        path = Tree.recordPath channel s.key scope.applicationText locale ∧
        node = .encode t t.scenario := by
  refine (h.mem_recordsBelow hl (Place.plain_scope s channel scope)).trans ?_
  simp only [Dictionary.mem_retain, Prod.exists]
  constructor
  · rintro ⟨⟨_, _, locale⟩, t, ⟨ht, rfl, rfl⟩, rfl, rfl⟩
    exact ⟨locale, t, ht, (Tree.recordPath_eq _).symm, rfl⟩
  · rintro ⟨locale, t, ht, rfl, rfl⟩
    exact ⟨_, t, ⟨ht, rfl, rfl⟩, (Tree.recordPath_eq _).symm, rfl⟩

theorem mem_collectionsOf (h : Keeps f l) (hl : l.Tidy) (channel : Channel) (tenant : TenantId) :
    (path, node) ∈ (f.tree tenant).collections channel ↔
      ∃ key name, l.names.get? ⟨tenant, channel, key⟩ = some name ∧
        path = Tree.scenarioPath channel key ∧ node = .collection name := by
  refine (h.mem_collections hl).trans ?_
  simp only [Ledger.namesOf, Dictionary.mem_retain, Prod.exists]
  constructor
  · rintro ⟨⟨_, _, key⟩, name, ⟨hname, rfl, rfl⟩, rfl, rfl⟩
    exact ⟨key, name, hname, (Tree.scenarioPath_eq _).symm, rfl⟩
  · rintro ⟨key, name, hname, rfl, rfl⟩
    exact ⟨_, name, ⟨hname, rfl, rfl⟩, (Tree.scenarioPath_eq _).symm, rfl⟩

/-- What there is below the path of a scenario. -/
theorem contains_below_iff (h : Keeps f l) (hl : l.Tidy) (s : Scenario) (channel : Channel)
    (tenant : TenantId) :
    (f.tree tenant).contains path = true ∧ Tree.scenarioPath channel s.key ++ ['/'] <+: path ↔
      ∃ app locale t, l.records.get? ⟨.of s channel tenant, app, locale⟩ = some t ∧
        path = Tree.recordPath channel s.key app locale := by
  have hs := Place.plain_scenario s channel tenant
  have hpath : Tree.scenarioPath channel s.key = (Place.scenario (.of s channel tenant)).path :=
    Tree.scenarioPath_eq (.of s channel tenant)
  rw [hpath, PathMap.contains, Option.isSome_iff_exists, ← List.isPrefixOf_iff_prefix]
  constructor
  · rintro ⟨⟨node, hnode⟩, hbelow⟩
    obtain ⟨p, hp, htenant, rfl⟩ := h.shaped hnode
    obtain ⟨⟨_, app, locale⟩, rfl, rfl⟩ := (Place.below_scenario_iff hs hp htenant).1 hbelow
    obtain ⟨t, ht, -⟩ := Option.map_eq_some_iff.1 ((h.nodes _ hp).symm.trans hnode)
    exact ⟨app, locale, t, ht, (Tree.recordPath_eq _).symm⟩
  · rintro ⟨app, locale, t, ht, rfl⟩
    have hr := hl.records ht
    have hrecord : Tree.recordPath channel s.key app locale =
        (Place.record ⟨.of s channel tenant, app, locale⟩).path :=
      Tree.recordPath_eq ⟨.of s channel tenant, app, locale⟩
    rw [hrecord]
    refine ⟨⟨.encode t t.scenario, (h.nodes _ hr).trans (congrArg (Option.map _) ht)⟩, ?_⟩
    exact (Place.below_scenario_iff hs hr rfl).2 ⟨_, rfl, rfl⟩

end Keeps

variable {calls : List Call}

theorem keeps_after (h : ∀ c ∈ calls, c.Validated) :
    Keeps (after backend calls ∅) (after Ledger.backend calls .empty) ∧
      (after Ledger.backend calls .empty).Tidy := by
  induction calls using List.reverseRecOn with
  | nil => exact ⟨.empty, .empty⟩
  | append_singleton calls c ih =>
    obtain ⟨hkeeps, htidy⟩ := ih fun c' hc' => h c' (List.mem_append_left _ hc')
    have hc : c.Plain := (h c (List.mem_append_right _ List.mem_cons_self)).plain
    rw [after_concat, after_concat]
    exact ⟨hkeeps.step htidy hc, htidy.step hc⟩

/-- Removing a scenario that is registered takes its path away and what is below. -/
theorem contains_removed (f : Forest) (s : Scenario) (channel : Channel) (tenant : TenantId)
    (path : Path) :
    (f.tree tenant).contains path = true ∧
        ((backend (.remove s channel tenant) f).2.tree tenant).contains path = false ↔
      (f.tree tenant).contains (Tree.scenarioPath channel s.key) = true ∧
        (f.tree tenant).contains path = true ∧
        (path = Tree.scenarioPath channel s.key ∨
          Tree.scenarioPath channel s.key ++ ['/'] <+: path) := by
  simp only [backend]
  split
  · rename_i hcontains
    simp only [hcontains, true_and, tree_put, if_pos]
    refine and_congr_right fun hpath => ?_
    rw [PathMap.contains] at hpath
    rw [Tree.remove, PathMap.contains, PathMap.get?_retain, PathMap.get?_erase,
      ← List.isPrefixOf_iff_prefix]
    by_cases hself : path = Tree.scenarioPath channel s.key
    · simp [hself]
    · cases hbelow : (Tree.scenarioPath channel s.key ++ ['/']).isPrefixOf path <;>
        simp [hself, hpath]
  · rename_i hcontains
    simp [hcontains]

section

variable (h : ∀ c ∈ calls, c.Validated)
include h

theorem mem_recordsOf_after (s : Scenario) (channel : Channel) (scope : Scope) {path : Path}
    {node : Node} :
    (path, node) ∈ ((after backend calls ∅).tree scope.tenant).recordsBelow
        (Tree.scopePath channel s.key scope.applicationText) ↔ ∃ locale t name,
      Stored calls ⟨.of s channel scope.tenant, scope.applicationText, locale⟩ t ∧
      RegisteredAs calls (.of s channel scope.tenant) name ∧
      path = Tree.recordPath channel s.key scope.applicationText locale ∧
      node = .encode t name := by
  obtain ⟨hkeeps, htidy⟩ := keeps_after h
  refine (hkeeps.mem_recordsOf htidy s channel scope).trans ?_
  simp only [Ledger.get?_records_after]
  constructor
  · rintro ⟨locale, _, ⟨t, name, ht, hname, rfl⟩, rfl, rfl⟩
    exact ⟨locale, t, name, ht, hname, rfl, rfl⟩
  · rintro ⟨locale, t, name, ht, hname, rfl, rfl⟩
    exact ⟨locale, _, ⟨t, name, ht, hname, rfl⟩, rfl, rfl⟩

theorem mem_collections_after (channel : Channel) (tenant : TenantId) {path : Path} {node : Node} :
    (path, node) ∈ ((after backend calls ∅).tree tenant).collections channel ↔ ∃ key name,
      RegisteredAs calls ⟨tenant, channel, key⟩ name ∧
      path = Tree.scenarioPath channel key ∧ node = .collection name := by
  obtain ⟨hkeeps, htidy⟩ := keeps_after h
  refine (hkeeps.mem_collectionsOf htidy channel tenant).trans ?_
  simp only [Ledger.get?_names_after]

/-- A registered scenario is among the collections, and nothing else. -/
theorem registered_iff_collection (ref : ScenarioRef) : Registered calls ref ↔
    Tree.scenarioPath ref.channel ref.key ∈
      (((after backend calls ∅).tree ref.tenant).collections ref.channel).map Prod.fst := by
  simp only [registered_iff, List.mem_map, Prod.exists, exists_and_right, exists_eq_right,
    mem_collections_after h]
  constructor
  · rintro ⟨name, hname⟩
    exact ⟨_, ref.key, name, hname, rfl, rfl⟩
  · rintro ⟨_, key, name, hname, hpath, rfl⟩
    obtain ⟨-, rfl⟩ := Tree.scenarioPath_inj.1 hpath
    exact ⟨name, hname⟩

theorem contains_below_after (s : Scenario) (channel : Channel) (tenant : TenantId) (path : Path) :
    ((after backend calls ∅).tree tenant).contains path = true ∧
        Tree.scenarioPath channel s.key ++ ['/'] <+: path ↔
      ∃ app locale t, Stored calls ⟨.of s channel tenant, app, locale⟩ t ∧
        path = Tree.recordPath channel s.key app locale := by
  obtain ⟨hkeeps, htidy⟩ := keeps_after h
  refine (hkeeps.contains_below_iff htidy s channel tenant).trans ?_
  simp only [exists_and_right, Ledger.exists_record_after]

theorem contains_removed_after (s : Scenario) (channel : Channel) (tenant : TenantId) (path : Path) :
    ((after backend calls ∅).tree tenant).contains path = true ∧
        ((backend (.remove s channel tenant) (after backend calls ∅)).2.tree tenant).contains path =
          false ↔
      (Registered calls (.of s channel tenant) ∧ path = Tree.scenarioPath channel s.key) ∨
        ∃ app locale t, Stored calls ⟨.of s channel tenant, app, locale⟩ t ∧
          path = Tree.recordPath channel s.key app locale := by
  have hname : ((after backend calls ∅).tree tenant).contains (Tree.scenarioPath channel s.key) =
        true ↔ Registered calls (.of s channel tenant) := by
    rw [(keeps_after h).1.contains, Ledger.contains_after]
  rw [contains_removed, hname, ← contains_below_after h]
  constructor
  · rintro ⟨href, hpath, rfl | hprefix⟩
    · exact .inl ⟨href, rfl⟩
    · exact .inr ⟨hpath, hprefix⟩
  · rintro (⟨href, rfl⟩ | ⟨hpath, hprefix⟩)
    · exact ⟨href, hname.2 href, .inl rfl⟩
    · -- a record is stored for a registered scenario only
      obtain ⟨_, _, _, ht, -⟩ := (contains_below_after h s channel tenant path).1 ⟨hpath, hprefix⟩
      exact ⟨ht.registered, hpath, .inr hprefix⟩

end

/-- The paths of templates are equal just for the same channel, key, application and locale, and none
is the path of a scenario. After any calls that write validated templates, the scans find just what is
stored and registered, each entry once, and removing a scenario drops the paths of its records. -/
theorem scans_find_what_is_stored (calls : List Call) (h : ∀ c ∈ calls, c.Validated) :
    (∀ p q : Position, Tree.positionPath p = Tree.positionPath q ↔
      p.channel = q.channel ∧ p.scenario.key = q.scenario.key ∧
        p.scope.application = q.scope.application ∧ p.locale = q.locale) ∧
    (∀ (p : Position) (channel : Channel) (s : Scenario),
      Tree.positionPath p ≠ Tree.scenarioPath channel s.key) ∧
    ScansFind (after backend calls ∅) calls := by
  refine ⟨fun _ _ => Tree.positionPath_inj, fun p channel s => ?_, ?_⟩
  · exact (Tree.recordPath_ne_scenarioPath _ _ _ _ (Place.plain_key s)).symm
  · constructor
    · intro s channel scope
      exact ⟨Tree.nodup_recordsBelow _ _, fun _ _ => mem_recordsOf_after h s channel scope⟩
    · intro channel tenant
      exact ⟨Tree.nodup_collections _ _, fun _ _ => mem_collections_after h channel tenant,
        fun key => registered_iff_collection h ⟨tenant, channel, key⟩⟩
    · exact contains_below_after h
    · exact contains_removed_after h

/-- Keys that continue another one, and an application that is named like the elements between a
scenario and its applications. -/
theorem scans_tell_siblings_apart :
    let tenant : TenantId := ⟨1⟩
    let reset : Scenario := ⟨"reset", by rfl, by decide +kernel⟩
    let hyphened : Scenario := ⟨"RESET-2", by rfl, by decide +kernel⟩
    let dotted : Scenario := ⟨"reset.v2", by rfl, by decide +kernel⟩
    let organization : Scope := { tenant }
    let apps : Scope := { tenant, application := some ⟨"apps", by rfl⟩ }
    let calls : List Call := [.add reset .sms tenant, .add hyphened .sms tenant,
      .add dotted .sms tenant, .write (.sms "Reset" "en" "code") organization,
      .write (.sms "reset" "fr" "mot") apps, .write (.sms "reset-2" "en" "second") organization,
      .write (.sms "reset.v2" "en" "third") organization]
    let f := after backend calls ∅
    (∀ c ∈ calls, c.Validated) ∧ ScansFind f calls ∧
    (f.tree tenant).recordsBelow (Tree.scopePath .sms "reset" none) =
      [("/identity/sms/reset/en".toList, .encode (.sms "Reset" "en" "code") "reset")] ∧
    (f.tree tenant).recordsBelow (Tree.scopePath .sms "reset" (some "apps")) =
      [("/identity/sms/reset/apps/apps/fr".toList, .encode (.sms "reset" "fr" "mot") "reset")] ∧
    (f.tree tenant).collections .sms =
      [("/identity/sms/reset".toList, .collection "reset"),
        ("/identity/sms/reset-2".toList, .collection "RESET-2"),
        ("/identity/sms/reset.v2".toList, .collection "reset.v2")] := by
  intro tenant reset hyphened dotted organization apps calls f
  have hcalls : ∀ c ∈ calls, c.Validated := by decide +kernel
  refine ⟨hcalls, (scans_find_what_is_stored calls hcalls).2.2, ?_, ?_, ?_⟩ <;> decide +kernel

end Forest
end Missive.Store

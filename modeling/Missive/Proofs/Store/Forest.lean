import Mathlib.Tactic.Choose
import Missive.Proofs.Identifier.LocaleTag
import Missive.Proofs.Json.Rendering
import Missive.Proofs.Store.Place
import Missive.Proofs.Store.Stored

/-! The trees are another way to keep a ledger (`Forest.Keeps`). Scenarios and records have places in
the tree of their tenant, whose paths are sequences of identifiers: no two places share a path, and
what the store finds below a path are the places whose elements continue it. A record gives its
template back, apart from an empty footer. -/

namespace Missive.Store

open Identifier

/-! ### Records and their content -/

namespace Node

theorem readTexts?_render (texts : List String) :
    readTexts? (Json.Value.array (texts.map .string)).render = some texts := by
  rw [readTexts?, Json.Value.parse?_render_texts]
  simp only
  induction texts with
  | nil => rfl
  | cons s texts ih =>
    rw [List.map_cons, List.mapM_cons, ih]
    rfl

theorem nonEmpty?_getD (footer : Option String) :
    nonEmpty? (footer.getD "") = footer.filter (· ≠ "") := by
  cases footer with
  | none => rfl
  | some footer =>
    by_cases h : footer = "" <;> simp [nonEmpty?, Option.filter, h]

/-- A storable template comes back from its record, apart from an empty footer. -/
theorem decode_encode {t : Template} (h : t.Storable) (path : Path) :
    (encode t t.scenario).decode path t.channel = .ok t.dropEmptyFooter := by
  simp only [encode, decode, readTexts?_render, texts]
  cases hchannel : t.channel with
  | email =>
    obtain ⟨subject, hsubject, hne⟩ := h.subject_of_email hchannel
    simp only [nonEmpty?_getD, hsubject, Option.getD_some]
    rw [nonEmpty?, if_neg hne, ← hsubject, ← hchannel]
    rfl
  | sms =>
    obtain ⟨hsubject, hfooter, htype⟩ := h.fields_of_sms hchannel
    simp [Template.dropEmptyFooter, hsubject, hfooter, htype, ← hchannel]

end Node

namespace Tree

theorem nodup_recordsBelow (tree : Tree) (start : Path) :
    ((tree.recordsBelow start).map Prod.fst).Nodup :=
  (PathMap.nodup_children _ _).sublist (List.filter_sublist.map _)

theorem nodup_collections (tree : Tree) (channel : Channel) :
    ((tree.collections channel).map Prod.fst).Nodup :=
  (PathMap.nodup_children _ _).sublist (List.filter_sublist.map _)

end Tree

/-! ### The trees of a ledger -/

namespace Call

/-- What is written passes the checks of a write; it need not be normalized. -/
def Validated : Call → Prop
  | .write t _ => t.validateForWrite = .ok ()
  | _ => True

instance : DecidablePred Validated
  | .write t _ => inferInstanceAs (Decidable (t.validateForWrite = .ok ()))
  | .read _ | .delete _ | .list .. | .listAll .. | .deleteAll .. | .add .. | .isRegistered ..
  | .listScenarios .. | .remove .. => .isTrue trivial

/-- What is written has no slash in its scenario and its locale. -/
def Plain : Call → Prop
  | .write t _ => Path.Plain t.scenarioKey ∧ Path.Plain t.locale
  | _ => True

variable {c : Call}

theorem Admissible.validated (h : c.Admissible) : c.Validated := by
  cases c with
  | write => exact Template.Storable.valid h
  | read | delete | list | listAll | deleteAll | add | isRegistered | listScenarios | remove => trivial

theorem Validated.plain (h : c.Validated) : c.Plain := by
  cases c with
  | write t scope =>
    obtain ⟨hname, htag, -⟩ := Template.validateForWrite_eq_ok_iff.1 h
    constructor
    · intro hslash
      exact absurd (ScenarioName.isNameChar_of_mem_key hname _ hslash) (by decide +kernel)
    · intro hslash
      -- the slash would not be cut off with the white space
      have hmem := (LocaleTag.mem_stripChars_of_not_blank (by decide +kernel)).2 hslash
      exact absurd (LocaleTag.isTagChar_of_accepts (LocaleTag.check_eq_ok htag).2 _ hmem)
        (by decide +kernel)
  | read | delete | list | listAll | deleteAll | add | isRegistered | listScenarios | remove => trivial

theorem Admissible.plain (h : c.Admissible) : c.Plain := h.validated.plain

end Call

/-- All that is in the ledger has plain places, and records belong to registered scenarios. -/
structure Ledger.Tidy (l : Ledger) : Prop where
  names : ∀ {ref name}, l.names.get? ref = some name → (Place.scenario ref).Plain
  records : ∀ {r t}, l.records.get? r = some t → (Place.record r).Plain
  owned : l.Owned

namespace Ledger

variable {l : Ledger}

theorem Tidy.empty : Tidy .empty := ⟨nofun, nofun, owned_empty⟩

theorem Tidy.step (h : l.Tidy) {c : Call} (hc : c.Plain) : (backend c l).2.Tidy where
  names hname := by
    rcases get?_names_step.1 hname with ⟨hadds, -⟩ | ⟨hname, -⟩
    · obtain ⟨s, hs⟩ := hadds.adds.exists_scenario
      exact Place.plain_of_key (hs ▸ Place.plain_key s)
    · exact h.names hname
  records hr := by
    rcases (get?_records_step h.owned).1 hr with ⟨t, name, hstores, -⟩ | ⟨hr, -⟩
    · cases c with
      | write t' scope =>
        obtain ⟨rfl, rfl⟩ := hstores
        exact Place.plain_of_texts hc.1 (Place.plain_application scope) hc.2
      | read | delete | list | listAll | deleteAll | add | isRegistered | listScenarios | remove =>
        cases hstores
    · exact h.records hr
  owned := h.owned.step c

theorem Sound.tidy (h : l.Sound) : l.Tidy where
  names {ref name} hname := by
    obtain ⟨s, -, hkey⟩ := h.names hname
    exact Place.plain_of_key (hkey ▸ Place.plain_key s)
  records hr := by
    obtain ⟨p, rfl, -⟩ := h.records hr
    exact Place.plain_record p
  owned := h.owned

end Ledger

/-- The node that a ledger has at a place. -/
def Ledger.node? (l : Ledger) : Place → Option Node
  | .scenario ref => (l.names.get? ref).map .collection
  | .record r => (l.records.get? r).map fun t => .encode t t.scenario

namespace Forest

theorem tree_put (f : Forest) (tenant tenant' : TenantId) (tree : Tree) :
    Forest.tree (f.put tenant tree) tenant' =
      if tenant' = tenant then tree else f.tree tenant' := by
  rw [Forest.tree, Dictionary.get?_put]
  split <;> rfl

/-- The trees keep a ledger: what they have at the path of a place is what the ledger has there, and
there is nothing else in them. -/
structure Keeps (f : Forest) (l : Ledger) : Prop where
  nodes : ∀ p : Place, p.Plain → (f.tree p.tenant).get? p.path = l.node? p
  shaped : ∀ {tenant path node}, (f.tree tenant).get? path = some node →
    ∃ p : Place, p.Plain ∧ p.tenant = tenant ∧ p.path = path

namespace Keeps

variable {f : Forest} {l : Ledger}

theorem empty : Keeps ∅ .empty where
  nodes p _ := by cases p <;> rfl
  shaped h := nomatch h

theorem node (h : Keeps f l) {p : Place} (hp : p.Plain) {tenant : TenantId}
    (htenant : p.tenant = tenant) : (f.tree tenant).get? p.path = l.node? p :=
  htenant ▸ h.nodes p hp

theorem name (h : Keeps f l) (ref : ScenarioRef) (hkey : Path.Plain ref.key) :
    (f.tree ref.tenant).get? (Tree.scenarioPath ref.channel ref.key) =
      (l.names.get? ref).map .collection := by
  rw [Tree.scenarioPath_eq]
  exact h.nodes _ (Place.plain_of_key hkey)

theorem nameOfTemplate (h : Keeps f l) {t : Template} (hkey : Path.Plain t.scenarioKey)
    (scope : Scope) : (f.tree scope.tenant).get? (Tree.scenarioPath t.channel t.scenarioKey) =
      (l.names.get? (.ofTemplate t scope)).map .collection :=
  h.name (.ofTemplate t scope) hkey

theorem record (h : Keeps f l) (p : Position) :
    (f.tree p.scope.tenant).get? (Tree.positionPath p) =
      (l.records.get? p.ref).map fun t => .encode t t.scenario := by
  have hnodes := h.nodes _ (Place.plain_record p)
  rw [← Tree.recordPath_eq] at hnodes
  exact hnodes

/-- A change of one tenant's tree. -/
theorem change (h : Keeps f l) {tenant : TenantId} {tree : Tree} {l' : Ledger}
    (hnodes : ∀ p : Place, p.Plain → p.tenant = tenant → tree.get? p.path = l'.node? p)
    (hothers : ∀ p : Place, p.tenant ≠ tenant → l'.node? p = l.node? p)
    (hshaped : ∀ path node, tree.get? path = some node →
      (∃ p : Place, p.Plain ∧ p.tenant = tenant ∧ p.path = path) ∨
        (f.tree tenant).get? path = some node) :
    Keeps (f.put tenant tree) l' where
  nodes p hp := by
    rw [tree_put]
    split
    · rename_i htenant
      exact hnodes p hp htenant
    · rename_i htenant
      rw [hothers p htenant, h.nodes p hp]
  shaped {tenant' path node} hnode := by
    rw [tree_put] at hnode
    split at hnode
    · rename_i htenant
      subst htenant
      rcases hshaped path node hnode with hp | hnode
      · exact hp
      · exact h.shaped hnode
    · exact h.shaped hnode

theorem put (h : Keeps f l) {place : Place} (hplain : place.Plain) {node : Node} {l' : Ledger}
    (hnode : l'.node? place = some node) (hothers : ∀ p, p ≠ place → l'.node? p = l.node? p) :
    Keeps (f.put place.tenant ((f.tree place.tenant).put place.path node)) l' := by
  refine h.change ?_ ?_ ?_
  · intro p hp htenant
    rw [PathMap.get?_put]
    split
    · rename_i hpath
      rw [(Place.path_inj hp hplain htenant).1 hpath, hnode]
    · rename_i hpath
      rw [hothers p fun heq => hpath (heq ▸ rfl), h.node hp htenant]
  · intro p htenant
    exact hothers p fun heq => htenant (heq ▸ rfl)
  · intro path node' hget
    rw [PathMap.get?_put] at hget
    split at hget
    · rename_i hpath
      exact .inl ⟨place, hplain, rfl, hpath.symm⟩
    · exact .inr hget

/-- Dropping the paths of some places. -/
theorem retain (h : Keeps f l) {tenant : TenantId} {keep : Path → Bool} {l' : Ledger}
    (hkept : ∀ p : Place, p.Plain → p.tenant = tenant →
      l'.node? p = if keep p.path then l.node? p else none)
    (hothers : ∀ p : Place, p.tenant ≠ tenant → l'.node? p = l.node? p) :
    Keeps (f.put tenant ((f.tree tenant).retain keep)) l' := by
  refine h.change ?_ hothers ?_
  · intro p hp htenant
    rw [PathMap.get?_retain, hkept p hp htenant, h.node hp htenant]
  · intro path node hget
    rw [PathMap.get?_retain, Option.ite_none_right_eq_some] at hget
    exact .inr hget.2

/-! ### Listings -/

/-- The records below a scope's path are those of the scope. -/
theorem mem_recordsBelow (h : Keeps f l) (hl : l.Tidy) {ref : ScenarioRef} {app : Option String}
    (hplain : ∀ e ∈ ref.elements ++ applicationElements app, Path.Plain e) {path : Path}
    {node : Node} :
    (path, node) ∈ (f.tree ref.tenant).recordsBelow (Tree.scopePath ref.channel ref.key app) ↔
      ∃ a ∈ (l.records.retain fun r _ => r.scenario = ref ∧ r.application = app).entries,
        (Place.record a.1).path = path ∧ Node.encode a.2 a.2.scenario = node := by
  rw [Tree.recordsBelow, List.mem_filter, Tree.scopePath_eq]
  constructor
  · rintro ⟨hchild, hrecord⟩
    obtain ⟨p, hp, htenant, rfl⟩ := h.shaped (PathMap.get?_of_mem_children hchild)
    obtain ⟨hget, x, hx⟩ := (PathMap.mem_children_iff hplain hp).1 hchild
    have hnode := (h.node hp htenant).symm.trans hget
    cases p with
    | scenario ref' =>
      obtain ⟨name, -, rfl⟩ := Option.map_eq_some_iff.1 hnode
      cases hrecord
    | record r =>
      obtain ⟨t, ht, rfl⟩ := Option.map_eq_some_iff.1 hnode
      obtain ⟨rfl, rfl, -⟩ := Place.record_of_elements htenant hx
      exact ⟨(r, t), Dictionary.mem_retain.2 ⟨ht, rfl, rfl⟩, rfl, rfl⟩
  · rintro ⟨⟨r, t⟩, ha, rfl, rfl⟩
    obtain ⟨ht, rfl, rfl⟩ := Dictionary.mem_retain.1 ha
    have hr := hl.records ht
    refine ⟨(PathMap.mem_children_iff hplain hr).2 ⟨?_, r.locale, rfl⟩, rfl⟩
    exact (h.nodes _ hr).trans (congrArg (Option.map _) ht)

theorem mem_collections (h : Keeps f l) (hl : l.Tidy) {channel : Channel} {tenant : TenantId}
    {path : Path} {node : Node} :
    (path, node) ∈ (f.tree tenant).collections channel ↔
      ∃ a ∈ (l.namesOf channel tenant).entries,
        (Place.scenario a.1).path = path ∧ Node.collection a.2 = node := by
  have hplain : ∀ e ∈ ["identity", channel.pathSegment], Path.Plain e := by
    intro e he
    simp only [List.mem_cons, List.not_mem_nil, or_false] at he
    rcases he with rfl | rfl
    · decide +kernel
    · exact Place.plain_segment channel
  rw [Tree.collections, List.mem_filter, Tree.channelRoot_eq]
  constructor
  · rintro ⟨hchild, hcollection⟩
    obtain ⟨p, hp, rfl, rfl⟩ := h.shaped (PathMap.get?_of_mem_children hchild)
    obtain ⟨hget, x, hx⟩ := (PathMap.mem_children_iff hplain hp).1 hchild
    have hnode := (h.nodes p hp).symm.trans hget
    cases p with
    | scenario ref =>
      obtain ⟨name, hname, rfl⟩ := Option.map_eq_some_iff.1 hnode
      obtain ⟨rfl, -⟩ := Place.scenario_of_elements hx
      exact ⟨(ref, name), Dictionary.mem_retain.2 ⟨hname, rfl, rfl⟩, rfl, rfl⟩
    | record r =>
      obtain ⟨t, -, rfl⟩ := Option.map_eq_some_iff.1 hnode
      cases hcollection
  · rintro ⟨⟨ref, name⟩, ha, rfl, rfl⟩
    obtain ⟨hname, rfl, rfl⟩ := Dictionary.mem_retain.1 ha
    have href := hl.names hname
    refine ⟨(PathMap.mem_children_iff hplain href).2 ⟨?_, ref.key, rfl⟩, rfl⟩
    exact (h.nodes _ href).trans (congrArg (Option.map _) hname)

theorem perm_recordsBelow (h : Keeps f l) (hl : l.Tidy) {ref : ScenarioRef} {app : Option String}
    (hplain : ∀ e ∈ ref.elements ++ applicationElements app, Path.Plain e) :
    ((l.records.retain fun r _ => r.scenario = ref ∧ r.application = app).entries.map fun a =>
        ((Place.record a.1).path, Node.encode a.2 a.2.scenario)).Perm
      ((f.tree ref.tenant).recordsBelow (Tree.scopePath ref.channel ref.key app)) := by
  refine perm_entries_of_iff (fun r => (Place.record r).path) (fun t => Node.encode t t.scenario)
    (Dictionary.distinct _) (Tree.nodup_recordsBelow _ _) ?_ fun _ _ => h.mem_recordsBelow hl hplain
  rintro ⟨r, t⟩ ha ⟨r', t'⟩ hb hpath
  obtain ⟨ht, hscenario, -⟩ := Dictionary.mem_retain.1 ha
  obtain ⟨ht', hscenario', -⟩ := Dictionary.mem_retain.1 hb
  have htenant : r.scenario.tenant = r'.scenario.tenant := by rw [hscenario, hscenario']
  exact Place.record.inj ((Place.path_inj (hl.records ht) (hl.records ht') htenant).1 hpath)

theorem perm_collections (h : Keeps f l) (hl : l.Tidy) (channel : Channel) (tenant : TenantId) :
    ((l.namesOf channel tenant).entries.map fun a =>
        ((Place.scenario a.1).path, Node.collection a.2)).Perm
      ((f.tree tenant).collections channel) := by
  refine perm_entries_of_iff (fun ref => (Place.scenario ref).path) Node.collection
    (Dictionary.distinct _) (Tree.nodup_collections _ _) ?_ fun _ _ => h.mem_collections hl
  rintro ⟨ref, name⟩ ha ⟨ref', name'⟩ hb hpath
  obtain ⟨hname, htenant, -⟩ := Dictionary.mem_retain.1 ha
  obtain ⟨hname', htenant', -⟩ := Dictionary.mem_retain.1 hb
  have hpaths := Place.path_inj (hl.names hname) (hl.names hname') (htenant.trans htenant'.symm)
  exact Place.scenario.inj (hpaths.1 hpath)

theorem templatesBelow (h : Keeps f l) (hl : l.Sound) {ref : ScenarioRef} {app : Option String}
    (hplain : ∀ e ∈ ref.elements ++ applicationElements app, Path.Plain e) :
    ∃ ts, (f.tree ref.tenant).templatesBelow ref.channel
        (Tree.scopePath ref.channel ref.key app) = .ok ts ∧
      ts.Perm ((l.within ref app).map Template.dropEmptyFooter) := by
  have hdecode : ∀ a ∈ (l.records.retain fun r _ =>
        r.scenario = ref ∧ r.application = app).entries,
      (Node.encode a.2 a.2.scenario).decode (Place.record a.1).path ref.channel =
        .ok a.2.dropEmptyFooter := by
    rintro ⟨r, t⟩ ha
    obtain ⟨hr, rfl, -⟩ := Dictionary.mem_retain.1 ha
    obtain ⟨-, -, ht, -⟩ := hl.records hr
    rw [← hl.channel hr]
    exact Node.decode_encode ht _
  obtain ⟨ts, hts, hperm⟩ := mapM_perm (h.perm_recordsBelow hl.tidy hplain)
    (mapM_map_eq_ok (f := fun e : Path × Node => e.2.decode e.1 ref.channel) hdecode)
  refine ⟨ts, hts, hperm.symm.trans (.of_eq ?_)⟩
  rw [Ledger.within, Dictionary.values, List.map_map]
  rfl

/-- The templates of all collections of a channel are the organization's. -/
theorem allTemplates (h : Keeps f l) (hl : l.Sound) (channel : Channel) (tenant : TenantId) :
    ∃ tss, ((f.tree tenant).collections channel).mapM (fun e =>
        (f.tree tenant).templatesBelow channel (e.1 ++ ['/'])) = .ok tss ∧
      tss.flatten.Perm ((l.organization channel tenant).map Template.dropEmptyFooter) := by
  have hbelow : ∀ a ∈ (l.namesOf channel tenant).entries, ∃ ts,
      (f.tree tenant).templatesBelow channel ((Place.scenario a.1).path ++ ['/']) = .ok ts ∧
        ts.Perm ((l.within a.1 none).map Template.dropEmptyFooter) := by
    rintro ⟨ref, name⟩ ha
    obtain ⟨hname, rfl, rfl⟩ := Dictionary.mem_retain.1 ha
    have href := hl.tidy.names hname
    have hpath : (Place.scenario ref).path ++ ['/'] =
        Tree.scopePath ref.channel ref.key none := by
      rw [← Tree.scenarioPath_eq, Tree.scopePath]
    have hplain : ∀ e ∈ ref.elements ++ applicationElements none, Path.Plain e := by
      rw [applicationElements, Option.elim_none, List.append_nil]
      exact href
    rw [hpath]
    exact h.templatesBelow hl hplain
  choose! listed hlisted hperm using hbelow
  obtain ⟨tss, htss, hperm'⟩ := mapM_perm (h.perm_collections hl.tidy channel tenant)
    (mapM_map_eq_ok (f := fun e : Path × Node =>
      (f.tree tenant).templatesBelow channel (e.1 ++ ['/'])) hlisted)
  refine ⟨tss, htss, hperm'.flatten.symm.trans ?_⟩
  rw [← List.flatMap_def]
  apply (List.Perm.flatMap_left _ hperm).trans
  rw [← List.flatMap_map (f := Prod.fst)
    (g := fun ref => (l.within ref none).map Template.dropEmptyFooter), ← List.map_flatMap]
  exact (hl.owned.perm_organization channel tenant).map _

/-! ### Each change of a tree is one of the ledger -/

/-- Only what the ledger shows counts. -/
theorem congr (h : Keeps f l) {l' : Ledger} (hnodes : ∀ p, l'.node? p = l.node? p) : Keeps f l' where
  nodes p hp := (h.nodes p hp).trans (hnodes p).symm
  shaped := h.shaped

theorem write (h : Keeps f l) {t : Template} (hkey : Path.Plain t.scenarioKey)
    (hlocale : Path.Plain t.locale) (scope : Scope) (name : String) :
    Keeps (f.put scope.tenant ((f.tree scope.tenant).put
        (Tree.recordPath t.channel t.scenarioKey scope.applicationText t.locale)
        (.encode t name)))
      { l with
        records := l.records.put ⟨.ofTemplate t scope, scope.applicationText, t.locale⟩
          { t with scenario := name } } := by
  have hplain : (Place.record ⟨.ofTemplate t scope, scope.applicationText, t.locale⟩).Plain :=
    Place.plain_of_texts hkey (Place.plain_application scope) hlocale
  have hpath := Tree.recordPath_eq ⟨.ofTemplate t scope, scope.applicationText, t.locale⟩
  rw [ScenarioRef.ofTemplate] at hpath
  rw [hpath]
  refine h.put hplain ?_ ?_
  · simp only [Ledger.node?, Dictionary.get?_put, if_pos, Option.map_some]
    rfl
  · intro q hne
    cases q with
    | scenario ref => rfl
    | record r =>
      have hr : r ≠ ⟨.ofTemplate t scope, scope.applicationText, t.locale⟩ :=
        fun heq => hne (congrArg Place.record heq)
      simp only [Ledger.node?, Dictionary.get?_put, if_neg hr]

theorem delete (h : Keeps f l) (p : Position) :
    Keeps (f.put p.scope.tenant ((f.tree p.scope.tenant).erase (Tree.positionPath p)))
      { l with records := l.records.erase p.ref } := by
  have hpath : Tree.positionPath p = (Place.record p.ref).path := Tree.recordPath_eq p.ref
  rw [hpath]
  refine h.retain ?_ ?_
  · intro q hq htenant
    have hiff := Place.path_inj hq (Place.plain_record p) htenant
    cases q with
    | scenario ref =>
      have hne : (Place.scenario ref).path ≠ (Place.record p.ref).path := fun heq =>
        nomatch hiff.1 heq
      simp [hne, Ledger.node?]
    | record r =>
      simp only [ne_eq, hiff, Place.record.injEq, Ledger.node?, Dictionary.get?_erase]
      by_cases hr : r = p.ref <;> simp [hr]
  · intro q htenant
    cases q with
    | scenario ref => rfl
    | record r =>
      have hr : r ≠ p.ref := fun heq => htenant (by rw [heq]; rfl)
      simp only [Ledger.node?, Dictionary.get?_erase, if_neg hr]

theorem deleteAll (h : Keeps f l) (hl : l.Tidy) {ref : ScenarioRef} {app : Option String}
    (hplain : ∀ e ∈ ref.elements ++ applicationElements app, Path.Plain e) :
    Keeps (f.put ref.tenant ((f.tree ref.tenant).retain fun path =>
        !((f.tree ref.tenant).recordsBelow (Tree.scopePath ref.channel ref.key app)).any
          (·.1 = path)))
      { l with records := l.records.retain fun r _ => ¬(r.scenario = ref ∧ r.application = app) } := by
  -- the paths that are dropped are those of the ledger's records in the scope
  have hdropped : ∀ q : Place, q.Plain → q.tenant = ref.tenant →
      (((f.tree ref.tenant).recordsBelow (Tree.scopePath ref.channel ref.key app)).any
          (·.1 = q.path) = true ↔
        ∃ r t, q = .record r ∧ l.records.get? r = some t ∧ r.scenario = ref ∧ r.application = app) := by
    intro q hq htenant
    rw [List.any_eq_true]
    constructor
    · rintro ⟨⟨path, node⟩, hmem, hpath⟩
      obtain ⟨⟨r, t⟩, ha, hr, -⟩ := (h.mem_recordsBelow hl hplain).1 hmem
      obtain ⟨ht, hscenario, happ⟩ := Dictionary.mem_retain.1 ha
      refine ⟨r, t, ?_, ht, hscenario, happ⟩
      refine (Place.path_inj hq (hl.records ht) ?_).1 ?_
      · rw [htenant, ← hscenario]
        rfl
      · rw [hr]
        exact (of_decide_eq_true hpath).symm
    · rintro ⟨r, t, rfl, ht, hscenario, happ⟩
      refine ⟨(_, _), (h.mem_recordsBelow hl hplain).2 ⟨(r, t), ?_, rfl, rfl⟩, by simp⟩
      exact Dictionary.mem_retain.2 ⟨ht, hscenario, happ⟩
  refine h.retain ?_ ?_
  · intro q hq htenant
    have hiff := hdropped q hq htenant
    cases q with
    | scenario ref' =>
      rw [Bool.eq_false_iff.2 fun hany => nomatch hiff.1 hany]
      rfl
    | record r =>
      simp only [Ledger.node?, Dictionary.get?_retain_key]
      cases ht : l.records.get? r with
      | none => simp
      | some t =>
        by_cases hmatch : r.scenario = ref ∧ r.application = app
        · rw [hiff.2 ⟨r, t, rfl, ht, hmatch⟩]
          simp [hmatch]
        · have hkept : ¬∃ r' t', Place.record r = .record r' ∧ l.records.get? r' = some t' ∧
              r'.scenario = ref ∧ r'.application = app := by
            rintro ⟨r', t', heq, -, hmatch'⟩
            exact hmatch (Place.record.inj heq ▸ hmatch')
          rw [Bool.eq_false_iff.2 (mt hiff.1 hkept)]
          simp [hmatch]
  · intro q htenant
    cases q with
    | scenario ref' => rfl
    | record r =>
      have hr : r.scenario ≠ ref := fun heq => htenant (congrArg ScenarioRef.tenant heq)
      simp [Ledger.node?, Dictionary.get?_retain_key, hr]

/-- A scenario's path leads to its name, and what lies below it are its records. -/
theorem remove (h : Keeps f l) (s : Scenario) (channel : Channel) (tenant : TenantId) :
    Keeps (f.put tenant ((f.tree tenant).remove s channel))
      { names := l.names.erase (.of s channel tenant)
        records := l.records.retain fun r _ => r.scenario ≠ .of s channel tenant } := by
  have hplain := Place.plain_scenario s channel tenant
  have hpath : Tree.scenarioPath channel s.key = (Place.scenario (.of s channel tenant)).path :=
    Tree.scenarioPath_eq (.of s channel tenant)
  refine h.change ?_ ?_ ?_
  · intro q hq htenant
    have hbelow := Place.below_scenario_iff hplain hq htenant
    have hself := Place.path_inj hq hplain htenant
    rw [Tree.remove, PathMap.get?_retain, PathMap.get?_erase, hpath, h.node hq htenant]
    cases q with
    | scenario ref =>
      have hkept : ¬∃ r, Place.scenario ref = .record r ∧ r.scenario = .of s channel tenant := by
        rintro ⟨r, heq, -⟩
        cases heq
      simp only [Bool.eq_false_iff.2 (mt hbelow.1 hkept), hself, Place.scenario.injEq,
        Ledger.node?, Dictionary.get?_erase]
      by_cases href : ref = .of s channel tenant <;> simp [href]
    | record r =>
      have hne : (Place.record r).path ≠ (Place.scenario (.of s channel tenant)).path := by
        intro heq
        cases hself.1 heq
      simp only [hne, Ledger.node?, Dictionary.get?_retain_key]
      by_cases hr : r.scenario = .of s channel tenant
      · rw [hbelow.2 ⟨r, rfl, hr⟩]
        simp [hr]
      · have hkept : ¬∃ r', Place.record r = .record r' ∧ r'.scenario = .of s channel tenant := by
          rintro ⟨r', heq, hr'⟩
          exact hr (Place.record.inj heq ▸ hr')
        rw [Bool.eq_false_iff.2 (mt hbelow.1 hkept)]
        simp [hr]
  · intro q htenant
    cases q with
    | scenario ref =>
      have href : ref ≠ .of s channel tenant := fun heq => htenant (congrArg ScenarioRef.tenant heq)
      simp only [Ledger.node?, Dictionary.get?_erase, if_neg href]
    | record r =>
      have hr : r.scenario ≠ .of s channel tenant :=
        fun heq => htenant (congrArg ScenarioRef.tenant heq)
      simp [Ledger.node?, Dictionary.get?_retain_key, hr]
  · intro path node hget
    rw [Tree.remove, PathMap.get?_retain, Option.ite_none_right_eq_some, PathMap.get?_erase,
      Option.ite_none_left_eq_some] at hget
    exact .inr hget.2.2

theorem add (h : Keeps f l) (s : Scenario) (channel : Channel) (tenant : TenantId)
    (hnew : l.names.get? (.of s channel tenant) = none) :
    Keeps (f.put tenant ((f.tree tenant).add s channel))
      { l with names := l.names.put (.of s channel tenant) s.displayName } := by
  have hpath : Tree.scenarioPath channel s.key = (Place.scenario (.of s channel tenant)).path :=
    Tree.scenarioPath_eq (.of s channel tenant)
  have habsent : (f.tree tenant).contains (Tree.scenarioPath channel s.key) = false := by
    rw [PathMap.contains]
    exact congrArg Option.isSome ((h.name (.of s channel tenant) (Place.plain_key s)).trans
      (congrArg (Option.map _) hnew))
  simp only [Tree.add, habsent, Bool.false_eq_true, if_false]
  rw [hpath]
  refine h.put (Place.plain_scenario s channel tenant) ?_ ?_
  · simp only [Ledger.node?, Dictionary.get?_put, if_pos, Option.map_some]
  · intro q hne
    cases q with
    | scenario ref =>
      have href : ref ≠ .of s channel tenant := fun heq => hne (congrArg Place.scenario heq)
      simp only [Ledger.node?, Dictionary.get?_put, if_neg href]
    | record r => rfl

theorem put_same (h : Keeps f l) (tenant : TenantId) : Keeps (f.put tenant (f.tree tenant)) l :=
  h.change (fun _ hp htenant => h.node hp htenant) (fun _ _ => rfl) fun _ _ => .inr

theorem read (h : Keeps f l) (hl : l.Sound) (p : Position) :
    (f.tree p.scope.tenant).read p =
      .ok ((l.records.get? p.ref).map Template.dropEmptyFooter) := by
  simp only [Tree.read, h.record]
  cases ht : l.records.get? p.ref with
  | none => rfl
  | some t =>
    obtain ⟨-, -, hstorable, -⟩ := hl.records ht
    have hdecode := Node.decode_encode hstorable (Tree.positionPath p)
    have hchannel : t.channel = p.channel := hl.channel ht
    rw [hchannel] at hdecode
    simp only [Option.map_some, hdecode]
    rfl

theorem contains (h : Keeps f l) (s : Scenario) (channel : Channel) (tenant : TenantId) :
    (f.tree tenant).contains (Tree.scenarioPath channel s.key) =
      l.names.contains (.of s channel tenant) := by
  have hname := congrArg Option.isSome (h.name (.of s channel tenant) (Place.plain_key s))
  rw [Option.isSome_map] at hname
  exact hname

/-- A call does the same to the trees and to the ledger that they keep. -/
theorem step (h : Keeps f l) (hl : l.Tidy) {c : Call} (hc : c.Plain) :
    Keeps (backend c f).2 (Ledger.backend c l).2 := by
  cases c with
  | read | list | listAll | isRegistered | listScenarios => exact h
  | write t scope =>
    obtain ⟨hkey, hlocale⟩ := hc
    simp only [backend, Ledger.backend, Tree.write, h.nameOfTemplate hkey scope]
    cases l.names.get? (.ofTemplate t scope) with
    | none => exact h
    | some name => exact h.write hkey hlocale scope name
  | delete p => exact h.delete p
  | deleteAll s channel scope => exact h.deleteAll hl (Place.plain_scope s channel scope)
  | add s channel tenant =>
    simp only [backend, Ledger.backend]
    split
    · rename_i hcontains
      have hpresent := (h.contains s channel tenant).trans hcontains
      simp only [Tree.add, hpresent, if_true]
      exact h.put_same tenant
    · rename_i hnew
      exact h.add s channel tenant (by simpa [Dictionary.contains] using hnew)
  | remove s channel tenant =>
    simp only [backend, Ledger.backend, h.contains]
    split
    · exact h.remove s channel tenant
    · rename_i hcontains
      have hnone : l.names.get? (.of s channel tenant) = none := by
        simpa [Dictionary.contains] using hcontains
      refine h.congr fun q => ?_
      cases q with
      | scenario ref => rw [Ledger.node?, Ledger.node?, Dictionary.get?_erase_absent hnone]
      | record r =>
        rw [Ledger.node?, Ledger.node?, Dictionary.get?_retain_absent]
        intro r hr
        rw [decide_eq_false_iff_not, not_not] at hr
        exact hl.owned.record_none (by rw [hr, hnone])

end Keeps

/-- Call by call the trees answer like the ledger they keep, as long as what is written is accepted
and normalized. -/
theorem simulates_ledger :
    Simulates Template.dropEmptyFooter Call.Admissible backend Ledger.backend
      fun f l => Keeps f l ∧ l.Sound := by
  rintro c f l hc ⟨h, hl⟩
  refine ⟨?_, h.step hl.tidy hc.plain, hl.step hc⟩
  cases c with
  | read p =>
    simp only [backend, Ledger.backend, h.read hl]
    rfl
  | write t scope =>
    obtain ⟨hkey, -⟩ := hc.plain
    simp only [backend, Ledger.backend, Tree.write, h.nameOfTemplate hkey scope]
    cases l.names.get? (.ofTemplate t scope) <;> rfl
  | delete p =>
    have hcontains : (f.tree p.scope.tenant).contains (Tree.positionPath p) =
        l.records.contains p.ref := by
      rw [PathMap.contains, h.record, Dictionary.contains, Option.isSome_map]
    exact hcontains
  | list s channel scope =>
    obtain ⟨ts, hts, hperm⟩ := h.templatesBelow hl (Place.plain_scope s channel scope)
    simp only [backend, Ledger.backend]
    rw [show (f.tree scope.tenant).templatesBelow channel
      (Tree.scopePath channel s.key scope.applicationText) = .ok ts from hts]
    exact hperm
  | listAll channel tenant =>
    obtain ⟨tss, htss, hperm⟩ := h.allTemplates hl channel tenant
    simp only [backend, Ledger.backend, htss]
    exact hperm
  | deleteAll s channel scope =>
    have hlength := (h.perm_recordsBelow hl.tidy (Place.plain_scope s channel scope)).length_eq
    rw [List.length_map, ← List.length_map (f := Prod.snd)] at hlength
    exact hlength.symm
  | add s channel tenant => rfl
  | isRegistered s channel tenant => exact h.contains s channel tenant
  | listScenarios channel tenant =>
    have hperm := (h.perm_collections hl.tidy channel tenant).symm.map fun e => e.2.displayName
    rw [List.map_map] at hperm
    exact hperm
  | remove s channel tenant =>
    simp only [backend, Ledger.backend, h.contains]
    split
    · rename_i hcontains
      exact hcontains.symm
    · rename_i hcontains
      exact (Bool.eq_false_iff.2 hcontains).symm

end Forest
end Missive.Store

import Missive.Proofs.Store.AnyStore
import Missive.Proofs.Store.Registered

/-! Stores that have been written to without any checks. The texts of such templates may have slashes
in them, and then the paths of their records need not be those of places. But where a registered
scenario has its node in a tree there is nothing else, and what is left are records whose paths have
a slash below the channel (`Forest.Founded`). -/

namespace Missive.Store

/-- What is found after something was put was there before, or is what was put. -/
theorem PathMap.get?_put_cases {α : Type} {m : PathMap α} {p q : Path} {v w : α}
    (h : (m.put p v).get? q = some w) : m.get? q = some w ∨ (q = p ∧ w = v) := by
  rw [get?_put] at h
  split at h
  · rename_i hpath
    exact .inr ⟨hpath, (Option.some.inj h).symm⟩
  · exact .inl h

/-! ### Paths of arbitrary texts -/

namespace Tree

theorem channelRoot_append_inj {channel channel' : Channel} {p p' : Path} :
    channelRoot channel ++ p = channelRoot channel' ++ p' ↔ channel = channel' ∧ p = p' := by
  simp only [channelRoot_eq, Path.join_cons, Path.join_nil, List.append_assoc, List.cons_append,
    List.nil_append, List.cons.injEq, List.append_cancel_left_eq, true_and]
  cases channel <;> cases channel' <;> simp [Channel.pathSegment]

theorem scenarioPath_inj {channel channel' : Channel} {key key' : String} :
    scenarioPath channel key = scenarioPath channel' key' ↔ channel = channel' ∧ key = key' := by
  rw [scenarioPath, scenarioPath, channelRoot_append_inj, String.toList_inj]

/-- Below its channel the path of a record has a slash in it. -/
theorem exists_recordPath (channel : Channel) (key : String) (app : Option String)
    (locale : String) :
    ∃ rest, recordPath channel key app locale = channelRoot channel ++ rest ∧ '/' ∈ rest := by
  cases app with
  | none =>
    refine ⟨key.toList ++ '/' :: locale.toList, ?_, by simp⟩
    simp [recordPath, scopePath, scenarioPath]
  | some app =>
    refine ⟨key.toList ++ ("/apps/".toList ++ (app.toList ++ '/' :: locale.toList)), ?_, by simp⟩
    simp [recordPath, scopePath, scenarioPath]

/-- No record stands where a scenario has its node. -/
theorem recordPath_ne_scenarioPath (channel : Channel) (key : String) (app : Option String)
    (locale : String) {channel' : Channel} {key' : String} (hkey : Path.Plain key') :
    scenarioPath channel' key' ≠ recordPath channel key app locale := by
  obtain ⟨rest, hrest, hslash⟩ := exists_recordPath channel key app locale
  intro heq
  rw [hrest, scenarioPath, channelRoot_append_inj] at heq
  exact hkey (heq.2 ▸ hslash)

/-- Nor is it below another scenario. -/
theorem not_below_scenarioPath (channel : Channel) (key : String) {channel' : Channel}
    {key' : String} (hkey : Path.Plain key') :
    (scenarioPath channel key ++ ['/']).isPrefixOf (scenarioPath channel' key') = false := by
  rw [Bool.eq_false_iff, ne_eq, List.isPrefixOf_iff_prefix]
  rintro ⟨rest, hrest⟩
  rw [scenarioPath, scenarioPath, List.append_assoc, List.append_assoc,
    channelRoot_append_inj] at hrest
  refine hkey ?_
  rw [← hrest.2]
  simp

theorem contains_add (tree : Tree) (s : Scenario) (channel : Channel) (path : Path) :
    (tree.add s channel).contains path = true ↔
      path = scenarioPath channel s.key ∨ tree.contains path = true := by
  rw [add]
  split
  · rename_i hold
    constructor
    · exact .inr
    · rintro (rfl | h)
      · exact hold
      · exact h
  · by_cases hpath : path = scenarioPath channel s.key <;>
      simp [PathMap.contains, PathMap.get?_put, hpath]

theorem contains_remove (tree : Tree) (s : Scenario) (channel : Channel) {channel' : Channel}
    {key : String} (hkey : Path.Plain key) :
    (tree.remove s channel).contains (scenarioPath channel' key) = true ↔
      tree.contains (scenarioPath channel' key) = true ∧
        scenarioPath channel' key ≠ scenarioPath channel s.key := by
  rw [remove, PathMap.contains, PathMap.get?_retain, PathMap.get?_erase,
    not_below_scenarioPath channel s.key hkey]
  by_cases hpath : scenarioPath channel' key = scenarioPath channel s.key <;>
    simp [PathMap.contains, hpath]

end Tree

/-! ### The nodes of a tree -/

/-- The path leads below a channel, and there is a slash in the rest of it just if the node is a
record. -/
def Node.Suits (node : Node) (path : Path) : Prop :=
  ∃ channel rest, path = Tree.channelRoot channel ++ rest ∧ (node.isRecord = true ↔ '/' ∈ rest)

/-- A node at the path of a key is a record just if there is a slash in the key. -/
theorem Node.Suits.record_iff {node : Node} {channel : Channel} {key : String}
    (h : node.Suits (Tree.scenarioPath channel key)) : node.isRecord = true ↔ ¬Path.Plain key := by
  obtain ⟨channel', rest, hpath, hrecord⟩ := h
  obtain ⟨rfl, rfl⟩ := Tree.channelRoot_append_inj.1 hpath
  rw [hrecord, Path.Plain, not_not]

namespace Forest

/-- At the paths of plain keys the trees have nodes for the registered scenarios, and all nodes suit
their paths. -/
structure Founded (f : Forest) (calls : List Call) : Prop where
  names : ∀ {ref : ScenarioRef}, Path.Plain ref.key →
    ((f.tree ref.tenant).contains (Tree.scenarioPath ref.channel ref.key) = true ↔
      Registered calls ref)
  shaped : ∀ {tenant path node}, (f.tree tenant).get? path = some node → node.Suits path

namespace Founded

variable {f : Forest} {calls : List Call} {c : Call}

theorem empty : Founded ∅ [] where
  names _ := iff_of_false nofun not_registered_nil
  shaped := nofun

/-- A call that leaves the trees as they are. -/
theorem keep (h : Founded f calls) (hsame : ∀ {ref : ScenarioRef}, Path.Plain ref.key →
    (Registered calls ref ↔ c.Adds ref ∨ (Registered calls ref ∧ ¬c.Removes ref))) :
    Founded f (calls ++ [c]) where
  names hkey := by rw [h.names hkey, registered_concat, ← hsame hkey]
  shaped := h.shaped

/-- A call that changes one tenant's tree. -/
theorem change (h : Founded f calls) {tenant : TenantId} {tree : Tree}
    (hnames : ∀ {ref : ScenarioRef}, Path.Plain ref.key → ref.tenant = tenant →
      (tree.contains (Tree.scenarioPath ref.channel ref.key) = true ↔ c.Adds ref ∨
        ((f.tree tenant).contains (Tree.scenarioPath ref.channel ref.key) = true ∧
          ¬c.Removes ref)))
    (hothers : ∀ {ref : ScenarioRef}, ref.tenant ≠ tenant → ¬c.Adds ref ∧ ¬c.Removes ref)
    (hshaped : ∀ {path node}, tree.get? path = some node →
      (f.tree tenant).get? path = some node ∨ node.Suits path) :
    Founded (f.put tenant tree) (calls ++ [c]) where
  names {ref} hkey := by
    rw [registered_concat, ← h.names hkey, tree_put]
    split
    · rename_i htenant
      rw [hnames hkey htenant, htenant]
    · rename_i htenant
      simp [hothers htenant]
  shaped {tenant' path node} hnode := by
    rw [tree_put] at hnode
    split at hnode
    · rcases hshaped hnode with hold | hnew
      · exact h.shaped hold
      · exact hnew
    · exact h.shaped hnode

/-- Some records are dropped. -/
theorem retain (h : Founded f calls) (hc : ∀ ref, ¬c.Adds ref ∧ ¬c.Removes ref)
    {tenant : TenantId} {keep : Path → Bool}
    (hkeep : ∀ {channel key}, Path.Plain key → keep (Tree.scenarioPath channel key) = true) :
    Founded (f.put tenant ((f.tree tenant).retain keep)) (calls ++ [c]) := by
  refine h.change ?_ (fun _ => hc _) ?_
  · intro ref hkey _
    simp [PathMap.contains, PathMap.get?_retain, hkeep hkey, hc]
  · intro path node hnode
    rw [PathMap.get?_retain, Option.ite_none_right_eq_some] at hnode
    exact .inl hnode.2

theorem write (h : Founded f calls) (t : Template) (scope : Scope) (name : String) :
    Founded (f.put scope.tenant ((f.tree scope.tenant).put
        (Tree.recordPath t.channel t.scenarioKey scope.applicationText t.locale) (.encode t name)))
      (calls ++ [.write t scope]) := by
  refine h.change ?_ (fun _ => ⟨id, id⟩) ?_
  · intro ref hkey _
    have hne : Tree.scenarioPath ref.channel ref.key ≠
        Tree.recordPath t.channel t.scenarioKey scope.applicationText t.locale :=
      Tree.recordPath_ne_scenarioPath _ _ _ _ hkey
    simp [PathMap.contains, PathMap.get?_put, hne, Call.Adds, Call.Removes]
  · intro path node hnode
    rcases PathMap.get?_put_cases hnode with hold | ⟨rfl, rfl⟩
    · exact .inl hold
    · obtain ⟨rest, hrest, hslash⟩ :=
        Tree.exists_recordPath t.channel t.scenarioKey scope.applicationText t.locale
      exact .inr ⟨t.channel, rest, hrest, iff_of_true rfl hslash⟩

/-- The records below a path are not the nodes of registered scenarios. -/
theorem not_any_recordsBelow (h : Founded f calls) (tenant : TenantId) (start : Path)
    {channel : Channel} {key : String} (hkey : Path.Plain key) :
    ((f.tree tenant).recordsBelow start).any (·.1 = Tree.scenarioPath channel key) = false := by
  rw [List.any_eq_false]
  rintro ⟨path, node⟩ hmem hpath
  obtain rfl : path = Tree.scenarioPath channel key := of_decide_eq_true hpath
  obtain ⟨hchild, hrecord⟩ := List.mem_filter.1 hmem
  exact (h.shaped (PathMap.get?_of_mem_children hchild)).record_iff.1 hrecord hkey

theorem scenarioPath_eq_iff {ref : ScenarioRef} {s : Scenario} {channel : Channel} :
    Tree.scenarioPath ref.channel ref.key = Tree.scenarioPath channel s.key ↔
      ref = .of s channel ref.tenant := by
  rw [Tree.scenarioPath_inj, ScenarioRef.ext_iff]
  exact (and_iff_right rfl).symm

theorem add (h : Founded f calls) (s : Scenario) (channel : Channel) (tenant : TenantId) :
    Founded (f.put tenant ((f.tree tenant).add s channel)) (calls ++ [.add s channel tenant]) := by
  refine h.change ?_ (fun {ref} htenant => ⟨?_, id⟩) ?_
  · rintro ref - rfl
    rw [Tree.contains_add, scenarioPath_eq_iff]
    simp [Call.Adds, Call.Removes]
  · rintro rfl
    exact htenant rfl
  · intro path node hnode
    rw [Tree.add] at hnode
    split at hnode
    · exact .inl hnode
    · rcases PathMap.get?_put_cases hnode with hold | ⟨rfl, rfl⟩
      · exact .inl hold
      · exact .inr ⟨channel, s.key.toList, rfl,
          iff_of_false Bool.false_ne_true (Place.plain_key s)⟩

theorem remove (h : Founded f calls) (s : Scenario) (channel : Channel) (tenant : TenantId) :
    Founded (f.put tenant ((f.tree tenant).remove s channel))
      (calls ++ [.remove s channel tenant]) := by
  refine h.change ?_ (fun {ref} htenant => ⟨id, ?_⟩) ?_
  · rintro ref hkey rfl
    rw [Tree.contains_remove _ _ _ hkey, ne_eq, scenarioPath_eq_iff]
    simp [Call.Adds, Call.Removes]
  · rintro rfl
    exact htenant rfl
  · intro path node hnode
    rw [Tree.remove, PathMap.get?_retain, Option.ite_none_right_eq_some, PathMap.get?_erase,
      Option.ite_none_left_eq_some] at hnode
    exact .inl hnode.2.2

theorem step (h : Founded f calls) (c : Call) : Founded (backend c f).2 (calls ++ [c]) := by
  have hkeep {ref} (hadds : ¬c.Adds ref) (hremoves : ¬c.Removes ref) :
      Registered calls ref ↔ c.Adds ref ∨ (Registered calls ref ∧ ¬c.Removes ref) := by
    simp [hadds, hremoves]
  cases c with
  | read | list | listAll | isRegistered | listScenarios => exact h.keep fun _ => hkeep id id
  | write t scope =>
    simp only [backend, Tree.write]
    cases (f.tree scope.tenant).get? (Tree.scenarioPath t.channel t.scenarioKey) with
    | none => exact h.keep fun _ => hkeep id id
    | some node => exact h.write t scope node.displayName
  | delete p =>
    refine h.retain (fun _ => ⟨id, id⟩) fun hkey => decide_eq_true ?_
    exact Tree.recordPath_ne_scenarioPath _ _ _ _ hkey
  | deleteAll s channel scope =>
    refine h.retain (fun _ => ⟨id, id⟩) fun hkey => ?_
    rw [h.not_any_recordsBelow _ _ hkey, Bool.not_false]
  | add s channel tenant => exact h.add s channel tenant
  | remove s channel tenant =>
    simp only [backend]
    split
    · exact h.remove s channel tenant
    · rename_i habsent
      refine h.keep fun {ref} hkey => ?_
      have hne : Registered calls ref → ref ≠ .of s channel tenant := by
        rintro href rfl
        exact habsent ((h.names hkey).2 href)
      simpa [Call.Adds, Call.Removes] using hne

end Founded

/-- After any calls the trees have nodes for the registered scenarios. -/
theorem founded_after (calls : List Call) : Founded (after backend calls ∅) calls := by
  induction calls using List.reverseRecOn with
  | nil => exact .empty
  | append_singleton calls c ih =>
    rw [after_concat]
    exact ih.step c

end Forest
end Missive.Store

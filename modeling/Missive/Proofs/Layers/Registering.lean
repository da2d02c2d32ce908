import Missive.Proofs.Layers.Consistency

/-! Callers that register one scenario side by side. Each of them first checks that the scenario is new
and then registers it, and others may come in between: a store keeps the name that came first, and
takes no notice of a second one. So every caller whose check came before the first registration is
told that it has registered the scenario. There is a single such caller just if no other one's check
falls between its check and its registration. -/

namespace Missive

open Store

/-- The call neither registers nor removes the scenario. -/
def Store.Call.Spares (ref : ScenarioRef) : Call → Prop
  | .add s channel tenant | .remove s channel tenant => .of s channel tenant ≠ ref
  | _ => True

theorem Store.Ledger.names_of_spares {c : Call} {ref : ScenarioRef} (hc : c.Spares ref)
    (l : Ledger) : (Ledger.backend c l).2.names.get? ref = l.names.get? ref := by
  cases c with
  | read | delete | list | listAll | deleteAll | isRegistered | listScenarios => rfl
  | write t scope =>
    rw [Ledger.backend]
    split <;> rfl
  | add s channel tenant => exact (names_register l s channel tenant ref).trans (if_neg (Ne.symm hc))
  | remove s channel tenant => exact (Dictionary.get?_erase ..).trans (if_neg (Ne.symm hc))

namespace Durable

/-- A caller that registers a scenario. -/
structure Caller where
  scenario : Scenario
  /-- What is left of its call. -/
  rest : StoreProgram Unit

/-- The outcome of a call that has returned. -/
def Caller.outcome? (caller : Caller) : Option (Except Failure Unit) :=
  match caller.rest with
  | .done x => some x
  | .perform _ _ => none

/-- The outcome of a caller that finds its scenario registered. -/
def refusal (s : Scenario) (ref : ScenarioRef) : Except Failure Unit :=
  .error (.scenarioAlreadyExists s.displayName ref.channel ref.tenant)

/-- Callers over one store, each with a number of its own. -/
structure Contest where
  store : AnyStore
  callers : List Caller

inductive Turn where
  /-- A caller makes its next store call. -/
  | step (caller : Nat)
  /-- Somebody else makes a store call. -/
  | other (call : Call)

namespace Contest

/-- No call has been made yet. -/
def start (store : AnyStore) (scenarios : List Scenario) (channel : Channel) (tenant : TenantId) :
    Contest where
  store
  callers := scenarios.map fun s => ⟨s, addScenario s channel tenant⟩

def turn (c : Contest) : Turn → Contest
  | .step i =>
    match c.callers[i]? with
    | some ⟨s, .perform q next⟩ =>
      let (answer, store) := AnyStore.backend q c.store
      { store, callers := c.callers.set i ⟨s, next answer⟩ }
    | _ => c
  | .other q => { c with store := (AnyStore.backend q c.store).2 }

def play (c : Contest) (turns : List Turn) : Contest := turns.foldl turn c

/-- All calls have returned. -/
def Over (c : Contest) : Prop := ∀ caller ∈ c.callers, caller.outcome?.isSome = true

instance (c : Contest) : Decidable c.Over := inferInstanceAs (Decidable (∀ caller ∈ _, _))

/-- When the caller makes its first call, the scenario is not registered. -/
def Early (c : Contest) (ref : ScenarioRef) (turns : List Turn) (i : Nat) : Prop :=
  i < c.callers.length ∧ ∃ earlier later, turns = earlier ++ .step i :: later ∧
    .step i ∉ earlier ∧ ∀ name, ¬(c.play earlier).store.Registers ref name

/-- One caller alone has registered the scenario, under its own name; all others were refused. -/
structure Won (c : Contest) (ref : ScenarioRef) (winner : Nat) : Prop where
  registered : ∃ caller, c.callers[winner]? = some caller ∧ caller.outcome? = some (.ok ()) ∧
    c.store.Registers ref caller.scenario.displayName
  refused : ∀ i caller, i ≠ winner → c.callers[i]? = some caller →
    caller.outcome? = some (refusal caller.scenario ref)

theorem play_concat (c : Contest) (turns : List Turn) (t : Turn) :
    c.play (turns ++ [t]) = (c.play turns).turn t := by
  rw [play, List.foldl_append]
  rfl

theorem length_turn (c : Contest) (t : Turn) : (c.turn t).callers.length = c.callers.length := by
  cases t with
  | other q => rfl
  | step i =>
    simp only [turn]
    split
    · exact List.length_set ..
    · rfl

theorem length_play (c : Contest) (turns : List Turn) :
    (c.play turns).callers.length = c.callers.length := by
  induction turns generalizing c with
  | nil => rfl
  | cons t rest ih => exact (ih (c.turn t)).trans (c.length_turn t)

/-- A further turn decides about the caller whose first one it is. -/
theorem early_concat {c : Contest} {ref : ScenarioRef} {turns : List Turn} {t : Turn} {i : Nat} :
    c.Early ref (turns ++ [t]) i ↔ c.Early ref turns i ∨ i < c.callers.length ∧ t = .step i ∧
      .step i ∉ turns ∧ ∀ name, ¬(c.play turns).store.Registers ref name := by
  constructor
  · rintro ⟨hi, earlier, later, hturns, hfirst, hnew⟩
    rcases concat_eq_append_cons hturns with ⟨-, rfl, rfl⟩ | ⟨between, -, rfl⟩
    · exact .inr ⟨hi, rfl, hfirst, hnew⟩
    · exact .inl ⟨hi, earlier, between, rfl, hfirst, hnew⟩
  · rintro (⟨hi, earlier, later, rfl, hfirst, hnew⟩ | ⟨hi, rfl, hfirst, hnew⟩)
    · exact ⟨hi, earlier, later ++ [t], by simp, hfirst, hnew⟩
    · exact ⟨hi, turns, [], rfl, hfirst, hnew⟩

theorem Early.asked {c : Contest} {ref : ScenarioRef} {turns : List Turn} {i : Nat}
    (h : c.Early ref turns i) : .step i ∈ turns := by
  obtain ⟨-, earlier, later, rfl, -⟩ := h
  simp

/-- A turn of another decides nothing about a caller. -/
theorem early_concat_other {c : Contest} {ref : ScenarioRef} {turns : List Turn} {t : Turn} {i : Nat}
    (h : t ≠ .step i) : c.Early ref (turns ++ [t]) i ↔ c.Early ref turns i := by
  rw [early_concat]
  exact or_iff_left fun hfirst => h hfirst.2.1

/-- How far a caller has come: whether it has made its first call, and whether that was early. -/
inductive Standing (ref : ScenarioRef) (l : Ledger) (asked early : Prop) : Caller → Prop where
  | checking {s} : ¬asked → ¬early →
      Standing ref l asked early ⟨s, addScenario s ref.channel ref.tenant⟩
  | adding {s purpose} : asked → early →
      Standing ref l asked early ⟨s, ask purpose (.add s ref.channel ref.tenant)⟩
  | added {s} : asked → early → l.names.contains ref = true →
      Standing ref l asked early ⟨s, .done (.ok ())⟩
  | refused {s} : asked → ¬early → l.names.contains ref = true →
      Standing ref l asked early ⟨s, .done (refusal s ref)⟩

namespace Standing

variable {ref : ScenarioRef} {l l' : Ledger} {asked asked' early early' : Prop} {caller : Caller}

theorem carry (h : Standing ref l asked early caller) (hasked : asked' ↔ asked)
    (hearly : early' ↔ early)
    (hstays : l.names.contains ref = true → l'.names.contains ref = true) :
    Standing ref l' asked' early' caller := by
  rw [← hasked, ← hearly] at h
  cases h with
  | checking hasked hearly => exact .checking hasked hearly
  | adding hasked hearly => exact .adding hasked hearly
  | added hasked hearly hcontains => exact .added hasked hearly (hstays hcontains)
  | refused hasked hearly hcontains => exact .refused hasked hearly (hstays hcontains)

/-- Where a caller stands that has an outcome. -/
theorem outcome (h : Standing ref l asked early caller) {x : Except Failure Unit}
    (hx : caller.outcome? = some x) : asked ∧ l.names.contains ref = true ∧
      (early ∧ x = .ok () ∨ ¬early ∧ x = refusal caller.scenario ref) := by
  cases h with
  | checking | adding => cases hx
  | added hasked hearly hcontains =>
    cases hx
    exact ⟨hasked, hcontains, .inl ⟨hearly, rfl⟩⟩
  | refused hasked hearly hcontains =>
    cases hx
    exact ⟨hasked, hcontains, .inr ⟨hearly, rfl⟩⟩

end Standing

/-- What holds while the turns are played: every caller stands as its check came out, and the scenario's
name is that of a caller that has registered it. -/
structure Underway (c : Contest) (ref : ScenarioRef) (turns : List Turn) (l : Ledger) : Prop where
  keeps : (c.play turns).store.Keeps l
  sound : l.Sound
  callers : ∀ {i caller}, (c.play turns).callers[i]? = some caller → caller.scenario.key = ref.key ∧
    Standing ref l (.step i ∈ turns) (c.Early ref turns i) caller
  named : ∀ {name}, l.names.get? ref = some name → ∃ (i : Nat) (caller : Caller),
    (c.play turns).callers[i]? = some caller ∧ caller.outcome? = some (.ok ()) ∧
      caller.scenario.displayName = name

namespace Underway

variable {c : Contest} {ref : ScenarioRef} {turns : List Turn} {l : Ledger}

theorem registers_iff (h : c.Underway ref turns l) {name : String} :
    (c.play turns).store.Registers ref name ↔ l.names.get? ref = some name :=
  AnyStore.registers_iff h.keeps h.sound

/-- Nobody becomes early once the scenario is registered. -/
theorem early_of_contains (h : c.Underway ref turns l) (hcontains : l.names.contains ref = true)
    {t : Turn} {i : Nat} : c.Early ref (turns ++ [t]) i ↔ c.Early ref turns i := by
  rw [early_concat]
  refine or_iff_left ?_
  rintro ⟨-, -, -, hnew⟩
  obtain ⟨name, hname⟩ := Option.isSome_iff_exists.1 hcontains
  exact hnew name (h.registers_iff.2 hname)

/-- A turn that changes nothing is no turn, or that of a caller that has an outcome. -/
theorem still (h : c.Underway ref turns l) {i : Nat}
    (hsame : (c.play turns).turn (.step i) = c.play turns)
    (hdone : ∀ caller, (c.play turns).callers[i]? = some caller → ∃ x, caller.outcome? = some x) :
    c.Underway ref (turns ++ [.step i]) l := by
  rw [← play_concat] at hsame
  refine ⟨hsame ▸ h.keeps, h.sound, fun {j caller} hcaller => ?_, hsame ▸ h.named⟩
  rw [hsame] at hcaller
  obtain ⟨hkey, hstanding⟩ := h.callers hcaller
  refine ⟨hkey, ?_⟩
  by_cases hj : j = i
  · subst hj
    obtain ⟨x, hx⟩ := hdone caller hcaller
    obtain ⟨hasked, hcontains, -⟩ := hstanding.outcome hx
    exact hstanding.carry (by simp [hasked]) (h.early_of_contains hcontains) id
  · exact hstanding.carry (by simp [hj]) (early_concat_other (by simp [Ne.symm hj])) id

/-- The turn of a caller that makes a call. -/
theorem advance (h : c.Underway ref turns l) {i : Nat} {s : Scenario} {q : Call}
    {next : q.Answer → StoreProgram Unit}
    (hcaller : (c.play turns).callers[i]? = some ⟨s, .perform q next⟩) {a : q.Answer} {l' : Ledger}
    (ha : (AnyStore.backend q (c.play turns).store).1 = a)
    (hkeeps : (AnyStore.backend q (c.play turns).store).2.Keeps l') (hl' : l'.Sound)
    (hstays : ∀ name, l.names.get? ref = some name → l'.names.get? ref = some name)
    (hname : ∀ name, l'.names.get? ref = some name → l.names.get? ref = some name ∨
      s.displayName = name ∧ next a = .done (.ok ()))
    (hstanding : Standing ref l' True (c.Early ref (turns ++ [.step i]) i) ⟨s, next a⟩) :
    c.Underway ref (turns ++ [.step i]) l' := by
  have hturn : c.play (turns ++ [.step i]) =
      { store := (AnyStore.backend q (c.play turns).store).2
        callers := (c.play turns).callers.set i ⟨s, next a⟩ } := by
    simp only [play_concat, Contest.turn, hcaller, ha]
  have hlength := (List.getElem?_eq_some_iff.1 hcaller).1
  have hset : ((c.play turns).callers.set i ⟨s, next a⟩)[i]? = some ⟨s, next a⟩ :=
    List.getElem?_set_self hlength
  refine ⟨by rwa [hturn], hl', fun {j caller} hj => ?_, fun {name} hregistered => ?_⟩
  · rw [hturn] at hj
    by_cases hne : i = j
    · subst hne
      cases hset.symm.trans hj
      refine ⟨(h.callers hcaller).1, hstanding.carry (by simp) Iff.rfl id⟩
    · rw [List.getElem?_set_ne hne] at hj
      obtain ⟨hkey, hother⟩ := h.callers hj
      refine ⟨hkey, hother.carry (by simp [Ne.symm hne]) (early_concat_other (by simp [hne])) ?_⟩
      intro hcontains
      obtain ⟨name, hname⟩ := Option.isSome_iff_exists.1 hcontains
      exact Option.isSome_iff_exists.2 ⟨name, hstays name hname⟩
  · rw [hturn]
    rcases hname name hregistered with hold | ⟨hs, hdone⟩
    · obtain ⟨j, caller, hj, hrest, hcallerName⟩ := h.named hold
      refine ⟨j, caller, ?_, hrest, hcallerName⟩
      rw [List.getElem?_set_ne, hj]
      rintro rfl
      cases hcaller.symm.trans hj
      cases hrest
    · exact ⟨i, _, hset, by rw [Caller.outcome?, hdone], hs⟩

/-- The turn of a caller that checks whether the scenario is registered. -/
theorem check (h : c.Underway ref turns l) {i : Nat} {s : Scenario}
    (hcaller : (c.play turns).callers[i]? = some ⟨s, addScenario s ref.channel ref.tenant⟩)
    (hasked : .step i ∉ turns) (hearly : ¬c.Early ref turns i) :
    c.Underway ref (turns ++ [.step i]) l := by
  have href : ScenarioRef.of s ref.channel ref.tenant = ref :=
    ScenarioRef.ext rfl rfl (h.callers hcaller).1
  have hlength := (List.getElem?_eq_some_iff.1 hcaller).1
  rw [length_play] at hlength
  have hanswer := (shows_of_keeps h.keeps h.sound).isRegistered s ref.channel ref.tenant
  rw [href] at hanswer
  refine h.advance hcaller (congrArg Prod.fst hanswer) (hanswer ▸ h.keeps) h.sound (fun _ => id)
    (fun _ => .inl) ?_
  cases hcontains : l.names.contains ref with
  | true => exact .refused trivial (mt (h.early_of_contains hcontains).1 hearly) hcontains
  | false =>
    refine .adding trivial (early_concat.2 (.inr ⟨hlength, rfl, hasked, fun name => ?_⟩))
    rw [h.registers_iff]
    exact fun hname => Bool.eq_false_iff.1 hcontains (Option.isSome_of_mem hname)

/-- The turn of a caller that registers the scenario: it gives its name if there is none. -/
theorem register (h : c.Underway ref turns l) {i : Nat} {s : Scenario} {purpose : String}
    (hcaller : (c.play turns).callers[i]? = some ⟨s, ask purpose (.add s ref.channel ref.tenant)⟩)
    (hearly : c.Early ref turns i) :
    c.Underway ref (turns ++ [.step i]) (l.register s ref.channel ref.tenant) := by
  have href : ScenarioRef.of s ref.channel ref.tenant = ref :=
    ScenarioRef.ext rfl rfl (h.callers hcaller).1
  obtain ⟨hagree, hkeeps, -⟩ := AnyStore.simulates_ledger h.keeps h.sound
    (c := .add s ref.channel ref.tenant) trivial
  obtain ⟨a, ha, -⟩ := hagree.ok
  have hname := l.names_register s ref.channel ref.tenant ref
  rw [href, if_pos rfl] at hname
  refine h.advance hcaller ha hkeeps (h.sound.step trivial) (fun old hold => ?_)
    (fun new hnew => ?_) (.added trivial (early_concat.2 (.inl hearly)) (Option.isSome_of_mem hname))
  · rw [hname, hold]
    rfl
  · rw [hname, Option.some.injEq] at hnew
    cases hold : l.names.get? ref with
    | some old =>
      rw [hold] at hnew
      exact .inl (congrArg some hnew)
    | none =>
      rw [hold] at hnew
      exact .inr ⟨hnew, rfl⟩

/-- The turn of somebody else. -/
theorem other (h : c.Underway ref turns l) {q : Call} (hadmissible : q.Admissible)
    (hspares : q.Spares ref) : c.Underway ref (turns ++ [.other q]) (Ledger.backend q l).2 := by
  obtain ⟨-, hkeeps, -⟩ := AnyStore.simulates_ledger h.keeps h.sound hadmissible
  have hname := Ledger.names_of_spares hspares l
  have hturn := c.play_concat turns (.other q)
  refine ⟨by rw [hturn]; exact hkeeps, h.sound.step hadmissible, ?_, ?_⟩
  · intro j caller hj
    rw [hturn] at hj
    obtain ⟨hkey, hstanding⟩ := h.callers hj
    refine ⟨hkey, hstanding.carry (by simp) (early_concat_other (by simp)) ?_⟩
    rw [Dictionary.contains, Dictionary.contains, hname]
    exact id
  · rw [hname, hturn]
    exact h.named

theorem turn (h : c.Underway ref turns l) {t : Turn}
    (ht : ∀ q, t = .other q → q.Admissible ∧ q.Spares ref) :
    ∃ l', c.Underway ref (turns ++ [t]) l' := by
  cases t with
  | other q =>
    obtain ⟨hadmissible, hspares⟩ := ht q rfl
    exact ⟨_, h.other hadmissible hspares⟩
  | step i =>
    cases hcaller : (c.play turns).callers[i]? with
    | none =>
      refine ⟨l, h.still (by simp only [Contest.turn, hcaller]) fun caller hsome => ?_⟩
      cases hcaller.symm.trans hsome
    | some caller =>
      cases (h.callers hcaller).2 with
      | checking hasked hearly => exact ⟨l, h.check hcaller hasked hearly⟩
      | adding hasked hearly => exact ⟨_, h.register hcaller hearly⟩
      | added | refused =>
        exact ⟨l, h.still (by simp only [Contest.turn, hcaller]) fun _ hsome =>
          ⟨_, congrArg Caller.outcome? (Option.some.inj (hsome.symm.trans hcaller))⟩⟩

theorem play (h : c.Underway ref turns l) {more : List Turn}
    (hothers : ∀ q, .other q ∈ more → q.Admissible ∧ q.Spares ref) :
    ∃ l', c.Underway ref (turns ++ more) l' := by
  induction more generalizing turns l with
  | nil => exact ⟨l, by rwa [List.append_nil]⟩
  | cons t rest ih =>
    obtain ⟨l', h'⟩ := h.turn fun q ht => hothers q (ht ▸ List.mem_cons_self)
    rw [List.append_cons]
    exact ih h' fun q hq => hothers q (List.mem_cons_of_mem t hq)

/-- At the end a caller has registered the scenario if it was early, and else was refused. -/
theorem outcome (h : c.Underway ref turns l) (hover : (c.play turns).Over) {i : Nat} {caller : Caller}
    (hcaller : (c.play turns).callers[i]? = some caller) :
    (c.Early ref turns i → caller.outcome? = some (.ok ())) ∧
      (¬c.Early ref turns i → caller.outcome? = some (refusal caller.scenario ref)) := by
  obtain ⟨x, hx⟩ := Option.isSome_iff_exists.1 (hover caller (List.mem_of_getElem? hcaller))
  obtain ⟨-, -, ⟨hearly, rfl⟩ | ⟨hlate, rfl⟩⟩ := (h.callers hcaller).2.outcome hx
  · exact ⟨fun _ => hx, absurd hearly⟩
  · exact ⟨fun hearly => absurd hearly hlate, fun _ => hx⟩

/-- At the end, if there are callers at all, the scenario has the name that an early one gave it. -/
theorem exists_named (h : c.Underway ref turns l) (hover : (c.play turns).Over)
    (hsome : (c.play turns).callers ≠ []) :
    ∃ i caller, (c.play turns).callers[i]? = some caller ∧ c.Early ref turns i ∧
      (c.play turns).store.Registers ref caller.scenario.displayName := by
  obtain ⟨first, rest, hcallers⟩ := List.exists_cons_of_ne_nil hsome
  have hfirst : (c.play turns).callers[0]? = some first := by rw [hcallers, List.getElem?_cons_zero]
  obtain ⟨x, hx⟩ := Option.isSome_iff_exists.1 (hover first (List.mem_of_getElem? hfirst))
  obtain ⟨-, hcontains, -⟩ := (h.callers hfirst).2.outcome hx
  obtain ⟨name, hname⟩ := Option.isSome_iff_exists.1 hcontains
  obtain ⟨i, caller, hcaller, hdone, rfl⟩ := h.named hname
  refine ⟨i, caller, hcaller, ?_, h.registers_iff.2 hname⟩
  by_contra hlate
  cases hdone.symm.trans ((h.outcome hover hcaller).2 hlate)

/-- There is a single winner just if there was a single early check. -/
theorem won_iff (h : c.Underway ref turns l) (hover : (c.play turns).Over) :
    (∃ winner, (c.play turns).Won ref winner) ↔ ∃! i, c.Early ref turns i := by
  have hlength := c.length_play turns
  constructor
  · rintro ⟨winner, ⟨caller, hcaller, hdone, -⟩, hrefused⟩
    refine ⟨winner, ?_, fun i hi => ?_⟩
    · by_contra hlate
      cases hdone.symm.trans ((h.outcome hover hcaller).2 hlate)
    · by_contra hne
      have hother := List.getElem?_eq_getElem (hlength ▸ hi.1 : i < (c.play turns).callers.length)
      cases ((h.outcome hover hother).1 hi).symm.trans (hrefused i _ hne hother)
  · rintro ⟨i, hi, honly⟩
    have hlt : i < (c.play turns).callers.length := hlength ▸ hi.1
    obtain ⟨j, caller, hcaller, hj, hregistered⟩ :=
      h.exists_named hover (List.ne_nil_of_length_pos (by omega))
    obtain rfl := honly j hj
    exact ⟨j, ⟨caller, hcaller, (h.outcome hover hcaller).1 hi, hregistered⟩,
      fun k other hne hother => (h.outcome hover hother).2 fun hk => hne (honly k hk)⟩

end Underway

theorem underway_start {store : AnyStore} {l : Ledger} {ref : ScenarioRef} {scenarios : List Scenario}
    (hkeeps : store.Keeps l) (hl : l.Sound) (hkey : ∀ s ∈ scenarios, s.key = ref.key)
    (hnew : ∀ name, ¬store.Registers ref name) :
    (start store scenarios ref.channel ref.tenant).Underway ref [] l where
  keeps := hkeeps
  sound := hl
  callers {i caller} hcaller := by
    rw [play, List.foldl_nil, start, List.getElem?_map, Option.map_eq_some_iff] at hcaller
    obtain ⟨s, hs, rfl⟩ := hcaller
    exact ⟨hkey s (List.mem_of_getElem? hs),
      .checking List.not_mem_nil fun h => List.not_mem_nil h.asked⟩
  named {name} hname := absurd ((AnyStore.registers_iff hkeeps hl).2 hname) (hnew name)

end Contest

/-- Callers that register one new scenario side by side, over either kind of store and with other calls
in between: when all have an outcome, those whose check came before the first registration have
registered the scenario, and the others were refused. The name is that of one of the former. So a single
caller has registered it, under its own name, just if there was a single early check. -/
theorem early_callers_register (layers : Layers) (kind : Kind) (ops : List Layers.Operation)
    {scenarios : List Scenario} {ref : ScenarioRef} (hkey : ∀ s ∈ scenarios, s.key = ref.key)
    (hnew : ∀ name, ¬(layers.through (.empty kind) ops).Registers ref name) {turns : List Turn}
    (hothers : ∀ q, .other q ∈ turns → q.Admissible ∧ q.Spares ref) :
    let start := Contest.start (layers.through (.empty kind) ops) scenarios ref.channel ref.tenant
    let final := start.play turns
    final.Over →
    (∀ i caller, final.callers[i]? = some caller →
      (start.Early ref turns i → caller.outcome? = some (.ok ())) ∧
      (¬start.Early ref turns i → caller.outcome? = some (refusal caller.scenario ref))) ∧
    (scenarios ≠ [] → ∃ i caller, final.callers[i]? = some caller ∧ start.Early ref turns i ∧
      final.store.Registers ref caller.scenario.displayName) ∧
    ((∃ winner, final.Won ref winner) ↔ ∃! i, start.Early ref turns i) := by
  intro start final hover
  obtain ⟨l₀, hkeeps, hl⟩ := layers.sound_through (AnyStore.sound_empty kind) ops
  obtain ⟨l, h⟩ := (Contest.underway_start hkeeps hl hkey hnew).play hothers
  rw [List.nil_append] at h
  refine ⟨fun i caller => h.outcome hover, fun hsome => h.exists_named hover fun hnone => ?_,
    h.won_iff hover⟩
  have hlength : final.callers.length = start.callers.length := start.length_play turns
  rw [hnone, List.length_nil] at hlength
  exact hsome (List.map_eq_nil_iff.1 (List.length_eq_zero_iff.1 hlength.symm))

/-- Three callers with two spellings. The second one registers the scenario while the first is about to,
and before the third one's check. -/
theorem early_callers_register_otp :
    let otp : Scenario := ⟨"OTP", by rfl, by decide +kernel⟩
    let spaced : Scenario := ⟨"O T P", by rfl, by decide +kernel⟩
    let ref : ScenarioRef := ⟨⟨1⟩, .sms, "otp"⟩
    let start := Contest.start ((Layers.mk .empty {}).through (.empty .forest)
      [.addScenario otp .email ⟨1⟩]) [otp, spaced, otp] .sms ⟨1⟩
    let turns : List Turn :=
      [.step 0, .step 1, .other (.listScenarios .sms ⟨1⟩), .step 1, .step 2, .step 0]
    (start.play turns).Over ∧ start.Early ref turns 0 ∧ start.Early ref turns 1 ∧
      ¬start.Early ref turns 2 ∧ ¬∃ winner, (start.play turns).Won ref winner := by
  intro otp spaced ref start turns
  have hlisted : (AnyStore.backend (.listScenarios .sms ⟨1⟩) start.store).1 = .ok [] := by
    decide +kernel
  have hnew : ∀ name, ¬start.store.Registers ref name := by
    rintro name ⟨names, hnames, hname, -⟩
    cases hlisted.symm.trans hnames
    exact List.not_mem_nil hname
  have hothers : ∀ q, .other q ∈ turns → q.Admissible ∧ q.Spares ref := by
    intro q hq
    obtain rfl : q = .listScenarios .sms ⟨1⟩ := by simpa [turns] using hq
    exact ⟨trivial, trivial⟩
  have hkey : ∀ s ∈ [otp, spaced, otp], s.key = ref.key := by decide +kernel
  have hover : (start.play turns).Over := by decide +kernel
  obtain ⟨houtcome, -, hwon⟩ := early_callers_register ⟨.empty, {}⟩ .forest
    [.addScenario otp .email ⟨1⟩] hkey hnew hothers hover
  have houtcomes : (start.play turns).callers.map Caller.outcome? =
      [some (.ok ()), some (.ok ()), some (refusal otp ref)] := by decide +kernel
  have hcaller (i : Nat) (x : Option (Except Failure Unit))
      (hi : ((start.play turns).callers.map Caller.outcome?)[i]? = some x) :
      ∃ caller, (start.play turns).callers[i]? = some caller ∧ caller.outcome? = x := by
    rwa [List.getElem?_map, Option.map_eq_some_iff] at hi
  have hearly (i : Nat) (hi : ((start.play turns).callers.map Caller.outcome?)[i]? =
      some (some (.ok ()))) : start.Early ref turns i := by
    obtain ⟨caller, hi, hok⟩ := hcaller i _ hi
    by_contra hlate
    cases hok.symm.trans ((houtcome i caller hi).2 hlate)
  have hfirst := hearly 0 (by rw [houtcomes]; rfl)
  have hsecond := hearly 1 (by rw [houtcomes]; rfl)
  refine ⟨hover, hfirst, hsecond, fun hthird => ?_, fun hwinner => ?_⟩
  · obtain ⟨caller, hi, hrefused⟩ := hcaller 2 _ (by rw [houtcomes]; rfl)
    cases hrefused.symm.trans ((houtcome 2 caller hi).1 hthird)
  · obtain ⟨i, -, honly⟩ := hwon.1 hwinner
    cases (honly 0 hfirst).trans (honly 1 hsecond).symm

/-- Two callers that both check before either registers. Both are told that they have registered the
scenario; it has the second one's name. -/
theorem two_callers_register :
    let upper : Scenario := ⟨"OTP", by rfl, by decide +kernel⟩
    let mixed : Scenario := ⟨"Otp", by rfl, by decide +kernel⟩
    let final := (Contest.start (.empty .tables) [upper, mixed] .sms ⟨1⟩).play
      [.step 0, .step 1, .step 1, .step 0]
    final.Over ∧ (AnyStore.backend (.listScenarios .sms ⟨1⟩) final.store).1 = .ok ["Otp"] ∧
      final.callers.map Caller.outcome? = [some (.ok ()), some (.ok ())] ∧
      ¬∃ winner, final.Won ⟨⟨1⟩, .sms, "otp"⟩ winner := by
  intro upper mixed final
  have houtcomes : final.callers.map Caller.outcome? = [some (.ok ()), some (.ok ())] := by
    decide +kernel
  refine ⟨by decide +kernel, by decide +kernel, houtcomes, ?_⟩
  rintro ⟨winner, hwon⟩
  obtain ⟨i, hne, hi⟩ : ∃ i, i ≠ winner ∧
      (final.callers.map Caller.outcome?)[i]? = some (some (.ok ())) := by
    rw [houtcomes]
    rcases Nat.eq_zero_or_pos winner with rfl | hpos
    · exact ⟨1, Nat.one_ne_zero, rfl⟩
    · exact ⟨0, Nat.ne_of_lt hpos, rfl⟩
  rw [List.getElem?_map, Option.map_eq_some_iff] at hi
  obtain ⟨caller, hcaller, hok⟩ := hi
  cases hok.symm.trans (hwon.refused i caller hne hcaller)

end Durable
end Missive

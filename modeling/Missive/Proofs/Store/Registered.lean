import Mathlib.Data.List.Induction
import Missive.Proofs.Store.Agreement
import Missive.Proofs.Store.Ledger

/-! What is registered, told from the calls alone: a scenario is registered if a call added it and no
later one removed it. The names in a ledger say the same, whatever else was called. -/

namespace Missive.Store

section

variable {S : Type}

/-- The state that calls lead to, one after the other. -/
def after (b : Backend S) (calls : List Call) (s : S) : S := calls.foldl (fun s c => (b c s).2) s

theorem after_concat (b : Backend S) (calls : List Call) (c : Call) (s : S) :
    after b (calls ++ [c]) s = (b c (after b calls s)).2 := by
  simp [after]

/-- Stores whose states go through the same changes stay alike. -/
theorem after_map {T : Type} {b : Backend S} {b' : Backend T} (f : S → T)
    (h : ∀ c s, (b' c (f s)).2 = f (b c s).2) (calls : List Call) (s : S) :
    after b' calls (f s) = f (after b calls s) := by
  induction calls using List.reverseRecOn with
  | nil => rfl
  | append_singleton calls c ih => rw [after_concat, after_concat, ih, h]

end

namespace Call

/-- It adds the scenario, under some name. -/
def Adds : Call → ScenarioRef → Prop
  | .add s channel tenant, ref => ref = .of s channel tenant
  | _, _ => False

/-- It removes the scenario, by some name. -/
def Removes : Call → ScenarioRef → Prop
  | .remove s channel tenant, ref => ref = .of s channel tenant
  | _, _ => False

theorem Adds.exists_scenario {c : Call} {ref : ScenarioRef} (h : c.Adds ref) :
    ∃ s : Scenario, s.key = ref.key := by
  cases c with
  | add s channel tenant => exact ⟨s, (congrArg ScenarioRef.key h).symm⟩
  | read | write | delete | list | listAll | deleteAll | isRegistered | listScenarios | remove =>
    cases h

end Call

/-- Among the calls is one that began something, given those before it, and none after it has ended
it. -/
def Since (began : List Call → Call → Prop) (ended : Call → Prop) (calls : List Call) : Prop :=
  ∃ earlier c later, calls = earlier ++ c :: later ∧ began earlier c ∧ ∀ c' ∈ later, ¬ended c'

section

variable (began : List Call → Call → Prop) (ended : Call → Prop) {calls : List Call} {c : Call}

theorem since_concat :
    Since began ended (calls ++ [c]) ↔ began calls c ∨ (Since began ended calls ∧ ¬ended c) := by
  constructor
  · rintro ⟨earlier, a, later, hcalls, hbegan, hkept⟩
    rcases concat_eq_append_cons hcalls with ⟨rfl, rfl, rfl⟩ | ⟨between, rfl, rfl⟩
    · exact .inl hbegan
    · refine .inr ⟨⟨earlier, a, between, rfl, hbegan, fun c' hc' => ?_⟩, ?_⟩
      · exact hkept c' (List.mem_append_left _ hc')
      · exact hkept c (List.mem_append_right _ List.mem_cons_self)
  · rintro (hbegan | ⟨⟨earlier, a, later, rfl, hbegan, hkept⟩, hended⟩)
    · exact ⟨calls, c, [], rfl, hbegan, by simp⟩
    · refine ⟨earlier, a, later ++ [c], by simp, hbegan, fun c' hc' => ?_⟩
      rcases List.mem_append.1 hc' with hc' | hc'
      · exact hkept c' hc'
      · rw [List.mem_singleton.1 hc']
        exact hended

theorem not_since_nil : ¬Since began ended [] := by
  rintro ⟨earlier, c, later, h, -⟩
  cases earlier <;> cases h

end

/-- The scenario has been added, and not been removed since. -/
def Registered (calls : List Call) (ref : ScenarioRef) : Prop :=
  ∃ earlier c later, calls = earlier ++ c :: later ∧ c.Adds ref ∧ ∀ c' ∈ later, ¬c'.Removes ref

variable {calls : List Call} {c : Call} {ref : ScenarioRef}

theorem registered_concat :
    Registered (calls ++ [c]) ref ↔ c.Adds ref ∨ (Registered calls ref ∧ ¬c.Removes ref) :=
  since_concat (fun _ c => c.Adds ref) (·.Removes ref)

theorem not_registered_nil : ¬Registered [] ref :=
  not_since_nil (fun _ c => c.Adds ref) (·.Removes ref)

/-- Only scenarios with accepted names are ever registered. -/
theorem Registered.exists_scenario (h : Registered calls ref) : ∃ s : Scenario, s.key = ref.key := by
  obtain ⟨_, _, _, -, hadds, -⟩ := h
  exact hadds.exists_scenario

/-- What one call does to the names in a ledger. -/
theorem Ledger.contains_step {l : Ledger} : (backend c l).2.names.contains ref = true ↔
    c.Adds ref ∨ (l.names.contains ref = true ∧ ¬c.Removes ref) := by
  cases c with
  | read | delete | list | listAll | deleteAll | isRegistered | listScenarios =>
    simp [backend, Call.Adds, Call.Removes]
  | write t scope =>
    simp only [backend, Call.Adds, Call.Removes]
    split <;> simp
  | add s channel tenant =>
    simp only [backend, Call.Adds, Call.Removes]
    split
    · rename_i hold
      by_cases href : ref = .of s channel tenant <;> simp [href, hold]
    · by_cases href : ref = .of s channel tenant <;>
        simp [Dictionary.contains, Dictionary.get?_put, href]
  | remove s channel tenant =>
    simp only [backend, Call.Adds, Call.Removes]
    by_cases href : ref = .of s channel tenant <;>
      simp [Dictionary.contains, Dictionary.get?_erase, href]

/-- After any calls a ledger has names for the registered scenarios. -/
theorem Ledger.contains_after (calls : List Call) (ref : ScenarioRef) :
    (after backend calls .empty).names.contains ref = true ↔ Registered calls ref := by
  induction calls using List.reverseRecOn with
  | nil =>
    refine ⟨fun h => ?_, fun h => absurd h not_registered_nil⟩
    cases h
  | append_singleton calls c ih => rw [after_concat, contains_step, ih, registered_concat]

end Missive.Store

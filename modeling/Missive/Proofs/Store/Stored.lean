import Missive.Proofs.Store.Registered

/-! What is stored, told from the calls alone: a template is stored at a place if a call wrote it there
while its scenario was registered, and no later one has written there again, deleted it or removed the
scenario. It bears the name that the scenario was registered with. The ledger says the same, whatever
else was called. -/

namespace Missive.Store

namespace Call

/-- It adds the scenario under the name. -/
def AddsAs : Call → ScenarioRef → String → Prop
  | .add s channel tenant, ref, name => ref = .of s channel tenant ∧ name = s.displayName
  | _, _, _ => False

/-- It stores the template at the place. -/
def Stores : Call → RecordRef → Template → Prop
  | .write t scope, r, t' => r = .ofTemplate t scope ∧ t' = t
  | _, _, _ => False

/-- What was stored at the place is not there any more. -/
def Clears : Call → RecordRef → Prop
  | .write t scope, r => r = .ofTemplate t scope
  | .delete p, r => r = p.ref
  | .deleteAll s channel scope, r =>
    r.scenario = .of s channel scope.tenant ∧ r.application = scope.applicationText
  | .remove s channel tenant, r => r.scenario = .of s channel tenant
  | _, _ => False

variable {c : Call} {r : RecordRef} {t : Template}

theorem AddsAs.adds {ref : ScenarioRef} {name : String} (h : c.AddsAs ref name) : c.Adds ref := by
  cases c with
  | add => exact h.1
  | read | write | delete | list | listAll | deleteAll | isRegistered | listScenarios | remove => cases h

theorem Stores.not_removes (h : c.Stores r t) : ¬c.Removes r.scenario := by
  cases c with
  | write => exact id
  | read | delete | list | listAll | deleteAll | add | isRegistered | listScenarios | remove => cases h

theorem Stores.not_adds (h : c.Stores r t) (name : String) : ¬c.AddsAs r.scenario name := by
  cases c with
  | write => exact id
  | read | delete | list | listAll | deleteAll | add | isRegistered | listScenarios | remove => cases h

/-- A scenario takes its records along. -/
theorem Removes.clears (h : c.Removes r.scenario) : c.Clears r := by
  cases c with
  | remove => exact h
  | read | write | delete | list | listAll | deleteAll | add | isRegistered | listScenarios => cases h

end Call

/-- The scenario was added under the name while it was not registered, and not removed since. -/
def RegisteredAs (calls : List Call) (ref : ScenarioRef) (name : String) : Prop :=
  Since (fun earlier c => c.AddsAs ref name ∧ ¬Registered earlier ref) (·.Removes ref) calls

/-- The template was written to the place while its scenario was registered, and nothing has cleared
the place since. -/
def Stored (calls : List Call) (r : RecordRef) (t : Template) : Prop :=
  Since (fun earlier c => c.Stores r t ∧ Registered earlier r.scenario) (·.Clears r) calls

variable {calls : List Call} {c : Call} {ref : ScenarioRef} {name : String} {r : RecordRef}
  {t t' : Template}

theorem registeredAs_concat : RegisteredAs (calls ++ [c]) ref name ↔
    (c.AddsAs ref name ∧ ¬Registered calls ref) ∨ (RegisteredAs calls ref name ∧ ¬c.Removes ref) :=
  since_concat _ _

theorem stored_concat : Stored (calls ++ [c]) r t ↔
    (c.Stores r t ∧ Registered calls r.scenario) ∨ (Stored calls r t ∧ ¬c.Clears r) :=
  since_concat _ _

theorem RegisteredAs.registered (h : RegisteredAs calls ref name) : Registered calls ref := by
  obtain ⟨earlier, c, later, hcalls, ⟨hadds, -⟩, hkept⟩ := h
  exact ⟨earlier, c, later, hcalls, hadds.adds, hkept⟩

/-- The scenario of what is stored is still registered. -/
theorem Stored.registered (h : Stored calls r t) : Registered calls r.scenario := by
  induction calls using List.reverseRecOn with
  | nil => exact absurd h (not_since_nil _ _)
  | append_singleton calls c ih =>
    refine registered_concat.2 (.inr ?_)
    rcases stored_concat.1 h with ⟨hstores, href⟩ | ⟨hstored, hkept⟩
    · exact ⟨href, hstores.not_removes⟩
    · exact ⟨ih hstored, fun hremoves => hkept hremoves.clears⟩

namespace Ledger

variable {l : Ledger}

/-- What one call does to the name of a scenario. -/
theorem get?_names_step : (backend c l).2.names.get? ref = some name ↔
    (c.AddsAs ref name ∧ l.names.contains ref = false) ∨
      (l.names.get? ref = some name ∧ ¬c.Removes ref) := by
  cases c with
  | read | delete | list | listAll | deleteAll | isRegistered | listScenarios =>
    simp [backend, Call.AddsAs, Call.Removes]
  | write t scope =>
    simp only [backend, Call.AddsAs, Call.Removes]
    split <;> simp
  | add s channel tenant =>
    simp only [backend, Call.AddsAs, Call.Removes]
    split
    · rename_i hold
      by_cases href : ref = .of s channel tenant <;> simp [href, hold]
    · rename_i hnew
      have hnone : l.names.get? (.of s channel tenant) = none := by
        simpa [Dictionary.contains] using hnew
      by_cases href : ref = .of s channel tenant
      · simpa [Dictionary.contains, Dictionary.get?_put, href, hnone] using eq_comm
      · simp [Dictionary.get?_put, href]
  | remove s channel tenant =>
    simp only [backend, Call.AddsAs, Call.Removes]
    by_cases href : ref = .of s channel tenant <;> simp [Dictionary.get?_erase, href]

/-- What one call does to a record. -/
theorem get?_records_step (h : l.Owned) : (backend c l).2.records.get? r = some t' ↔
    (∃ t name, c.Stores r t ∧ l.names.get? r.scenario = some name ∧
      t' = { t with scenario := name }) ∨
      (l.records.get? r = some t' ∧ ¬c.Clears r) := by
  cases c with
  | read | list | listAll | isRegistered | listScenarios => simp [backend, Call.Stores, Call.Clears]
  | add s channel tenant =>
    simp only [backend, Call.Stores, Call.Clears]
    split <;> simp
  | write t scope =>
    simp only [backend, Call.Stores, Call.Clears]
    by_cases hr : r = .ofTemplate t scope
    · subst hr
      cases hname : l.names.get? (.ofTemplate t scope) with
      | none =>
        have hnone : l.records.get? ⟨.ofTemplate t scope, scope.applicationText, t.locale⟩ = none :=
          h.record_none hname
        simp [RecordRef.ofTemplate, hname, hnone]
      | some name => simp [Dictionary.get?_put, RecordRef.ofTemplate, hname, eq_comm]
    · have hne : r ≠ ⟨.ofTemplate t scope, scope.applicationText, t.locale⟩ := hr
      split <;> simp [Dictionary.get?_put, hr, hne]
  | delete p =>
    simp only [backend, Call.Stores, Call.Clears]
    by_cases hr : r = p.ref <;> simp [Dictionary.get?_erase, hr]
  | deleteAll s channel scope =>
    simp only [backend, Call.Stores, Call.Clears, Dictionary.get?_retain_key]
    by_cases hr : r.scenario = .of s channel scope.tenant ∧
      r.application = scope.applicationText <;> simp [hr]
  | remove s channel tenant =>
    simp only [backend, Call.Stores, Call.Clears, Dictionary.get?_retain_key]
    by_cases hr : r.scenario = .of s channel tenant <;> simp [hr]

theorem owned_empty : Owned .empty := fun _ _ => nofun

/-- Any call leaves every record with a registered scenario. -/
theorem Owned.step (h : l.Owned) (c : Call) : (backend c l).2.Owned := by
  intro r t' hr
  refine get?_names_step.2 (.inr ?_)
  rcases (get?_records_step h).1 hr with ⟨t, name, hstores, hname, rfl⟩ | ⟨hr, hkept⟩
  · exact ⟨hname, hstores.not_removes⟩
  · exact ⟨h r t' hr, fun hremoves => hkept hremoves.clears⟩

theorem owned_after (calls : List Call) : (after backend calls .empty).Owned := by
  induction calls using List.reverseRecOn with
  | nil => exact owned_empty
  | append_singleton calls c ih =>
    rw [after_concat]
    exact ih.step c

/-- After any calls a ledger has the names that the scenarios are registered with. -/
theorem get?_names_after : (after backend calls .empty).names.get? ref = some name ↔
    RegisteredAs calls ref name := by
  induction calls using List.reverseRecOn with
  | nil => exact iff_of_false nofun (not_since_nil _ _)
  | append_singleton calls c ih =>
    rw [after_concat, get?_names_step, ih, registeredAs_concat, ← contains_after,
      Bool.not_eq_true]

/-- After any calls a ledger has the stored templates, under the names of their scenarios. -/
theorem get?_records_after : (after backend calls .empty).records.get? r = some t' ↔
    ∃ t name, Stored calls r t ∧ RegisteredAs calls r.scenario name ∧
      t' = { t with scenario := name } := by
  induction calls using List.reverseRecOn with
  | nil =>
    refine iff_of_false nofun ?_
    rintro ⟨_, _, h, -⟩
    exact not_since_nil _ _ h
  | append_singleton calls c ih =>
    rw [after_concat, get?_records_step (owned_after calls), ih]
    constructor
    · rintro (⟨t, name, hstores, hname, rfl⟩ | ⟨⟨t, name, hstored, hname, rfl⟩, hkept⟩)
      · have hname := get?_names_after.1 hname
        exact ⟨t, name, stored_concat.2 (.inl ⟨hstores, hname.registered⟩),
          registeredAs_concat.2 (.inr ⟨hname, hstores.not_removes⟩), rfl⟩
      · exact ⟨t, name, stored_concat.2 (.inr ⟨hstored, hkept⟩),
          registeredAs_concat.2 (.inr ⟨hname, fun hremoves => hkept hremoves.clears⟩), rfl⟩
    · rintro ⟨t, name, hstored, hname, rfl⟩
      rcases stored_concat.1 hstored with ⟨hstores, href⟩ | ⟨hstored, hkept⟩
      · rcases registeredAs_concat.1 hname with ⟨hadds, -⟩ | ⟨hname, -⟩
        · exact absurd hadds (hstores.not_adds name)
        · exact .inl ⟨t, name, hstores, get?_names_after.2 hname, rfl⟩
      · rcases registeredAs_concat.1 hname with ⟨-, hnew⟩ | ⟨hname, -⟩
        · exact absurd hstored.registered hnew
        · exact .inr ⟨⟨t, name, hstored, hname, rfl⟩, hkept⟩

end Ledger

theorem registered_iff : Registered calls ref ↔ ∃ name, RegisteredAs calls ref name := by
  rw [← Ledger.contains_after, Dictionary.contains, Option.isSome_iff_exists]
  exact exists_congr fun _ => Ledger.get?_names_after

/-- A ledger has records where something is stored. -/
theorem Ledger.exists_record_after :
    (∃ t, (after backend calls .empty).records.get? r = some t) ↔ ∃ t, Stored calls r t := by
  simp only [get?_records_after]
  constructor
  · rintro ⟨_, t, _, ht, -⟩
    exact ⟨t, ht⟩
  · rintro ⟨t, ht⟩
    obtain ⟨name, hname⟩ := registered_iff.1 ht.registered
    exact ⟨_, t, name, ht, hname, rfl⟩

end Missive.Store

import Missive.Proofs.Program
import Missive.Proofs.Store.Forest
import Missive.Proofs.Store.Tables

/-! Tables and trees that keep the same ledger. They answer alike: the same up to the order of
listings and to empty footers, and a listing has everything once. -/

namespace Missive.Store

/-- Replies of two stores that hold the same. -/
def Call.Alike : (c : Call) → c.Reply → c.Reply → Prop
  | .read _, a, b => Option.Rel Template.Alike a b
  | .list .., a, b | .listAll .., a, b =>
    Template.AlikeLists a b ∧ (a.map Template.mergeKey).Nodup
  | .listScenarios .., a, b => a.Perm b ∧ (a.map Identifier.ScenarioName.key).Nodup
  | .write .., a, b | .delete _, a, b | .deleteAll .., a, b | .add .., a, b | .isRegistered .., a, b
  | .remove .., a, b => a = b

/-- There is a ledger that both keep. -/
def Shared (t : Tables) (f : Forest) : Prop :=
  ∃ l : Ledger, t.Keeps l ∧ f.Keeps l ∧ l.Sound

theorem Shared.empty : Shared .empty ∅ := ⟨.empty, .empty, .empty, .empty⟩

/-- Each with the same list of a third party, in a form of its own. -/
theorem alikeLists_of_perm {as bs ts : List Template} (ha : as.Perm (ts.map id))
    (hb : bs.Perm (ts.map Template.dropEmptyFooter)) : Template.AlikeLists as bs := by
  have ha' := ha.map Template.dropEmptyFooter
  have hb' := hb.map Template.dropEmptyFooter
  simp only [List.map_id, List.map_map, Function.comp_def,
    Template.dropEmptyFooter_dropEmptyFooter] at ha' hb'
  exact ha'.trans hb'.symm

/-- Tables and trees that share a ledger answer an admissible call alike, and still share one
afterwards. -/
theorem Shared.step {t : Tables} {f : Forest} (h : Shared t f) {c : Call} (hc : c.Admissible) :
    Outcome.Alike c.Alike (Tables.backend c t).1 (Forest.backend c f).1 ∧
      Shared (Tables.backend c t).2 (Forest.backend c f).2 := by
  obtain ⟨l, ht, hf, hl⟩ := h
  obtain ⟨hagree, ht'⟩ := Tables.simulates_ledger c t l trivial ht
  obtain ⟨hagree', hf', hl'⟩ := Forest.simulates_ledger c f l hc ⟨hf, hl⟩
  refine ⟨?_, _, ht', hf', hl'⟩
  cases hx : (Ledger.backend c l).1 with
  | error e =>
    rw [hx] at hagree hagree'
    rw [hagree.error, hagree'.error]
    rfl
  | ok x =>
    rw [hx] at hagree hagree'
    obtain ⟨a, ha, hmatch⟩ := hagree.ok
    obtain ⟨b, hb, hmatch'⟩ := hagree'.ok
    rw [ha, hb]
    change c.Alike a b
    cases c with
    | read p =>
      cases hmatch
      cases hmatch'
      cases x with
      | none => exact .none
      | some t => exact .some (Template.dropEmptyFooter_dropEmptyFooter t).symm
    | list s channel scope =>
      cases hx
      refine ⟨alikeLists_of_perm hmatch hmatch', ?_⟩
      rw [((hmatch.trans (.of_eq (List.map_id _))).map Template.mergeKey).nodup_iff]
      exact hl.nodup_within _ _
    | listAll channel tenant =>
      cases hx
      refine ⟨alikeLists_of_perm hmatch hmatch', ?_⟩
      rw [((hmatch.trans (.of_eq (List.map_id _))).map Template.mergeKey).nodup_iff]
      exact hl.nodup_organization _ _
    | listScenarios channel tenant =>
      cases hx
      refine ⟨hmatch.trans hmatch'.symm, ?_⟩
      rw [(hmatch.map Identifier.ScenarioName.key).nodup_iff]
      exact hl.nodup_names _ _
    | write | delete | deleteAll | add | isRegistered | remove => exact hmatch.trans hmatch'.symm

end Missive.Store

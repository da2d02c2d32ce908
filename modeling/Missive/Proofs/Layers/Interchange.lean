import Missive.Proofs.Layers.Footprint
import Missive.Proofs.Store.Interchange

/-! The layers over tables and over trees. Every operation asks the two stores for the same, whatever
form it gets its answers in, so that whole runs of operations give the same outcomes over either
kind of store. -/

namespace Missive

open Store

/-- Replies of stores that hold the same look the same without empty footers. -/
theorem Store.Call.Alike.tells {c : Call} {a b : c.Reply} (h : c.Alike a b) :
    c.Tells Template.dropEmptyFooter a b := by
  cases c with
  | read =>
    cases h with
    | none => rfl
    | some h => exact congrArg some h
  | _ => exact h

/-- Found in the same tier, and the same but for an empty footer. -/
def Resolved.Alike (a b : Resolved) : Prop := a.template.Alike b.template ∧ a.tier = b.tier

namespace Layers

variable (layers : Layers)

/-- Replies that tell the same. -/
def Operation.Alike : (o : Operation) → o.Reply → o.Reply → Prop
  | .resolve _, a, b => a.Alike b
  | .listScenarios .., a, b => a.Perm b
  | .listByScenario .., a, b | .listAll .., a, b => Template.AlikeLists a b
  | .templateExists _, a, b | .isStored _, a, b | .scenarioExists .., a, b | .addScenario .., a, b
  | .ensureScenario .., a, b | .upsert .., a, b | .delete _, a, b | .deleteAll .., a, b
  | .removeScenario .., a, b => a = b

/-- An operation asks stores for the same as long as they answer alike. -/
theorem similar_program (o : Operation) :
    Program.Similar Call.Admissible (fun c => Outcome.Alike c.Alike) o.Alike (layers.program o)
      (layers.program o) := by
  refine (layers.matching_program Template.dropEmptyFooter o).mono (fun _ h => h.1)
    (fun _ _ _ h => h.mono fun _ _ => Call.Alike.tells) fun a b h => ?_
  cases o <;> exact h

/-- The same operation, with the same error or replies that tell the same. -/
inductive Event.Alike : Event → Event → Prop where
  | intro {o x y} : Outcome.Alike o.Alike x y → Alike ⟨o, x⟩ ⟨o, y⟩

/-- From stores that share a ledger on, every operation has the same outcome over tables and over
trees. -/
theorem events_alike_of_shared (os : List Operation) {t : Tables} {f : Forest} (h : Shared t f) :
    List.Forall₂ Event.Alike (layers.events Tables.backend os t)
      (layers.events Forest.backend os f) := by
  induction os generalizing t f with
  | nil => exact .nil
  | cons o rest ih =>
    have hstep : ∀ c t f, c.Admissible → Shared t f →
        Outcome.Alike c.Alike (Tables.backend c t).1 (Forest.backend c f).1 ∧
          Shared (Tables.backend c t).2 (Forest.backend c f).2 := fun _ _ _ hc h => h.step hc
    obtain ⟨halike, h'⟩ := (layers.similar_program o).run hstep h
    exact .cons (.intro halike) (ih h')

/-- The two kinds of store are interchangeable: any sequence of operations, started on empty stores,
has the same outcomes over both, but for the order of listings and for empty footers. -/
theorem backends_interchangeable (os : List Operation) :
    List.Forall₂ Event.Alike (layers.events Tables.backend os .empty)
      (layers.events Forest.backend os ∅) :=
  layers.events_alike_of_shared os .empty

end Layers
end Missive

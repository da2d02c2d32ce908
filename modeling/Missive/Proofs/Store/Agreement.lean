import Mathlib.Data.List.Forall2
import Missive.Store.Call

/-! When two stores tell the same. Answers are compared call by call: a listing has no order, and
one store may give its templates in another form than the other. Stores whose states stay related
while they answer alike give the same answers along every run (`Simulates.exchanges`). -/

namespace Missive.Store

namespace Call

/-- Replies that tell the same when the templates of the second are brought into a form. -/
def Matches (form : Template → Template) : (c : Call) → c.Reply → c.Reply → Prop
  | .read _, a, b => a = b.map form
  | .list .., a, b => a.Perm (b.map form)
  | .listAll .., a, b => a.Perm (b.map form)
  | .listScenarios .., a, b => a.Perm b
  | .write .., a, b | .delete _, a, b | .deleteAll .., a, b | .add .., a, b | .isRegistered .., a, b
  | .remove .., a, b => a = b

/-- Answers that are the same error or replies that tell the same. -/
def Agrees (form : Template → Template) (c : Call) : c.Answer → c.Answer → Prop
  | .ok a, .ok b => c.Matches form a b
  | .error e, .error e' => e = e'
  | _, _ => False

theorem agrees_of_eq {c : Call} {a b : c.Reply} (h : a = b) : c.Agrees id (.ok a) (.ok b) := by
  subst h
  cases c <;> simp [Agrees, Matches]

theorem Agrees.ok {form : Template → Template} {c : Call} {a : c.Answer} {x : c.Reply}
    (h : c.Agrees form a (.ok x)) : ∃ y, a = .ok y ∧ c.Matches form y x := by
  cases a with
  | error e => cases h
  | ok y => exact ⟨y, rfl, h⟩

theorem Agrees.error {form : Template → Template} {c : Call} {a : c.Answer} {e : Error}
    (h : c.Agrees form a (.error e)) : a = .error e := by
  cases a with
  | error e' => exact congrArg Except.error h
  | ok y => cases h

end Call

/-- A call with the answer to it. -/
abbrev Exchange := (c : Call) × c.Answer

/-- The same call, with answers that agree. -/
inductive Exchange.Agree (form : Template → Template) : Exchange → Exchange → Prop where
  | intro {c a b} : c.Agrees form a b → Agree form ⟨c, a⟩ ⟨c, b⟩

variable {S S' : Type}

/-- The calls of a run with their answers. -/
def exchanges (b : Backend S) : List Call → S → List Exchange
  | [], _ => []
  | c :: rest, s => ⟨c, (b c s).1⟩ :: exchanges b rest (b c s).2

/-- In related states the stores answer the admissible calls alike, and their states stay
related. -/
def Simulates (form : Template → Template) (admissible : Call → Prop) (b : Backend S)
    (b' : Backend S') (R : S → S' → Prop) : Prop :=
  ∀ c s s', admissible c → R s s' →
    c.Agrees form (b c s).1 (b' c s').1 ∧ R (b c s).2 (b' c s').2

theorem Simulates.exchanges {form : Template → Template} {admissible : Call → Prop}
    {b : Backend S} {b' : Backend S'} {R : S → S' → Prop} (h : Simulates form admissible b b' R)
    {calls : List Call} (hcalls : ∀ c ∈ calls, admissible c) {s : S} {s' : S'} (hR : R s s') :
    List.Forall₂ (Exchange.Agree form) (exchanges b calls s) (exchanges b' calls s') := by
  induction calls generalizing s s' with
  | nil => exact .nil
  | cons c rest ih =>
    obtain ⟨hc, hrest⟩ := List.forall_mem_cons.1 hcalls
    obtain ⟨hagree, hR'⟩ := h c s s' hc hR
    exact .cons (.intro hagree) (ih hrest hR')

end Missive.Store

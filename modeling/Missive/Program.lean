/-! Programs: computations that ask their surroundings for answers. A program is a tree: it is done,
or it performs a request and goes on according to the answer. What the requests mean is up to a
handler, so that one program can be run over any store, with faults, or step by step among
others. -/

namespace Missive

/-- A computation with outcome `Except ε α` that performs requests `σ`; the answer to a request `q`
has the type `ρ q`. -/
inductive Program (σ : Type) (ρ : σ → Type) (ε α : Type) where
  | done (outcome : Except ε α)
  | perform (request : σ) (next : ρ request → Program σ ρ ε α)

namespace Program

variable {σ τ S : Type} {ρ : σ → Type} {ρ' : τ → Type} {ε α β : Type}

/-- Goes on with `f` unless the program fails. -/
def bind (p : Program σ ρ ε α) (f : α → Program σ ρ ε β) : Program σ ρ ε β :=
  match p with
  | done (.ok a) => f a
  | done (.error e) => done (.error e)
  | perform q next => perform q fun r => (next r).bind f

instance : Monad (Program σ ρ ε) where
  pure a := done (.ok a)
  bind := bind

instance : MonadExceptOf ε (Program σ ρ ε) where
  throw e := done (.error e)
  tryCatch p handle := go p handle
where
  go {α : Type} : Program σ ρ ε α → (ε → Program σ ρ ε α) → Program σ ρ ε α
    | done (.ok a), _ => done (.ok a)
    | done (.error e), handle => handle e
    | perform q next, handle => perform q fun r => go (next r) handle

/-- Runs the program and gives its outcome as a value, failures included. -/
def attempt : Program σ ρ ε α → Program σ ρ ε (Except ε α)
  | done outcome => done (.ok outcome)
  | perform q next => perform q fun r => (next r).attempt

/-- A program over some of the requests of a larger signature. -/
def embed (f : σ → τ) (h : ∀ q, ρ' (f q) → ρ q) : Program σ ρ ε α → Program τ ρ' ε α
  | done outcome => done outcome
  | perform q next => perform (f q) fun r => (next (h q r)).embed f h

/-- Answers a request in a state, and gives the next state. -/
abbrev Handler (σ : Type) (ρ : σ → Type) (S : Type) := (q : σ) → S → ρ q × S

/-- Runs the program to its end. -/
def run (h : Handler σ ρ S) : Program σ ρ ε α → S → Except ε α × S
  | done outcome, s => (outcome, s)
  | perform q next, s =>
    let (r, s) := h q s
    (next r).run h s

@[simp] theorem run_done (h : Handler σ ρ S) (o : Except ε α) (s : S) :
    (done o : Program σ ρ ε α).run h s = (o, s) := rfl

@[simp] theorem run_perform (h : Handler σ ρ S) (q : σ) (next : ρ q → Program σ ρ ε α) (s : S) :
    (perform q next).run h s = (next (h q s).1).run h (h q s).2 := rfl

/-- Running two programs in a row: the second starts where the first ends, unless it failed. -/
theorem run_bind (h : Handler σ ρ S) (p : Program σ ρ ε α) (f : α → Program σ ρ ε β) (s : S) :
    (p.bind f).run h s =
      match p.run h s with
      | (.ok a, s) => (f a).run h s
      | (.error e, s) => (.error e, s) := by
  induction p generalizing s with
  | done o => cases o <;> rfl
  | perform q next ih => simp [bind, ih]

theorem run_attempt (h : Handler σ ρ S) (p : Program σ ρ ε α) (s : S) :
    p.attempt.run h s = (.ok (p.run h s).1, (p.run h s).2) := by
  induction p generalizing s with
  | done o => rfl
  | perform q next ih => simp [attempt, ih]

end Program
end Missive

import Missive.Program

/-! Programs apart from particular surroundings. Two programs are similar if they make the same
requests and go on in similar ways whenever they are answered alike; over two surroundings that
answer alike they then come to like outcomes. And where it is only known which answers are possible,
a program still leads to what is left of it after some of them, and yields certain outcomes; what
holds of its outcome whatever it is answered is what it ensures. Its paths tell in full what it can
ask for and what it then comes to, and every run follows one of them. -/

namespace Missive

/-- The same error, or values that are related. -/
def Outcome.Alike {ε α β : Type} (R : α → β → Prop) : Except ε α → Except ε β → Prop
  | .ok a, .ok b => R a b
  | .error e, .error e' => e = e'
  | _, _ => False

theorem Outcome.Alike.refl {ε α : Type} {R : α → α → Prop} (hR : ∀ a, R a a) (x : Except ε α) :
    Outcome.Alike R x x := by
  cases x with
  | error e => exact rfl
  | ok a => exact hR a

theorem Outcome.Alike.mono {ε α β : Type} {R R' : α → β → Prop} (hR : ∀ a b, R a b → R' a b)
    {x : Except ε α} {y : Except ε β} (h : Outcome.Alike R x y) : Outcome.Alike R' x y := by
  cases x <;> cases y
  · exact h
  · cases h
  · cases h
  · exact hR _ _ h

theorem Outcome.Alike.eq {ε α : Type} {x y : Except ε α} (h : Outcome.Alike Eq x y) : x = y := by
  cases x <;> cases y
  · exact congrArg Except.error h
  · cases h
  · cases h
  · exact congrArg Except.ok h

theorem Outcome.Alike.exists_ok {ε α β : Type} {R : α → β → Prop} {x : Except ε α} {b : β}
    (h : Outcome.Alike R x (.ok b)) : ∃ a, x = .ok a ∧ R a b := by
  cases x with
  | error e => cases h
  | ok a => exact ⟨a, rfl, h⟩

theorem Outcome.Alike.eq_error {ε α β : Type} {R : α → β → Prop} {x : Except ε α} {e : ε}
    (h : Outcome.Alike R x (.error e)) : x = .error e := by
  cases x with
  | error e' => exact congrArg Except.error h
  | ok a => cases h

theorem Outcome.Alike.symm {ε α β : Type} {R : α → β → Prop} {R' : β → α → Prop}
    (hR : ∀ a b, R a b → R' b a) {x : Except ε α} {y : Except ε β} (h : Outcome.Alike R x y) :
    Outcome.Alike R' y x := by
  cases x <;> cases y
  · exact Eq.symm h
  · cases h
  · cases h
  · exact hR _ _ h

theorem Outcome.Alike.trans {ε α β γ : Type} {R : α → β → Prop} {R' : β → γ → Prop}
    {R'' : α → γ → Prop} (hR : ∀ a b c, R a b → R' b c → R'' a c) {x : Except ε α} {y : Except ε β}
    {z : Except ε γ} (h : Outcome.Alike R x y) (h' : Outcome.Alike R' y z) :
    Outcome.Alike R'' x z := by
  cases x <;> cases y <;> cases z
  · exact Eq.trans h h'
  · cases h'
  · cases h
  · cases h
  · cases h
  · cases h
  · cases h'
  · exact hR _ _ _ h h'

namespace Program

variable {σ S S' : Type} {ρ : σ → Type} {ε α β α' β' : Type}

/-- The programs make the same requests, all of them allowed, and after like answers they go on in
similar ways to outcomes that are alike. -/
inductive Similar (allowed : σ → Prop) (alike : (q : σ) → ρ q → ρ q → Prop) (R : α → β → Prop) :
    Program σ ρ ε α → Program σ ρ ε β → Prop where
  | done {x y} : Outcome.Alike R x y → Similar allowed alike R (.done x) (.done y)
  | perform {q next next'} : allowed q →
      (∀ x y, alike q x y → Similar allowed alike R (next x) (next' y)) →
      Similar allowed alike R (.perform q next) (.perform q next')

namespace Similar

variable {allowed : σ → Prop} {alike : (q : σ) → ρ q → ρ q → Prop} {R : α → β → Prop}
  {R' : α' → β' → Prop} {p : Program σ ρ ε α} {p' : Program σ ρ ε β}

/-- Fewer requests may be made than are allowed, and more answers count as alike. -/
theorem mono {allowed' : σ → Prop} {alike' : (q : σ) → ρ q → ρ q → Prop} {R' : α → β → Prop}
    (hallowed : ∀ q, allowed q → allowed' q) (halike : ∀ q x y, alike' q x y → alike q x y)
    (hR : ∀ a b, R a b → R' a b) (h : Similar allowed alike R p p') :
    Similar allowed' alike' R' p p' := by
  induction h with
  | done hxy => exact .done (hxy.mono hR)
  | perform hq _ ih => exact .perform (hallowed _ hq) fun x y hxy => ih x y (halike _ x y hxy)

theorem pure {a : α} {b : β} (h : R a b) :
    Similar allowed alike R (pure a : Program σ ρ ε α) (pure b : Program σ ρ ε β) :=
  .done h

theorem throw (e : ε) :
    Similar allowed alike R (throw e : Program σ ρ ε α) (throw e : Program σ ρ ε β) :=
  .done rfl

theorem bind (h : Similar allowed alike R p p') {f : α → Program σ ρ ε α'}
    {f' : β → Program σ ρ ε β'} (hf : ∀ a b, R a b → Similar allowed alike R' (f a) (f' b)) :
    Similar allowed alike R' (p >>= f) (p' >>= f') := by
  induction h with
  | done hxy =>
    rename_i x y
    cases x <;> cases y
    · cases hxy
      exact .done rfl
    · cases hxy
    · cases hxy
    · exact hf _ _ hxy
  | perform hq _ ih => exact .perform hq ih

theorem attempt (h : Similar allowed alike R p p') :
    Similar allowed alike (Outcome.Alike R) p.attempt p'.attempt := by
  induction h with
  | done hxy => exact .done hxy
  | perform hq _ ih => exact .perform hq ih

/-- Similar programs over surroundings that answer alike in related states. -/
theorem run {h : Handler σ ρ S} {g : Handler σ ρ S'} {P : S → S' → Prop}
    (hstep : ∀ q s s', allowed q → P s s' → alike q (h q s).1 (g q s').1 ∧ P (h q s).2 (g q s').2)
    (hp : Similar allowed alike R p p') {s : S} {s' : S'} (hs : P s s') :
    Outcome.Alike R (p.run h s).1 (p'.run g s').1 ∧ P (p.run h s).2 (p'.run g s').2 := by
  induction hp generalizing s s' with
  | done hxy => exact ⟨hxy, hs⟩
  | perform hq _ ih =>
    obtain ⟨halike, hs'⟩ := hstep _ _ _ hq hs
    exact ih _ _ halike hs'

end Similar

/-- The program can come to the outcome, given possible answers. -/
inductive Yields (admits : (q : σ) → ρ q → Prop) : Program σ ρ ε α → Except ε α → Prop where
  | done {x} : Yields admits (.done x) x
  | perform {q next a x} : admits q a → Yields admits (next a) x →
      Yields admits (.perform q next) x

/-- The second program can be what is left of the first after some requests. -/
inductive Leads (admits : (q : σ) → ρ q → Prop) (p : Program σ ρ ε α) :
    Program σ ρ ε α → Prop where
  | refl : Leads admits p p
  | answer {q next a} : Leads admits p (.perform q next) → admits q a → Leads admits p (next a)

variable {admits : (q : σ) → ρ q → Prop} {p p' : Program σ ρ ε α}

theorem Leads.yields {x : Except ε α} (h : Leads admits p p') (hx : Yields admits p' x) :
    Yields admits p x := by
  induction h with
  | refl => exact hx
  | answer _ ha ih => exact ih (.perform ha hx)

/-- All requests are admissible, and however they are answered the program comes to an outcome and a
state as asked for. -/
inductive Ensures (admissible : σ → Prop) (may : (q : σ) → S → ρ q → S → Prop)
    (post : Except ε α → S → Prop) : Program σ ρ ε α → S → Prop where
  | done {x s} : post x s → Ensures admissible may post (.done x) s
  | perform {q next s} : admissible q →
      (∀ a s', may q s a s' → Ensures admissible may post (next a) s') →
      Ensures admissible may post (.perform q next) s

namespace Ensures

variable {admissible : σ → Prop} {may : (q : σ) → S → ρ q → S → Prop}
  {post post' : Except ε α → S → Prop} {s : S}

theorem mono (h : p.Ensures admissible may post s) (hpost : ∀ x s, post x s → post' x s) :
    p.Ensures admissible may post' s := by
  induction h with
  | done hx => exact .done (hpost _ _ hx)
  | perform hq _ ih => exact .perform hq ih

/-- The second program has to start wherever the first one may end. -/
theorem bind {f : α → Program σ ρ ε β} {post : Except ε β → S → Prop}
    (h : p.Ensures admissible may (fun x s' => match x with
      | .ok a => (f a).Ensures admissible may post s'
      | .error e => post (.error e) s') s) : (p >>= f).Ensures admissible may post s := by
  induction h with
  | @done x s hx =>
    cases x with
    | ok a => exact hx
    | error e => exact .done hx
  | perform hq _ ih => exact .perform hq ih

theorem attempt {post : Except ε (Except ε α) → S → Prop}
    (h : p.Ensures admissible may (fun x s => post (.ok x) s) s) :
    p.attempt.Ensures admissible may post s := by
  induction h with
  | done hx => exact .done hx
  | perform hq _ ih => exact .perform hq ih

/-- What is ensured holds after a run over surroundings that answer as they may. -/
theorem run {T : Type} {h : Handler σ ρ T} {R : T → S → Prop}
    (hstep : ∀ q t s, admissible q → R t s → ∃ s', may q s (h q t).1 s' ∧ R (h q t).2 s')
    (hp : p.Ensures admissible may post s) {t : T} (ht : R t s) :
    ∃ s', post (p.run h t).1 s' ∧ R (p.run h t).2 s' := by
  induction hp generalizing t with
  | done hx => exact ⟨_, hx, ht⟩
  | @perform q next s hq _ ih =>
    obtain ⟨s', ha, ht'⟩ := hstep q t s hq ht
    exact ih _ s' ha ht'

end Ensures

/-- What is kept with each answer is kept by a run. -/
theorem run_keeps {h : Handler σ ρ S} {P : S → Prop} (hstep : ∀ q s, P s → P (h q s).2)
    (p : Program σ ρ ε α) {s : S} (hs : P s) : P (p.run h s).2 := by
  induction p generalizing s with
  | done => exact hs
  | perform q next ih => exact ih _ (hstep q s hs)

/-- The requests of a run, each with the answer to it. -/
def trace (h : Handler σ ρ S) : Program σ ρ ε α → S → List ((q : σ) × ρ q)
  | done _, _ => []
  | perform q next, s => ⟨q, (h q s).1⟩ :: (next (h q s).1).trace h (h q s).2

/-- The program makes the requests and comes to the outcome if it is given the answers beside
them. -/
inductive Path : Program σ ρ ε α → List ((q : σ) × ρ q) → Except ε α → Prop where
  | done {x} : Path (.done x) [] x
  | perform {q next a requests x} : Path (next a) requests x →
      Path (.perform q next) (⟨q, a⟩ :: requests) x

/-- A run over any surroundings is along a path. -/
theorem path_run (h : Handler σ ρ S) (p : Program σ ρ ε α) (s : S) :
    p.Path (p.trace h s) (p.run h s).1 := by
  induction p generalizing s with
  | done x => exact .done
  | perform q next ih => exact .perform (ih _ _)

namespace Path

variable {requests : List ((q : σ) × ρ q)}

/-- A path through two programs in a row ends in the first, which fails, or goes through both. -/
theorem of_bind {f : α → Program σ ρ ε β} {x : Except ε β} (h : (p >>= f).Path requests x) :
    (∃ e, p.Path requests (.error e) ∧ x = .error e) ∨
      ∃ a first rest, p.Path first (.ok a) ∧ (f a).Path rest x ∧ requests = first ++ rest := by
  induction p generalizing requests with
  | done y =>
    cases y with
    | ok a => exact .inr ⟨a, [], requests, .done, h, rfl⟩
    | error e =>
      cases h
      exact .inl ⟨e, .done, rfl⟩
  | perform q next ih =>
    cases h with
    | perform h =>
      rcases ih _ h with ⟨e, hp, hx⟩ | ⟨a, first, rest, hp, hf, rfl⟩
      · exact .inl ⟨e, .perform hp, hx⟩
      · exact .inr ⟨a, _, rest, .perform hp, hf, rfl⟩

/-- A path through an attempt goes on whatever the program comes to. -/
theorem of_attempt_bind {f : Except ε α → Program σ ρ ε β} {x : Except ε β}
    (h : (p.attempt >>= f).Path requests x) :
    ∃ y first rest, p.Path first y ∧ (f y).Path rest x ∧ requests = first ++ rest := by
  induction p generalizing requests with
  | done y => exact ⟨y, [], requests, .done, h, rfl⟩
  | perform q next ih =>
    cases h with
    | perform h =>
      obtain ⟨y, first, rest, hp, hf, rfl⟩ := ih _ h
      exact ⟨y, _, rest, .perform hp, hf, rfl⟩

end Path

end Program
end Missive

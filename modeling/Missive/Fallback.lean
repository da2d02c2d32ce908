/-! The order in which the tiers are asked for a template. A miss leads from the requested locale
to the channel's default locale in the same scope, and from there to the built-in default; where the
requested locale is the default one, the middle tier is left out. -/

namespace Missive

inductive Tier where
  /-- The store, in the requested scope and locale. -/
  | exact
  /-- The store, in the requested scope and the channel's default locale. -/
  | defaultLocale
  /-- The catalog of defaults. -/
  | systemDefault
  /-- Past the last tier. -/
  | unsatisfied
  deriving DecidableEq, Repr

namespace Tier

def name : Tier → String
  | exact => "exact"
  | defaultLocale => "default-locale"
  | systemDefault => "system-default"
  | unsatisfied => "unsatisfied"

instance : ToString Tier := ⟨name⟩

/-- The tier with a given name. -/
def ofName? : String → Option Tier
  | "exact" => some exact
  | "default-locale" => some defaultLocale
  | "system-default" => some systemDefault
  | "unsatisfied" => some unsatisfied
  | _ => none

/-- Where to look after a miss. -/
def onMiss (requestedIsDefault : Bool) : Tier → Tier
  | exact => if requestedIsDefault then systemDefault else defaultLocale
  | defaultLocale => systemDefault
  | systemDefault | unsatisfied => unsatisfied

def isTerminal (t : Tier) : Bool := t == unsatisfied

/-- How many tiers there are to ask from here on, at most. -/
def left : Tier → Nat
  | exact => 3
  | defaultLocale => 2
  | systemDefault => 1
  | unsatisfied => 0

/-- A miss leads on. -/
theorem left_onMiss_lt (requestedIsDefault : Bool) {t : Tier} (h : t.isTerminal = false) :
    (t.onMiss requestedIsDefault).left < t.left := by
  cases t with
  | unsatisfied => cases h
  | exact | defaultLocale | systemDefault => cases requestedIsDefault <;> decide

/-- The tiers met on repeated misses, at most `n` of them, up to the terminal one. -/
def afterMisses (requestedIsDefault : Bool) : Nat → Tier → List Tier
  | 0, _ => []
  | n + 1, t =>
    if t.isTerminal then [] else t :: afterMisses requestedIsDefault n (t.onMiss requestedIsDefault)

/-- Once the end can be reached, allowing for more misses makes no difference. -/
theorem afterMisses_congr (requestedIsDefault : Bool) {n m : Nat} {t : Tier} (hn : t.left ≤ n)
    (hm : t.left ≤ m) :
    afterMisses requestedIsDefault n t = afterMisses requestedIsDefault m t := by
  induction n generalizing m t with
  | zero =>
    cases t with
    | unsatisfied => cases m <;> rfl
    | exact | defaultLocale | systemDefault => cases hn
  | succ n ih =>
    cases hterminal : t.isTerminal with
    | true => cases m <;> simp [afterMisses, hterminal]
    | false =>
      have hless := left_onMiss_lt requestedIsDefault hterminal
      obtain ⟨m, rfl⟩ : ∃ k, m = k + 1 := ⟨m - 1, by omega⟩
      rw [afterMisses, afterMisses, ih (m := m) (by omega) (by omega)]

/-- The tiers to ask, in order. -/
def plan (requestedIsDefault : Bool) : List Tier :=
  afterMisses requestedIsDefault exact.left exact

/-- The plan goes on to the end: no number of misses leads to another tier. -/
theorem afterMisses_eq_plan (requestedIsDefault : Bool) {n : Nat} (h : exact.left ≤ n) :
    afterMisses requestedIsDefault n exact = plan requestedIsDefault :=
  afterMisses_congr requestedIsDefault h (Nat.le_refl _)

example : plan false = [exact, defaultLocale, systemDefault] ∧ plan true = [exact, systemDefault] :=
  ⟨rfl, rfl⟩

end Tier
end Missive

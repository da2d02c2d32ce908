import Missive.Cache
import Missive.Proofs.Store.Forest
import Missive.Proofs.Store.Tables
import Missive.Store.Tree

/-! Stores of either kind that have come about by admissible calls. Such a store is sound: it keeps a
sound ledger. A call changes what can be read in it only under the keys that it is about, and only
if its answer tells of a change (`Sound.changed`). -/

namespace Missive

/-- What the results are cached under that a record goes into. -/
def Store.RecordRef.key (r : Store.RecordRef) : TemplateKey where
  scenario := r.scenario.key
  channel := r.scenario.channel
  application := r.application

def Store.Position.key (p : Store.Position) : TemplateKey := p.ref.key

/-- The operations that drop the results under a key. -/
def Cache.Op.covers : Cache.Op → TemplateKey → Bool
  | .invalidate key, k => k = key
  | .invalidateScenario scenario channel, k => k.scenario = scenario ∧ k.channel = channel
  | _, _ => false

namespace Store

/-- What has to be done with a tenant's cache. -/
abbrev News := TenantId × Cache.Op

/-- It drops the tenant's results under the key. -/
def News.Covers (n : News) (tenant : TenantId) (key : TemplateKey) : Prop :=
  n.1 = tenant ∧ n.2.covers key = true

/-- What has to be done after an answer that tells of a change. -/
def Call.news : (c : Call) → c.Answer → Option News
  | .write t scope, .ok () =>
    some (scope.tenant, .invalidate ⟨t.scenarioKey, t.channel, scope.applicationText⟩)
  | .delete p, .ok true => some (p.scope.tenant, .invalidate p.key)
  | .deleteAll s channel scope, .ok _ =>
    some (scope.tenant, .invalidate (.of s channel scope.applicationText))
  | .remove s channel tenant, .ok true => some (tenant, .invalidateScenario s.key channel)
  | _, _ => none

/-- A call that failed has changed nothing. -/
@[simp] theorem Call.news_error (c : Call) (e : Error) : c.news (.error e) = none := by
  cases c <;> rfl

/-- The two kinds of stores. -/
inductive Kind where
  | tables | forest

namespace AnyStore

def empty : Kind → AnyStore
  | .tables => tables .empty
  | .forest => forest ∅

def Keeps : AnyStore → Ledger → Prop
  | tables t, l => t.Keeps l
  | forest f, l => f.Keeps l

/-- The form in which a store gives its templates back. -/
def form : AnyStore → Template → Template
  | tables _ => id
  | forest _ => Template.dropEmptyFooter

/-- There is a sound ledger that the store keeps. -/
def Sound (s : AnyStore) : Prop := ∃ l : Ledger, s.Keeps l ∧ l.Sound

/-- What a store answers to a reader. -/
def read (s : AnyStore) (p : Position) : Except Error (Option Template) := (backend (.read p) s).1

theorem sound_empty (k : Kind) : (empty k).Sound := by
  cases k with
  | tables => exact ⟨.empty, Tables.Keeps.empty, .empty⟩
  | forest => exact ⟨.empty, Forest.Keeps.empty, .empty⟩

/-- Reading changes nothing. -/
theorem backend_read (s : AnyStore) (p : Position) : backend (.read p) s = (s.read p, s) := by
  cases s <;> rfl

theorem simulates_ledger {s : AnyStore} {l : Ledger} (h : s.Keeps l) (hl : l.Sound) {c : Call}
    (hc : c.Admissible) :
    c.Agrees s.form (backend c s).1 (Ledger.backend c l).1 ∧
      (backend c s).2.Keeps (Ledger.backend c l).2 ∧ (backend c s).2.form = s.form := by
  cases s with
  | tables t =>
    obtain ⟨hagree, hkeeps⟩ := Tables.simulates_ledger c t l trivial h
    exact ⟨hagree, hkeeps, rfl⟩
  | forest f =>
    obtain ⟨hagree, hkeeps, -⟩ := Forest.simulates_ledger c f l hc ⟨h, hl⟩
    exact ⟨hagree, hkeeps, rfl⟩

theorem read_of_keeps {s : AnyStore} {l : Ledger} (h : s.Keeps l) (hl : l.Sound) (p : Position) :
    s.read p = .ok ((l.records.get? p.ref).map s.form) := by
  obtain ⟨hagree, -⟩ := simulates_ledger h hl (c := .read p) trivial
  obtain ⟨found, hfound, hmatch⟩ := Call.Agrees.ok hagree
  rw [read, hfound]
  exact congrArg Except.ok hmatch

/-- If a call changes a record of the ledger, its answer tells. -/
theorem news_of_changed {c : Call} {l : Ledger} (hl : l.Sound) {r : RecordRef}
    {form : Template → Template} {a : c.Answer} (hagree : c.Agrees form a (Ledger.backend c l).1)
    (h : (Ledger.backend c l).2.records.get? r ≠ l.records.get? r) :
    ∃ n, c.news a = some n ∧ n.Covers r.scenario.tenant r.key := by
  cases c with
  | read | list | listAll | isRegistered | listScenarios => exact absurd rfl h
  | add s channel tenant =>
    refine absurd ?_ h
    simp only [Ledger.backend]
    split <;> rfl
  | write t scope =>
    simp only [Ledger.backend] at h hagree
    split at h
    · exact absurd rfl h
    · rename_i name hname
      simp only [hname] at hagree
      obtain ⟨u, rfl, -⟩ := hagree.ok
      rw [Dictionary.get?_put] at h
      split at h
      · rename_i hplace
        subst hplace
        exact ⟨_, rfl, rfl, by simp [Cache.Op.covers, RecordRef.key, ScenarioRef.ofTemplate]⟩
      · exact absurd rfl h
  | delete p =>
    simp only [Ledger.backend] at h hagree
    rw [Dictionary.get?_erase] at h
    split at h
    · rename_i hplace
      subst hplace
      rw [Dictionary.contains, Option.isSome_iff_ne_none.2 (Ne.symm h)] at hagree
      obtain ⟨removed, rfl, hremoved⟩ := hagree.ok
      cases hremoved
      exact ⟨_, rfl, rfl, by simp [Cache.Op.covers, Position.key]⟩
    · exact absurd rfl h
  | deleteAll s channel scope =>
    simp only [Ledger.backend] at h hagree
    rw [Dictionary.get?_retain_key] at h
    split at h
    · exact absurd rfl h
    · rename_i hplace
      obtain ⟨n, rfl, -⟩ := hagree.ok
      simp only [decide_eq_true_eq, not_not] at hplace
      obtain ⟨scenario, application, locale⟩ := r
      obtain ⟨rfl, rfl⟩ := hplace
      exact ⟨_, rfl, rfl, by simp [Cache.Op.covers, RecordRef.key, TemplateKey.of, ScenarioRef.of]⟩
  | remove s channel tenant =>
    simp only [Ledger.backend] at h hagree
    rw [Dictionary.get?_retain_key] at h
    split at h
    · exact absurd rfl h
    · rename_i hplace
      simp only [ne_eq, decide_not, Bool.not_eq_true', decide_eq_false_iff_not,
        not_not] at hplace
      obtain ⟨t, ht⟩ := Option.ne_none_iff_exists'.1 (Ne.symm h)
      have hname := hl.owned r t ht
      rw [hplace] at hname
      rw [Dictionary.contains, hname] at hagree
      obtain ⟨removed, rfl, hremoved⟩ := hagree.ok
      cases hremoved
      obtain ⟨scenario, application, locale⟩ := r
      subst hplace
      exact ⟨_, rfl, rfl, by simp [Cache.Op.covers, RecordRef.key, ScenarioRef.of]⟩

namespace Sound

variable {s : AnyStore}

theorem step (h : s.Sound) {c : Call} (hc : c.Admissible) : (backend c s).2.Sound := by
  obtain ⟨l, hkeeps, hl⟩ := h
  obtain ⟨-, hkeeps', -⟩ := simulates_ledger hkeeps hl hc
  exact ⟨_, hkeeps', hl.step hc⟩

/-- A reader sees the place alone. -/
theorem read_congr (h : s.Sound) {p q : Position} (href : p.ref = q.ref) : s.read p = s.read q := by
  obtain ⟨l, hkeeps, hl⟩ := h
  rw [read_of_keeps hkeeps hl, read_of_keeps hkeeps hl, href]

/-- Whoever reads something else after a call than before it was concerned by it, and the call's
answer tells. -/
theorem news (h : s.Sound) {c : Call} (hc : c.Admissible) {p : Position}
    (hread : (backend c s).2.read p ≠ s.read p) :
    ∃ n, c.news (backend c s).1 = some n ∧ n.Covers p.scope.tenant p.key := by
  obtain ⟨l, hkeeps, hl⟩ := h
  obtain ⟨hagree, hkeeps', hform⟩ := simulates_ledger hkeeps hl hc
  refine news_of_changed (r := p.ref) hl hagree fun hsame => hread ?_
  rw [read_of_keeps hkeeps' (hl.step hc), read_of_keeps hkeeps hl, hform, hsame]

end Sound
end AnyStore
end Store
end Missive

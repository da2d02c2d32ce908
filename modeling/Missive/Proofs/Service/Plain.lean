import Missive.Proofs.Service.Footprint
import Missive.Proofs.Service.Transparency
import Missive.Proofs.Tenant

/-! The service in plain surroundings: a directory of tenants that stays as it is, a ledger for the
store and no caches. A course without faults, with caches or without, comes to the same as the plain
surroundings with the ledger that its store keeps (`Course.Keeps.step`), so that what operations do
can be told from what they do there. -/

namespace Missive

open Store

namespace Service

/-- Answers from a directory and a ledger; of caches there are none that keep anything. -/
def plainAnswer (directory : Tenant.Directory) (form : Template → Template) :
    Program.Handler Request Request.Answer Ledger
  | .tenant domain, l => (directory.resolve domain, l)
  | .store call, l => Ledger.giving form call l
  | .cache query, l => ((Caches.answer query { retention := .none }).1, l)

/-- What an operation comes to in plain surroundings, and the ledger after it. -/
def plainly (layers : Layers) (directory : Tenant.Directory) (form : Template → Template)
    (o : Operation) (l : Ledger) : Except Failure o.Reply × Ledger :=
  (program ⟨layers, false⟩ o).run (plainAnswer directory form) l

section

variable (layers : Layers) {directory : Tenant.Directory} (form : Template → Template)
  [Template.Neutral form] {region : ScenarioRef → Prop} {o : Operation} {l l' : Ledger}

/-- Ledgers that agree where an operation looks give it the same outcome, and still agree there. -/
theorem plainly_agree (h : l.AgreeOn region l') (hl : l.Sound) (hl' : l'.Sound)
    (ho : ∀ ref, o.Concerns directory ref → region ref) :
    o.SameOutcome (plainly layers directory form o l).1
        (plainly layers directory form o l').1 ∧
      (plainly layers directory form o l).2.AgreeOn region
        (plainly layers directory form o l').2 ∧
      (plainly layers directory form o l).2.Sound ∧
        (plainly layers directory form o l').2.Sound := by
  refine (matching_program layers ho).run
    (P := fun l l' : Ledger => l.AgreeOn region l' ∧ l.Sound ∧ l'.Sound) ?_ ⟨h, hl, hl'⟩
  rintro q k k' hq ⟨hk, hs, hs'⟩
  cases q with
  | tenant domain => exact ⟨⟨rfl, rfl⟩, hk, hs, hs'⟩
  | store c => exact ⟨hk.answer hs hq.2, hk.step hq.2, hs.step hq.1, hs'.step hq.1⟩
  | cache => cases hq

theorem sound_plainly (hl : l.Sound) : (plainly layers directory form o l).2.Sound :=
  have hrefl : l.AgreeOn (fun _ => True) l := .refl l
  (plainly_agree layers form hrefl hl hl fun _ _ => trivial).2.2.1

/-- An operation changes nothing but what it concerns. -/
theorem plainly_frame (hl : l.Sound) (ho : ∀ ref, o.Concerns directory ref → ¬region ref) :
    (plainly layers directory form o l).2.AgreeOn region l := by
  -- The operation runs within the complement of the region, twice from the same ledger.
  have hrun := (matching_program layers ho).run (h := plainAnswer directory form)
    (g := plainAnswer directory form)
    (P := fun k k' : Ledger => k = k' ∧ k.Sound ∧ k.AgreeOn region l) ?_ ⟨rfl, hl, .refl l⟩
  · exact hrun.2.2.2
  rintro q k _ hq ⟨rfl, hs, hk⟩
  cases q with
  | tenant domain => exact ⟨⟨rfl, rfl⟩, rfl, hs, hk⟩
  | store c =>
    exact ⟨(Ledger.AgreeOn.refl k).answer hs hq.2, rfl, hs.step hq.1,
      (Ledger.AgreeOn.frame k hq.2).trans hk⟩
  | cache => cases hq

end

/-! ### Courses without faults -/

namespace Course

/-- The start over an empty store. Cached results may be lost on the way, but no store call fails. -/
def faultFree (kind : Kind) (retention : Retention) (directory : Tenant.Directory)
    (losses : List (List Loss)) : Course :=
  .start kind retention (.direct directory) (losses.map fun lost => { losses := lost })

/-- The course with losses to come at its next requests, and without faults. -/
def losing (c : Course) (losses : List (List Loss)) : Course :=
  { c with incidents := losses.map fun lost => { losses := lost } }

theorem faultless_losing (c : Course) (losses : List (List Loss)) : (c.losing losses).Faultless := by
  intro i hi
  obtain ⟨lost, -, rfl⟩ := List.mem_map.1 hi
  rfl

variable (service : Service)

/-- What an operation comes to. -/
def outcome (c : Course) (o : Operation) : Except Failure o.Reply :=
  ((service.program o).run Course.answer c.anew).1

/-- The course after an operation. -/
def after (c : Course) (o : Operation) : Course :=
  ((service.program o).run Course.answer c.anew).2

/-- The course after several operations. -/
def through (c : Course) (ops : List Operation) : Course := ops.foldl (after service) c

/-- The course has a ledger in its store, asks a directory for tenants and meets with no fault; what
is cached is current. -/
structure Keeps (directory : Tenant.Directory) (c : Course) (l : Ledger) : Prop where
  store : c.state.store.Keeps l
  sound : l.Sound
  tenants : c.state.tenants = .direct directory
  faultless : c.Faultless
  current : service.caches = true → Current service.layers none c.state

variable {service} {directory : Tenant.Directory} {c c' : Course} {l : Ledger}

theorem Keeps.start (service : Service) (kind : Kind) (retention : Retention)
    (directory : Tenant.Directory) (losses : List (List Loss)) :
    (faultFree kind retention directory losses).Keeps service directory .empty where
  store := by
    cases kind with
    | tables => exact Tables.Keeps.empty
    | forest => exact Forest.Keeps.empty
  sound := .empty
  tenants := rfl
  faultless := faultless_losing (.start kind retention (.direct directory) []) losses
  current _ := Current.start service.layers kind retention (.direct directory) _

/-- Without caches, an operation comes to what it comes to in plain surroundings. -/
theorem uncached_plainly (layers : Layers) (hstore : c.state.store.Keeps l) (hl : l.Sound)
    (htenants : c.state.tenants = .direct directory) (hc : c.Faultless) (o : Operation) :
    let y := (program ⟨layers, false⟩ o).run answer c
    let z := plainly layers directory c.state.store.form o l
    o.SameOutcome y.1 z.1 ∧ y.2.state.store.Keeps z.2 ∧
      y.2.state.tenants = .direct directory ∧ y.2.state.store.form = c.state.store.form := by
  have hall : ∀ ref, o.Concerns directory ref → (fun _ : ScenarioRef => True) ref :=
    fun _ _ => trivial
  have hrun := (matching_program layers hall).run (h := answer)
    (g := plainAnswer directory c.state.store.form)
    (P := fun d k => d.state.store.Keeps k ∧ k.Sound ∧ d.state.tenants = .direct directory ∧
      d.Faultless ∧ d.state.store.form = c.state.store.form) ?_ ⟨hstore, hl, htenants, hc, rfl⟩
  · exact ⟨hrun.1, hrun.2.1, hrun.2.2.2.1, hrun.2.2.2.2.2⟩
  rintro q d k hq ⟨hd, hk, hdtenants, hdfaultless, hform⟩
  cases q with
  | tenant domain =>
    have hanswer : (d.state.tenants.resolve domain) = (directory.resolve domain, .direct directory) :=
      hdtenants ▸ Tenant.Lookup.resolve_direct directory domain
    refine ⟨⟨congrArg Prod.fst hanswer, rfl⟩, hd, hk, congrArg Prod.snd hanswer,
      hdfaultless.answer (.tenant domain), hform⟩
  | store call =>
    obtain ⟨ha, hstore', htenants'⟩ := answer_store hdfaultless call
    obtain ⟨halike, hkeeps, hform'⟩ := AnyStore.realizes hd hk hq.1
    refine ⟨?_, ?_, hk.step hq.1, htenants'.trans hdtenants, hdfaultless.answer (.store call), ?_⟩
    · rw [ha, plainAnswer, ← hform]
      exact halike
    · rw [hstore']
      exact hkeeps
    · rw [hstore', hform', hform]
  | cache => cases hq

/-- An operation comes to what it comes to in plain surroundings with the ledger of the course, and
the course goes on keeping that. -/
theorem Keeps.step (h : c.Keeps service directory l) (o : Operation) :
    o.SameOutcome (c.outcome service o)
        (plainly service.layers directory c.state.store.form o l).1 ∧
      (c.after service o).Keeps service directory
        (plainly service.layers directory c.state.store.form o l).2 ∧
      (c.after service o).state.store.form = c.state.store.form := by
  obtain ⟨hstore, hl, htenants, hc, hcurrent⟩ := h
  have hc : c.anew.Faultless := hc
  have hsound : (plainly service.layers directory c.state.store.form o l).2.Sound :=
    sound_plainly _ _ hl
  obtain ⟨houtcome, hkeeps, htenants', hform⟩ :=
    uncached_plainly (c := c.anew) service.layers hstore hl htenants hc o
  obtain ⟨layers, caches⟩ := service
  cases caches with
  | false => exact ⟨houtcome, ⟨hkeeps, hsound, htenants', hc.run _, nofun⟩, hform⟩
  | true =>
    have hcurrent : Current layers none c.anew.state := hcurrent rfl
    obtain ⟨hsame, hafter⟩ := program_transparent c.anew c.anew hcurrent (.refl _) hc hc o
    obtain ⟨hcurrent', -⟩ := report_justified c.anew hcurrent rfl o
    refine ⟨?_, ⟨?_, hsound, hafter.tenants.trans htenants', hc.run _, fun _ => hcurrent'⟩, ?_⟩
    · rw [outcome, hsame]
      exact houtcome
    · rw [after, hafter.store]
      exact hkeeps
    · rw [after, hafter.store]
      exact hform

/-- An operation has the same outcome wherever the ledgers agree on what it concerns, and they go on
agreeing. -/
theorem Keeps.outcome_agree {l' : Ledger} {o : Operation} (h : c.Keeps service directory l)
    (h' : c'.Keeps service directory l') (hform : c.state.store.form = c'.state.store.form)
    {region : ScenarioRef → Prop} (hagree : l.AgreeOn region l')
    (ho : ∀ ref, o.Concerns directory ref → region ref) :
    o.SameOutcome (c.outcome service o) (c'.outcome service o) ∧
      ∃ k k', (c.after service o).Keeps service directory k ∧
        (c'.after service o).Keeps service directory k' ∧ k.AgreeOn region k' ∧
        (c.after service o).state.store.form = (c'.after service o).state.store.form := by
  obtain ⟨houtcome, hkeeps, hform₁⟩ := h.step o
  obtain ⟨houtcome', hkeeps', hform₂⟩ := h'.step o
  rw [← hform] at houtcome' hkeeps' hform₂
  obtain ⟨hsame, hagree', -⟩ := plainly_agree service.layers c.state.store.form
    hagree h.sound h'.sound ho
  exact ⟨houtcome.trans (hsame.trans houtcome'.symm), _, _, hkeeps, hkeeps', hagree',
    hform₁.trans hform₂.symm⟩

/-- Whatever has been done, the course keeps some ledger. -/
theorem Keeps.through (h : c.Keeps service directory l) (ops : List Operation) :
    ∃ l', (c.through service ops).Keeps service directory l' := by
  induction ops generalizing c l with
  | nil => exact ⟨l, h⟩
  | cons o rest ih =>
    obtain ⟨-, hkeeps, -⟩ := h.step o
    exact ih hkeeps

end Course
end Service
end Missive

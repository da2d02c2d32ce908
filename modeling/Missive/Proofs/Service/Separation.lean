import Missive.Proofs.Service.Plain

/-! Tenants and channels do not interfere. Two runs may differ in what is done for other tenants and
on other channels: as long as the ledgers agree on one tenant's channel, the operations there have
the same outcomes in both, and all others leave that part of the ledger alone. -/

namespace Missive.Service

open Store

/-- The operation is on another channel, or its domain is that of another tenant. -/
def Operation.actsElsewhere (directory : Tenant.Directory) (tenant : TenantId) (channel : Channel)
    (o : Operation) : Bool :=
  o.channel ≠ channel ||
    match directory.resolve o.domain with
    | .ok other => other ≠ tenant
    | .error _ => false

/-- The same operation with the same outcome, up to the order of a listing. -/
inductive Event.Same : Event → Event → Prop where
  | intro {o x y} : o.SameOutcome x y → Event.Same ⟨o, x⟩ ⟨o, y⟩

/-- The scenarios of one tenant's channel. -/
def OfChannel (tenant : TenantId) (channel : Channel) (ref : ScenarioRef) : Prop :=
  ref.tenant = tenant ∧ ref.channel = channel

variable {directory : Tenant.Directory} {tenant : TenantId} {channel : Channel} {o : Operation}

theorem ofChannel_of_concerns (ho : o.actsElsewhere directory tenant channel = false)
    {ref : ScenarioRef} (href : o.Concerns directory ref) : OfChannel tenant channel ref := by
  obtain ⟨hchannel, htenant, -⟩ := href
  rw [Operation.actsElsewhere, htenant, Bool.or_eq_false_iff] at ho
  exact ⟨of_not_not (of_decide_eq_false ho.2),
    hchannel.trans (of_not_not (of_decide_eq_false ho.1))⟩

theorem not_ofChannel_of_concerns (ho : o.actsElsewhere directory tenant channel = true)
    {ref : ScenarioRef} (href : o.Concerns directory ref) : ¬OfChannel tenant channel ref := by
  obtain ⟨hchannel, htenant, -⟩ := href
  rw [Operation.actsElsewhere, htenant, Bool.or_eq_true] at ho
  rintro ⟨rfl, rfl⟩
  rcases ho with ho | ho
  · exact of_decide_eq_true ho hchannel.symm
  · exact of_decide_eq_true ho rfl

variable {service : Service} {c c' : Course} {l l' : Ledger}

theorem events_separate (h : c.Keeps service directory l) (h' : c'.Keeps service directory l')
    (hform : c.state.store.form = c'.state.store.form)
    (hagree : l.AgreeOn (OfChannel tenant channel) l') (ops : List Operation) :
    List.Forall₂ Event.Same
      (((reports service ops c).map Report.event).filter
        (!·.1.actsElsewhere directory tenant channel))
      ((reports service (ops.filter (!·.actsElsewhere directory tenant channel)) c').map
        Report.event) := by
  induction ops generalizing c c' l l' with
  | nil => exact .nil
  | cons o rest ih =>
    have hreports : reports service (o :: rest) c =
        ⟨⟨o, c.outcome service o⟩, c.state, (c.after service o).hits⟩ ::
          reports service rest (c.after service o) := rfl
    rw [hreports, List.map_cons]
    cases ho : o.actsElsewhere directory tenant channel with
    | true =>
      -- The second run does without the operation.
      rw [List.filter_cons_of_neg (by simp [ho]), List.filter_cons_of_neg (by simp [ho])]
      obtain ⟨-, hkeeps, hform₁⟩ := h.step o
      refine ih hkeeps h' (hform₁.trans hform) (.trans ?_ hagree)
      exact plainly_frame _ _ h.sound fun ref href => not_ofChannel_of_concerns ho href
    | false =>
      rw [List.filter_cons_of_pos (by simp [ho]), List.filter_cons_of_pos (by simp [ho])]
      obtain ⟨hsame, k, k', hkeeps, hkeeps', hagree', hform'⟩ :=
        h.outcome_agree h' hform hagree fun ref href => ofChannel_of_concerns ho href
      exact .cons (.intro hsame) (ih hkeeps hkeeps' hform' hagree')

/-- Leaving out of a run all that is done for other tenants or on another channel makes no difference
to the outcomes of the rest: with caches or without, whatever results these lose. -/
theorem tenants_and_channels_separate (service : Service) (kind : Kind) (retention : Retention)
    (directory : Tenant.Directory) (losses losses' : List (List Loss)) (tenant : TenantId)
    (channel : Channel) (ops : List Operation) :
    List.Forall₂ Event.Same
      (((reports service ops (.faultFree kind retention directory losses)).map Report.event).filter
        (!·.1.actsElsewhere directory tenant channel))
      ((reports service (ops.filter (!·.actsElsewhere directory tenant channel))
        (.faultFree kind retention directory losses')).map Report.event) :=
  events_separate (.start _ kind retention _ losses) (.start _ kind retention _ losses') rfl (.refl _) ops

end Missive.Service

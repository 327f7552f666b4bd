import Mathlib.Tactic.Common

/-! Systems whose labels belong to domains. Where every label acts inside its own
domain, the replies that a domain gets do not depend on the other domains, up to
the label with which the system ends. -/

set_option autoImplicit false

namespace InspurIpmi.Foundation

variable {σ ι ρ δ : Type}

/-- The labels of a run with their replies, up to the first that the system does not
survive. -/
def replyLog (serve : σ → ι → Option (ρ × σ)) : σ → List ι → List (ι × ρ)
  | _, [] => []
  | state, label :: rest =>
      match serve state label with
      | none => []
      | some (reply, next) => (label, reply) :: replyLog serve next rest

/-- The system survives every label of the run. -/
def Survives (serve : σ → ι → Option (ρ × σ)) (state : σ) (labels : List ι) : Prop :=
  (replyLog serve state labels).length = labels.length

/-- `alike` tells for each domain which states it cannot tell apart. A label does
the same to two states that are alike for its domain, and other domains do not
notice it. -/
structure Separated (serve : σ → ι → Option (ρ × σ)) (domain : ι → δ) (inv : σ → Prop)
    (alike : δ → σ → σ → Prop) : Prop where
  trans : ∀ {view first second third}, alike view first second → alike view second third →
    alike view first third
  inside : ∀ {label first second reply next}, inv first → inv second →
    alike (domain label) first second → serve first label = some (reply, next) →
      ∃ next', serve second label = some (reply, next') ∧ alike (domain label) next next'
  outside : ∀ {view label state reply next}, domain label ≠ view →
    serve state label = some (reply, next) → alike view next state
  keeps : ∀ {label state reply next}, inv state → serve state label = some (reply, next) → inv next
  symm : ∀ {view first second}, alike view first second → alike view second first

variable {serve : σ → ι → Option (ρ × σ)} {first second : σ} {label : ι} {rest : List ι}

theorem replyLog_ended (ended : serve first label = none) :
    replyLog serve first (label :: rest) = [] := by
  rw [replyLog, ended]

theorem replyLog_served {reply : ρ} {next : σ} (served : serve first label = some (reply, next)) :
    replyLog serve first (label :: rest) = (label, reply) :: replyLog serve next rest := by
  rw [replyLog, served]

theorem survives_cons_iff :
    Survives serve first (label :: rest) ↔
      ∃ reply next, serve first label = some (reply, next) ∧ Survives serve next rest := by
  unfold Survives
  cases served : serve first label with
  | none => simp [replyLog_ended served]
  | some answer =>
      obtain ⟨reply, next⟩ := answer
      simp [replyLog_served served]

namespace Separated

variable [DecidableEq δ] {domain : ι → δ} {inv : σ → Prop} {alike : δ → σ → σ → Prop} {view : δ}

/-- A domain gets no other replies than it would get alone. -/
theorem replyLog_prefix (separated : Separated serve domain inv alike) (firstInv : inv first)
    (secondInv : inv second) (same : alike view first second) (labels : List ι) :
    ((replyLog serve first labels).filter fun entry => domain entry.1 = view) <+:
      replyLog serve second (labels.filter fun label => domain label = view) := by
  induction labels generalizing first second with
  | nil => exact List.nil_prefix
  | cons label rest ih =>
      cases served : serve first label with
      | none =>
          rw [replyLog_ended served]
          exact List.nil_prefix
      | some answer =>
          obtain ⟨reply, next⟩ := answer
          have nextInv := separated.keeps firstInv served
          rw [replyLog_served served]
          by_cases mine : domain label = view
          · subst mine
            obtain ⟨next', served', same'⟩ := separated.inside firstInv secondInv same served
            have continued := ih nextInv (separated.keeps secondInv served') same'
            rw [List.filter_cons_of_pos (by simp), List.filter_cons_of_pos (by simp),
              replyLog_served served']
            exact (List.prefix_cons_inj _).mpr continued
          · have unnoticed := separated.trans (separated.outside mine served) same
            rw [List.filter_cons_of_neg (by simpa using mine),
              List.filter_cons_of_neg (by simpa using mine)]
            exact ih nextInv secondInv unnoticed

/-- In a run that the system survives, a domain gets every reply it would get alone. -/
theorem replyLog_survived (separated : Separated serve domain inv alike) (firstInv : inv first)
    (secondInv : inv second) (same : alike view first second) {labels : List ι}
    (survives : Survives serve first labels) :
    ((replyLog serve first labels).filter fun entry => domain entry.1 = view) =
      replyLog serve second (labels.filter fun label => domain label = view) := by
  induction labels generalizing first second with
  | nil => rfl
  | cons label rest ih =>
      obtain ⟨reply, next, served, later⟩ := survives_cons_iff.mp survives
      have nextInv := separated.keeps firstInv served
      rw [replyLog_served served]
      by_cases mine : domain label = view
      · subst mine
        obtain ⟨next', served', same'⟩ := separated.inside firstInv secondInv same served
        have continued := ih nextInv (separated.keeps secondInv served') same' later
        rw [List.filter_cons_of_pos (by simp), List.filter_cons_of_pos (by simp),
          replyLog_served served', continued]
      · have unnoticed := separated.trans (separated.outside mine served) same
        rw [List.filter_cons_of_neg (by simpa using mine),
          List.filter_cons_of_neg (by simpa using mine)]
        exact ih nextInv secondInv unnoticed later

variable {labels₁ labels₂ : List ι}

/-- Two runs that hold the same labels of a domain, whatever else they hold, give
that domain the same replies as far as both go; where the second is survived, it
gives all that the first does. -/
theorem replies_agree (separated : Separated serve domain inv alike) (firstInv : inv first)
    (secondInv : inv second) (same : alike view first second)
    (labelled : (labels₁.filter fun label => domain label = view) =
      labels₂.filter fun label => domain label = view) :
    let log₁ := (replyLog serve first labels₁).filter fun entry => domain entry.1 = view
    let log₂ := (replyLog serve second labels₂).filter fun entry => domain entry.1 = view
    (log₁ <+: log₂ ∨ log₂ <+: log₁) ∧ (Survives serve second labels₂ → log₁ <+: log₂) := by
  have alone₁ := separated.replyLog_prefix firstInv secondInv same labels₁
  have reflexive := separated.trans (separated.symm same) same
  have alone₂ := separated.replyLog_prefix secondInv secondInv reflexive labels₂
  rw [labelled] at alone₁
  refine ⟨List.prefix_or_prefix_of_prefix alone₁ alone₂, fun survives => ?_⟩
  have whole := separated.replyLog_survived secondInv secondInv reflexive survives
  rw [whole]
  exact alone₁

end Separated

end InspurIpmi.Foundation

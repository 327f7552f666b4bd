import Mathlib.Tactic.Common

/-! Runs of a deterministic system that handles one label after another. A step
that yields `none` is the last one: the system is gone. -/

set_option autoImplicit false

namespace InspurIpmi.Foundation

variable {σ ι : Type}

/-- `law` holds now and after every further step the system survives. -/
def Always (step : σ → ι → Option σ) (law : σ → Prop) : σ → List ι → Prop
  | state, [] => law state
  | state, label :: rest =>
      law state ∧ ∀ next, step state label = some next → Always step law next rest

/-- Every label of the run meets `condition` in the state in which it arrives. -/
def EachStep (step : σ → ι → Option σ) (condition : σ → ι → Prop) : σ → List ι → Prop
  | _, [] => True
  | state, label :: rest =>
      condition state label ∧ ∀ next, step state label = some next →
        EachStep step condition next rest

variable {step : σ → ι → Option σ}

theorem Always.start {law : σ → Prop} {state : σ} {labels : List ι}
    (always : Always step law state labels) : law state := by
  cases labels with
  | nil => exact always
  | cons label rest => exact always.1

/-- When `condition` says exactly which steps keep `law`, it says exactly which
runs keep it throughout. The invariant is kept by every step. -/
theorem always_iff_eachStep_of_invariant {inv law : σ → Prop} {condition : σ → ι → Prop}
    (keeps : ∀ state label next, inv state → step state label = some next → inv next)
    (exact : ∀ state label, inv state → law state →
      (condition state label ↔ ∀ next, step state label = some next → law next))
    {state : σ} (invariant : inv state) (start : law state) (labels : List ι) :
    Always step law state labels ↔ EachStep step condition state labels := by
  induction labels generalizing state with
  | nil => exact ⟨fun _ => trivial, fun _ => start⟩
  | cons label rest ih =>
      constructor
      · rintro ⟨_, later⟩
        refine ⟨(exact state label invariant start).mpr fun next stepped =>
          (later next stepped).start, fun next stepped => ?_⟩
        have kept := keeps state label next invariant stepped
        exact (ih kept (later next stepped).start).mp (later next stepped)
      · rintro ⟨met, later⟩
        refine ⟨start, fun next stepped => ?_⟩
        have lawful := (exact state label invariant start).mp met next stepped
        have kept := keeps state label next invariant stepped
        exact (ih kept lawful).mpr (later next stepped)

theorem always_iff_eachStep {law : σ → Prop} {condition : σ → ι → Prop}
    (exact : ∀ state label, law state →
      (condition state label ↔ ∀ next, step state label = some next → law next))
    {state : σ} (start : law state) (labels : List ι) :
    Always step law state labels ↔ EachStep step condition state labels :=
  always_iff_eachStep_of_invariant (fun _ _ _ _ _ => trivial)
    (fun state label _ => exact state label) trivial start labels

theorem eachStep_iff_forall {condition : ι → Prop}
    (survives : ∀ state label, ∃ next, step state label = some next) (state : σ)
    (labels : List ι) :
    EachStep step (fun _ label => condition label) state labels ↔
      ∀ label ∈ labels, condition label := by
  induction labels generalizing state with
  | nil => exact iff_of_true trivial fun label member => nomatch member
  | cons label rest ih =>
      obtain ⟨next, stepped⟩ := survives state label
      rw [List.forall_mem_cons]
      constructor
      · rintro ⟨met, later⟩
        exact ⟨met, (ih next).mp (later next stepped)⟩
      · rintro ⟨met, later⟩
        exact ⟨met, fun reached _ => (ih reached).mpr later⟩

/-!
## Refinement of an abstract machine
-/

variable {ρ τ : Type}

/-- The system survives the run, its `view` moves as the abstract machine's
state does, and every reply is one that the abstract machine allows. -/
def Refines (serve : σ → ι → Option (ρ × σ)) (view : σ → τ) (next : τ → ι → τ)
    (allows : τ → ι → ρ → Prop) : σ → List ι → Prop
  | _, [] => True
  | state, label :: rest =>
      ∃ reply after, serve state label = some (reply, after) ∧
        allows (view state) label reply ∧ view after = next (view state) label ∧
        Refines serve view next allows after rest

theorem refines_of_step {serve : σ → ι → Option (ρ × σ)} {view : σ → τ} {next : τ → ι → τ}
    {allows : τ → ι → ρ → Prop} {inv : σ → Prop} {valid : ι → Prop}
    (steps : ∀ state label, inv state → valid label →
      ∃ reply after, serve state label = some (reply, after) ∧
        allows (view state) label reply ∧ view after = next (view state) label ∧ inv after)
    {state : σ} (start : inv state) {labels : List ι} (labelsValid : ∀ label ∈ labels, valid label) :
    Refines serve view next allows state labels := by
  induction labels generalizing state with
  | nil => trivial
  | cons label rest ih =>
      obtain ⟨reply, after, served, allowed, moved, kept⟩ :=
        steps state label start (labelsValid label List.mem_cons_self)
      exact ⟨reply, after, served, allowed, moved,
        ih kept fun later member => labelsValid later (List.mem_cons_of_mem label member)⟩

end InspurIpmi.Foundation

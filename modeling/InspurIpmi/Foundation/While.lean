import Mathlib.Tactic.Common

/-! Loops that test a condition before each pass over a body that may throw.
Running out of fuel is not an outcome of the loop. -/

set_option autoImplicit false

namespace InspurIpmi.Foundation

variable {σ ε : Type}

/-- The fuel bounds how often the condition is tested. -/
def whileLoop (condition : σ → Bool) (body : σ → Except ε σ) : ℕ → σ → Option (Except ε σ)
  | 0, _ => none
  | fuel + 1, state =>
      if condition state then
        match body state with
        | .ok next => whileLoop condition body fuel next
        | .error error => some (.error error)
      else some (.ok state)

def Ends (condition : σ → Bool) (body : σ → Except ε σ) (state : σ) (result : Except ε σ) : Prop :=
  ∃ fuel, whileLoop condition body fuel state = some result

def Diverges (condition : σ → Bool) (body : σ → Except ε σ) (state : σ) : Prop :=
  ∀ fuel, whileLoop condition body fuel state = none

variable {condition : σ → Bool} {body : σ → Except ε σ}

theorem whileLoop_stop {state : σ} (stops : condition state = false) (fuel : ℕ) :
    whileLoop condition body (fuel + 1) state = some (.ok state) := by
  simp only [whileLoop, stops, Bool.false_eq_true, if_false]

theorem whileLoop_pass {state next : σ} (goesOn : condition state = true)
    (ran : body state = .ok next) (fuel : ℕ) :
    whileLoop condition body (fuel + 1) state = whileLoop condition body fuel next := by
  simp only [whileLoop, goesOn, ran, if_true]

theorem whileLoop_mono {fuel more : ℕ} {state : σ} {result : Except ε σ} (enough : fuel ≤ more)
    (ended : whileLoop condition body fuel state = some result) :
    whileLoop condition body more state = some result := by
  induction fuel generalizing state more with
  | zero => cases ended
  | succ fuel ih =>
    obtain ⟨more, rfl⟩ := Nat.exists_eq_add_of_lt enough
    cases goesOn : condition state with
    | false =>
      rw [whileLoop_stop goesOn] at ended ⊢
      exact ended
    | true =>
      cases ran : body state with
      | ok next =>
        rw [whileLoop_pass goesOn ran] at ended ⊢
        exact ih (Nat.le_add_right fuel more) ended
      | error error =>
        simp only [whileLoop, goesOn, ran, if_true] at ended ⊢
        exact ended

theorem Ends.unique {state : σ} {first second : Except ε σ}
    (firstEnd : Ends condition body state first) (secondEnd : Ends condition body state second) :
    first = second := by
  obtain ⟨fuel, ended⟩ := firstEnd
  obtain ⟨more, endedMore⟩ := secondEnd
  have both := whileLoop_mono (Nat.le_max_left fuel more) ended
  rw [whileLoop_mono (Nat.le_max_right fuel more) endedMore] at both
  exact (Option.some.inj both).symm

theorem Ends.stop {state : σ} (stops : condition state = false) :
    Ends condition body state (.ok state) :=
  ⟨1, whileLoop_stop stops 0⟩

theorem Ends.pass {state next : σ} {result : Except ε σ} (goesOn : condition state = true)
    (ran : body state = .ok next) (ended : Ends condition body next result) :
    Ends condition body state result := by
  obtain ⟨fuel, ended⟩ := ended
  exact ⟨fuel + 1, (whileLoop_pass goesOn ran fuel).trans ended⟩

theorem Diverges.pass {state next : σ} (goesOn : condition state = true)
    (ran : body state = .ok next) (diverges : Diverges condition body next) :
    Diverges condition body state := by
  intro fuel
  cases fuel with
  | zero => rfl
  | succ fuel => exact (whileLoop_pass goesOn ran fuel).trans (diverges fuel)

theorem diverges_of_invariant {inv : σ → Prop}
    (keeps : ∀ state, inv state →
      condition state = true ∧ ∃ next, body state = .ok next ∧ inv next)
    {state : σ} (start : inv state) : Diverges condition body state := by
  intro fuel
  induction fuel generalizing state with
  | zero => rfl
  | succ fuel ih =>
    obtain ⟨goesOn, next, ran, kept⟩ := keeps state start
    exact (whileLoop_pass goesOn ran fuel).trans (ih kept)

end InspurIpmi.Foundation

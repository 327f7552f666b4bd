import Mathlib.Logic.Basic
import Mathlib.Tactic.Common

/-! Total computations over a machine state that may throw, or end the whole
process. Every outcome carries the state reached, so that an effect made before
an early exit is never lost. -/

set_option autoImplicit false

namespace InspurIpmi.Foundation

/-- How a computation ends: with a value, with an exception that leaves it, or
with the end of the process. -/
inductive Outcome (ε α : Type) where
  | returned (value : α)
  | thrown (error : ε)
  | exited (status : Int)
  deriving DecidableEq, Repr

def Process (σ ε α : Type) : Type := σ → Outcome ε α × σ

namespace Process

variable {σ ε α β : Type}

def run (process : Process σ ε α) (state : σ) : Outcome ε α × σ := process state

protected def bind (process : Process σ ε α) (next : α → Process σ ε β) : Process σ ε β :=
  fun state =>
    match process.run state with
    | (.returned value, middle) => (next value).run middle
    | (.thrown error, middle) => (.thrown error, middle)
    | (.exited status, middle) => (.exited status, middle)

instance : Monad (Process σ ε) where
  pure value := fun state => (.returned value, state)
  bind := Process.bind

def gets (view : σ → α) : Process σ ε α := fun state => (.returned (view state), state)

def modify (update : σ → σ) : Process σ ε Unit := fun state => (.returned (), update state)

def exit (status : Int) : Process σ ε α := fun state => (.exited status, state)

def throw (error : ε) : Process σ ε α := fun state => (.thrown error, state)

def tryCatch (process : Process σ ε α) (handler : ε → Process σ ε α) : Process σ ε α :=
  fun state =>
    match process.run state with
    | (.thrown error, middle) => (handler error).run middle
    | result => result

/-- `for (i = 0; i < count; i++)`: a body that yields `none` goes on with the
next index, one that yields `some` leaves the enclosing function. -/
def forLoop (body : ℕ → Process σ ε (Option β)) : ℕ → Process σ ε (Option β)
  | 0 => pure none
  | count + 1 => do
      match ← forLoop body count with
      | none => body count
      | some result => pure (some result)

/-!
## Running one step
-/

@[simp] theorem run_pure (value : α) (state : σ) :
    (pure value : Process σ ε α).run state = (.returned value, state) := rfl

theorem run_bind (process : Process σ ε α) (next : α → Process σ ε β) (state : σ) :
    (process >>= next).run state =
      match process.run state with
      | (.returned value, middle) => (next value).run middle
      | (.thrown error, middle) => (.thrown error, middle)
      | (.exited status, middle) => (.exited status, middle) := rfl

theorem run_bind_returned {process : Process σ ε α} {state middle : σ} {value : α}
    (ran : process.run state = (.returned value, middle)) (next : α → Process σ ε β) :
    (process >>= next).run state = (next value).run middle := by
  rw [run_bind, ran]

theorem run_bind_exited {process : Process σ ε α} {state middle : σ} {status : Int}
    (ran : process.run state = (.exited status, middle)) (next : α → Process σ ε β) :
    (process >>= next).run state = (.exited status, middle) := by
  rw [run_bind, ran]

@[simp] theorem run_gets_bind (view : σ → α) (next : α → Process σ ε β) (state : σ) :
    (gets view >>= next).run state = (next (view state)).run state := rfl

@[simp] theorem run_modify_bind (update : σ → σ) (next : Unit → Process σ ε β) (state : σ) :
    (modify update >>= next).run state = (next ()).run (update state) := rfl

@[simp] theorem run_pure_bind (value : α) (next : α → Process σ ε β) (state : σ) :
    (pure value >>= next).run state = (next value).run state := rfl

@[simp] theorem run_exit_bind (status : Int) (next : α → Process σ ε β) (state : σ) :
    (exit status >>= next).run state = (.exited status, state) := rfl

@[simp] theorem run_gets (view : σ → α) (state : σ) :
    (gets view : Process σ ε α).run state = (.returned (view state), state) := rfl

@[simp] theorem run_modify (update : σ → σ) (state : σ) :
    (modify update : Process σ ε Unit).run state = (.returned (), update state) := rfl

@[simp] theorem run_exit (status : Int) (state : σ) :
    (exit status : Process σ ε α).run state = (.exited status, state) := rfl

@[simp] theorem run_throw (error : ε) (state : σ) :
    (throw error : Process σ ε α).run state = (.thrown error, state) := rfl

@[simp] theorem run_ite (condition : Prop) [Decidable condition]
    (first second : Process σ ε α) (state : σ) :
    (if condition then first else second).run state =
      if condition then first.run state else second.run state := by
  split <;> rfl

theorem run_tryCatch (process : Process σ ε α) (handler : ε → Process σ ε α) (state : σ) :
    (tryCatch process handler).run state =
      match process.run state with
      | (.thrown error, middle) => (handler error).run middle
      | result => result := rfl

/-- A step that throws nothing may be taken out of the `try` block. -/
theorem run_tryCatch_bind {process : Process σ ε β} {state middle : σ} {value : β}
    (ran : process.run state = (.returned value, middle)) (next : β → Process σ ε α)
    (handler : ε → Process σ ε α) :
    (tryCatch (process >>= next) handler).run state =
      (tryCatch (next value) handler).run middle := by
  rw [run_tryCatch, run_tryCatch, run_bind_returned ran]

/-!
## Running a loop
-/

@[simp] theorem run_forLoop_zero (body : ℕ → Process σ ε (Option β)) (state : σ) :
    (forLoop body 0).run state = (.returned none, state) := rfl

theorem run_forLoop_succ (body : ℕ → Process σ ε (Option β)) (count : ℕ) (state : σ) :
    (forLoop body (count + 1)).run state =
      match (forLoop body count).run state with
      | (.returned none, middle) => (body count).run middle
      | (.returned (some result), middle) => (.returned (some result), middle)
      | (.thrown error, middle) => (.thrown error, middle)
      | (.exited status, middle) => (.exited status, middle) := by
  simp only [forLoop, run_bind]
  split <;> rename_i ran <;> simp only [ran]
  cases ‹Option β› <;> rfl

theorem forLoop_congr {first second : ℕ → Process σ ε (Option β)} {count : ℕ}
    (same : ∀ index < count, first index = second index) :
    forLoop first count = forLoop second count := by
  induction count with
  | zero => rfl
  | succ count ih =>
      rw [forLoop, forLoop, ih fun index below => same index (Nat.lt_succ_of_lt below),
        same count (Nat.lt_succ_self count)]

/-- How many of the first `count` calls succeed before one fails. -/
def goodPrefix (succeeds : ℕ → Bool) : ℕ → ℕ
  | 0 => 0
  | count + 1 =>
      if goodPrefix succeeds count = count ∧ succeeds count then count + 1
      else goodPrefix succeeds count

theorem goodPrefix_cases (succeeds : ℕ → Bool) (count : ℕ) :
    (goodPrefix succeeds count = count ∧ ∀ index < count, succeeds index = true) ∨
      (goodPrefix succeeds count < count ∧
        (∀ index < goodPrefix succeeds count, succeeds index = true) ∧
        succeeds (goodPrefix succeeds count) = false) := by
  induction count with
  | zero => exact .inl ⟨rfl, fun index below => absurd below (Nat.not_lt_zero index)⟩
  | succ count ih =>
      rcases ih with ⟨full, all⟩ | ⟨short, earlier, fails⟩
      · cases last : succeeds count with
        | true =>
            refine .inl ⟨by simp [goodPrefix, full, last], fun index below => ?_⟩
            rcases Nat.lt_succ_iff_lt_or_eq.mp below with before | rfl
            · exact all index before
            · exact last
        | false =>
            have stays : goodPrefix succeeds (count + 1) = count := by simp [goodPrefix, full, last]
            rw [stays]
            exact .inr ⟨Nat.lt_succ_self count, all, last⟩
      · have stays : goodPrefix succeeds (count + 1) = goodPrefix succeeds count := by
          simp [goodPrefix, Nat.ne_of_lt short]
        rw [stays]
        exact .inr ⟨Nat.lt_succ_of_lt short, earlier, fails⟩

theorem goodPrefix_le (succeeds : ℕ → Bool) (count : ℕ) : goodPrefix succeeds count ≤ count := by
  rcases goodPrefix_cases succeeds count with ⟨full, _⟩ | ⟨short, _⟩
  · exact Nat.le_of_eq full
  · exact Nat.le_of_lt short

theorem goodPrefix_succeeds {succeeds : ℕ → Bool} {count index : ℕ}
    (below : index < goodPrefix succeeds count) : succeeds index = true := by
  rcases goodPrefix_cases succeeds count with ⟨full, all⟩ | ⟨_, earlier, _⟩
  · exact all index (full ▸ below)
  · exact earlier index below

theorem lt_goodPrefix_iff {succeeds : ℕ → Bool} {count index : ℕ} (below : index < count) :
    index < goodPrefix succeeds count ↔ ∀ earlier ≤ index, succeeds earlier = true := by
  constructor
  · intro inside earlier upTo
    exact goodPrefix_succeeds (Nat.lt_of_le_of_lt upTo inside)
  · intro all
    rcases goodPrefix_cases succeeds count with ⟨full, _⟩ | ⟨_, _, fails⟩
    · rw [full]
      exact below
    · by_contra outside
      have succeeded := all _ (Nat.le_of_not_lt outside)
      rw [fails] at succeeded
      exact Bool.false_ne_true succeeded

theorem goodPrefix_eq_iff {succeeds : ℕ → Bool} {count : ℕ} :
    goodPrefix succeeds count = count ↔ ∀ index < count, succeeds index = true := by
  constructor
  · intro full index below
    exact goodPrefix_succeeds (full.symm ▸ below)
  · intro all
    rcases goodPrefix_cases succeeds count with ⟨full, _⟩ | ⟨short, _, fails⟩
    · exact full
    · rw [all _ short] at fails
      exact absurd fails.symm Bool.false_ne_true

theorem all_or_first (goesOn : ℕ → Prop) (count : ℕ) :
    (∀ index < count, goesOn index) ∨
      ∃ first < count, (∀ index < first, goesOn index) ∧ ¬ goesOn first := by
  induction count with
  | zero => exact .inl fun index below => absurd below (Nat.not_lt_zero index)
  | succ count ih =>
      rcases ih with all | ⟨first, below, earlier, stops⟩
      · by_cases last : goesOn count
        · refine .inl fun index below => ?_
          rcases Nat.lt_succ_iff_lt_or_eq.mp below with before | rfl
          · exact all index before
          · exact last
        · exact .inr ⟨count, Nat.lt_succ_self count, all, last⟩
      · exact .inr ⟨first, Nat.lt_succ_of_lt below, earlier, stops⟩

/-- Of the iterations that are reached, only the one that stops can violate what
going on implies. -/
theorem forall_reached_iff {goesOn property : ℕ → Prop} {count first : ℕ} (below : first < count)
    (earlier : ∀ index < first, goesOn index) (stops : ¬ goesOn first)
    (settled : ∀ index, goesOn index → property index) :
    (∀ index < count, (∀ before < index, goesOn before) → property index) ↔ property first := by
  constructor
  · intro all
    exact all first below earlier
  · intro holds index _ reached
    rcases Nat.lt_trichotomy index first with before | rfl | after
    · exact settled index (earlier index before)
    · exact holds
    · exact absurd (reached first after) stops

/-- A loop whose every iteration goes on and hands the invariant to the next. -/
theorem run_forLoop_all {body : ℕ → Process σ ε (Option β)} {inv : ℕ → σ → Prop} {count : ℕ}
    {state : σ} (start : inv 0 state)
    (goesOn : ∀ index < count, ∀ before, inv index before →
      ∃ after, (body index).run before = (.returned none, after) ∧ inv (index + 1) after) :
    ∃ final, (forLoop body count).run state = (.returned none, final) ∧ inv count final := by
  induction count with
  | zero => exact ⟨state, rfl, start⟩
  | succ count ih =>
      obtain ⟨middle, earlier, reached⟩ :=
        ih fun index below => goesOn index (Nat.lt_succ_of_lt below)
      obtain ⟨final, last, holds⟩ := goesOn count (Nat.lt_succ_self count) middle reached
      refine ⟨final, ?_, holds⟩
      rw [run_forLoop_succ, earlier]
      exact last

/-- A loop ends as its first iteration that does not go on. -/
theorem run_forLoop_first {body : ℕ → Process σ ε (Option β)} {inv : ℕ → σ → Prop}
    {count first : ℕ} {state : σ} (start : inv 0 state) (below : first < count)
    (goesOn : ∀ index < first, ∀ before, inv index before →
      ∃ after, (body index).run before = (.returned none, after) ∧ inv (index + 1) after)
    (stops : ∀ before, inv first before → ((body first).run before).1 ≠ .returned none) :
    ∃ reached, inv first reached ∧
      (forLoop body count).run state = (body first).run reached := by
  obtain ⟨reached, earlier, holds⟩ := run_forLoop_all start goesOn
  refine ⟨reached, holds, ?_⟩
  have stopped := stops reached holds
  induction count with
  | zero => exact absurd below (Nat.not_lt_zero first)
  | succ count ih =>
      rw [run_forLoop_succ]
      rcases Nat.lt_succ_iff_lt_or_eq.mp below with before | rfl
      · rw [ih before]
        rcases ran : (body first).run reached with ⟨outcome, final⟩
        rw [ran] at stopped
        cases outcome with
        | returned value =>
            cases value with
            | none => exact absurd rfl stopped
            | some result => rfl
        | thrown error => rfl
        | exited status => rfl
      · rw [earlier]

/-- A loop whose body only looks at the state. -/
theorem run_forLoop_unchanged {body : ℕ → Process σ ε (Option β)} {count : ℕ} {state : σ}
    (looks : ∀ index < count, ((body index).run state).2 = state) :
    ((forLoop body count).run state).2 = state ∧
      (((forLoop body count).run state).1 = .returned none ↔
        ∀ index < count, ((body index).run state).1 = .returned none) := by
  induction count with
  | zero => exact ⟨rfl, by simp⟩
  | succ count ih =>
      obtain ⟨kept, exact⟩ := ih fun index below => looks index (Nat.lt_succ_of_lt below)
      have last := looks count (Nat.lt_succ_self count)
      rw [run_forLoop_succ, Nat.forall_lt_succ_right, ← exact]
      rcases ran : (forLoop body count).run state with ⟨outcome, reached⟩
      rw [ran] at kept
      subst kept
      cases outcome with
      | returned value =>
          cases value with
          | none => exact ⟨last, by simp⟩
          | some result => exact ⟨rfl, by simp⟩
      | thrown error => exact ⟨rfl, by simp⟩
      | exited status => exact ⟨rfl, by simp⟩

end Process

end InspurIpmi.Foundation

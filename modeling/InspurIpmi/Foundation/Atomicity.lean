import InspurIpmi.Foundation.Process

/-! Computations that either do one thing to what a view shows of the state, or
leave it alone. A step that fails may have been carried out nevertheless, unless its
failures are inert. The rules follow the way a computation is put together. -/

set_option autoImplicit false

namespace InspurIpmi.Foundation

variable {σ τ ε α β : Type}

/-- It ends with a value that counts as done. -/
def Outcome.Done (done : α → Prop) (outcome : Outcome ε α) : Prop :=
  ∃ value, outcome = .returned value ∧ done value

theorem Outcome.done_returned {done : α → Prop} {value : α} :
    Outcome.Done done (.returned value : Outcome ε α) ↔ done value := by
  constructor
  · rintro ⟨other, same, isDone⟩
    cases same
    exact isDone
  · intro isDone
    exact ⟨value, rfl, isDone⟩

theorem Outcome.not_done_thrown {done : α → Prop} {error : ε} :
    ¬ Outcome.Done done (.thrown error : Outcome ε α) := by
  rintro ⟨value, same, _⟩
  cases same

theorem Outcome.not_done_exited {done : α → Prop} {status : Int} :
    ¬ Outcome.Done done (.exited status : Outcome ε α) := by
  rintro ⟨value, same, _⟩
  cases same

namespace Process

/-- However it ends, the view is what it was. -/
def Keeps (view : σ → τ) (process : Process σ ε α) : Prop :=
  ∀ state, view (process.run state).2 = view state

/-- All or nothing: the view is updated when the computation is done, and else it is what
it was, or has been updated by a step that failed. -/
structure Commits (view : σ → τ) (inert : Prop) (done : α → Prop) (update : τ → τ)
    (process : Process σ ε α) : Prop where
  applied : ∀ state, Outcome.Done done (process.run state).1 →
    view (process.run state).2 = update (view state)
  undone : ∀ state, ¬ Outcome.Done done (process.run state).1 →
    view (process.run state).2 = view state ∨
      ¬ inert ∧ view (process.run state).2 = update (view state)

variable {view : σ → τ} {inert : Prop} {done : α → Prop} {update : τ → τ}

/-!
## Computations that keep the view
-/

theorem keeps_pure (value : α) : Keeps view (pure value : Process σ ε α) := fun _ => rfl

theorem keeps_gets (look : σ → α) : Keeps view (gets look : Process σ ε α) := fun _ => rfl

theorem keeps_throw (error : ε) : Keeps view (throw error : Process σ ε α) := fun _ => rfl

theorem keeps_throw_bind (error : ε) (next : β → Process σ ε α) :
    Keeps view (throw error >>= next) := fun _ => rfl

theorem keeps_modify {change : σ → σ} (unseen : ∀ state, view (change state) = view state) :
    Keeps view (modify change : Process σ ε Unit) :=
  unseen

theorem Keeps.bind {process : Process σ ε α} {next : α → Process σ ε β}
    (first : Keeps view process) (rest : ∀ value, Keeps view (next value)) :
    Keeps view (process >>= next) := by
  intro state
  have kept := first state
  rw [run_bind]
  rcases ran : process.run state with ⟨outcome, middle⟩
  rw [ran] at kept
  cases outcome with
  | returned value => exact (rest value middle).trans kept
  | thrown error => exact kept
  | exited status => exact kept

theorem Keeps.tryCatch {process : Process σ ε α} {handler : ε → Process σ ε α}
    (body : Keeps view process) (handled : ∀ error, Keeps view (handler error)) :
    Keeps view (tryCatch process handler) := by
  intro state
  have kept := body state
  rw [run_tryCatch]
  rcases ran : process.run state with ⟨outcome, middle⟩
  rw [ran] at kept
  cases outcome with
  | returned value => exact kept
  | thrown error => exact (handled error middle).trans kept
  | exited status => exact kept

theorem Keeps.ite {condition : Prop} [Decidable condition] {first second : Process σ ε α}
    (yes : Keeps view first) (no : Keeps view second) :
    Keeps view (if condition then first else second) := by
  split
  · exact yes
  · exact no

/-!
## Computations that commit
-/

/-- With inert failures nothing happens unless all does. -/
theorem Commits.refused {process : Process σ ε α}
    (committed : Commits view inert done update process) (harmless : inert) (state : σ)
    (unfinished : ¬ Outcome.Done done (process.run state).1) :
    view (process.run state).2 = view state := by
  rcases committed.undone state unfinished with kept | ⟨harmful, _⟩
  · exact kept
  · exact absurd harmless harmful

/-- However it ends, there is nothing between the old and the new. -/
theorem Commits.bounded {process : Process σ ε α}
    (committed : Commits view inert done update process) (state : σ) :
    view (process.run state).2 = view state ∨ view (process.run state).2 = update (view state) := by
  by_cases finished : Outcome.Done done (process.run state).1
  · exact .inr (committed.applied state finished)
  · exact (committed.undone state finished).imp_right And.right

/-- Fewer failures may be taken for inert. -/
theorem Commits.mono {other : Prop} {process : Process σ ε α}
    (committed : Commits view inert done update process) (implies : other → inert) :
    Commits view other done update process :=
  ⟨committed.applied, fun state unfinished =>
    (committed.undone state unfinished).imp_right fun ⟨harmful, updated⟩ =>
      ⟨mt implies harmful, updated⟩⟩

/-- What keeps the view and is never done commits anything. -/
theorem commits_of_keeps {process : Process σ ε α} (kept : Keeps view process)
    (unfinished : ∀ state, ¬ Outcome.Done done (process.run state).1) :
    Commits view inert done update process :=
  ⟨fun state finished => absurd finished (unfinished state), fun state _ => .inl (kept state)⟩

theorem commits_pure {value : α} (unfinished : ¬ done value) :
    Commits view inert done update (pure value : Process σ ε α) := by
  exact commits_of_keeps (keeps_pure value) fun _ finished =>
    unfinished (Outcome.done_returned.mp finished)

/-- The step that makes the update. -/
theorem commits_modify {change : σ → σ}
    (changed : ∀ state, view (change state) = update (view state)) :
    Commits view inert (fun _ => True) update (modify change : Process σ ε Unit) :=
  ⟨fun state _ => changed state,
    fun _ unfinished => absurd (Outcome.done_returned.mpr trivial) unfinished⟩

/-- The step makes the update and fails. -/
theorem commits_modify_throw {change : σ → σ} (harmful : ¬ inert)
    (changed : ∀ state, view (change state) = update (view state)) (error : ε) :
    Commits view inert done update (do modify change; throw error : Process σ ε α) :=
  ⟨fun _ finished => absurd finished Outcome.not_done_thrown,
    fun state _ => .inr ⟨harmful, changed state⟩⟩

/-- Steps in front may fail, as long as they keep the view. -/
theorem Commits.after {process : Process σ ε β} {next : β → Process σ ε α}
    (first : Keeps view process) (rest : ∀ value, Commits view inert done update (next value)) :
    Commits view inert done update (process >>= next) := by
  have split : ∀ state,
      (∃ value middle, view middle = view state ∧
        (process >>= next).run state = (next value).run middle) ∨
      (¬ Outcome.Done done ((process >>= next).run state).1 ∧
        view ((process >>= next).run state).2 = view state) := by
    intro state
    have kept := first state
    rw [run_bind]
    rcases ran : process.run state with ⟨outcome, middle⟩
    rw [ran] at kept
    cases outcome with
    | returned value => exact .inl ⟨value, middle, kept, rfl⟩
    | thrown error => exact .inr ⟨Outcome.not_done_thrown, kept⟩
    | exited status => exact .inr ⟨Outcome.not_done_exited, kept⟩
  constructor
  · intro state finished
    rcases split state with ⟨value, middle, kept, ran⟩ | ⟨unfinished, _⟩
    · rw [ran] at finished ⊢
      rw [(rest value).applied middle finished, kept]
    · exact absurd finished unfinished
  · intro state unfinished
    rcases split state with ⟨value, middle, kept, ran⟩ | ⟨_, kept⟩
    · rw [ran] at unfinished ⊢
      rw [← kept]
      exact (rest value).undone middle unfinished
    · exact .inl kept

/-- Steps behind the update may do anything else, but neither fail nor be refused. -/
theorem Commits.andThen {process : Process σ ε β} {next : β → Process σ ε α}
    (first : Commits view inert (fun _ => True) update process)
    (rest : ∀ value, Keeps view (next value))
    (finishes : ∀ value state, Outcome.Done done ((next value).run state).1) :
    Commits view inert done update (process >>= next) := by
  constructor
  · intro state finished
    have applied := first.applied state
    rw [run_bind] at finished ⊢
    rcases ran : process.run state with ⟨outcome, middle⟩
    rw [ran] at finished applied
    cases outcome with
    | returned value =>
        exact (rest value middle).trans (applied (Outcome.done_returned.mpr trivial))
    | thrown error => exact absurd finished Outcome.not_done_thrown
    | exited status => exact absurd finished Outcome.not_done_exited
  · intro state unfinished
    have undone := first.undone state
    rw [run_bind] at unfinished ⊢
    rcases ran : process.run state with ⟨outcome, middle⟩
    rw [ran] at unfinished undone
    cases outcome with
    | returned value => exact absurd (finishes value middle) unfinished
    | thrown error => exact undone Outcome.not_done_thrown
    | exited status => exact undone Outcome.not_done_exited

/-- Steps behind the update that may fail leave it made. -/
theorem Commits.followed {process : Process σ ε β} {next : β → Process σ ε α}
    (first : Commits view inert (fun _ => True) update process)
    (rest : ∀ value, Keeps view (next value)) :
    Commits view False done update (process >>= next) := by
  have both : ∀ state,
      (∃ value middle, view middle = update (view state) ∧
        (process >>= next).run state = (next value).run middle) ∨
      (¬ Outcome.Done done ((process >>= next).run state).1 ∧
        (view ((process >>= next).run state).2 = view state ∨
          view ((process >>= next).run state).2 = update (view state))) := by
    intro state
    have applied := first.applied state
    have bounded := first.bounded state
    rw [run_bind]
    rcases ran : process.run state with ⟨outcome, middle⟩
    rw [ran] at applied bounded
    cases outcome with
    | returned value =>
        exact .inl ⟨value, middle, applied (Outcome.done_returned.mpr trivial), rfl⟩
    | thrown error => exact .inr ⟨Outcome.not_done_thrown, bounded⟩
    | exited status => exact .inr ⟨Outcome.not_done_exited, bounded⟩
  constructor
  · intro state finished
    rcases both state with ⟨value, middle, updated, ran⟩ | ⟨unfinished, _⟩
    · rw [ran, rest value middle, updated]
    · exact absurd finished unfinished
  · intro state _
    rcases both state with ⟨value, middle, updated, ran⟩ | ⟨_, kept | updated⟩
    · rw [ran, rest value middle]
      exact .inr ⟨not_false, updated⟩
    · exact .inl kept
    · exact .inr ⟨not_false, updated⟩

theorem Commits.ite {condition : Prop} [Decidable condition] {first second : Process σ ε α}
    (yes : Commits view inert done update first) (no : Commits view inert done update second) :
    Commits view inert done update (if condition then first else second) := by
  split
  · exact yes
  · exact no

/-- A handler for exceptions that is never done keeps the all or nothing. -/
theorem Commits.tryCatch {process : Process σ ε α} {handler : ε → Process σ ε α}
    (body : Commits view inert done update process) (handled : ∀ error, Keeps view (handler error))
    (unfinished : ∀ error state, ¬ Outcome.Done done ((handler error).run state).1) :
    Commits view inert done update (tryCatch process handler) := by
  constructor
  · intro state finished
    have committed := body.applied state
    rw [run_tryCatch] at finished ⊢
    rcases ran : process.run state with ⟨outcome, middle⟩
    rw [ran] at finished committed
    cases outcome with
    | returned value => exact committed finished
    | thrown error => exact absurd finished (unfinished error middle)
    | exited status => exact committed finished
  · intro state refused
    have undone := body.undone state
    rw [run_tryCatch] at refused ⊢
    rcases ran : process.run state with ⟨outcome, middle⟩
    rw [ran] at refused undone
    cases outcome with
    | returned value => exact undone refused
    | thrown error =>
        dsimp only
        rw [handled error middle]
        exact undone Outcome.not_done_thrown
    | exited status => exact undone refused

end Process

end InspurIpmi.Foundation

import InspurIpmi.Foundation.Process

/-! Partial correctness, forwards: what is known of the state in front of a step says
what is known of its value and of the state behind it. A step that throws, or ends the
process, ensures anything. -/

set_option autoImplicit false

namespace InspurIpmi.Foundation.Process

variable {σ ε α β : Type}

def Ensures (pre : σ → Prop) (process : Process σ ε α) (post : α → σ → Prop) : Prop :=
  ∀ state, pre state → ∀ value after, process.run state = (.returned value, after) → post value after

variable {pre : σ → Prop} {post : α → σ → Prop}

theorem Ensures.imp {process : Process σ ε α} {weaker : α → σ → Prop}
    (ensures : Ensures pre process post) (implies : ∀ value state, post value state → weaker value state) :
    Ensures pre process weaker :=
  fun state met value after ran => implies value after (ensures state met value after ran)

theorem Ensures.of_pre {process : Process σ ε α} {stronger : σ → Prop}
    (ensures : Ensures pre process post) (implies : ∀ state, stronger state → pre state) :
    Ensures stronger process post :=
  fun state met => ensures state (implies state met)

/-- What every state in front of the step says may be used to prove what it ensures. -/
theorem ensures_known {process : Process σ ε α}
    (known : ∀ state, pre state → Ensures pre process post) : Ensures pre process post :=
  fun state met => known state met state met

theorem ensures_pure {value : α} (holds : ∀ state, pre state → post value state) :
    Ensures pre (pure value : Process σ ε α) post := by
  intro state met result after ran
  cases ran
  exact holds state met

theorem ensures_throw (error : ε) : Ensures pre (throw error : Process σ ε α) post := by
  intro state _ result after ran
  cases ran

theorem ensures_throw_bind (error : ε) (next : β → Process σ ε α) :
    Ensures pre (throw error >>= next) post := by
  intro state _ result after ran
  cases ran

/-- A step that only looks at the state keeps what is known of it. -/
theorem Ensures.unchanged {process : Process σ ε α} (ensures : Ensures pre process post)
    (looks : ∀ state, (process.run state).2 = state) :
    Ensures pre process fun value state => pre state ∧ post value state := by
  intro state met value after ran
  have same : after = state := (congrArg Prod.snd ran).symm.trans (looks state)
  exact ⟨same.symm ▸ met, ensures state met value after ran⟩

theorem ensures_gets (view : σ → α) :
    Ensures pre (gets view : Process σ ε α) fun value state => pre state ∧ value = view state := by
  intro state met result after ran
  cases ran
  exact ⟨met, rfl⟩

theorem ensures_modify (change : σ → σ) :
    Ensures pre (modify change : Process σ ε Unit) fun _ after =>
      ∃ state, pre state ∧ after = change state := by
  intro state met result after ran
  cases ran
  exact ⟨state, met, rfl⟩

theorem Ensures.bind {process : Process σ ε β} {next : β → Process σ ε α} {middle : β → σ → Prop}
    (first : Ensures pre process middle) (rest : ∀ value, Ensures (middle value) (next value) post) :
    Ensures pre (process >>= next) post := by
  intro state met result after ran
  rw [run_bind] at ran
  rcases started : process.run state with ⟨outcome, between⟩
  rw [started] at ran
  cases outcome with
  | returned value => exact rest value between (first state met value between started) result after ran
  | thrown error => cases ran
  | exited status => cases ran

theorem Ensures.ite {condition : Prop} [Decidable condition] {first second : Process σ ε α}
    (yes : condition → Ensures pre first post) (no : ¬ condition → Ensures pre second post) :
    Ensures pre (if condition then first else second) post := by
  split
  · exact yes ‹_›
  · exact no ‹_›

/-- The handler starts where the body was left, of which nothing is known. -/
theorem Ensures.tryCatch {process : Process σ ε α} {handler : ε → Process σ ε α}
    (body : Ensures pre process post)
    (handled : ∀ error, Ensures (fun _ => True) (handler error) post) :
    Ensures pre (tryCatch process handler) post := by
  intro state met result after ran
  rw [run_tryCatch] at ran
  rcases started : process.run state with ⟨outcome, between⟩
  rw [started] at ran
  cases outcome with
  | returned value =>
      cases ran
      exact body state met _ _ started
  | thrown error => exact handled error between trivial result after ran
  | exited status => cases ran

end InspurIpmi.Foundation.Process

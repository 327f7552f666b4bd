import Mathlib.Data.List.Basic
import Mathlib.Tactic.Common

/-! Registers of a system whose steps are total. A register is a part of the
state that some labels write and all others leave alone. -/

set_option autoImplicit false

namespace InspurIpmi.Foundation

variable {σ ι α : Type}

/-- What a register that held `start` holds after the writes of some labels. -/
def lastWritten (writes : ι → Option α) (start : α) (labels : List ι) : α :=
  (labels.filterMap writes).getLastD start

variable {writes : ι → Option α} {start : α}

theorem lastWritten_cons (label : ι) (labels : List ι) :
    lastWritten writes start (label :: labels) =
      lastWritten writes ((writes label).getD start) labels := by
  cases written : writes label with
  | none => simp [lastWritten, written]
  | some value => simp [lastWritten, written, List.getLast?_cons]

theorem lastWritten_of_unwritten {labels : List ι}
    (unwritten : ∀ label ∈ labels, writes label = none) :
    lastWritten writes start labels = start := by
  rw [lastWritten, List.filterMap_eq_nil_iff.mpr unwritten]
  rfl

/-- A register that only ever gets one value holds it as soon as it was written. -/
theorem lastWritten_of_one {value : α}
    (one : ∀ label written, writes label = some written → written = value)
    {labels : List ι} (wrote : ∃ label ∈ labels, writes label ≠ none) :
    lastWritten writes start labels = value := by
  induction labels generalizing start with
  | nil =>
    obtain ⟨label, member, _⟩ := wrote
    cases member
  | cons label rest ih =>
    rw [lastWritten_cons]
    by_cases later : ∃ label ∈ rest, writes label ≠ none
    · exact ih later
    · have unwritten : ∀ label ∈ rest, writes label = none := fun label member =>
        not_not.mp fun written => later ⟨label, member, written⟩
      rw [lastWritten_of_unwritten unwritten]
      obtain ⟨first, member, written⟩ := wrote
      cases member with
      | head =>
        obtain ⟨found, finds⟩ := Option.ne_none_iff_exists'.mp written
        rw [finds, Option.getD_some]
        exact one label found finds
      | tail _ member => exact absurd (unwritten first member) written

/-- A register holds after a run what the run wrote to it last. The invariant is
what the steps need to be told apart by their labels. -/
theorem register_foldl {step : σ → ι → σ} {inv : σ → Prop} {register : σ → α}
    (keeps : ∀ state label, inv state → inv (step state label))
    (moves : ∀ state label, inv state →
      register (step state label) = (writes label).getD (register state))
    {state : σ} (holds : inv state) (labels : List ι) :
    register (labels.foldl step state) = lastWritten writes (register state) labels := by
  induction labels generalizing state with
  | nil => rfl
  | cons label rest ih =>
    rw [List.foldl_cons, lastWritten_cons, ih (keeps state label holds),
      moves state label holds]

end InspurIpmi.Foundation

import Mathlib.Data.Finset.Card
import Mathlib.Data.Finset.Range
import Mathlib.Data.Finset.Insert
import Mathlib.Tactic.Common

/-! The open file descriptors of one process. `open` hands out the lowest
descriptor that is not in use, `close` gives one back. -/

set_option autoImplicit false

namespace InspurIpmi.Foundation

def lowestFree (taken : Finset ℕ) : ℕ :=
  ((List.range (taken.card + 1)).find? fun fd => fd ∉ taken).getD 0

private theorem exists_free (taken : Finset ℕ) :
    ∃ fd ∈ List.range (taken.card + 1), fd ∉ taken := by
  by_contra none
  push Not at none
  have included : Finset.range (taken.card + 1) ⊆ taken := fun fd member =>
    none fd (List.mem_range.mpr (Finset.mem_range.mp member))
  have tooMany := Finset.card_le_card included
  rw [Finset.card_range] at tooMany
  omega

@[simp] theorem lowestFree_notMem (taken : Finset ℕ) : lowestFree taken ∉ taken := by
  unfold lowestFree
  cases found : (List.range (taken.card + 1)).find? fun fd => fd ∉ taken with
  | none =>
      obtain ⟨fd, member, free⟩ := exists_free taken
      exact absurd (decide_eq_true free) (List.find?_eq_none.mp found fd member)
  | some fd => simpa using List.find?_some found

theorem lowestFree_eq_zero_iff {taken : Finset ℕ} : lowestFree taken = 0 ↔ 0 ∉ taken := by
  constructor
  · intro zero used
    exact lowestFree_notMem taken (zero ▸ used)
  · intro free
    simp [lowestFree, List.range_succ_eq_map, free]

@[simp] theorem erase_insert_lowestFree (taken : Finset ℕ) :
    (insert (lowestFree taken) taken).erase (lowestFree taken) = taken :=
  Finset.erase_insert (lowestFree_notMem taken)

@[simp] theorem insert_lowestFree_ne (taken : Finset ℕ) :
    insert (lowestFree taken) taken ≠ taken :=
  Finset.insert_ne_self.mpr (lowestFree_notMem taken)

example : lowestFree {0, 1, 2, 4} = 3 := by decide

end InspurIpmi.Foundation

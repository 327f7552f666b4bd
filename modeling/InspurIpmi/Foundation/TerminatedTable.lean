import Mathlib.Tactic.Common

/-! A heap table whose entries end at the first empty slot, and which grows by a
whole bunch of slots before its last empty slot would be filled. -/

set_option autoImplicit false

namespace InspurIpmi.Foundation

variable {α : Type}

/-- Slots from `size` on are not part of the table, whatever they hold. -/
structure TerminatedTable (α : Type) where
  size : ℕ
  slots : ℕ → Option α

namespace TerminatedTable

def cleared (size : ℕ) : TerminatedTable α := ⟨size, fun _ => none⟩

/-- A `realloc` to `count + bunch` slots, of which the slots from `count` on are
cleared. What it keeps of the table is what lay inside both sizes; `stray` is the
rest of the new block. -/
def enlarge (stray : ℕ → Option α) (bunch count : ℕ) (table : TerminatedTable α) :
    TerminatedTable α where
  size := count + bunch
  slots index :=
    if count ≤ index ∧ index < count + bunch then none
    else if index < table.size then table.slots index
    else stray index

/-- A store outside the table is refused. -/
def put (table : TerminatedTable α) (index : ℕ) (entry : α) : Option (TerminatedTable α) :=
  if index < table.size then
    some { table with slots := fun other => if other = index then some entry else table.slots other }
  else none

/-- The walk that reads slot after slot up to an empty one. It fails when the next
slot to read is outside the table. -/
def walkFrom (table : TerminatedTable α) : ℕ → ℕ → Option (List α)
  | 0, _ => none
  | left + 1, index =>
      match table.slots index with
      | none => some []
      | some entry => (table.walkFrom left (index + 1)).map (entry :: ·)

def walk (table : TerminatedTable α) : Option (List α) := table.walkFrom table.size 0

/-!
## What a table holds
-/

/-- The entries, and behind them only empty slots, of which there is at least one. -/
structure Holds (table : TerminatedTable α) (entries : List α) : Prop where
  terminated : entries.length < table.size
  slot : ∀ index < table.size, table.slots index = entries[index]?

variable {table : TerminatedTable α} {entries : List α}

theorem holds_cleared {size : ℕ} (positive : 0 < size) :
    (cleared size : TerminatedTable α).Holds [] :=
  ⟨positive, fun _ _ => rfl⟩

theorem Holds.walkFrom_eq (holds : table.Holds entries) {left index : ℕ}
    (rest : index + left = table.size) (inside : index ≤ entries.length) :
    table.walkFrom left index = some (entries.drop index) := by
  induction left generalizing index with
  | zero =>
      have terminated := holds.terminated
      exact absurd rest (by omega)
  | succ left ih =>
      have slot := holds.slot index (by omega)
      cases Nat.lt_or_eq_of_le inside with
      | inl below =>
          rw [List.getElem?_eq_getElem below] at slot
          rw [walkFrom, slot, List.drop_eq_getElem_cons below]
          exact congrArg (Option.map _) (ih (by omega) below)
      | inr ended =>
          rw [List.getElem?_eq_none (Nat.le_of_eq ended.symm)] at slot
          rw [walkFrom, slot, List.drop_eq_nil_of_le (Nat.le_of_eq ended.symm)]

/-- The walk ends inside the table and meets exactly its entries. -/
theorem Holds.walk_eq (holds : table.Holds entries) : table.walk = some entries :=
  holds.walkFrom_eq (Nat.zero_add table.size) (Nat.zero_le _)

/-- A put behind the entries adds one, as long as an empty slot is left. -/
theorem Holds.put (holds : table.Holds entries) (entry : α)
    (room : entries.length + 1 < table.size) :
    ∃ after, table.put entries.length entry = some after ∧ after.size = table.size ∧
      after.Holds (entries ++ [entry]) := by
  refine ⟨_, if_pos holds.terminated, rfl, ?_, ?_⟩
  · rw [List.length_append]
    exact room
  · intro index below
    have slot := holds.slot index below
    rcases Nat.lt_trichotomy index entries.length with before | rfl | behind
    · rw [List.getElem?_append_left before, ← slot]
      exact if_neg (Nat.ne_of_lt before)
    · rw [List.getElem?_concat_length]
      exact if_pos rfl
    · have outside : (entries ++ [entry]).length ≤ index := by
        rw [List.length_append]
        exact behind
      rw [List.getElem?_eq_none outside]
      rw [List.getElem?_eq_none (Nat.le_of_lt behind)] at slot
      exact (if_neg (Nat.ne_of_gt behind)).trans slot

/-- Growing keeps the entries when the count it is given is the size the table had. -/
theorem Holds.enlarge (holds : table.Holds entries) (stray : ℕ → Option α) (bunch : ℕ) :
    (table.enlarge stray bunch table.size).Holds entries := by
  have terminated := holds.terminated
  refine ⟨Nat.lt_of_lt_of_le terminated (Nat.le_add_right _ _), fun index below => ?_⟩
  cases Nat.lt_or_ge index table.size with
  | inl inside =>
      have kept : ¬ (table.size ≤ index ∧ index < table.size + bunch) := by omega
      rw [← holds.slot index inside]
      exact (if_neg kept).trans (if_pos inside)
  | inr new =>
      rw [List.getElem?_eq_none (by omega)]
      exact if_pos ⟨new, below⟩

end TerminatedTable

end InspurIpmi.Foundation

import Mathlib.Data.List.GetD
import Mathlib.Logic.Function.Basic
import Mathlib.Logic.Nontrivial.Defs
import Mathlib.Tactic.Common

/-! Flat memories: a cell for each address, and blocks of consecutive cells
written one after another. Nothing here depends on what a cell holds. -/

set_option autoImplicit false

namespace InspurIpmi.Foundation

variable {α : Type}

def overlay (memory : ℕ → α) (start length : ℕ) (source : ℕ → α) : ℕ → α :=
  fun address =>
    if start ≤ address ∧ address < start + length then source (address - start)
    else memory address

def Holds (memory : ℕ → α) (start length : ℕ) (source : ℕ → α) : Prop :=
  ∀ index < length, memory (start + index) = source index

instance [DecidableEq α] (memory : ℕ → α) (start length : ℕ) (source : ℕ → α) :
    Decidable (Holds memory start length source) :=
  inferInstanceAs (Decidable (∀ index < length, memory (start + index) = source index))

theorem overlay_inside (memory source : ℕ → α) {start length index : ℕ} (below : index < length) :
    overlay memory start length source (start + index) = source index := by
  simp only [overlay, Nat.le_add_right, Nat.add_lt_add_iff_left, below, and_self, if_true,
    Nat.add_sub_cancel_left]

theorem overlay_front (memory source : ℕ → α) {length index : ℕ} (below : index < length) :
    overlay memory 0 length source index = source index := by
  have inside : 0 ≤ index ∧ index < 0 + length := by omega
  simp only [overlay, inside, and_self, if_true, Nat.sub_zero]

theorem overlay_outside (memory source : ℕ → α) {start length address : ℕ}
    (outside : address < start ∨ start + length ≤ address) :
    overlay memory start length source address = memory address := by
  have excluded : ¬(start ≤ address ∧ address < start + length) := by omega
  simp only [overlay, excluded, if_false]

@[simp] theorem overlay_zero_length (memory : ℕ → α) (start : ℕ) (source : ℕ → α) :
    overlay memory start 0 source = memory := by
  funext address
  exact overlay_outside memory source (by omega)

theorem update_overlay (memory : ℕ → α) (start length : ℕ) (source : ℕ → α) :
    Function.update (overlay memory start length source) (start + length) (source length) =
      overlay memory start (length + 1) source := by
  funext address
  by_cases last : address = start + length
  · subst last
    rw [Function.update_self, overlay_inside memory source (Nat.lt_succ_self length)]
  · rw [Function.update_of_ne last]
    unfold overlay
    have shorter : (start ≤ address ∧ address < start + length) ↔
        (start ≤ address ∧ address < start + (length + 1)) := by omega
    simp only [shorter]

theorem overlay_overlay_succ (memory : ℕ → α) (start length : ℕ) (source : ℕ → α) :
    overlay (overlay memory start length source) (start + length) 1 (fun _ => source length) =
      overlay memory start (length + 1) source := by
  rw [← update_overlay, ← update_overlay, overlay_zero_length, Nat.add_zero]

theorem overlay_append (memory source : ℕ → α) (start first second : ℕ) :
    overlay (overlay memory start first source) (start + first) second
        (fun index => source (first + index)) =
      overlay memory start (first + second) source := by
  induction second with
  | zero => rw [overlay_zero_length, Nat.add_zero]
  | succ second ih =>
      rw [← update_overlay, ih, Nat.add_assoc, update_overlay, Nat.add_assoc]

theorem overlay_congr (memory : ℕ → α) (start length : ℕ) {first second : ℕ → α}
    (same : ∀ index < length, first index = second index) :
    overlay memory start length first = overlay memory start length second := by
  funext address
  unfold overlay
  split
  · exact same _ (by omega)
  · rfl

theorem holds_overlay (memory : ℕ → α) (start length : ℕ) (source : ℕ → α) :
    Holds (overlay memory start length source) start length source :=
  fun _ below => overlay_inside memory source below

/-- Over memories that agree on nothing, two blocks look the same on a stretch that
neither leaves open and on which their sources agree. -/
theorem overlays_agree_iff [Nontrivial α] {count length : ℕ} {first second : ℕ → α} :
    (∀ before₁ before₂, ∀ index < length,
        overlay before₁ 0 count first index = overlay before₂ 0 count second index) ↔
      length ≤ count ∧ ∀ index < length, first index = second index := by
  constructor
  · intro agree
    obtain ⟨one, other, distinct⟩ := exists_pair_ne α
    have covered : length ≤ count := by
      by_contra uncovered
      have same := agree (fun _ => one) (fun _ => other) count (Nat.not_le.mp uncovered)
      rw [overlay_outside _ first (by omega), overlay_outside _ second (by omega)] at same
      exact distinct same
    refine ⟨covered, fun index below => ?_⟩
    have same := agree (fun _ => one) (fun _ => other) index below
    rwa [overlay_front _ first (by omega), overlay_front _ second (by omega)] at same
  · rintro ⟨covered, same⟩ before₁ before₂ index below
    rw [overlay_front before₁ first (by omega), overlay_front before₂ second (by omega)]
    exact same index below

/-- A region of which only a prefix was rewritten holds the source exactly when
the cells that were left already did. -/
theorem holds_overlay_prefix {memory source : ℕ → α} {start length count : ℕ} :
    Holds (overlay memory start count source) start length source ↔
      ∀ index < length, count ≤ index → memory (start + index) = source index := by
  constructor
  · intro held index below left
    rw [← held index below, overlay_outside memory source (by omega)]
  · intro left index below
    by_cases written : index < count
    · exact overlay_inside memory source written
    · rw [overlay_outside memory source (by omega)]
      exact left index below (by omega)

/-- A shorter block makes no difference exactly when the cells it leaves out hold
the source already. -/
theorem overlay_shorter_iff {memory source : ℕ → α} {start length count : ℕ}
    (shorter : count ≤ length) :
    overlay memory start count source = overlay memory start length source ↔
      ∀ index < length, index < count ∨ memory (start + index) = source index := by
  constructor
  · intro same index below
    by_cases written : index < count
    · exact .inl written
    · have cell := congrFun same (start + index)
      rw [overlay_outside memory source (by omega), overlay_inside memory source below] at cell
      exact .inr cell
  · intro left
    funext address
    by_cases inside : start ≤ address ∧ address < start + length
    · obtain ⟨index, rfl⟩ := Nat.exists_eq_add_of_le inside.1
      have below : index < length := by omega
      rw [overlay_inside memory source below]
      rcases left index below with written | holds
      · exact overlay_inside memory source written
      · by_cases written : index < count
        · exact overlay_inside memory source written
        · rw [overlay_outside memory source (by omega), holds]
    · rw [overlay_outside memory source (by omega), overlay_outside memory source (by omega)]

theorem overlay_eq_self_iff {memory source : ℕ → α} {start length : ℕ} :
    overlay memory start length source = memory ↔ Holds memory start length source := by
  have nothing := @overlay_shorter_iff α memory source start length 0 (Nat.zero_le length)
  rw [overlay_zero_length] at nothing
  rw [eq_comm, nothing]
  exact forall₂_congr fun index _ => or_iff_right (Nat.not_lt_zero index)

/-!
## Padded texts
-/

theorem overlay_padded {memory : ℕ → α} {pad : α} (text : List α) {start index : ℕ}
    (clear : memory (start + index) = pad) :
    overlay memory start text.length (fun place => text.getD place pad) (start + index) =
      text.getD index pad := by
  rcases Nat.lt_or_ge index text.length with inside | behind
  · exact overlay_inside memory _ inside
  · rw [overlay_outside memory _ (.inr (Nat.add_le_add_left behind start)), clear,
      List.getD_eq_default text pad behind]

/-- Texts without the padding differ as soon as they are padded. -/
theorem padded_injective {pad : α} {first second : List α} {length : ℕ}
    (firstFits : first.length ≤ length) (secondFits : second.length ≤ length)
    (firstPlain : pad ∉ first) (secondPlain : pad ∉ second)
    (same : ∀ index < length, first.getD index pad = second.getD index pad) : first = second := by
  induction first generalizing second length with
  | nil =>
    cases second with
    | nil => rfl
    | cons head tail =>
      have padding : pad = head :=
        same 0 (Nat.lt_of_lt_of_le (Nat.zero_lt_succ tail.length) secondFits)
      exact absurd (padding ▸ List.mem_cons_self) secondPlain
  | cons head tail ih =>
    have positive := Nat.lt_of_lt_of_le (Nat.zero_lt_succ tail.length) firstFits
    cases second with
    | nil =>
      have padding : head = pad := same 0 positive
      exact absurd (padding ▸ List.mem_cons_self) firstPlain
    | cons head' tail' =>
      have heads : head = head' := same 0 positive
      obtain ⟨rest, rfl⟩ := Nat.exists_eq_succ_of_ne_zero (Nat.ne_of_gt positive)
      have tails : tail = tail' :=
        ih (Nat.le_of_succ_le_succ firstFits) (Nat.le_of_succ_le_succ secondFits)
          (fun member => firstPlain (List.mem_cons_of_mem head member))
          (fun member => secondPlain (List.mem_cons_of_mem head' member))
          fun index below => same (index + 1) (Nat.succ_lt_succ below)
      exact List.cons_eq_cons.mpr ⟨heads, tails⟩

end InspurIpmi.Foundation

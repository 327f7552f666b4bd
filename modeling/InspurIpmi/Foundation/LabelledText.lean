import InspurIpmi.Foundation.DigitText

/-! Texts of labels and numbers in turn. As long as no label starts with a digit, the
text tells the numbers. -/

set_option autoImplicit false

namespace InspurIpmi.Foundation

/-- What stands in front of the first separator, and what stands behind it. -/
theorem append_separator_inj {α : Type} {separator : α} {first second rest other : List α}
    (absent : separator ∉ first) (otherAbsent : separator ∉ second)
    (same : first ++ separator :: rest = second ++ separator :: other) :
    first = second ∧ rest = other := by
  induction first generalizing second with
  | nil =>
      cases second with
      | nil => exact ⟨rfl, (List.cons.inj same).2⟩
      | cons item items =>
          obtain ⟨head, _⟩ := List.cons.inj same
          exact absurd (head ▸ List.mem_cons_self) otherAbsent
  | cons item items ih =>
      cases second with
      | nil =>
          obtain ⟨head, _⟩ := List.cons.inj same
          exact absurd (head ▸ List.mem_cons_self) absent
      | cons item' items' =>
          obtain ⟨head, tail⟩ := List.cons.inj same
          rw [List.mem_cons, not_or] at absent otherAbsent
          obtain ⟨fronts, backs⟩ := ih absent.2 otherAbsent.2 tail
          rw [head, fronts]
          exact ⟨rfl, backs⟩

/-- Each number in decimal, behind its label. -/
def labelled (fields : List (List Char × ℕ)) : List Char :=
  fields.flatMap fun field => field.1 ++ Nat.toDigits 10 field.2

/-- The text neither is empty nor starts with a digit. -/
def Separates (label : List Char) : Prop :=
  ∃ char rest, label = char :: rest ∧ digitValue? 10 char = none

theorem Separates.endsNumber {label : List Char} (separates : Separates label) (rest : List Char) :
    EndsNumber 10 (label ++ rest) := by
  obtain ⟨char, label, rfl, ends⟩ := separates
  exact endsNumber_cons ends _

theorem toDigits_append_inj {first second : ℕ} {rest other : List Char} (ends : EndsNumber 10 rest)
    (otherEnds : EndsNumber 10 other)
    (same : Nat.toDigits 10 first ++ rest = Nat.toDigits 10 second ++ other) :
    first = second ∧ rest = other := by
  have read := congrArg (takeDigits 10 0) same
  rw [takeDigits_toDigits (by decide) (by decide) first ends,
    takeDigits_toDigits (by decide) (by decide) second otherEnds] at read
  exact Prod.mk.inj read

theorem labelled_cons (label : List Char) (number : ℕ) (fields : List (List Char × ℕ))
    (rest : List Char) :
    labelled ((label, number) :: fields) ++ rest =
      label ++ (Nat.toDigits 10 number ++ (labelled fields ++ rest)) := by
  simp [labelled]

theorem endsNumber_labelled {fields : List (List Char × ℕ)} {rest : List Char}
    (separate : ∀ label ∈ fields.map Prod.fst, Separates label) (ends : EndsNumber 10 rest) :
    EndsNumber 10 (labelled fields ++ rest) := by
  cases fields with
  | nil => exact ends
  | cons field fields =>
      obtain ⟨label, number⟩ := field
      rw [labelled_cons]
      exact (separate label List.mem_cons_self).endsNumber _

/-- Texts with the same labels agree only when all numbers do, and what is behind them. -/
theorem labelled_append_inj {first second : List (List Char × ℕ)} {rest other : List Char}
    (separate : ∀ label ∈ first.map Prod.fst, Separates label)
    (labels : first.map Prod.fst = second.map Prod.fst) (ends : EndsNumber 10 rest)
    (otherEnds : EndsNumber 10 other) (same : labelled first ++ rest = labelled second ++ other) :
    first = second ∧ rest = other := by
  induction first generalizing second with
  | nil =>
      have none := List.map_eq_nil_iff.mp labels.symm
      subst none
      exact ⟨rfl, same⟩
  | cons field fields ih =>
      cases second with
      | nil => cases labels
      | cons field' fields' =>
          obtain ⟨label, number⟩ := field
          obtain ⟨label', number'⟩ := field'
          obtain ⟨sameLabel, later⟩ := List.cons.inj labels
          change label = label' at sameLabel
          subst sameLabel
          have separateRest : ∀ label ∈ fields.map Prod.fst, Separates label :=
            fun label member => separate label (List.mem_cons_of_mem _ member)
          rw [labelled_cons, labelled_cons] at same
          obtain ⟨sameNumber, sameRest⟩ := toDigits_append_inj
            (endsNumber_labelled separateRest ends)
            (endsNumber_labelled (later ▸ separateRest) otherEnds) (List.append_cancel_left same)
          obtain ⟨sameFields, sameEnd⟩ := ih separateRest later sameRest
          rw [sameNumber, sameFields, sameEnd]
          exact ⟨rfl, rfl⟩

end InspurIpmi.Foundation

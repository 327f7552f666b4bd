import Mathlib.Data.List.DropRight
import Mathlib.Tactic.Common

/-! Text that is read with `fgets` and cut into fields from its end with `strrchr`. -/

set_option autoImplicit false

namespace InspurIpmi.Foundation

variable {α : Type}

/-!
## Trailing blanks
-/

/-- Trailing blanks are taken off, and those inside a text are not. -/
theorem rdropWhile_append {isPadding : α → Bool} {text padding : List α}
    (blank : ∀ element ∈ padding, isPadding element = true)
    (ends : ∀ element ∈ text.getLast?, isPadding element = false) :
    (text ++ padding).rdropWhile isPadding = text := by
  induction padding using List.reverseRecOn with
  | nil =>
      rw [List.append_nil, List.rdropWhile_eq_self_iff]
      intro nonempty isPadded
      have last := ends _ (List.getLast_mem_getLast? nonempty)
      rw [last] at isPadded
      exact Bool.false_ne_true isPadded
  | append_singleton padding element ih =>
      rw [← List.append_assoc, List.rdropWhile_concat_pos _ _ _ (blank element (by simp))]
      exact ih fun other member => blank other (List.mem_append_left _ member)

variable [DecidableEq α]

/-!
## Cutting at the last delimiter
-/

/-- What stands before and behind the last delimiter of the text. -/
def cutLast (delimiter : α) : List α → Option (List α × List α)
  | [] => none
  | element :: rest =>
      match cutLast delimiter rest with
      | some (front, back) => some (element :: front, back)
      | none => if element = delimiter then some ([], rest) else none

variable {delimiter : α}

theorem cutLast_eq_none {text : List α} (single : delimiter ∉ text) :
    cutLast delimiter text = none := by
  induction text with
  | nil => rfl
  | cons element rest ih =>
      have different : element ≠ delimiter := fun same => single (same ▸ List.mem_cons_self)
      rw [cutLast, ih fun member => single (List.mem_cons_of_mem element member)]
      exact if_neg different

theorem cutLast_append (front : List α) {back : List α} (single : delimiter ∉ back) :
    cutLast delimiter (front ++ delimiter :: back) = some (front, back) := by
  induction front with
  | nil =>
      rw [List.nil_append, cutLast, cutLast_eq_none single]
      exact if_pos rfl
  | cons element rest ih => rw [List.cons_append, cutLast, ih]

/-!
## Lines that may be cut
-/

/-- The lines that repeated `fgets` calls yield, each with its delimiter: at most
`room` elements at a time, so that a long line arrives in pieces. `line` has been
read of the next one. -/
def fgetsLines (delimiter : α) (room : ℕ) : List α → List α → List (List α)
  | line, [] => if line = [] then [] else [line]
  | line, element :: rest =>
      if element = delimiter ∨ line.length + 1 = room then
        (line ++ [element]) :: fgetsLines delimiter room [] rest
      else fgetsLines delimiter room (line ++ [element]) rest

variable {room : ℕ}

/-- A line that fits is read as a whole. -/
theorem fgetsLines_line (read : List α) {line : List α} (single : delimiter ∉ line)
    (fits : (read ++ line).length + 1 ≤ room) (rest : List α) :
    fgetsLines delimiter room read (line ++ delimiter :: rest) =
      (read ++ line ++ [delimiter]) :: fgetsLines delimiter room [] rest := by
  induction line generalizing read with
  | nil =>
      rw [List.nil_append, List.append_nil, fgetsLines]
      exact if_pos (.inl rfl)
  | cons element line ih =>
      have different : element ≠ delimiter := fun same => single (same ▸ List.mem_cons_self)
      have shorter : ¬ (element = delimiter ∨ read.length + 1 = room) := by
        rintro (same | full)
        · exact different same
        · simp only [List.length_append, List.length_cons] at fits
          omega
      have moved : read ++ element :: line = read ++ [element] ++ line := List.append_cons ..
      rw [moved] at fits ⊢
      rw [List.cons_append, fgetsLines, if_neg shorter]
      exact ih _ (fun member => single (List.mem_cons_of_mem element member)) fits

/-- A text made of lines that fit is read line by line. -/
theorem fgetsLines_flatMap {lines : List (List α)}
    (single : ∀ line ∈ lines, delimiter ∉ line) (fits : ∀ line ∈ lines, line.length + 1 ≤ room) :
    fgetsLines delimiter room [] (lines.flatMap (· ++ [delimiter])) =
      lines.map (· ++ [delimiter]) := by
  induction lines with
  | nil => rfl
  | cons line lines ih =>
      have first := fgetsLines_line [] (single line List.mem_cons_self)
        (fits line List.mem_cons_self) (lines.flatMap (· ++ [delimiter]))
      rw [List.flatMap_cons, List.append_assoc, List.singleton_append, first, List.nil_append,
        ih (fun other member => single other (List.mem_cons_of_mem line member))
          fun other member => fits other (List.mem_cons_of_mem line member),
        List.map_cons]

example : fgetsLines '\n' 3 [] "ab\nabcd\n".toList =
    ["ab\n".toList, "abc".toList, "d\n".toList] := by decide

end InspurIpmi.Foundation

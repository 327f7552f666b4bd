import Mathlib.Tactic.Common

/-! An input stream as the C++ standard library has it, read line by line into a
buffer of fixed size. The state bits decide what the next read does. -/

set_option autoImplicit false

namespace InspurIpmi.Foundation

variable {α : Type} [DecidableEq α]

/-- `rest` is what has not been read yet. -/
structure LineStream (α : Type) where
  rest : List α
  eofbit : Bool
  failbit : Bool

namespace LineStream

def opened (text : List α) : LineStream α := ⟨text, false, false⟩

def unopened : LineStream α := ⟨[], false, true⟩

def good (stream : LineStream α) : Bool := !stream.eofbit && !stream.failbit

/-- `getline` into a buffer of `size` elements, of which one is for the terminator:
the elements stored, and the stream. A delimiter is extracted but not stored, and
only a delimiter or the end keeps a full buffer from being a failure. -/
def getline (delimiter : α) (size : ℕ) (stream : LineStream α) : List α × LineStream α :=
  if stream.good then
    let stored := (stream.rest.takeWhile (· ≠ delimiter)).take (size - 1)
    match stream.rest.drop stored.length with
    | [] => (stored, ⟨[], true, stored.isEmpty⟩)
    | next :: later =>
        if next = delimiter then (stored, ⟨later, false, false⟩)
        else (stored, ⟨next :: later, false, true⟩)
  else ([], { stream with failbit := true })

variable {delimiter : α} {size : ℕ}

theorem takeWhile_line {line : List α} (single : delimiter ∉ line) (rest : List α) :
    (line ++ rest).takeWhile (· ≠ delimiter) = line ++ rest.takeWhile (· ≠ delimiter) := by
  refine List.takeWhile_append_of_pos fun element member => decide_eq_true ?_
  rintro rfl
  exact single member

theorem getline_line {line : List α} (single : delimiter ∉ line) (fits : line.length < size)
    (rest : List α) :
    getline delimiter size (opened (line ++ delimiter :: rest)) = (line, opened rest) := by
  have stored : ((line ++ delimiter :: rest).takeWhile (· ≠ delimiter)).take (size - 1) = line := by
    rw [takeWhile_line single, List.takeWhile_cons_of_neg (by simp), List.append_nil]
    exact List.take_of_length_le (Nat.le_sub_one_of_lt fits)
  simp only [getline, opened, good, stored, Bool.not_false, Bool.and_self, if_true,
    List.drop_left]

theorem getline_last {line : List α} (single : delimiter ∉ line) (fits : line.length < size) :
    getline delimiter size (opened line) = (line, ⟨[], true, line.isEmpty⟩) := by
  have stored : (line.takeWhile (· ≠ delimiter)).take (size - 1) = line := by
    have whole := takeWhile_line single []
    rw [List.append_nil, List.takeWhile_nil, List.append_nil] at whole
    rw [whole]
    exact List.take_of_length_le (Nat.le_sub_one_of_lt fits)
  simp only [getline, opened, good, stored, Bool.not_false, Bool.and_self, if_true,
    List.drop_length]

/-- A line that does not fit is cut, and the stream fails without being at its end. -/
theorem getline_long {line : List α} (single : delimiter ∉ line) (positive : 0 < size)
    (long : size ≤ line.length) (rest : List α) :
    getline delimiter size (opened (line ++ rest)) =
      (line.take (size - 1), ⟨line.drop (size - 1) ++ rest, false, true⟩) := by
  have shorter : size - 1 < line.length := by omega
  have stored : ((line ++ rest).takeWhile (· ≠ delimiter)).take (size - 1) =
      line.take (size - 1) := by
    rw [takeWhile_line single, List.take_append_of_le_length (Nat.le_of_lt shorter)]
  have left : (line ++ rest).drop (line.take (size - 1)).length =
      line.drop (size - 1) ++ rest := by
    rw [List.length_take_of_le (Nat.le_of_lt shorter),
      List.drop_append_of_le_length (Nat.le_of_lt shorter)]
  cases dropped : line.drop (size - 1) with
  | nil => exact absurd (List.drop_eq_nil_iff.mp dropped) (Nat.not_le_of_lt shorter)
  | cons next later =>
    have different : next ≠ delimiter := by
      rintro rfl
      exact single (List.mem_of_mem_drop (dropped ▸ List.mem_cons_self))
    rw [dropped] at left
    simp only [getline, opened, good, stored, left, Bool.not_false, Bool.and_self, if_true,
      List.cons_append, different, if_false]

theorem getline_failed {stream : LineStream α} (failed : stream.failbit = true) :
    getline delimiter size stream = ([], stream) := by
  obtain ⟨rest, eofbit, failbit⟩ := stream
  cases failed
  simp only [getline, good, Bool.not_true, Bool.and_false, Bool.false_eq_true, if_false]

/-- A text is a last line, or a line, a delimiter and a text. -/
@[elab_as_elim]
theorem lines_induction (delimiter : α) {motive : List α → Prop}
    (last : ∀ line, delimiter ∉ line → motive line)
    (more : ∀ line rest, delimiter ∉ line → motive rest → motive (line ++ delimiter :: rest))
    (text : List α) : motive text := by
  by_cases single : delimiter ∈ text
  · obtain ⟨line, rest, split, first⟩ := List.eq_append_cons_of_mem single
    have shorter : rest.length < text.length := by
      rw [split, List.length_append, List.length_cons]
      omega
    rw [split]
    exact more line rest first (lines_induction delimiter last more rest)
  · exact last text single
termination_by text.length

end LineStream

end InspurIpmi.Foundation

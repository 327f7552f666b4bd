import Mathlib.Algebra.Order.Ring.Int
import Mathlib.Data.UInt
import Mathlib.Tactic.Common

/-! The C function `atoi` as a scanner that takes one character at a time, so
that what a prefix of the text already decides can be read off its state. -/

set_option autoImplicit false

namespace InspurIpmi.Foundation

def isSpace (char : UInt8) : Bool := char == 0x20 || (0x09 ≤ char && char ≤ 0x0D)

def isDigit (char : UInt8) : Bool := 0x30 ≤ char && char ≤ 0x39

/-- Where the scanner stands: in leading blanks, behind the sign, inside the
digits, or behind the first character that is not part of the number. -/
inductive Scan where
  | blank
  | signed (negative : Bool)
  | digits (negative : Bool) (magnitude : ℕ)
  | done (negative : Bool) (magnitude : ℕ)
  deriving DecidableEq, Repr

def Scan.step : Scan → UInt8 → Scan
  | .blank, char =>
      if isSpace char then .blank
      else if char = 0x2D then .signed true
      else if char = 0x2B then .signed false
      else if isDigit char then .digits false (char - 0x30).toNat
      else .done false 0
  | .signed negative, char =>
      if isDigit char then .digits negative (char - 0x30).toNat else .done false 0
  | .digits negative magnitude, char =>
      if isDigit char then .digits negative (10 * magnitude + (char - 0x30).toNat)
      else .done negative magnitude
  | .done negative magnitude, _ => .done negative magnitude

def withSign (negative : Bool) (magnitude : ℕ) : Int :=
  if negative then -magnitude else magnitude

def Scan.value : Scan → Int
  | .blank | .signed _ => 0
  | .digits negative magnitude | .done negative magnitude => withSign negative magnitude

/-- Out of range the conversion stops at the bounds of a 32-bit `long`. -/
def clampLong (value : Int) : Int := max (-2147483648) (min value 2147483647)

def Scan.finish (scan : Scan) (rest : List UInt8) : Int := clampLong (rest.foldl Scan.step scan).value

def scanText (text : List UInt8) : Scan := text.foldl Scan.step .blank

/-- A text that ends without a terminator is read as if a NUL followed. -/
def atoi (text : List UInt8) : Int := Scan.blank.finish text

theorem atoi_append (first rest : List UInt8) :
    atoi (first ++ rest) = (scanText first).finish rest := by
  simp only [atoi, Scan.finish, scanText, List.foldl_append]

/-!
## What the rest of the text can still change
-/

theorem Scan.finish_done (negative : Bool) (magnitude : ℕ) (rest : List UInt8) :
    (Scan.done negative magnitude).finish rest = clampLong (withSign negative magnitude) := by
  have stays : rest.foldl Scan.step (.done negative magnitude) = .done negative magnitude := by
    induction rest with
    | nil => rfl
    | cons char rest ih => exact ih
  rw [Scan.finish, stays, Scan.value]

/-- Further characters keep the sign and only enlarge the magnitude. -/
theorem Scan.finish_digits (negative : Bool) (magnitude : ℕ) (rest : List UInt8) :
    ∃ larger, magnitude ≤ larger ∧
      (Scan.digits negative magnitude).finish rest = clampLong (withSign negative larger) := by
  induction rest generalizing magnitude with
  | nil => exact ⟨magnitude, le_refl magnitude, rfl⟩
  | cons char rest ih =>
      cases digit : isDigit char with
      | false =>
          refine ⟨magnitude, le_refl magnitude, ?_⟩
          have stepped : (Scan.digits negative magnitude).step char = .done negative magnitude := by
            simp [Scan.step, digit]
          rw [← Scan.finish_done negative magnitude rest, Scan.finish, List.foldl_cons, stepped,
            Scan.finish]
      | true =>
          obtain ⟨larger, grown, finished⟩ := ih (10 * magnitude + (char - 0x30).toNat)
          refine ⟨larger, by omega, ?_⟩
          have stepped : (Scan.digits negative magnitude).step char =
              .digits negative (10 * magnitude + (char - 0x30).toNat) := by
            simp [Scan.step, digit]
          rw [← finished, Scan.finish, List.foldl_cons, stepped, Scan.finish]

/-- Two digits, or one above `1`, rule out the three values nearest to zero. -/
theorem Scan.finish_digits_large {negative : Bool} {magnitude : ℕ} (large : 2 ≤ magnitude)
    (rest : List UInt8) :
    (Scan.digits negative magnitude).finish rest ≠ -1 ∧
      (Scan.digits negative magnitude).finish rest ≠ 0 ∧
      (Scan.digits negative magnitude).finish rest ≠ 1 := by
  obtain ⟨larger, grown, finished⟩ := Scan.finish_digits negative magnitude rest
  rw [finished]
  cases negative <;> simp only [clampLong, withSign, Bool.false_eq_true, if_true, if_false] <;> omega

theorem Scan.finish_digits_positive {magnitude : ℕ} (positive : 1 ≤ magnitude) (rest : List UInt8) :
    1 ≤ (Scan.digits false magnitude).finish rest := by
  obtain ⟨larger, grown, finished⟩ := Scan.finish_digits false magnitude rest
  rw [finished]
  simp only [clampLong, withSign, Bool.false_eq_true, if_false]
  omega

theorem Scan.value_foldl_nul (scan : Scan) (count : ℕ) :
    ((List.replicate count 0).foldl Scan.step scan).value = scan.value := by
  induction count generalizing scan with
  | zero => rfl
  | succ count ih =>
      rw [List.replicate_succ, List.foldl_cons, ih]
      cases scan <;> rfl

theorem Scan.finish_nul (scan : Scan) (count : ℕ) :
    scan.finish (List.replicate count 0) = clampLong scan.value := by
  rw [Scan.finish, Scan.value_foldl_nul]

theorem Scan.finish_cons_nul (scan : Scan) (char : UInt8) (count : ℕ) :
    scan.finish (char :: List.replicate count 0) = clampLong (scan.step char).value := by
  rw [Scan.finish, List.foldl_cons, Scan.value_foldl_nul]

example : atoi [0x20, 0x2D, 0x31, 0x32, 0x0A] = -12 := by decide

end InspurIpmi.Foundation

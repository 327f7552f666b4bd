import Mathlib.Algebra.Ring.Nat
import Mathlib.Tactic.Common

/-! The C functions `strtol` and `strtoul` with base `0`: blanks, a sign, a base
prefix and digits, and the text behind the number. -/

set_option autoImplicit false

namespace InspurIpmi.Foundation

def isBlank (char : Char) : Bool :=
  char = ' ' || ('\t' ≤ char && char ≤ '\r')

def digitValue? (base : ℕ) (char : Char) : Option ℕ :=
  let value? :=
    if '0' ≤ char ∧ char ≤ '9' then some (char.toNat - '0'.toNat)
    else if 'a' ≤ char ∧ char ≤ 'z' then some (char.toNat - 'a'.toNat + 10)
    else if 'A' ≤ char ∧ char ≤ 'Z' then some (char.toNat - 'A'.toNat + 10)
    else none
  value?.filter fun value => value < base

/-- The number that the leading digits spell, behind one that was read before. -/
def takeDigits (base : ℕ) : ℕ → List Char → ℕ × List Char
  | magnitude, [] => (magnitude, [])
  | magnitude, char :: rest =>
      match digitValue? base char with
      | some digit => takeDigits base (base * magnitude + digit) rest
      | none => (magnitude, char :: rest)

structure IntegerLiteral where
  negative : Bool
  magnitude : ℕ
  rest : List Char
  deriving DecidableEq, Repr

def takeSign : List Char → Bool × List Char
  | '-' :: rest => (true, rest)
  | '+' :: rest => (false, rest)
  | text => (false, text)

/-- A prefix counts only with a digit behind it. -/
def takeMagnitude : List Char → Option (ℕ × List Char)
  | '0' :: rest =>
      match rest with
      | 'x' :: char :: digits | 'X' :: char :: digits =>
          if (digitValue? 16 char).isSome then some (takeDigits 16 0 (char :: digits))
          else some (0, rest)
      | _ => some (takeDigits 8 0 rest)
  | char :: rest =>
      if (digitValue? 10 char).isSome then some (takeDigits 10 0 (char :: rest)) else none
  | [] => none

/-- A text without a number is left as it is, and counts as `0`. -/
def parseInteger (text : List Char) : IntegerLiteral :=
  let (negative, unsigned) := takeSign (text.dropWhile isBlank)
  match takeMagnitude unsigned with
  | some (magnitude, rest) => ⟨negative, magnitude, rest⟩
  | none => ⟨false, 0, text⟩

def strtol (text : List Char) : Int × List Char :=
  let literal := parseInteger text
  let value : Int := if literal.negative then -literal.magnitude else literal.magnitude
  (max (-2147483648) (min value 2147483647), literal.rest)

/-- A 32-bit `unsigned long` stops at its bound, and a sign negates modulo `2 ^ 32`. -/
def strtoul (text : List Char) : ℕ × List Char :=
  let literal := parseInteger text
  let value : ℕ :=
    if 2 ^ 32 ≤ literal.magnitude then 2 ^ 32 - 1
    else if literal.negative then (2 ^ 32 - literal.magnitude) % 2 ^ 32
    else literal.magnitude
  (value, literal.rest)

example : strtol "-0x1F rest".toList = (-31, " rest".toList) := by decide

end InspurIpmi.Foundation

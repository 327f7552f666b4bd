import InspurIpmi.Foundation.IntegerLiteral

/-! Numbers as the text of their digits: reading such a text gives the number back.
The readers are those of `strtol`, `strtoul` and the conversion `%d` of `sscanf`. -/

set_option autoImplicit false

namespace InspurIpmi.Foundation

/-!
## Digits
-/

/-- The text does not go on with a digit. -/
def EndsNumber (base : ℕ) (rest : List Char) : Prop :=
  ∀ char ∈ rest.head?, digitValue? base char = none

theorem endsNumber_nil (base : ℕ) : EndsNumber base [] := by simp [EndsNumber]

theorem endsNumber_cons {base : ℕ} {char : Char} (ends : digitValue? base char = none)
    (rest : List Char) : EndsNumber base (char :: rest) := by
  intro other member
  cases member
  exact ends

theorem digitValue?_digitChar {base digit : ℕ} (small : base ≤ 16) (below : digit < base) :
    digitValue? base digit.digitChar = some digit := by
  have values : ∀ number < 16, digitValue? 16 number.digitChar = some number := by decide
  have read := values digit (Nat.lt_of_lt_of_le below small)
  simp only [digitValue?, Option.filter_eq_some_iff] at read ⊢
  exact ⟨read.1, decide_eq_true below⟩

theorem takeDigits_stop {base magnitude : ℕ} {rest : List Char} (ends : EndsNumber base rest) :
    takeDigits base magnitude rest = (magnitude, rest) := by
  cases rest with
  | nil => rfl
  | cons char rest =>
      have none := ends char rfl
      rw [takeDigits, none]

theorem takeDigits_digitChar {base digit : ℕ} (small : base ≤ 16) (below : digit < base)
    (magnitude : ℕ) (rest : List Char) :
    takeDigits base magnitude (digit.digitChar :: rest) =
      takeDigits base (base * magnitude + digit) rest := by
  rw [takeDigits, digitValue?_digitChar small below]

theorem takeDigits_toDigits_append {base : ℕ} (large : 1 < base) (small : base ≤ 16) (number : ℕ)
    (rest : List Char) :
    takeDigits base 0 (Nat.toDigits base number ++ rest) = takeDigits base number rest := by
  induction number using Nat.strongRecOn generalizing rest with
  | ind number ih =>
      cases Nat.lt_or_ge number base with
      | inl below =>
          rw [Nat.toDigits_of_lt_base below, List.singleton_append,
            takeDigits_digitChar small below, Nat.mul_zero, Nat.zero_add]
      | inr above =>
          have smaller : number / base < number :=
            Nat.div_lt_self (Nat.lt_of_lt_of_le (Nat.zero_lt_of_lt large) above) large
          have digit : number % base < base := Nat.mod_lt _ (Nat.zero_lt_of_lt large)
          rw [Nat.toDigits_of_base_le large above, List.append_assoc, List.singleton_append,
            ih _ smaller, takeDigits_digitChar small digit, Nat.div_add_mod]

theorem takeDigits_toDigits {base : ℕ} (large : 1 < base) (small : base ≤ 16) (number : ℕ)
    {rest : List Char} (ends : EndsNumber base rest) :
    takeDigits base 0 (Nat.toDigits base number ++ rest) = (number, rest) := by
  rw [takeDigits_toDigits_append large small, takeDigits_stop ends]

/-- The first character of a number's text is a digit, and a zero only for the
number zero. -/
theorem toDigits_head {base : ℕ} (large : 1 < base) (number : ℕ) :
    ∃ digit rest, Nat.toDigits base number = digit.digitChar :: rest ∧ digit < base ∧
      (digit = 0 → number = 0) := by
  induction number using Nat.strongRecOn with
  | ind number ih =>
      cases Nat.lt_or_ge number base with
      | inl below => exact ⟨number, [], Nat.toDigits_of_lt_base below, below, id⟩
      | inr above =>
          have positive : 0 < number / base := Nat.div_pos above (Nat.zero_lt_of_lt large)
          have smaller : number / base < number :=
            Nat.div_lt_self (Nat.lt_of_lt_of_le (Nat.zero_lt_of_lt large) above) large
          obtain ⟨digit, rest, shape, below, zero⟩ := ih _ smaller
          refine ⟨digit, rest ++ [(number % base).digitChar], ?_, below, fun isZero => ?_⟩
          · rw [Nat.toDigits_of_base_le large above, shape, List.cons_append]
          · exact absurd (zero isZero) (Nat.ne_of_gt positive)

/-!
## The conversion `%d`
-/

/-- How a scan with one integer conversion ends. -/
inductive IntegerScan where
  | matched (value : Int)
  | mismatch
  /-- The text is at its end before the conversion begins. -/
  | ended
  deriving DecidableEq, Repr

def IntegerScan.value? : IntegerScan → Option Int
  | .matched value => some value
  | .mismatch | .ended => none

/-- The number stops at the bounds of a 32-bit `long`. -/
def scanDecimal (text : List Char) : IntegerScan :=
  match text.dropWhile isBlank with
  | [] => .ended
  | char :: rest =>
      let (negative, unsigned) := takeSign (char :: rest)
      if (unsigned.head?.bind (digitValue? 10)).isSome then
        let magnitude := (takeDigits 10 0 unsigned).1
        let value : Int := if negative then -magnitude else magnitude
        .matched (max (-2147483648) (min value 2147483647))
      else .mismatch

/-- `sscanf` with a text and one `%d` behind it. -/
def scanDecimalAfter : List Char → List Char → IntegerScan
  | [], text => scanDecimal text
  | _ :: _, [] => .ended
  | literal :: format, char :: text =>
      if literal = char then scanDecimalAfter format text else .mismatch

theorem scanDecimalAfter_append (format text : List Char) :
    scanDecimalAfter format (format ++ text) = scanDecimal text := by
  induction format with
  | nil => rfl
  | cons literal format ih => exact (if_pos rfl).trans ih

theorem takeSign_digitChar {digit : ℕ} (below : digit < 10) (rest : List Char) :
    takeSign (digit.digitChar :: rest) = (false, digit.digitChar :: rest) := by
  have signs : ∀ number < 10, number.digitChar ≠ '-' ∧ number.digitChar ≠ '+' := by decide
  obtain ⟨minus, plus⟩ := signs digit below
  rw [takeSign]
  · intro other same
    exact minus (List.cons.inj same).1
  · intro other same
    exact plus (List.cons.inj same).1

theorem isBlank_digitChar {digit : ℕ} (below : digit < 10) : isBlank digit.digitChar = false := by
  have blanks : ∀ number < 10, isBlank number.digitChar = false := by decide
  exact blanks digit below

theorem scanDecimal_toDigits {number : ℕ} (fits : number < 2 ^ 31) {rest : List Char}
    (ends : EndsNumber 10 rest) :
    scanDecimal (Nat.toDigits 10 number ++ rest) = .matched number := by
  obtain ⟨digit, others, shape, below, _⟩ := toDigits_head (by decide : 1 < 10) number
  have read := takeDigits_toDigits (by decide) (by decide) number ends
  rw [shape, List.cons_append] at read
  have unblanked : (digit.digitChar :: (others ++ rest)).dropWhile isBlank =
      digit.digitChar :: (others ++ rest) :=
    List.dropWhile_cons_of_neg (by simp [isBlank_digitChar below])
  rw [shape, List.cons_append, scanDecimal, unblanked]
  simp only [takeSign_digitChar below, List.head?_cons, Option.bind_some,
    digitValue?_digitChar (by decide : (10 : ℕ) ≤ 16) below, Option.isSome_some, if_true, read,
    Bool.false_eq_true, if_false]
  congr 1
  omega

/-!
## The functions `strtol` and `strtoul`
-/

theorem takeMagnitude_toDigits (number : ℕ) :
    takeMagnitude (Nat.toDigits 10 number) = some (number, []) := by
  obtain ⟨digit, others, shape, below, zero⟩ := toDigits_head (by decide : 1 < 10) number
  cases Nat.eq_zero_or_pos number with
  | inl isZero =>
      subst isZero
      rfl
  | inr positive =>
      have nonzero : ∀ number < 10, number ≠ 0 → number.digitChar ≠ '0' := by decide
      have leads : digit.digitChar ≠ '0' :=
        nonzero digit below fun isZero => absurd (zero isZero) (Nat.ne_of_gt positive)
      have read := takeDigits_toDigits (by decide) (by decide) number (endsNumber_nil 10)
      rw [List.append_nil, shape] at read
      rw [shape, takeMagnitude, digitValue?_digitChar (by decide) below, Option.isSome_some,
        if_pos rfl, read]
      exact leads

theorem takeMagnitude_hexDigits (number : ℕ) :
    takeMagnitude ('0' :: 'x' :: Nat.toDigits 16 number) = some (number, []) := by
  obtain ⟨digit, others, shape, below, _⟩ := toDigits_head (by decide : 1 < 16) number
  have read := takeDigits_toDigits (by decide) (by decide) number (endsNumber_nil 16)
  rw [List.append_nil, shape] at read
  rw [shape, takeMagnitude]
  simp only [digitValue?_digitChar (by decide : (16 : ℕ) ≤ 16) below, Option.isSome_some, if_true,
    read]

theorem parseInteger_toDigits (number : ℕ) :
    parseInteger (Nat.toDigits 10 number) = ⟨false, number, []⟩ := by
  obtain ⟨digit, others, shape, below, _⟩ := toDigits_head (by decide : 1 < 10) number
  have unblanked : (Nat.toDigits 10 number).dropWhile isBlank = Nat.toDigits 10 number := by
    rw [shape]
    exact List.dropWhile_cons_of_neg (by simp [isBlank_digitChar below])
  have unsigned : takeSign (Nat.toDigits 10 number) = (false, Nat.toDigits 10 number) := by
    rw [shape]
    exact takeSign_digitChar below others
  rw [parseInteger, unblanked, unsigned]
  simp only [takeMagnitude_toDigits]

theorem parseInteger_hexDigits (number : ℕ) :
    parseInteger ('0' :: 'x' :: Nat.toDigits 16 number) = ⟨false, number, []⟩ := by
  have unsigned : takeSign ('0' :: 'x' :: Nat.toDigits 16 number) =
      (false, '0' :: 'x' :: Nat.toDigits 16 number) := rfl
  rw [parseInteger, List.dropWhile_cons_of_neg (by decide), unsigned]
  simp only [takeMagnitude_hexDigits]

end InspurIpmi.Foundation

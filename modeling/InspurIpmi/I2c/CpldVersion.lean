import InspurIpmi.I2c.Cpld

/-!
# What the CPLD version shows

The version file holds a byte in two hexadecimal digits, and the reply shows its
three parts. Whether there were two digits to read is for the reply code to say.
-/

set_option autoImplicit false

namespace InspurIpmi

open Foundation

def digitByte (digit : ℕ) : UInt8 := UInt8.ofNat (Nat.digitChar digit).toNat

def upperDigitByte (digit : ℕ) : UInt8 := UInt8.ofNat (Nat.digitChar digit).toUpper.toNat

/-- The value of a hexadecimal digit in either case. -/
def hexValue? (char : UInt8) : Option ℕ :=
  (List.range 16).find? fun digit => char = digitByte digit ∨ char = upperDigitByte digit

/-- The byte that the first two characters of the file stand for. -/
def CpldCalls.shown? (calls : CpldCalls) : Option ℕ :=
  match calls.version with
  | some (first :: second :: _) => do
      let high ← hexValue? first
      let low ← hexValue? second
      return 16 * high + low
  | _ => none

/-- Bits 7 to 5, 4 to 3 and 2 to 0, with dots between them. -/
def cpldVersionText (value : ℕ) : List UInt8 :=
  [digitByte (value / 32), 0x2E, digitByte (value / 8 % 4), 0x2E, digitByte (value % 8)]

/-- Success is answered only with the version that is in the file, whatever the
memory held into which it is read. -/
def CpldReported (calls : CpldCalls) (request : Buffer) : Prop :=
  ∀ (temp : Buffer) (world : World), ∃ code after,
    (ipmiReadCPLDEEPROM calls temp request).run (world.receive 2) = (.returned code, after) ∧
      (code = ccOk → ∃ value, calls.shown? = some value ∧
        ∀ index < cpldVersionLength,
          after.response index = (cpldVersionText value).getD index 0)

theorem hexDigit_of_hexValue? {char : UInt8} {digit : ℕ} (valid : hexValue? char = some digit) :
    digit < 16 ∧ hexDigit char = UInt8.ofNat digit := by
  have small : digit < 16 := List.mem_range.mp (List.mem_of_find?_eq_some valid)
  have lower : ∀ digit < 16, hexDigit (digitByte digit) = UInt8.ofNat digit := by decide
  have upper : ∀ digit < 16, hexDigit (upperDigitByte digit) = UInt8.ofNat digit := by decide
  have written : char = digitByte digit ∨ char = upperDigitByte digit := by
    simpa using List.find?_some valid
  refine ⟨small, ?_⟩
  rcases written with rfl | rfl
  · exact lower digit small
  · exact upper digit small

theorem cpldRecord_eq {first second : UInt8} {high low : ℕ} (highValid : hexValue? first = some high)
    (lowValid : hexValue? second = some low) (index : ℕ) :
    cpldRecord first second index = (cpldVersionText (16 * high + low)).getD index 0 := by
  obtain ⟨highSmall, highDigit⟩ := hexDigit_of_hexValue? highValid
  obtain ⟨lowSmall, lowDigit⟩ := hexDigit_of_hexValue? lowValid
  have masks : ∀ high low : Fin 16,
      let result := UInt8.ofNat high * 16 + UInt8.ofNat low
      [((result &&& 0xE0) >>> 5) + 0x30, 0x2E, ((result &&& 0x18) >>> 3) + 0x30, 0x2E,
        (result &&& 0x07) + 0x30] = cpldVersionText (16 * high + low) := by decide
  unfold cpldRecord versionRecord
  rw [highDigit, lowDigit]
  exact congrArg (List.getD · index 0) (masks ⟨high, highSmall⟩ ⟨low, lowSmall⟩)

theorem CpldCalls.shown?_eq_some {calls : CpldCalls} {value : ℕ} (shown : calls.shown? = some value) :
    ∃ first second rest high low, calls.version = some (first :: second :: rest) ∧
      hexValue? first = some high ∧ hexValue? second = some low ∧ value = 16 * high + low := by
  unfold CpldCalls.shown? at shown
  split at shown
  · rename_i first second rest version
    obtain ⟨high, highValid, remaining⟩ := Option.bind_eq_some_iff.mp shown
    obtain ⟨low, lowValid, sum⟩ := Option.bind_eq_some_iff.mp remaining
    exact ⟨first, second, rest, high, low, version, highValid, lowValid, (Option.some.inj sum).symm⟩
  · cases shown

theorem CpldCalls.char_delivered {calls : CpldCalls} {first second : UInt8} {rest : List UInt8}
    (seekable : calls.seekable = true) (version : calls.version = some (first :: second :: rest))
    (temp : Buffer) : calls.char temp 0 = first ∧ calls.char temp 1 = second := by
  have delivered : calls.delivered = [first, second] := by
    rw [CpldCalls.delivered, if_pos seekable, version]
    rfl
  unfold CpldCalls.char
  rw [delivered]
  exact ⟨rfl, rfl⟩

theorem CpldCalls.char_undelivered {calls : CpldCalls} (unseekable : calls.seekable = false)
    (temp : Buffer) (index : ℕ) : calls.char temp index = temp index := by
  have delivered : calls.delivered = [] := by
    rw [CpldCalls.delivered, unseekable]
    rfl
  unfold CpldCalls.char
  rw [delivered]
  exact if_neg (Nat.not_lt_zero index)

/-- The handler never fails on a request of the right length. -/
theorem cpldReported_iff_chars {calls : CpldCalls} {request : Buffer} :
    CpldReported calls request ↔ ∀ temp : Buffer, ∃ value, calls.shown? = some value ∧
      ∀ index < cpldVersionLength, cpldRecord (calls.char temp 0) (calls.char temp 1) index =
        (cpldVersionText value).getD index 0 := by
  have ran : ∀ (temp : Buffer) (world : World),
      (ipmiReadCPLDEEPROM calls temp request).run (world.receive 2) = _ :=
    fun temp world => run_ipmiReadCPLDEEPROM_ok rfl
  constructor
  · intro reported temp
    obtain ⟨code, after, ranAfter, success⟩ := reported temp World.boot
    rw [ran] at ranAfter
    cases ranAfter
    obtain ⟨value, shown, bytes⟩ := success rfl
    refine ⟨value, shown, fun index below => ?_⟩
    rw [← bytes index below]
    exact (overlay_front _ _ below).symm
  · intro chars temp world
    obtain ⟨value, shown, bytes⟩ := chars temp
    refine ⟨_, _, ran temp world, fun _ => ⟨value, shown, fun index below => ?_⟩⟩
    exact (overlay_front _ _ below).trans (bytes index below)

/-- The version is reported right exactly when the file can be read and begins
with two hexadecimal digits. -/
theorem cpldReported_iff (calls : CpldCalls) (request : Buffer) :
    CpldReported calls request ↔ calls.seekable = true ∧ calls.shown?.isSome := by
  rw [cpldReported_iff_chars]
  constructor
  · intro chars
    obtain ⟨value, shown, zeros⟩ := chars fun _ => 0x30
    refine ⟨?_, Option.isSome_iff_exists.mpr ⟨value, shown⟩⟩
    cases seekable : calls.seekable with
    | true => rfl
    | false =>
      -- What is shown would be the memory's, and that is not always the same.
      obtain ⟨other, shownOther, ones⟩ := chars fun _ => 0x46
      cases shown.symm.trans shownOther
      have same := (zeros 0 (by decide)).trans (ones 0 (by decide)).symm
      simp only [CpldCalls.char_undelivered seekable] at same
      exact absurd same (by decide)
  · rintro ⟨seekable, isSome⟩ temp
    obtain ⟨value, shown⟩ := Option.isSome_iff_exists.mp isSome
    obtain ⟨first, second, rest, high, low, version, highValid, lowValid, rfl⟩ :=
      CpldCalls.shown?_eq_some shown
    obtain ⟨one, two⟩ := CpldCalls.char_delivered seekable version temp
    refine ⟨_, shown, fun index _ => ?_⟩
    rw [one, two]
    exact cpldRecord_eq highValid lowValid index

/-- Without a version file the memory is answered as a version. -/
theorem cpld_reported_without_file : ¬ CpldReported ⟨none, true⟩ fun _ => 10 := by
  intro reported
  obtain ⟨value, shown, _⟩ := cpldReported_iff_chars.mp reported fun _ => 0
  cases shown

end InspurIpmi

import InspurIpmi.Platform

/-!
# The CPLD version

`read_cpld_eeprom` and its handler from `i2c.cpp`.
-/

set_option autoImplicit false

namespace InspurIpmi

open Foundation

def cpldVersionLength : ℕ := 10

def cpldTextLength : ℕ := 2

/-- The version file: the characters it yields before its end or an error, if it
can be opened, and whether `seekg` leaves the stream in a good state. -/
structure CpldCalls where
  version : Option (List UInt8)
  seekable : Bool

def CpldCalls.delivered (calls : CpldCalls) : List UInt8 :=
  if calls.seekable then (calls.version.getD []).take cpldTextLength else []

def hexDigit (char : UInt8) : UInt8 :=
  if 0x30 ≤ char ∧ char ≤ 0x39 then char - 0x30
  else if 0x41 ≤ char ∧ char ≤ 0x46 then char - 0x41 + 10
  else if 0x61 ≤ char ∧ char ≤ 0x66 then char - 0x61 + 10
  else 0

/-- The reply record: three characters separated by dots, and zeros. -/
def versionRecord (ver1 ver2 ver3 : UInt8) : Buffer :=
  fun index => [ver1, 0x2E, ver2, 0x2E, ver3].getD index 0

/-- `new char[length]` leaves in `temp` what was in the memory before. -/
def readCpldEeprom (calls : CpldCalls) (temp : Buffer) : Daemon Int := do
  let temp := overlay temp 0 calls.delivered.length fun index => calls.delivered.getD index 0
  let result := hexDigit (temp 0) * 16 + hexDigit (temp 1)
  let ver1 := ((result &&& 0xE0) >>> 5) + 0x30
  let ver2 := ((result &&& 0x18) >>> 3) + 0x30
  let ver3 := (result &&& 0x07) + 0x30
  writeResponse 0 cpldVersionLength (versionRecord ver1 ver2 ver3)
  return 0

def ipmiReadCPLDEEPROM (calls : CpldCalls) (temp request : Buffer) : Daemon CompletionCode := do
  if (← getDataLen) ≠ 2 then
    setDataLen 0
    return ccReqDataLenInvalid
  let rt ← readCpldEeprom calls temp
  if rt ≠ 0 then
    return ccInvalidFieldRequest
  setDataLen (request 1).toNat
  return ccOk

/-!
## What the handler answers
-/

def cpldRecord (first second : UInt8) : Buffer :=
  let result := hexDigit first * 16 + hexDigit second
  versionRecord (((result &&& 0xE0) >>> 5) + 0x30) (((result &&& 0x18) >>> 3) + 0x30)
    ((result &&& 0x07) + 0x30)

/-- The character at an index: a delivered one, or what `temp` held before. -/
def CpldCalls.char (calls : CpldCalls) (temp : Buffer) (index : ℕ) : UInt8 :=
  if index < calls.delivered.length then calls.delivered.getD index 0 else temp index

theorem hexDigit_small (char : UInt8) : ∃ digit : Fin 16, hexDigit char = UInt8.ofNat digit := by
  have bounded : (hexDigit char).toNat < 16 := by
    unfold hexDigit
    simp only [UInt8.le_iff_toNat_le]
    split_ifs <;> grind [UInt8.toNat_sub, UInt8.toNat_add]
  exact ⟨⟨_, bounded⟩, (UInt8.ofNat_toNat).symm⟩

/-- The first two characters of the reply show the first digit alone. -/
theorem cpldRecord_first {first second₁ second₂ : UInt8} {index : ℕ} (front : index < 2) :
    cpldRecord first second₁ index = cpldRecord first second₂ index := by
  obtain ⟨digit, same⟩ := hexDigit_small first
  obtain ⟨digit₁, same₁⟩ := hexDigit_small second₁
  obtain ⟨digit₂, same₂⟩ := hexDigit_small second₂
  have upper : ∀ digit low : Fin 16, (UInt8.ofNat digit * 16 + UInt8.ofNat low) &&& 0xE0 =
      (UInt8.ofNat digit * 16) &&& 0xE0 := by decide
  unfold cpldRecord versionRecord
  rw [same, same₁, same₂, upper digit digit₁, upper digit digit₂]
  match index, front with
  | 0, _ | 1, _ => rfl

theorem cpldRecord_third (first : UInt8) : cpldRecord first 0x30 2 ≠ cpldRecord first 0x38 2 := by
  obtain ⟨digit, same⟩ := hexDigit_small first
  unfold cpldRecord versionRecord
  rw [same]
  clear same
  revert digit
  decide

theorem run_ipmiReadCPLDEEPROM_length {calls : CpldCalls} {temp request : Buffer} {world : World}
    (wrong : world.dataLen ≠ 2) :
    (ipmiReadCPLDEEPROM calls temp request).run world =
      (.returned ccReqDataLenInvalid, { world with dataLen := 0 }) := by
  unfold ipmiReadCPLDEEPROM
  rw [run_getDataLen_bind, if_pos wrong]
  rfl

theorem run_ipmiReadCPLDEEPROM_ok {calls : CpldCalls} {temp request : Buffer} {world : World}
    (right : world.dataLen = 2) :
    (ipmiReadCPLDEEPROM calls temp request).run world =
      (.returned ccOk,
        { world with
          dataLen := (request 1).toNat
          response := overlay world.response 0 10
            (cpldRecord (calls.char temp 0) (calls.char temp 1)) }) := by
  have chars : ∀ index, overlay temp 0 calls.delivered.length
      (fun index => calls.delivered.getD index 0) index = calls.char temp index := by
    intro index
    simp only [overlay, CpldCalls.char, Nat.zero_le, true_and, Nat.zero_add, Nat.sub_zero]
  unfold ipmiReadCPLDEEPROM readCpldEeprom
  rw [run_getDataLen_bind, if_neg (not_not_intro right)]
  simp only [chars]
  rfl

end InspurIpmi

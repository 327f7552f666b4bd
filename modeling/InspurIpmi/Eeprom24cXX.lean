import InspurIpmi.Platform
import Mathlib.Data.Nat.Bitwise

/-!
# The EEPROM access library

`24cXX.c`: opening an EEPROM on an I2C bus, and its byte transfers over SMBus.
The delays, the cache flush and the messages to `stderr` have no effect here.
-/

set_option autoImplicit false

namespace InspurIpmi

open Foundation

inductive EepromType where
  | unknown
  | addr8Bit
  | addr16Bit
  deriving DecidableEq, Repr

structure Eeprom where
  dev : CString
  addr : ℕ
  fd : ℕ
  type : EepromType
  deriving DecidableEq, Repr

def sysEepromI2cAddr : ℕ := 0x50

def i2cFuncSmbusReadByte : ℕ := 0x00020000
def i2cFuncSmbusWriteByte : ℕ := 0x00040000
def i2cFuncSmbusReadByteData : ℕ := 0x00080000
def i2cFuncSmbusWriteByteData : ℕ := 0x00100000
def i2cFuncSmbusReadWordData : ℕ := 0x00200000
def i2cFuncSmbusWriteWordData : ℕ := 0x00400000

/-- What `open`, `ioctl(I2C_FUNCS)` and `ioctl(I2C_SLAVE)` answer to one call of
`eeprom_open`; the capability mask is absent when its `ioctl` fails. -/
structure OpenCalls where
  opened : Bool
  funcs : Option ℕ
  slave : Bool

/-- The answers to one request: the calls of `eeprom_open`, and the transfers
that write to and read from the chip, each numbered by loop iteration. -/
structure BusCalls where
  opens : ℕ → OpenCalls
  writes : ℕ → Bool
  reads : ℕ → Bool

def checkI2cFunc (funcs label : ℕ) : Daemon Unit :=
  if funcs &&& label = 0 then Process.exit 1 else pure ()

/-- An error carries the nonzero value that `eeprom_open` returns. -/
def eepromOpen (calls : OpenCalls) (devFqn : CString) (addr : ℕ) (type : EepromType) :
    Daemon (Except Int Eeprom) := do
  let fd ← openFile calls.opened
  if fd ≤ 0 then
    return .error (-1)
  match calls.funcs with
  -- The source stores the value of the comparison `ioctl(..) < 0` in `r`.
  | none => return .error 1
  | some funcs =>
    checkI2cFunc funcs i2cFuncSmbusReadByte
    checkI2cFunc funcs i2cFuncSmbusWriteByte
    checkI2cFunc funcs i2cFuncSmbusReadByteData
    checkI2cFunc funcs i2cFuncSmbusWriteByteData
    checkI2cFunc funcs i2cFuncSmbusReadWordData
    checkI2cFunc funcs i2cFuncSmbusWriteWordData
    if !calls.slave then
      return .error (-1)
    return .ok { dev := devFqn, addr := addr, fd := fd.toNat, type := type }

def eepromClose (e : Eeprom) : Daemon Unit := closeFile e.fd

/-- A transfer that fails is taken to leave the chip as it was, although it may have taken
bytes before one is refused. -/
def smbusWrite (succeeds : Bool) (effect : Chip → Chip) : Daemon Int := do
  if succeeds then
    Process.modify fun world => { world with eeprom := effect world.eeprom }
    return 0
  else
    return -1

/-- One byte alone does not complete a 16-bit address. -/
def i2cWrite1b (succeeds : Bool) (_buf : UInt8) : Daemon Int := smbusWrite succeeds id

def i2cWrite2b (succeeds : Bool) (buf0 buf1 : UInt8) : Daemon Int :=
  smbusWrite succeeds (Chip.writeByteData buf0 buf1)

def i2cWrite3b (succeeds : Bool) (buf0 buf1 buf2 : UInt8) : Daemon Int :=
  smbusWrite succeeds (Chip.writeWordData buf0 (packWord buf2 buf1))

def i2cSmbusReadByte (succeeds : Bool) : Daemon Int := do
  if succeeds then
    Process.gets fun world => (world.eeprom.receiveByte.toNat : Int)
  else
    return -1

def eepromReadByte (written received : Bool) (e : Eeprom) (memAddr : UInt16) : Daemon Int := do
  let r ← match e.type with
    | .addr8Bit => i2cWrite1b written (lowByte memAddr)
    | .addr16Bit => i2cWrite2b written (highByte memAddr) (lowByte memAddr)
    | .unknown => return -1
  if r < 0 then
    return r
  i2cSmbusReadByte received

def eepromWriteByte (written : Bool) (e : Eeprom) (memAddr : UInt16) (data : UInt8) : Daemon Int :=
  match e.type with
  | .addr8Bit => i2cWrite2b written (lowByte memAddr) data
  | .addr16Bit => i2cWrite3b written (highByte memAddr) (lowByte memAddr) data
  | .unknown => return -1

/-!
## What an attempt to open ends in
-/

inductive OpenVerdict where
  | opened
  | refused (status : Int)
  | halted
  deriving DecidableEq, Repr

/-- The adapter can do everything that `CHECK_I2C_FUNC` asks for. -/
def Capable (funcs : ℕ) : Prop :=
  ∀ label ∈ [i2cFuncSmbusReadByte, i2cFuncSmbusWriteByte, i2cFuncSmbusReadByteData,
    i2cFuncSmbusWriteByteData, i2cFuncSmbusReadWordData, i2cFuncSmbusWriteWordData],
    funcs &&& label ≠ 0

instance (funcs : ℕ) : Decidable (Capable funcs) := by
  unfold Capable
  infer_instance

def OpenCalls.verdict (calls : OpenCalls) (fds : Finset ℕ) : OpenVerdict :=
  if calls.opened = false ∨ 0 ∉ fds then .refused (-1)
  else
    match calls.funcs with
    | none => .refused 1
    | some funcs =>
        if ¬ Capable funcs then .halted
        else if calls.slave = false then .refused (-1)
        else .opened

structure OpenCalls.Faultless (calls : OpenCalls) : Prop where
  opened : calls.opened = true
  capable : ∃ funcs, calls.funcs = some funcs ∧ Capable funcs
  slave : calls.slave = true

theorem OpenCalls.Faultless.verdict {calls : OpenCalls} (faultless : calls.Faultless)
    {fds : Finset ℕ} (stdin : 0 ∈ fds) : calls.verdict fds = .opened := by
  obtain ⟨funcs, answered, capable⟩ := faultless.capable
  simp [OpenCalls.verdict, faultless.opened, stdin, answered, capable, faultless.slave]

structure BusCalls.Faultless (calls : BusCalls) : Prop where
  opens : ∀ index, (calls.opens index).Faultless
  writes : ∀ index, calls.writes index = true
  reads : ∀ index, calls.reads index = true

def BusCalls.healthy : BusCalls where
  opens := fun _ => ⟨true, some 0x007E0000, true⟩
  writes := fun _ => true
  reads := fun _ => true

theorem BusCalls.healthy_faultless : BusCalls.healthy.Faultless where
  opens := fun _ => ⟨rfl, ⟨0x007E0000, rfl, by decide⟩, rfl⟩
  writes := fun _ => rfl
  reads := fun _ => rfl

def OpenCalls.fdsAfter (calls : OpenCalls) (fds : Finset ℕ) : Finset ℕ :=
  if calls.opened then insert (lowestFree fds) fds else fds

def OpenVerdict.outcome (verdict : OpenVerdict) (e : Eeprom) :
    Outcome Exception (Except Int Eeprom) :=
  match verdict with
  | .opened => .returned (.ok e)
  | .refused status => .returned (.error status)
  | .halted => .exited 1

theorem capable_iff {funcs : ℕ} :
    Capable funcs ↔
      funcs &&& i2cFuncSmbusReadByte ≠ 0 ∧ funcs &&& i2cFuncSmbusWriteByte ≠ 0 ∧
      funcs &&& i2cFuncSmbusReadByteData ≠ 0 ∧ funcs &&& i2cFuncSmbusWriteByteData ≠ 0 ∧
      funcs &&& i2cFuncSmbusReadWordData ≠ 0 ∧ funcs &&& i2cFuncSmbusWriteWordData ≠ 0 := by
  simp [Capable]

theorem run_checkI2cFunc_bind {α : Type} (funcs label : ℕ) (next : Unit → Daemon α)
    (world : World) :
    (checkI2cFunc funcs label >>= next).run world =
      if funcs &&& label = 0 then (.exited 1, world) else (next ()).run world := by
  unfold checkI2cFunc
  split <;> rfl

theorem run_eepromOpen (calls : OpenCalls) (devFqn : CString) (addr : ℕ) (type : EepromType)
    (world : World) :
    (eepromOpen calls devFqn addr type).run world =
      ((calls.verdict world.fds).outcome ⟨devFqn, addr, lowestFree world.fds, type⟩,
        { world with fds := calls.fdsAfter world.fds }) := by
  unfold eepromOpen
  rw [Process.run_bind, run_openFile]
  cases opened : calls.opened with
  | false => simp [OpenCalls.verdict, OpenCalls.fdsAfter, OpenVerdict.outcome, opened]
  | true =>
      by_cases stdin : 0 ∈ world.fds
      · have positive : ¬ (lowestFree world.fds : Int) ≤ 0 := by
          have nonzero := mt lowestFree_eq_zero_iff.mp (not_not_intro stdin)
          omega
        simp only [if_true, positive, if_false]
        cases answered : calls.funcs with
        | none =>
            simp [OpenCalls.verdict, OpenCalls.fdsAfter, OpenVerdict.outcome, opened, stdin, answered]
        | some funcs =>
            simp only [run_checkI2cFunc_bind, OpenCalls.verdict, OpenCalls.fdsAfter, opened, stdin,
              answered]
            by_cases capable : Capable funcs
            · have present := capable_iff.mp capable
              cases slave : calls.slave <;> simp [present, capable, OpenVerdict.outcome]
            · simp only [Process.run_ite, capable, not_false_eq_true, if_true, OpenVerdict.outcome,
                Bool.true_eq_false, not_true_eq_false, or_self, if_false]
              -- One of the six checks ends the process; which one makes no difference.
              split_ifs
              all_goals
                first
                | rfl
                | exact absurd (capable_iff.mpr ⟨‹_›, ‹_›, ‹_›, ‹_›, ‹_›, ‹_›⟩) capable
      · have zero : lowestFree world.fds = 0 := lowestFree_eq_zero_iff.mpr stdin
        simp [OpenCalls.verdict, OpenCalls.fdsAfter, OpenVerdict.outcome, opened, stdin, zero]

/-!
## Transfers
-/

theorem run_smbusWrite (succeeds : Bool) (effect : Chip → Chip) (world : World) :
    (smbusWrite succeeds effect).run world =
      if succeeds then (.returned 0, { world with eeprom := effect world.eeprom })
      else (.returned (-1), world) := by
  cases succeeds <;> rfl

theorem run_eepromWriteByte (written : Bool) {e : Eeprom} (wide : e.type = .addr16Bit)
    (memAddr : UInt16) (data : UInt8) (world : World) :
    (eepromWriteByte written e memAddr data).run world =
      if written then
        (.returned 0, { world with eeprom := world.eeprom.store memAddr.toNat data })
      else (.returned (-1), world) := by
  unfold eepromWriteByte i2cWrite3b
  simp only [wide, run_smbusWrite, Chip.writeWordData_split]

/-- A byte read moves the read pointer at most; a failure of either transfer
shows as a negative result. -/
theorem run_eepromReadByte (written received : Bool) {e : Eeprom} (wide : e.type = .addr16Bit)
    (memAddr : UInt16) (world : World) :
    ∃ pointer, (eepromReadByte written received e memAddr).run world =
      (.returned (if written && received then (world.eeprom.cells memAddr.toNat).toNat else -1),
        { world with eeprom := world.eeprom.seek pointer }) := by
  unfold eepromReadByte i2cWrite2b
  simp only [wide, Process.run_bind, run_smbusWrite, Chip.writeByteData_split]
  cases written with
  | false => exact ⟨world.eeprom.pointer, rfl⟩
  | true =>
      refine ⟨memAddr.toNat, ?_⟩
      cases received <;> rfl

end InspurIpmi

import InspurIpmi.Eeprom24cXX

/-!
# The raw EEPROM commands

`read_sys_eeprom`, `write_sys_eeprom` and their two handlers from `i2c.cpp`.
-/

set_option autoImplicit false

namespace InspurIpmi

open Foundation

def sysEepromOffset : ℕ := 0

def sysI2cDevice : CString := "/dev/i2c-1".toList

def readSysByte (calls : BusCalls) (e : Eeprom) (offset index : ℕ) : Daemon (Option Int) := do
  let c ← eepromReadByte (calls.writes index) (calls.reads index) e
    (UInt16.ofNat (sysEepromOffset + offset + index))
  writeResponse index 1 fun _ => toByte c
  return none

def readSysEeprom (calls : BusCalls) (offset len : ℕ) : Daemon Int := do
  match ← eepromOpen (calls.opens 0) sysI2cDevice sysEepromI2cAddr .addr16Bit with
  | .error _ => return -1
  | .ok e =>
    let _ ← Process.forLoop (readSysByte calls e offset) len
    eepromClose e
    return 0

/-- Each byte is written through a device file opened for it alone. A failed
write is only logged. -/
def writeSysByte (calls : BusCalls) (addr : UInt16) (data : Buffer) (index : ℕ) :
    Daemon (Option Int) := do
  match ← eepromOpen (calls.opens index) sysI2cDevice sysEepromI2cAddr .addr16Bit with
  | .error _ => return some (-1)
  | .ok e =>
    let _ ← eepromWriteByte (calls.writes index) e (addr + UInt16.ofNat index) (data (2 + index))
    eepromClose e
    return none

def writeSysEeprom (calls : BusCalls) (eepromData : Buffer) (len : Int) : Daemon Int := do
  let addr := UInt16.ofNat (sysEepromOffset + (eepromData 0).toNat)
  let dataLen : Int := (eepromData 1).toNat
  if dataLen ≠ len then
    return -1
  match ← Process.forLoop (writeSysByte calls addr eepromData) len.toNat with
  | some ret => return ret
  | none => return 0

def ipmiReadEEPROM (calls : BusCalls) (request : Buffer) : Daemon CompletionCode := do
  if (← getDataLen) ≠ 2 then
    setDataLen 0
    return ccReqDataLenInvalid
  let rt ← readSysEeprom calls (request 0).toNat (request 1).toNat
  if rt ≠ 0 then
    return ccInvalidFieldRequest
  setDataLen (request 1).toNat
  return ccOk

def ipmiWriteEEPROM (calls : BusCalls) (request : Buffer) : Daemon CompletionCode := do
  let dataLen ← getDataLen
  if dataLen = 0 then
    return ccReqDataLenInvalid
  let rt ← writeSysEeprom calls request (toInt (toSizeT (dataLen - 2)))
  if rt ≠ 0 then
    return ccInvalidFieldRequest
  setDataLen 1
  writeResponse 0 1 fun _ => 0
  return ccOk

/-!
## Lengths and addresses
-/

theorem toNat_sysAddr {offset index : ℕ} (offsetByte : offset < 256) (indexByte : index < 256) :
    (UInt16.ofNat (sysEepromOffset + offset + index)).toNat = offset + index := by
  rw [UInt16.toNat_ofNat', sysEepromOffset]
  omega

theorem toNat_sysAddr_add (offset : UInt8) {index : ℕ} (indexByte : index < 256) :
    (UInt16.ofNat (sysEepromOffset + offset.toNat) + UInt16.ofNat index).toNat =
      offset.toNat + index := by
  have bound := offset.toNat_lt
  rw [UInt16.toNat_add, UInt16.toNat_ofNat', UInt16.toNat_ofNat', sysEepromOffset]
  omega

/-!
## Opening
-/

def BusCalls.OpensBelow (calls : BusCalls) (fds : Finset ℕ) (count : ℕ) : Prop :=
  ∀ index < count, (calls.opens index).verdict fds = .opened

/-- How far a write of so many bytes gets, where every byte has an `open` of its own. -/
inductive BusCalls.WriteReach (calls : BusCalls) (fds : Finset ℕ) (count : ℕ) : Prop
  | opened (opens : calls.OpensBelow fds count)
  | refused {first : ℕ} {status : Int} (below : first < count)
      (earlier : calls.OpensBelow fds first)
      (refused : (calls.opens first).verdict fds = .refused status)
  | halted {first : ℕ} (below : first < count) (earlier : calls.OpensBelow fds first)
      (halted : (calls.opens first).verdict fds = .halted)

theorem BusCalls.writeReach (calls : BusCalls) (fds : Finset ℕ) (count : ℕ) :
    calls.WriteReach fds count := by
  rcases Process.all_or_first (fun index => (calls.opens index).verdict fds = .opened) count with
    opens | ⟨first, below, earlier, stops⟩
  · exact .opened opens
  · cases verdict : (calls.opens first).verdict fds with
    | opened => exact absurd verdict stops
    | refused status => exact .refused below earlier verdict
    | halted => exact .halted below earlier verdict

theorem OpenCalls.opened_of_verdict {calls : OpenCalls} {fds : Finset ℕ}
    (opened : calls.verdict fds = .opened) : calls.opened = true := by
  cases answer : calls.opened with
  | true => rfl
  | false => simp [OpenCalls.verdict, answer] at opened

theorem OpenCalls.fdsAfter_of_opened {calls : OpenCalls} {fds : Finset ℕ}
    (opened : calls.verdict fds = .opened) :
    calls.fdsAfter fds = insert (lowestFree fds) fds := by
  simp only [OpenCalls.fdsAfter, OpenCalls.opened_of_verdict opened, if_true]

/-!
## Reading
-/

/-- The byte a read delivers: the cell, or the low byte of the error `-1`. -/
def BusCalls.readByte (calls : BusCalls) (cells : ℕ → UInt8) (start index : ℕ) : UInt8 :=
  if calls.writes index && calls.reads index then cells (start + index) else 0xFF

theorem BusCalls.Faultless.opensBelow {calls : BusCalls} (faultless : calls.Faultless)
    {fds : Finset ℕ} (stdin : 0 ∈ fds) (count : ℕ) : calls.OpensBelow fds count :=
  fun index _ => (faultless.opens index).verdict stdin

theorem BusCalls.Faultless.readByte {calls : BusCalls} (faultless : calls.Faultless)
    (cells : ℕ → UInt8) (start : ℕ) : calls.readByte cells start = fun index => cells (start + index) := by
  funext index
  simp only [BusCalls.readByte, faultless.writes, faultless.reads, Bool.and_self, if_true]

theorem toByte_read (calls : BusCalls) (cells : ℕ → UInt8) (start index : ℕ) :
    toByte (if calls.writes index && calls.reads index then ((cells (start + index)).toNat : Int)
      else -1) = calls.readByte cells start index := by
  unfold BusCalls.readByte
  split
  · exact toByte_toNat _
  · rfl

def ReadSysProgress (calls : BusCalls) (offset : ℕ) (start : World) (count : ℕ)
    (reached : World) : Prop :=
  ∃ pointer, reached =
    { start with
      response := overlay start.response 0 count (calls.readByte start.eeprom.cells offset)
      eeprom := start.eeprom.seek pointer }

theorem run_readSysByte {calls : BusCalls} {e : Eeprom} (wide : e.type = .addr16Bit)
    {offset index : ℕ} (offsetByte : offset < 256) (indexByte : index < 256)
    {start before : World} (progress : ReadSysProgress calls offset start index before) :
    ∃ after, (readSysByte calls e offset index).run before = (.returned none, after) ∧
      ReadSysProgress calls offset start (index + 1) after := by
  obtain ⟨pointer, rfl⟩ := progress
  obtain ⟨moved, ran⟩ := run_eepromReadByte (calls.writes index) (calls.reads index) wide
    (UInt16.ofNat (sysEepromOffset + offset + index))
    { start with
      response := overlay start.response 0 index (calls.readByte start.eeprom.cells offset)
      eeprom := start.eeprom.seek pointer }
  refine ⟨_, (Process.run_bind_returned ran _).trans rfl, moved, ?_⟩
  have grown := overlay_overlay_succ start.response 0 index
    (calls.readByte start.eeprom.cells offset)
  rw [Nat.zero_add] at grown
  simp only [toNat_sysAddr offsetByte indexByte, Chip.seek_cells, Chip.seek_seek, toByte_read, grown]

theorem run_readSysLoop {calls : BusCalls} (e : Eeprom) (wide : e.type = .addr16Bit)
    {offset len : ℕ} (offsetByte : offset < 256) (lenByte : len ≤ 256) (start : World) :
    ∃ final, (Process.forLoop (readSysByte calls e offset) len).run start =
        (.returned none, final) ∧
      ReadSysProgress calls offset start len final :=
  Process.run_forLoop_all ⟨start.eeprom.pointer, by simp [Chip.seek_pointer]⟩
    fun _ below _ progress => run_readSysByte wide offsetByte (below.trans_le lenByte) progress

theorem run_readSysEeprom_opened {calls : BusCalls} {offset len : ℕ} {world : World}
    (offsetByte : offset < 256) (lenByte : len ≤ 256)
    (opened : (calls.opens 0).verdict world.fds = .opened) :
    ∃ pointer, (readSysEeprom calls offset len).run world =
      (.returned 0,
        { world with
          response := overlay world.response 0 len (calls.readByte world.eeprom.cells offset)
          eeprom := world.eeprom.seek pointer }) := by
  unfold readSysEeprom
  rw [Process.run_bind, run_eepromOpen, opened, OpenCalls.fdsAfter_of_opened opened]
  obtain ⟨final, looped, pointer, rfl⟩ := run_readSysLoop
    ⟨sysI2cDevice, sysEepromI2cAddr, lowestFree world.fds, .addr16Bit⟩ rfl
    offsetByte lenByte { world with fds := insert (lowestFree world.fds) world.fds }
  refine ⟨pointer, ?_⟩
  simp only [OpenVerdict.outcome]
  rw [Process.run_bind_returned looped, eepromClose, run_closeFile_opened_bind _ _ _ rfl]
  rfl

theorem run_readSysEeprom_refused {calls : BusCalls} {offset len : ℕ} {world : World} {status : Int}
    (refused : (calls.opens 0).verdict world.fds = .refused status) :
    (readSysEeprom calls offset len).run world =
      (.returned (-1), { world with fds := (calls.opens 0).fdsAfter world.fds }) := by
  unfold readSysEeprom
  rw [Process.run_bind, run_eepromOpen, refused]
  rfl

theorem run_readSysEeprom_halted {calls : BusCalls} {offset len : ℕ} {world : World}
    (halted : (calls.opens 0).verdict world.fds = .halted) :
    (readSysEeprom calls offset len).run world =
      (.exited 1, { world with fds := (calls.opens 0).fdsAfter world.fds }) := by
  unfold readSysEeprom
  rw [Process.run_bind, run_eepromOpen, halted]
  rfl

/-!
## Writing
-/

def World.writtenSys (calls : BusCalls) (data : Buffer) (start : World) (count : ℕ) : World :=
  { start with
    eeprom := start.eeprom.storeAll calls.writes (data 0).toNat (fun index => data (2 + index)) count }

theorem run_writeSysByte_opened {calls : BusCalls} {data : Buffer} {start : World} {index : ℕ}
    (indexByte : index < 256) (opened : (calls.opens index).verdict start.fds = .opened) :
    (writeSysByte calls (UInt16.ofNat (sysEepromOffset + (data 0).toNat)) data index).run
        (start.writtenSys calls data index) =
      (.returned none, start.writtenSys calls data (index + 1)) := by
  unfold writeSysByte
  have same : (start.writtenSys calls data index).fds = start.fds := rfl
  rw [Process.run_bind, run_eepromOpen, same, opened, OpenCalls.fdsAfter_of_opened opened]
  simp only [OpenVerdict.outcome]
  rw [Process.run_bind, run_eepromWriteByte _ rfl, toNat_sysAddr_add _ indexByte]
  cases written : calls.writes index <;>
    simp [eepromClose, World.writtenSys, Chip.storeAll, written]

def OpenVerdict.stop : OpenVerdict → Outcome Exception (Option Int)
  | .halted => .exited 1
  | _ => .returned (some (-1))

theorem OpenVerdict.stop_ne_none (verdict : OpenVerdict) : verdict.stop ≠ .returned none := by
  cases verdict <;> simp [OpenVerdict.stop]

theorem run_writeSysByte_stopped {calls : BusCalls} {data : Buffer} {index : ℕ} {start : World}
    (addr : UInt16) (stopped : (calls.opens index).verdict start.fds ≠ .opened) :
    (writeSysByte calls addr data index).run (start.writtenSys calls data index) =
      (((calls.opens index).verdict start.fds).stop,
        { start.writtenSys calls data index with
          fds := (calls.opens index).fdsAfter start.fds }) := by
  unfold writeSysByte
  have same : (start.writtenSys calls data index).fds = start.fds := rfl
  rw [Process.run_bind, run_eepromOpen, same]
  cases verdict : (calls.opens index).verdict start.fds with
  | opened => exact absurd verdict stopped
  | refused status => rfl
  | halted => rfl

theorem run_writeSysLoop_all {calls : BusCalls} {data : Buffer} {start : World} {count : ℕ}
    (small : count ≤ 256) (opens : calls.OpensBelow start.fds count) :
    (Process.forLoop
        (writeSysByte calls (UInt16.ofNat (sysEepromOffset + (data 0).toNat)) data) count).run start =
      (.returned none, start.writtenSys calls data count) := by
  obtain ⟨final, looped, rfl⟩ := Process.run_forLoop_all
    (rfl : start = start.writtenSys calls data 0)
    fun index below before (reached : before = start.writtenSys calls data index) =>
      ⟨_, reached ▸ run_writeSysByte_opened (below.trans_le small) (opens index below), rfl⟩
  exact looped

theorem run_writeSysLoop_first {calls : BusCalls} {data : Buffer} {start : World}
    {count first : ℕ} (small : count ≤ 256) (below : first < count)
    (opens : calls.OpensBelow start.fds first)
    (stopped : (calls.opens first).verdict start.fds ≠ .opened) :
    (Process.forLoop
        (writeSysByte calls (UInt16.ofNat (sysEepromOffset + (data 0).toNat)) data) count).run start =
      (((calls.opens first).verdict start.fds).stop,
        { start.writtenSys calls data first with
          fds := (calls.opens first).fdsAfter start.fds }) := by
  obtain ⟨reached, rfl, looped⟩ := Process.run_forLoop_first
    (rfl : start = start.writtenSys calls data 0) below
    (fun index early before (reached : before = start.writtenSys calls data index) =>
      ⟨_, reached ▸ run_writeSysByte_opened ((early.trans below).trans_le small)
        (opens index early), rfl⟩)
    (fun before (reached : before = start.writtenSys calls data first) => by
      rw [reached, run_writeSysByte_stopped _ stopped]
      exact OpenVerdict.stop_ne_none _)
  exact looped.trans (run_writeSysByte_stopped _ stopped)

theorem run_writeSysEeprom_mismatch {calls : BusCalls} {data : Buffer} {len : Int} {world : World}
    (mismatch : ((data 1).toNat : Int) ≠ len) :
    (writeSysEeprom calls data len).run world = (.returned (-1), world) := by
  unfold writeSysEeprom
  simp only [ne_eq, mismatch, not_false_eq_true, if_true, Process.run_pure]

theorem run_writeSysEeprom_all {calls : BusCalls} {data : Buffer} {world : World}
    (opens : calls.OpensBelow world.fds (data 1).toNat) :
    (writeSysEeprom calls data (data 1).toNat).run world =
      (.returned 0, world.writtenSys calls data (data 1).toNat) := by
  unfold writeSysEeprom
  simp only [ne_eq, not_true_eq_false, if_false, Int.toNat_natCast]
  rw [Process.run_bind_returned (run_writeSysLoop_all (data 1).toNat_lt.le opens)]
  rfl

theorem run_writeSysEeprom_first {calls : BusCalls} {data : Buffer} {world : World} {first : ℕ}
    (below : first < (data 1).toNat) (opens : calls.OpensBelow world.fds first)
    (stopped : (calls.opens first).verdict world.fds ≠ .opened) :
    (writeSysEeprom calls data (data 1).toNat).run world =
      (if (calls.opens first).verdict world.fds = .halted then .exited 1 else .returned (-1),
        { world.writtenSys calls data first with
          fds := (calls.opens first).fdsAfter world.fds }) := by
  unfold writeSysEeprom
  simp only [ne_eq, not_true_eq_false, if_false, Int.toNat_natCast]
  rw [Process.run_bind, run_writeSysLoop_first (data 1).toNat_lt.le below opens stopped]
  cases (calls.opens first).verdict world.fds <;> rfl

/-!
## The handlers
-/

theorem run_ipmiReadEEPROM_length {calls : BusCalls} {request : Buffer} {world : World}
    (wrong : world.dataLen ≠ 2) :
    (ipmiReadEEPROM calls request).run world =
      (.returned ccReqDataLenInvalid, { world with dataLen := 0 }) := by
  unfold ipmiReadEEPROM
  simp only [run_getDataLen_bind, ne_eq, wrong, not_false_eq_true, if_true, run_setDataLen_bind,
    Process.run_pure]

theorem run_ipmiReadEEPROM_opened {calls : BusCalls} {request : Buffer} {world : World}
    (right : world.dataLen = 2) (opened : (calls.opens 0).verdict world.fds = .opened) :
    ∃ pointer, (ipmiReadEEPROM calls request).run world =
      (.returned ccOk,
        { world with
          dataLen := (request 1).toNat
          response := overlay world.response 0 (request 1).toNat
            (calls.readByte world.eeprom.cells (request 0).toNat)
          eeprom := world.eeprom.seek pointer }) := by
  obtain ⟨pointer, ran⟩ := run_readSysEeprom_opened (request 0).toNat_lt (request 1).toNat_lt.le opened
  refine ⟨pointer, ?_⟩
  unfold ipmiReadEEPROM
  rw [run_getDataLen_bind, if_neg (not_not_intro right)]
  rw [Process.run_bind_returned ran]
  rfl

theorem run_ipmiReadEEPROM_refused {calls : BusCalls} {request : Buffer} {world : World}
    {status : Int} (right : world.dataLen = 2)
    (refused : (calls.opens 0).verdict world.fds = .refused status) :
    (ipmiReadEEPROM calls request).run world =
      (.returned ccInvalidFieldRequest,
        { world with fds := (calls.opens 0).fdsAfter world.fds }) := by
  unfold ipmiReadEEPROM
  rw [run_getDataLen_bind, if_neg (not_not_intro right)]
  rw [Process.run_bind_returned (run_readSysEeprom_refused refused)]
  rfl

theorem run_ipmiReadEEPROM_halted {calls : BusCalls} {request : Buffer} {world : World}
    (right : world.dataLen = 2) (halted : (calls.opens 0).verdict world.fds = .halted) :
    (ipmiReadEEPROM calls request).run world =
      (.exited 1, { world with fds := (calls.opens 0).fdsAfter world.fds }) := by
  unfold ipmiReadEEPROM
  rw [run_getDataLen_bind, if_neg (not_not_intro right)]
  rw [Process.run_bind_exited (run_readSysEeprom_halted halted)]

/-- The length byte of a write request agrees with the length received, as the
handler computes it. -/
def WriteAccepted (request : Buffer) (length : ℕ) : Prop :=
  length ≠ 0 ∧ ((request 1).toNat : Int) = toInt (toSizeT (length - 2))

instance (request : Buffer) (length : ℕ) : Decidable (WriteAccepted request length) :=
  inferInstanceAs (Decidable (_ ∧ _))

/-- A length byte that counts the payload. -/
def WriteRequestFits (request : Buffer) (length : ℕ) : Prop :=
  2 ≤ length ∧ (request 1).toNat = length - 2

instance (request : Buffer) (length : ℕ) : Decidable (WriteRequestFits request length) :=
  inferInstanceAs (Decidable (_ ∧ _))

/-- For `length = 1` the difference wraps and is narrowed to `-1`. -/
theorem writeAccepted_iff {request : Buffer} {length : ℕ} (small : length < 2 ^ 31) :
    WriteAccepted request length ↔ WriteRequestFits request length := by
  constructor
  · intro accepted
    obtain ⟨positive, agrees⟩ := accepted
    rw [toInt_toSizeT (by omega) (by omega)] at agrees
    exact ⟨by omega, by omega⟩
  · intro fits
    obtain ⟨long, agrees⟩ := fits
    refine ⟨by omega, ?_⟩
    rw [toInt_toSizeT (by omega) (by omega)]
    omega

theorem run_ipmiWriteEEPROM_rejected (calls : BusCalls) {request : Buffer} {world : World}
    (rejected : ¬ WriteAccepted request world.dataLen) :
    (ipmiWriteEEPROM calls request).run world =
      (.returned (if world.dataLen = 0 then ccReqDataLenInvalid else ccInvalidFieldRequest),
        world) := by
  unfold ipmiWriteEEPROM
  simp only [run_getDataLen_bind]
  by_cases empty : world.dataLen = 0
  · simp only [empty, if_true, Process.run_pure]
  · have mismatch := fun agrees => rejected ⟨empty, agrees⟩
    simp only [empty, if_false]
    rw [Process.run_bind_returned (run_writeSysEeprom_mismatch mismatch)]
    rfl

theorem run_ipmiWriteEEPROM_all {calls : BusCalls} {request : Buffer} {world : World}
    (accepted : WriteAccepted request world.dataLen)
    (opens : calls.OpensBelow world.fds (request 1).toNat) :
    (ipmiWriteEEPROM calls request).run world =
      (.returned ccOk,
        { world.writtenSys calls request (request 1).toNat with
          dataLen := 1
          response := overlay world.response 0 1 fun _ => 0 }) := by
  unfold ipmiWriteEEPROM
  simp only [run_getDataLen_bind, accepted.1, if_false, ← accepted.2]
  rw [Process.run_bind_returned (run_writeSysEeprom_all opens)]
  rfl

theorem run_ipmiWriteEEPROM_first {calls : BusCalls} {request : Buffer} {world : World}
    {first : ℕ} (accepted : WriteAccepted request world.dataLen) (below : first < (request 1).toNat)
    (opens : calls.OpensBelow world.fds first)
    (stopped : (calls.opens first).verdict world.fds ≠ .opened) :
    (ipmiWriteEEPROM calls request).run world =
      (if (calls.opens first).verdict world.fds = .halted then .exited 1
        else .returned ccInvalidFieldRequest,
        { world.writtenSys calls request first with
          fds := (calls.opens first).fdsAfter world.fds }) := by
  unfold ipmiWriteEEPROM
  simp only [run_getDataLen_bind, accepted.1, if_false, ← accepted.2]
  rw [Process.run_bind, run_writeSysEeprom_first below opens stopped]
  split_ifs <;> rfl

theorem run_ipmiWriteEEPROM_refused {calls : BusCalls} {request : Buffer} {world : World}
    {first : ℕ} {status : Int} (accepted : WriteAccepted request world.dataLen)
    (below : first < (request 1).toNat) (opens : calls.OpensBelow world.fds first)
    (refused : (calls.opens first).verdict world.fds = .refused status) :
    (ipmiWriteEEPROM calls request).run world =
      (.returned ccInvalidFieldRequest,
        { world.writtenSys calls request first with
          fds := (calls.opens first).fdsAfter world.fds }) := by
  have stopped : (calls.opens first).verdict world.fds ≠ .opened := refused.trans_ne (by simp)
  rw [run_ipmiWriteEEPROM_first accepted below opens stopped, if_neg (refused.trans_ne (by simp))]

theorem run_ipmiWriteEEPROM_halted {calls : BusCalls} {request : Buffer} {world : World}
    {first : ℕ} (accepted : WriteAccepted request world.dataLen) (below : first < (request 1).toNat)
    (opens : calls.OpensBelow world.fds first)
    (halted : (calls.opens first).verdict world.fds = .halted) :
    (ipmiWriteEEPROM calls request).run world =
      (.exited 1,
        { world.writtenSys calls request first with
          fds := (calls.opens first).fdsAfter world.fds }) := by
  have stopped : (calls.opens first).verdict world.fds ≠ .opened := halted.trans_ne (by simp)
  rw [run_ipmiWriteEEPROM_first accepted below opens stopped, if_pos halted]

end InspurIpmi

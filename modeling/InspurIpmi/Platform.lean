import InspurIpmi.Foundation.ByteMemory
import InspurIpmi.Foundation.Descriptors
import InspurIpmi.Foundation.Process
import InspurIpmi.Foundation.SmbusEeprom

/-!
# The daemon and its platform

The state of the `ipmid` process as far as the OEM handlers touch it, the
buffers a handler is called with, and the system calls that all handlers share.
What a device or the system answers is never part of the state: each handler
takes those answers as an argument of its own.
-/

set_option autoImplicit false

namespace InspurIpmi

open Foundation

/-- Memory from the address on to which a pointer points. -/
abbrev Buffer := ℕ → UInt8

abbrev CString := List Char

abbrev Errno := { number : ℕ // 0 < number }

/-!
## Conversions
-/

def toSizeT (value : Int) : Int := value % 2 ^ 32

def toInt (value : Int) : Int := value.bmod (2 ^ 32)

def toByte (value : Int) : UInt8 := UInt8.ofInt value

theorem toInt_toSizeT {value : Int} (low : -2 ^ 31 ≤ value) (high : value < 2 ^ 31) :
    toInt (toSizeT value) = value := by
  simp only [toInt, toSizeT, Int.bmod_def]
  omega

theorem toByte_toNat (byte : UInt8) : toByte byte.toNat = byte := by
  have bound := byte.toNat_lt
  have fits : ((byte.toNat : Int) % 2 ^ 8).toNat = byte.toNat := by omega
  rw [toByte, UInt8.ofInt, fits, UInt8.ofNat_toNat]

/-!
## Completion codes
-/

abbrev CompletionCode := UInt8

def ccOk : CompletionCode := 0x00
def ccReqDataLenInvalid : CompletionCode := 0xC7
def ccParmOutOfRange : CompletionCode := 0xC9
def ccSensorInvalid : CompletionCode := 0xCB
def ccInvalidFieldRequest : CompletionCode := 0xCC
def ccIllegalCommand : CompletionCode := 0xCD
def ccUnspecifiedError : CompletionCode := 0xFF

@[simp] theorem ccReqDataLenInvalid_ne_ok : ccReqDataLenInvalid ≠ ccOk := by decide
@[simp] theorem ccParmOutOfRange_ne_ok : ccParmOutOfRange ≠ ccOk := by decide
@[simp] theorem ccSensorInvalid_ne_ok : ccSensorInvalid ≠ ccOk := by decide
@[simp] theorem ccInvalidFieldRequest_ne_ok : ccInvalidFieldRequest ≠ ccOk := by decide
@[simp] theorem ccIllegalCommand_ne_ok : ccIllegalCommand ≠ ccOk := by decide
@[simp] theorem ccUnspecifiedError_ne_ok : ccUnspecifiedError ≠ ccOk := by decide

/-!
## State
-/

inductive AssetObject where
  | cpuInfodata
  | memInfodata
  | revisionInfo
  deriving DecidableEq, Repr

inductive Table where
  | assetInfoGotFlag
  | inputverinfo
  | path
  deriving DecidableEq, Repr

/-- Accesses of which no trace is left in the rest of the state. -/
inductive Event where
  | lookup (table : Table) (index : ℕ)
  /-- A GPIO value file is opened for writing, whatever comes of it. -/
  | gpioWriteAttempt (line : ℤ)
  | moduleReset (index : ℕ)
  | sensorUpdate (number reading : UInt8)
  deriving DecidableEq, Repr

/-- The file that shows the EEPROM of `World.eeprom`, where a driver of the kernel
serves that device. -/
def chipFile : CString := "/sys/bus/i2c/devices/1-0050/eeprom".toList

structure World where
  /-- The response buffer and `*dataLen` of the request in progress. -/
  response : Buffer
  dataLen : ℕ
  fds : Finset ℕ
  /-- The EEPROM at address `0x50` of `/dev/i2c-1`. -/
  eeprom : Chip
  records : AssetObject → Buffer
  /-- The memory from the array on: the entries from `DEVICE_TYPE_MAX` on are
  whatever the linker placed behind it. -/
  assetInfoGotFlag : Buffer
  /-- The text of the value file of each exported GPIO line. -/
  gpio : ℤ → Option (List UInt8)
  /-- The EEPROMs of the other I2C devices, by the path of the file in the directory of
  the device. -/
  i2cFiles : CString → Option Buffer
  /-- The text of `/usr/bin/fan_mode`. -/
  fanMode : Option (List UInt8)
  trace : List Event

/-- The EEPROMs of all I2C devices. Whether a driver makes the file is for `open` to
tell. -/
def World.files (world : World) : CString → Option Buffer :=
  Function.update world.i2cFiles chipFile (some world.eeprom.cells)

/-- Bytes that a file takes, where there is a device behind it. -/
def World.overwrite (world : World) (name : CString) (start count : ℕ) (source : Buffer) : World :=
  if name = chipFile then
    { world with
      eeprom := { world.eeprom with cells := overlay world.eeprom.cells start count source } }
  else
    { world with
      i2cFiles := Function.update world.i2cFiles name
        ((world.i2cFiles name).map fun file => overlay file start count source) }

theorem World.files_of_ne {world : World} {name : CString} (other : name ≠ chipFile) :
    world.files name = world.i2cFiles name :=
  Function.update_of_ne other _ _

theorem World.files_overwrite (world : World) (name : CString) (start count : ℕ)
    (source : Buffer) :
    (world.overwrite name start count source).files =
      Function.update world.files name
        ((world.files name).map fun file => overlay file start count source) := by
  unfold World.overwrite
  by_cases chip : name = chipFile
  · subst chip
    simp only [World.files, if_true, Function.update_self, Function.update_idem, Option.map_some]
  · rw [if_neg chip, World.files_of_ne chip]
    exact Function.update_comm chip _ _ _

/-- A device that is not there takes nothing. -/
theorem World.overwrite_missing {world : World} {name : CString} (missing : world.files name = none)
    (start count : ℕ) (source : Buffer) : world.overwrite name start count source = world := by
  have other : name ≠ chipFile := by
    rintro rfl
    rw [World.files, Function.update_self] at missing
    cases missing
  rw [World.files_of_ne other] at missing
  rw [World.overwrite, if_neg other, missing, Option.map_none, ← missing, Function.update_eq_self]

theorem World.overwrite_zero (world : World) (name : CString) (start : ℕ) (source : Buffer) :
    world.overwrite name start 0 source = world := by
  unfold World.overwrite
  simp only [overlay_zero_length, Option.map_id', Function.update_eq_self, ite_self]

/-- Nothing but EEPROMs is touched. -/
theorem World.overwrite_frame (world : World) (name : CString) (start count : ℕ)
    (source : Buffer) :
    ∃ cells files, world.overwrite name start count source =
      { world with eeprom := { world.eeprom with cells := cells }, i2cFiles := files } := by
  unfold World.overwrite
  split <;> exact ⟨_, _, rfl⟩

/-- Exceptions, as far as a `catch` clause tells them apart. -/
inductive Exception where
  | internalFailure
  | runtimeError
  | other
  deriving DecidableEq, Repr

abbrev Daemon (α : Type) := Process World Exception α

structure Request where
  bytes : Buffer
  length : ℕ

def World.receive (world : World) (length : ℕ) : World := { world with dataLen := length }

/-- Descriptor `0` is in use, as in every process that was given its standard
streams; `open` then never returns `0`. -/
def World.StdinOpen (world : World) : Prop := 0 ∈ world.fds

structure Reply where
  code : CompletionCode
  length : ℕ
  data : Buffer

/-- Run a handler on a request. There is no answer when the process ends or an
exception leaves the handler. -/
def serve (handler : Daemon CompletionCode) (length : ℕ) (world : World) : Option (Reply × World) :=
  match handler.run (world.receive length) with
  | (.returned code, after) => some (⟨code, after.dataLen, after.response⟩, after)
  | _ => none

theorem serve_returned {handler : Daemon CompletionCode} {length : ℕ} {world after : World}
    {code : CompletionCode}
    (ran : handler.run (world.receive length) = (.returned code, after)) :
    serve handler length world = some (⟨code, after.dataLen, after.response⟩, after) := by
  rw [serve, ran]

def successor (handler : Daemon CompletionCode) (length : ℕ) (world : World) : Option World :=
  (serve handler length world).map Prod.snd

theorem successor_returned {handler : Daemon CompletionCode} {length : ℕ} {world after : World}
    {code : CompletionCode} {law : World → Prop}
    (ran : handler.run (world.receive length) = (.returned code, after)) :
    (∀ next, successor handler length world = some next → law next) ↔ law after := by
  rw [successor, serve_returned ran]
  constructor
  · intro all
    exact all after rfl
  · rintro kept next ⟨⟩
    exact kept

theorem successor_exited {handler : Daemon CompletionCode} {length : ℕ} {world after : World}
    {status : Int} {law : World → Prop}
    (ran : handler.run (world.receive length) = (.exited status, after)) :
    ∀ next, successor handler length world = some next → law next := by
  intro next survived
  rw [successor, serve, ran] at survived
  cases survived

/-- The daemon has just started: its static variables are zero, and the first
three descriptors are in use. -/
def World.boot : World where
  response := fun _ => 0
  dataLen := 0
  fds := {0, 1, 2}
  eeprom := { cells := fun _ => 0xFF, pointer := 0 }
  records := fun _ _ => 0
  assetInfoGotFlag := fun _ => 0
  gpio := fun _ => none
  i2cFiles := fun _ => none
  fanMode := none
  trace := []

/-!
## Buffers and system calls
-/

def getDataLen : Daemon ℕ := Process.gets World.dataLen

def setDataLen (length : ℕ) : Daemon Unit :=
  Process.modify fun world => { world with dataLen := length }

def writeResponse (start length : ℕ) (source : Buffer) : Daemon Unit :=
  Process.modify fun world => { world with response := overlay world.response start length source }

def record (event : Event) : Daemon Unit :=
  Process.modify fun world => { world with trace := world.trace ++ [event] }

/-- `open`: a descriptor, or `-1`. -/
def openFile (succeeds : Bool) : Daemon Int := do
  if succeeds then
    let fd ← Process.gets fun world => lowestFree world.fds
    Process.modify fun world => { world with fds := insert (lowestFree world.fds) world.fds }
    return fd
  else
    return -1

/-- `close`, which does nothing to a descriptor that is not open. -/
def closeFile (fd : Int) : Daemon Unit :=
  Process.modify fun world =>
    { world with fds := if 0 ≤ fd then world.fds.erase fd.toNat else world.fds }

@[simp] theorem run_openFile (succeeds : Bool) (world : World) :
    (openFile succeeds).run world =
      if succeeds then
        (.returned (lowestFree world.fds : Int),
          { world with fds := insert (lowestFree world.fds) world.fds })
      else (.returned (-1), world) := by
  cases succeeds <;> rfl

@[simp] theorem run_getDataLen_bind {α : Type} (next : ℕ → Daemon α) (world : World) :
    (getDataLen >>= next).run world = (next world.dataLen).run world := rfl

@[simp] theorem run_setDataLen_bind {α : Type} (length : ℕ) (next : Unit → Daemon α)
    (world : World) :
    (setDataLen length >>= next).run world =
      (next ()).run { world with dataLen := length } := rfl

@[simp] theorem run_writeResponse_bind {α : Type} (start length : ℕ) (source : Buffer)
    (next : Unit → Daemon α) (world : World) :
    (writeResponse start length source >>= next).run world =
      (next ()).run { world with response := overlay world.response start length source } := rfl

@[simp] theorem run_record_bind {α : Type} (event : Event) (next : Unit → Daemon α)
    (world : World) :
    (record event >>= next).run world =
      (next ()).run { world with trace := world.trace ++ [event] } := rfl

@[simp] theorem run_closeFile_bind {α : Type} (fd : Int) (next : Unit → Daemon α)
    (world : World) :
    (closeFile fd >>= next).run world =
      (next ()).run
        { world with fds := if 0 ≤ fd then world.fds.erase fd.toNat else world.fds } := rfl

/-- The descriptor a successful `open` left behind is the one to be closed. -/
@[simp] theorem run_closeFile_opened_bind {α : Type} (taken : Finset ℕ) (next : Unit → Daemon α)
    (world : World) (same : world.fds = insert (lowestFree taken) taken) :
    (closeFile (lowestFree taken) >>= next).run world =
      (next ()).run { world with fds := taken } := by
  rw [run_closeFile_bind, same, Int.toNat_natCast, erase_insert_lowestFree,
    if_pos (Int.natCast_nonneg _)]

end InspurIpmi

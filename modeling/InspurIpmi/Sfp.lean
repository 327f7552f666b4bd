import InspurIpmi.Foundation.DecimalScan
import InspurIpmi.Platform

/-!
# The SFP commands

`sfpcommands.cpp`: the GPIO lines of the ports, the reset files, and the EEPROM
files of the modules.
-/

set_option autoImplicit false

namespace InspurIpmi

open Foundation

def completeCode : UInt8 := 0x00
def presentIndex : ℤ := 192
def lpmodeIndex : ℤ := 256
def interruptIndex : ℤ := 224
def blockBase : ℕ := 8

def getSFPSum : ℕ := 32

def eepromDir : CString := "/sys/bus/i2c/devices".toList

def path : List CString :=
  ["6-0070/channel-0/22-0050", "6-0070/channel-1/23-0050", "6-0070/channel-2/24-0050",
    "6-0070/channel-3/25-0050", "6-0070/channel-4/26-0050", "6-0070/channel-5/27-0050",
    "6-0070/channel-6/28-0050", "6-0070/channel-7/29-0050", "6-0071/channel-0/30-0050",
    "6-0071/channel-1/31-0050", "6-0071/channel-2/32-0050", "6-0071/channel-3/33-0050",
    "6-0071/channel-4/34-0050", "6-0071/channel-5/35-0050", "6-0071/channel-6/36-0050",
    "6-0071/channel-7/37-0050", "6-0072/channel-0/38-0050", "6-0072/channel-1/39-0050",
    "6-0072/channel-2/40-0050", "6-0072/channel-3/41-0050", "6-0072/channel-4/42-0050",
    "6-0072/channel-5/43-0050", "6-0072/channel-6/44-0050", "6-0072/channel-7/45-0050",
    "6-0073/channel-0/46-0050", "6-0073/channel-1/47-0050", "6-0073/channel-2/48-0050",
    "6-0073/channel-3/49-0050", "6-0073/channel-4/50-0050", "6-0073/channel-5/51-0050",
    "6-0073/channel-6/52-0050", "6-0073/channel-7/53-0050"].map String.toList

/-!
## GPIO lines
-/

/-- `open` and `read` on a value file; `read` delivers at most the given number
of bytes, or fails. -/
structure GpioRead where
  opened : Bool
  delivers : Option ℕ

/-- `open` and `write` on a file that takes one character. -/
structure CharWrite where
  opened : Bool
  written : Bool

/-- What `value_str` and the memory behind it hold before anything is assigned. -/
structure Locals where
  valueStr : Buffer
  stack : List UInt8

/-- `value_str` after the delivered characters were copied to its front, and the
memory behind it. -/
def Locals.text (locals : Locals) (delivered : List UInt8) : List UInt8 :=
  delivered ++ ((List.range 3).drop delivered.length).map locals.valueStr ++ locals.stack

def gpioLine (base : ℤ) (sfpIndex : UInt8) : ℤ :=
  base - (sfpIndex.toNat / blockBase * blockBase : ℕ) + (sfpIndex.toNat % blockBase : ℕ)

/-- The descriptor stays open when the read fails. -/
def getSFPGPIOValue (calls : GpioRead) (locals : Locals) (gpio : ℤ) : Daemon Int := do
  let file ← Process.gets fun world => world.gpio gpio
  let fd ← openFile (calls.opened && file.isSome)
  if fd < 0 then
    return -1
  match calls.delivers with
  | none => return -1
  | some count =>
    closeFile fd
    return atoi (locals.text ((file.getD []).take (min count 3)))

/-- The text that the kernel shows after `'0'` or `'1'` was written. -/
def gpioText (value : Int) : List UInt8 := if value = 0 then [0x30, 0x0A] else [0x31, 0x0A]

/-- The descriptor stays open when the write fails. -/
def setSFPGPIOValue (calls : CharWrite) (gpio : ℤ) (value : Int) : Daemon Int := do
  record (.gpioWriteAttempt gpio)
  let file ← Process.gets fun world => world.gpio gpio
  let fd ← openFile (calls.opened && file.isSome)
  if fd < 0 then
    return -1
  if !calls.written then
    return -1
  Process.modify fun world =>
    { world with gpio := Function.update world.gpio gpio (some (gpioText value)) }
  closeFile fd
  return 0

/-!
## Files of a module
-/

/-- What `open`, `lseek` and `read` answer on the file of a module. -/
structure SffCalls where
  opened : Bool
  seeks : Bool
  delivers : Except Errno ℕ

def sffPath (portnum : ℕ) : CString :=
  eepromDir ++ '/' :: path.getD portnum [] ++ "/eeprom".toList

/-- The directory of a device behind the channel of a multiplexer is the one that is
listed under the name of the device. -/
def deviceFile (fpath : CString) : CString :=
  match (fpath.splitOn '/').reverse with
  | file :: device :: _ => eepromDir ++ '/' :: device ++ '/' :: file
  | _ => fpath

def sffFile (portnum : ℕ) : CString := deviceFile (sffPath portnum)

/-- The arguments are bytes of a request. -/
def oomGetMemorySff (calls : SffCalls) (portnum page offset len : UInt8) : Daemon Int := do
  record (.lookup .path portnum.toNat)
  let file ← Process.gets fun world => world.files (sffFile portnum.toNat)
  let fd ← openFile (calls.opened && file.isSome)
  if fd = -1 then
    return -3
  let offs := offset.toNat + page.toNat * 128
  if !calls.seeks then
    closeFile fd
    return -2
  match calls.delivers with
  | .error errno =>
    closeFile fd
    return -errno.val
  | .ok count =>
    let retval := min count len.toNat
    writeResponse 0 retval fun index => (file.getD fun _ => 0) (offs + index)
    closeFile fd
    return retval

/-- The descriptor stays open when the write fails. -/
def sfpRest (calls : CharWrite) (sfpIndex : ℕ) : Daemon Int := do
  record (.moduleReset (sfpIndex + 1))
  let fp ← openFile calls.opened
  if fp < 0 then
    closeFile fp
    return -1
  if !calls.written then
    return -1
  closeFile fp
  return 0

/-!
## Handlers
-/

/-- The three status commands differ in the GPIO line and in what its value means. -/
def sfpStatus (base : ℤ) (status : Int → UInt8) (calls : GpioRead) (locals : Locals)
    (request : Buffer) : Daemon CompletionCode := do
  if (← getDataLen) ≠ 1 then
    setDataLen 0
    return ccReqDataLenInvalid
  setDataLen 0
  if getSFPSum ≤ (request 0).toNat then
    return ccParmOutOfRange
  setDataLen 1
  let value ← getSFPGPIOValue calls locals (gpioLine base (request 0))
  if value = -1 then
    return ccInvalidFieldRequest
  writeResponse 0 1 fun _ => status value
  return ccOk

def ipmiGetSFPPresent : GpioRead → Locals → Buffer → Daemon CompletionCode :=
  sfpStatus presentIndex fun sfpPresent => if sfpPresent = 1 then 0x00 else 0x01

def ipmiGetSFPInterruptInfo : GpioRead → Locals → Buffer → Daemon CompletionCode :=
  sfpStatus interruptIndex fun sfpInterrupt => if sfpInterrupt = 0 then 0x00 else 0x01

def ipmiGetSFPLowPowerMode : GpioRead → Locals → Buffer → Daemon CompletionCode :=
  sfpStatus lpmodeIndex fun sfpLPMode => if sfpLPMode = 0 then 0x01 else 0x00

def ipmiGetSFPSum : Daemon CompletionCode := do
  if (← getDataLen) ≠ 0 then
    return ccReqDataLenInvalid
  setDataLen 1
  writeResponse 0 1 fun _ => UInt8.ofNat getSFPSum
  return ccOk

def ipmiSFPReset (calls : CharWrite) (request : Buffer) : Daemon CompletionCode := do
  if (← getDataLen) ≠ 1 then
    return ccReqDataLenInvalid
  setDataLen 1
  let rst ← sfpRest calls (request 0).toNat
  if rst < 0 then
    return ccInvalidFieldRequest
  writeResponse 0 1 fun _ => completeCode
  return ccOk

/-- The index is not compared with `getSFPSum`. -/
def ipmiSetSFPLowPowerMode (calls : CharWrite) (request : Buffer) : Daemon CompletionCode := do
  if (← getDataLen) ≠ 2 then
    return ccReqDataLenInvalid
  setDataLen 1
  let setf ← setSFPGPIOValue calls (gpioLine lpmodeIndex (request 0))
    (if request 1 = 0x01 then 0 else 1)
  if setf = -1 then
    return ccInvalidFieldRequest
  writeResponse 0 1 fun _ => completeCode
  return ccOk

def ipmigetSFPEEPROM (calls : SffCalls) (request : Buffer) : Daemon CompletionCode := do
  if (← getDataLen) ≠ 4 then
    return ccReqDataLenInvalid
  setDataLen 0
  if getSFPSum ≤ (request 0).toNat then
    return ccParmOutOfRange
  let rst ← oomGetMemorySff calls (request 0) (request 1) (request 2) (request 3)
  if rst < 0 then
    return ccInvalidFieldRequest
  setDataLen (request 3).toNat
  return ccOk

end InspurIpmi

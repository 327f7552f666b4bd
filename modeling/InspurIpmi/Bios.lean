import InspurIpmi.Foundation.StructLayout
import InspurIpmi.I2c.RawEeprom

/-!
# The asset store

`bios.cpp`: the set and get system information commands, the records they keep
in memory, and the copies of the records in the EEPROM.
-/

set_option autoImplicit false

namespace InspurIpmi

open Foundation

/-!
## Layout
-/

def setAssetInfoFrameHeader1B : List CField :=
  [.bytes "DeviceType" 1, .bytes "MaskPresent" 4, .bytes "MaskAllPresent" 4,
    .bytes "AllInfoDone" 1, .bytes "TotalMessageLen" 4]

def cpuInfoData : List CField :=
  [.bytes "Present" 1, .bytes "ProcessorName" 50, .bytes "Signature" 8, .bytes "MicroCode" 10,
    .bytes "Maxspeed" 10, .bytes "Core" 1, .bytes "UsedCore" 1, .uint16 "L1_Data",
    .uint16 "L2_Cache", .uint16 "L3_Cache", .uint16 "CPUTDP"]

def memInfoData : List CField :=
  [.bytes "Status" 1, .bytes "Manufacture" 10, .bytes "SN_Number" 10, .uint16 "Capacity",
    .uint16 "Speed"]

def revisionInfoData : List CField :=
  [.bytes "DevName" 15, .bytes "DevRev" 15, .bytes "BuildTime" 20]

def frameHeaderSize : ℕ := sizeOfStruct setAssetInfoFrameHeader1B
def cpuInfoSize : ℕ := sizeOfStruct cpuInfoData
def memInfoSize : ℕ := sizeOfStruct memInfoData
def revisionInfoSize : ℕ := sizeOfStruct revisionInfoData

@[simp] theorem frameHeaderSize_eq : frameHeaderSize = 14 := by decide
@[simp] theorem cpuInfoSize_eq : cpuInfoSize = 90 := by decide
@[simp] theorem memInfoSize_eq : memInfoSize = 26 := by decide
@[simp] theorem revisionInfoSize_eq : revisionInfoSize = 50 := by decide

def deviceTypeCpu : UInt8 := 1
def deviceTypeMem : UInt8 := 2
def deviceTypeFwRevision : UInt8 := 7
def deviceTypeMax : ℕ := 8

def biosInfoEepromStartAddr : UInt16 := 16 * 1024
def eepromPageSize : UInt16 := 0x40
def assetInfoCpuInfoSpace : UInt16 := 2 * eepromPageSize
def assetInfoMemInfoSpace : UInt16 := 2 * eepromPageSize
def eepromOffsetCpu : UInt16 := biosInfoEepromStartAddr
def eepromOffsetMem : UInt16 := eepromOffsetCpu + assetInfoCpuInfoSpace
def eepromOffsetFwVersion : UInt16 := eepromOffsetMem + assetInfoMemInfoSpace

def biosIndex : ℕ := 1

/-!
## Setting
-/

def storeRecord (object : AssetObject) (start length : ℕ) (source : Buffer) : Daemon Unit :=
  Process.modify fun world =>
    { world with
      records := Function.update world.records object
        (overlay (world.records object) start length source) }

def setGotFlag (deviceType : UInt8) : Daemon Unit := do
  record (.lookup .assetInfoGotFlag deviceType.toNat)
  Process.modify fun world =>
    { world with assetInfoGotFlag := Function.update world.assetInfoGotFlag deviceType.toNat 1 }

def updateCpuInfo (deviceData : Buffer) : Daemon CompletionCode := do
  storeRecord .cpuInfodata 0 cpuInfoSize deviceData
  return ccOk

def updateMemInfo (deviceData : Buffer) : Daemon CompletionCode := do
  storeRecord .memInfodata 0 memInfoSize deviceData
  storeRecord .memInfodata memInfoSize memInfoSize fun index => deviceData (memInfoSize + index)
  return ccOk

def updateFwRevision (deviceData : Buffer) : Daemon CompletionCode := do
  storeRecord .revisionInfo 0 revisionInfoSize deviceData
  storeRecord .revisionInfo revisionInfoSize revisionInfoSize fun index =>
    deviceData (revisionInfoSize + index)
  return ccOk

def updateAssetInfoShareMemory (request : Buffer) : Daemon CompletionCode := do
  let deviceData : Buffer := fun index => request (frameHeaderSize + index)
  let deviceType := request 0
  let rc ←
    if deviceType = deviceTypeCpu then updateCpuInfo deviceData
    else if deviceType = deviceTypeMem then updateMemInfo deviceData
    else if deviceType = deviceTypeFwRevision then updateFwRevision deviceData
    else return ccUnspecifiedError
  setGotFlag deviceType
  return rc

structure Prepared where
  e : Eeprom
  data : AssetObject
  dataLen : ℕ
  addr : UInt16
  deriving DecidableEq, Repr

def prepareEeprom (calls : OpenCalls) (deviceType : UInt8) : Daemon (Except Int Prepared) := do
  match ← eepromOpen calls sysI2cDevice sysEepromI2cAddr .addr16Bit with
  | .error _ => return .error (-1)
  | .ok e =>
    if deviceType = deviceTypeCpu then
      return .ok ⟨e, .cpuInfodata, cpuInfoSize, eepromOffsetCpu⟩
    else if deviceType = deviceTypeMem then
      return .ok ⟨e, .memInfodata, 2 * memInfoSize, eepromOffsetMem⟩
    else if deviceType = deviceTypeFwRevision then
      return .ok ⟨e, .revisionInfo, 2 * revisionInfoSize, eepromOffsetFwVersion⟩
    else
      -- The device stays open.
      return .error ccUnspecifiedError.toNat

def readAssetByte (calls : BusCalls) (prepared : Prepared) (index : ℕ) : Daemon (Option Int) := do
  let tmpData ← eepromReadByte (calls.writes index) (calls.reads index) prepared.e
    (prepared.addr + UInt16.ofNat index)
  storeRecord prepared.data index 1 fun _ => toByte tmpData
  return none

def readAssetInfoFromEeprom (calls : BusCalls) (request : Buffer) : Daemon Int := do
  let deviceType := request 0
  match ← prepareEeprom (calls.opens 0) deviceType with
  | .error _ => return -1
  | .ok prepared =>
    let _ ← Process.forLoop (readAssetByte calls prepared) prepared.dataLen
    setGotFlag deviceType
    return 0

def writeAssetByte (calls : BusCalls) (prepared : Prepared) (index : ℕ) : Daemon (Option Int) := do
  let data ← Process.gets fun world => world.records prepared.data index
  let ret ← eepromWriteByte (calls.writes index) prepared.e
    (prepared.addr + UInt16.ofNat index) data
  if ret < 0 then
    return some (-1)
  return none

def writeAssetInfoToEeprom (calls : BusCalls) (request : Buffer) : Daemon Int := do
  let deviceType := request 0
  match ← prepareEeprom (calls.opens 0) deviceType with
  | .error _ => return -1
  | .ok prepared =>
    match ← Process.forLoop (writeAssetByte calls prepared) prepared.dataLen with
    | some ret => return ret
    | none =>
      eepromClose prepared.e
      return 0

def setSystemInfo (calls : BusCalls) (request : Buffer) : Daemon CompletionCode := do
  let rc ← updateAssetInfoShareMemory request
  let _ ← writeAssetInfoToEeprom calls request
  return rc

/-- Nothing that the `try` block of the source calls throws. -/
def ipmiSetSystemInfo (calls : BusCalls) (request : Buffer) : Daemon CompletionCode := do
  if (← getDataLen) ≤ frameHeaderSize then
    setDataLen 0
    return ccReqDataLenInvalid
  let rc ← setSystemInfo calls request
  setDataLen 1
  writeResponse 0 1 fun _ => 0
  return rc

/-!
## Getting
-/

/-- A store through a byte pointer to the `size_t`, of which it replaces the low
byte. -/
def setDataLenByte (value : ℕ) : Daemon Unit :=
  Process.modify fun world => { world with dataLen := world.dataLen / 256 * 256 + value % 256 }

def getSystemInfo (calls : BusCalls) (request : Buffer) : Daemon CompletionCode := do
  let deviceType := request 0
  record (.lookup .assetInfoGotFlag deviceType.toNat)
  let flag ← Process.gets fun world => world.assetInfoGotFlag deviceType.toNat
  if flag = 0 then
    let read ← readAssetInfoFromEeprom calls request
    if read ≠ 0 then
      return ccUnspecifiedError
  if deviceType = deviceTypeFwRevision then
    let info ← Process.gets fun world => world.records .revisionInfo
    writeResponse 0 revisionInfoSize fun index => info (biosIndex * revisionInfoSize + index)
    setDataLenByte revisionInfoSize
    return ccOk
  else
    return ccUnspecifiedError

def ipmiGetSystemInfo (calls : BusCalls) (request : Buffer) : Daemon CompletionCode := do
  if (← getDataLen) ≠ 1 then
    setDataLen 0
    return ccReqDataLenInvalid
  getSystemInfo calls request

end InspurIpmi

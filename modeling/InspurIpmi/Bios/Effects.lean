import InspurIpmi.Bios

/-!
# What the asset commands do

The closed form of every function of the asset store, by the type of the record
and by what the bus answers.
-/

set_option autoImplicit false

namespace InspurIpmi

open Foundation

inductive AssetType where
  | cpu
  | mem
  | fwRevision
  deriving DecidableEq, Repr

namespace AssetType

def deviceType : AssetType → UInt8
  | cpu => deviceTypeCpu
  | mem => deviceTypeMem
  | fwRevision => deviceTypeFwRevision

def object : AssetType → AssetObject
  | cpu => .cpuInfodata
  | mem => .memInfodata
  | fwRevision => .revisionInfo

def size : AssetType → ℕ
  | cpu => cpuInfoSize
  | mem => 2 * memInfoSize
  | fwRevision => 2 * revisionInfoSize

def addr : AssetType → UInt16
  | cpu => eepromOffsetCpu
  | mem => eepromOffsetMem
  | fwRevision => eepromOffsetFwVersion

def offset (type : AssetType) : ℕ := type.addr.toNat

def ofDeviceType? (deviceType : UInt8) : Option AssetType :=
  if deviceType = deviceTypeCpu then some cpu
  else if deviceType = deviceTypeMem then some mem
  else if deviceType = deviceTypeFwRevision then some fwRevision
  else none

theorem ofDeviceType?_eq_some {number : UInt8} {type : AssetType} :
    ofDeviceType? number = some type ↔ number = type.deviceType := by
  constructor
  · intro found
    unfold ofDeviceType? at found
    split_ifs at found with cpu mem fw <;> cases found
    · exact cpu
    · exact mem
    · exact fw
  · rintro rfl
    cases type <;> rfl

theorem size_le (type : AssetType) : type.size ≤ 100 := by
  cases type <;> decide

theorem size_pos (type : AssetType) : 0 < type.size := by
  cases type <;> decide

/-- The regions lie behind everything that a raw write can reach. -/
theorem le_offset (type : AssetType) : 16384 ≤ type.offset := by
  cases type <;> decide

theorem offset_injective {first second : AssetType} (different : first ≠ second) :
    first.offset + first.size ≤ second.offset ∨ second.offset + second.size ≤ first.offset := by
  cases first <;> cases second <;> first | exact absurd rfl different | decide

theorem object_injective {first second : AssetType} (different : first ≠ second) :
    first.object ≠ second.object := by
  cases first <;> cases second <;> first | exact absurd rfl different | decide

theorem deviceType_injective {first second : AssetType} (different : first ≠ second) :
    first.deviceType.toNat ≠ second.deviceType.toNat := by
  cases first <;> cases second <;> first | exact absurd rfl different | decide

theorem deviceType_lt (type : AssetType) : type.deviceType.toNat < deviceTypeMax := by
  cases type <;> decide

theorem toNat_addr_add (type : AssetType) {index : ℕ} (small : index < 256) :
    (type.addr + UInt16.ofNat index).toNat = type.offset + index := by
  have bound : type.addr.toNat ≤ 16640 := by cases type <;> decide
  rw [UInt16.toNat_add, UInt16.toNat_ofNat', offset]
  omega

end AssetType

/-!
## The memory copy
-/

def payload (request : Buffer) : Buffer := fun index => request (frameHeaderSize + index)

def World.setRecord (type : AssetType) (length : ℕ) (source : Buffer) (world : World) : World :=
  { world with
    records := Function.update world.records type.object
      (overlay (world.records type.object) 0 length source) }

def World.markGot (type : AssetType) (world : World) : World :=
  { world with
    assetInfoGotFlag := Function.update world.assetInfoGotFlag type.deviceType.toNat 1
    trace := world.trace ++ [.lookup .assetInfoGotFlag type.deviceType.toNat] }

theorem World.setRecord_other {type other : AssetType} (different : other ≠ type) (length : ℕ)
    (source : Buffer) (world : World) :
    (world.setRecord type length source).records other.object = world.records other.object :=
  Function.update_of_ne (AssetType.object_injective different) _ _

theorem World.setRecord_same (type : AssetType) {length index : ℕ} (below : index < length)
    (source : Buffer) (world : World) :
    (world.setRecord type length source).records type.object index = source index := by
  simp only [World.setRecord, Function.update_self, overlay_front _ _ below]

theorem World.markGot_same (type : AssetType) (world : World) :
    (world.markGot type).assetInfoGotFlag type.deviceType.toNat = 1 :=
  Function.update_self _ _ _

theorem World.markGot_other {type other : AssetType} (different : other ≠ type) (world : World) :
    (world.markGot type).assetInfoGotFlag other.deviceType.toNat =
      world.assetInfoGotFlag other.deviceType.toNat :=
  Function.update_of_ne (AssetType.deviceType_injective different) _ _

theorem run_storeRecord_twice (object : AssetObject) (size : ℕ) (source : Buffer) (world : World) :
    (do
      storeRecord object 0 size source
      storeRecord object size size fun index => source (size + index)
      return ccOk : Daemon CompletionCode).run world =
      (.returned ccOk,
        { world with
          records := Function.update world.records object
            (overlay (world.records object) 0 (2 * size) source) }) := by
  have joined := overlay_append (world.records object) source 0 size size
  rw [Nat.zero_add, ← Nat.two_mul] at joined
  simp only [storeRecord, Process.run_modify_bind, Process.run_pure, Function.update_self,
    Function.update_idem, joined]

theorem run_updateAssetInfoShareMemory_supported {request : Buffer} {type : AssetType}
    (supported : AssetType.ofDeviceType? (request 0) = some type) (world : World) :
    (updateAssetInfoShareMemory request).run world =
      (.returned ccOk, (world.setRecord type type.size (payload request)).markGot type) := by
  have number := AssetType.ofDeviceType?_eq_some.mp supported
  unfold updateAssetInfoShareMemory
  rw [number]
  cases type with
  | cpu => rfl
  | mem =>
      have copied := run_storeRecord_twice .memInfodata memInfoSize (payload request) world
      exact (Process.run_bind_returned copied _).trans rfl
  | fwRevision =>
      have copied := run_storeRecord_twice .revisionInfo revisionInfoSize (payload request) world
      exact (Process.run_bind_returned copied _).trans rfl

theorem run_updateAssetInfoShareMemory_unsupported {request : Buffer}
    (unsupported : AssetType.ofDeviceType? (request 0) = none) (world : World) :
    (updateAssetInfoShareMemory request).run world = (.returned ccUnspecifiedError, world) := by
  unfold AssetType.ofDeviceType? at unsupported
  split_ifs at unsupported with cpu mem fw
  unfold updateAssetInfoShareMemory
  simp only [cpu, mem, fw, if_false, Process.run_pure]

/-!
## The EEPROM copy
-/

theorem run_prepareEeprom_opened {calls : OpenCalls} {number : UInt8} {type : AssetType}
    (supported : AssetType.ofDeviceType? number = some type) {world : World}
    (opened : calls.verdict world.fds = .opened) :
    (prepareEeprom calls number).run world =
      (.returned (.ok ⟨⟨sysI2cDevice, sysEepromI2cAddr, lowestFree world.fds, .addr16Bit⟩,
          type.object, type.size, type.addr⟩),
        { world with fds := insert (lowestFree world.fds) world.fds }) := by
  have number := AssetType.ofDeviceType?_eq_some.mp supported
  unfold prepareEeprom
  rw [Process.run_bind, run_eepromOpen, number, opened, OpenCalls.fdsAfter_of_opened opened]
  cases type <;> rfl

theorem run_prepareEeprom_failed {calls : OpenCalls} {number : UInt8} {world : World}
    (failed : AssetType.ofDeviceType? number = none ∨ calls.verdict world.fds ≠ .opened)
    (alive : calls.verdict world.fds ≠ .halted) :
    ∃ status, (prepareEeprom calls number).run world =
      (.returned (.error status), { world with fds := calls.fdsAfter world.fds }) := by
  unfold prepareEeprom
  rw [Process.run_bind, run_eepromOpen]
  cases verdict : calls.verdict world.fds with
  | opened =>
      have unsupported := failed.resolve_right (not_not_intro verdict)
      unfold AssetType.ofDeviceType? at unsupported
      split_ifs at unsupported with cpu mem fw
      simp only [OpenVerdict.outcome, cpu, mem, fw, if_false, Process.run_pure]
      exact ⟨_, rfl⟩
  | refused status => exact ⟨_, rfl⟩
  | halted => exact absurd verdict alive

theorem run_prepareEeprom_halted {calls : OpenCalls} {number : UInt8} {world : World}
    (halted : calls.verdict world.fds = .halted) :
    (prepareEeprom calls number).run world =
      (.exited 1, { world with fds := calls.fdsAfter world.fds }) := by
  unfold prepareEeprom
  rw [Process.run_bind, run_eepromOpen, halted]
  rfl

def ReadAssetProgress (calls : BusCalls) (type : AssetType) (start : World) (count : ℕ)
    (reached : World) : Prop :=
  ∃ pointer, reached =
    { start.setRecord type count (calls.readByte start.eeprom.cells type.offset) with
      eeprom := start.eeprom.seek pointer }

theorem run_readAssetByte {calls : BusCalls} {e : Eeprom} (wide : e.type = .addr16Bit)
    {type : AssetType} {index : ℕ} (small : index < 256) {start before : World}
    (progress : ReadAssetProgress calls type start index before) :
    ∃ after, (readAssetByte calls ⟨e, type.object, type.size, type.addr⟩ index).run before =
        (.returned none, after) ∧
      ReadAssetProgress calls type start (index + 1) after := by
  obtain ⟨pointer, rfl⟩ := progress
  obtain ⟨moved, ran⟩ := run_eepromReadByte (calls.writes index) (calls.reads index) wide
    (type.addr + UInt16.ofNat index)
    { start.setRecord type index (calls.readByte start.eeprom.cells type.offset) with
      eeprom := start.eeprom.seek pointer }
  refine ⟨_, (Process.run_bind_returned ran _).trans rfl, moved, ?_⟩
  have grown := overlay_overlay_succ (start.records type.object) 0 index
    (calls.readByte start.eeprom.cells type.offset)
  rw [Nat.zero_add] at grown
  simp only [type.toNat_addr_add small, Chip.seek_cells, Chip.seek_seek, toByte_read,
    World.setRecord, Function.update_self, Function.update_idem, grown]

theorem run_readAssetLoop (calls : BusCalls) {e : Eeprom} (wide : e.type = .addr16Bit)
    (type : AssetType) (start : World) :
    ∃ final, (Process.forLoop (readAssetByte calls ⟨e, type.object, type.size, type.addr⟩)
        type.size).run start = (.returned none, final) ∧
      ReadAssetProgress calls type start type.size final := by
  have initial : ReadAssetProgress calls type start 0 start :=
    ⟨start.eeprom.pointer, by simp [World.setRecord, Chip.seek_pointer]⟩
  refine Process.run_forLoop_all initial fun index below before progress => ?_
  exact run_readAssetByte wide (by have := type.size_le; omega) progress

/-- The descriptor that a successful read leaves open is part of the result. -/
theorem run_readAssetInfoFromEeprom_opened {calls : BusCalls} {request : Buffer} {type : AssetType}
    (supported : AssetType.ofDeviceType? (request 0) = some type) (world : World)
    (opened : (calls.opens 0).verdict world.fds = .opened) :
    ∃ pointer, (readAssetInfoFromEeprom calls request).run world =
      (.returned 0,
        { (world.setRecord type type.size (calls.readByte world.eeprom.cells type.offset)).markGot
            type with
          eeprom := world.eeprom.seek pointer
          fds := insert (lowestFree world.fds) world.fds }) := by
  have wide : (⟨sysI2cDevice, sysEepromI2cAddr, lowestFree world.fds, .addr16Bit⟩ : Eeprom).type =
      .addr16Bit := rfl
  obtain ⟨final, looped, pointer, rfl⟩ := run_readAssetLoop calls wide type
    { world with fds := insert (lowestFree world.fds) world.fds }
  refine ⟨pointer, ?_⟩
  unfold readAssetInfoFromEeprom
  rw [Process.run_bind_returned (run_prepareEeprom_opened supported opened)]
  simp only
  rw [Process.run_bind_returned looped, AssetType.ofDeviceType?_eq_some.mp supported]
  rfl

theorem run_readAssetInfoFromEeprom_failed {calls : BusCalls} {request : Buffer} (world : World)
    (failed : AssetType.ofDeviceType? (request 0) = none ∨
      (calls.opens 0).verdict world.fds ≠ .opened)
    (alive : (calls.opens 0).verdict world.fds ≠ .halted) :
    (readAssetInfoFromEeprom calls request).run world =
      (.returned (-1), { world with fds := (calls.opens 0).fdsAfter world.fds }) := by
  obtain ⟨status, prepared⟩ := run_prepareEeprom_failed failed alive
  unfold readAssetInfoFromEeprom
  rw [Process.run_bind_returned prepared]
  rfl

theorem run_readAssetInfoFromEeprom_halted {calls : BusCalls} (request : Buffer) (world : World)
    (halted : (calls.opens 0).verdict world.fds = .halted) :
    (readAssetInfoFromEeprom calls request).run world =
      (.exited 1, { world with fds := (calls.opens 0).fdsAfter world.fds }) := by
  unfold readAssetInfoFromEeprom
  rw [Process.run_bind_exited (run_prepareEeprom_halted halted)]

def World.writtenAsset (calls : BusCalls) (type : AssetType) (start : World) (count : ℕ) : World :=
  { start with
    eeprom := start.eeprom.storeAll calls.writes type.offset (start.records type.object) count }

theorem run_writeAssetByte {calls : BusCalls} {e : Eeprom} (wide : e.type = .addr16Bit)
    {type : AssetType} {index : ℕ} (small : index < 256) (start : World) :
    (writeAssetByte calls ⟨e, type.object, type.size, type.addr⟩ index).run
        (start.writtenAsset calls type index) =
      if calls.writes index then (.returned none, start.writtenAsset calls type (index + 1))
      else (.returned (some (-1)), start.writtenAsset calls type index) := by
  unfold writeAssetByte
  rw [Process.run_gets_bind, Process.run_bind, run_eepromWriteByte _ wide,
    type.toNat_addr_add small]
  cases written : calls.writes index <;> simp [World.writtenAsset, Chip.storeAll, written]

def BusCalls.persisted (calls : BusCalls) (type : AssetType) : ℕ :=
  Process.goodPrefix calls.writes type.size

theorem BusCalls.persisted_le (calls : BusCalls) (type : AssetType) :
    calls.persisted type ≤ type.size :=
  Process.goodPrefix_le calls.writes type.size

theorem run_writeAssetLoop (calls : BusCalls) {e : Eeprom} (wide : e.type = .addr16Bit)
    (type : AssetType) (start : World) :
    (Process.forLoop (writeAssetByte calls ⟨e, type.object, type.size, type.addr⟩)
        type.size).run start =
      (.returned (if calls.persisted type = type.size then none else some (-1)),
        start.writtenAsset calls type (calls.persisted type)) := by
  have small : ∀ index ≤ calls.persisted type, index < 256 := fun index below => by
    have bound := type.size_le
    have within := calls.persisted_le type
    omega
  have goesOn : ∀ index < calls.persisted type, ∀ before,
      before = start.writtenAsset calls type index →
      ∃ after, (writeAssetByte calls ⟨e, type.object, type.size, type.addr⟩ index).run before =
          (.returned none, after) ∧ after = start.writtenAsset calls type (index + 1) := by
    rintro index below before rfl
    refine ⟨_, ?_, rfl⟩
    rw [run_writeAssetByte wide (small index below.le), if_pos (Process.goodPrefix_succeeds below)]
  have initial : start = start.writtenAsset calls type 0 := rfl
  rcases Process.goodPrefix_cases calls.writes type.size with ⟨full, _⟩ | ⟨short, _, fails⟩
  · have all : calls.persisted type = type.size := full
    rw [all] at goesOn ⊢
    obtain ⟨final, looped, rfl⟩ := Process.run_forLoop_all initial goesOn
    rw [looped, if_pos rfl]
  · have refused : calls.writes (calls.persisted type) = false := fails
    have failed : (writeAssetByte calls ⟨e, type.object, type.size, type.addr⟩
          (calls.persisted type)).run (start.writtenAsset calls type (calls.persisted type)) =
        (.returned (some (-1)), start.writtenAsset calls type (calls.persisted type)) := by
      rw [run_writeAssetByte wide (small _ le_rfl), refused]
      rfl
    have below : calls.persisted type < type.size := short
    obtain ⟨reached, rfl, looped⟩ := Process.run_forLoop_first initial below goesOn
      fun before reached => by simp [reached, failed]
    rw [looped, failed, if_neg below.ne]

/-- What a device that opened makes of a write: the bytes before the first
failure are in the EEPROM, and after a failure the descriptor stays open. -/
theorem run_writeAssetInfoToEeprom_opened {calls : BusCalls} {request : Buffer} {type : AssetType}
    (supported : AssetType.ofDeviceType? (request 0) = some type) (world : World)
    (opened : (calls.opens 0).verdict world.fds = .opened) :
    (writeAssetInfoToEeprom calls request).run world =
      (.returned (if calls.persisted type = type.size then 0 else -1),
        { world.writtenAsset calls type (calls.persisted type) with
          fds := if calls.persisted type = type.size then world.fds
            else insert (lowestFree world.fds) world.fds }) := by
  have wide : (⟨sysI2cDevice, sysEepromI2cAddr, lowestFree world.fds, .addr16Bit⟩ : Eeprom).type =
      .addr16Bit := rfl
  have looped := run_writeAssetLoop calls wide type
    { world with fds := insert (lowestFree world.fds) world.fds }
  unfold writeAssetInfoToEeprom
  rw [Process.run_bind_returned (run_prepareEeprom_opened supported opened)]
  simp only
  rw [Process.run_bind_returned looped]
  split_ifs with full
  · simp only [eepromClose]
    rw [run_closeFile_opened_bind _ _ _ rfl]
    rfl
  · rfl

theorem run_writeAssetInfoToEeprom_failed {calls : BusCalls} {request : Buffer} (world : World)
    (failed : AssetType.ofDeviceType? (request 0) = none ∨
      (calls.opens 0).verdict world.fds ≠ .opened)
    (alive : (calls.opens 0).verdict world.fds ≠ .halted) :
    (writeAssetInfoToEeprom calls request).run world =
      (.returned (-1), { world with fds := (calls.opens 0).fdsAfter world.fds }) := by
  obtain ⟨status, prepared⟩ := run_prepareEeprom_failed failed alive
  unfold writeAssetInfoToEeprom
  rw [Process.run_bind_returned prepared]
  rfl

theorem run_writeAssetInfoToEeprom_halted {calls : BusCalls} (request : Buffer) (world : World)
    (halted : (calls.opens 0).verdict world.fds = .halted) :
    (writeAssetInfoToEeprom calls request).run world =
      (.exited 1, { world with fds := (calls.opens 0).fdsAfter world.fds }) := by
  unfold writeAssetInfoToEeprom
  rw [Process.run_bind_exited (run_prepareEeprom_halted halted)]

/-!
## Setting
-/

/-- The world once the payload is in memory, before the EEPROM is touched. -/
def World.noted (request : Buffer) (world : World) : World :=
  match AssetType.ofDeviceType? (request 0) with
  | some type => (world.setRecord type type.size (payload request)).markGot type
  | none => world

def setCode (request : Buffer) : CompletionCode :=
  if (AssetType.ofDeviceType? (request 0)).isSome then ccOk else ccUnspecifiedError

theorem World.noted_supported {request : Buffer} {type : AssetType}
    (supported : AssetType.ofDeviceType? (request 0) = some type) (world : World) :
    world.noted request = (world.setRecord type type.size (payload request)).markGot type := by
  simp only [World.noted, supported]

theorem World.noted_unsupported {request : Buffer}
    (unsupported : AssetType.ofDeviceType? (request 0) = none) (world : World) :
    world.noted request = world := by
  simp only [World.noted, unsupported]

@[simp] theorem World.noted_fds (request : Buffer) (world : World) :
    (world.noted request).fds = world.fds := by
  unfold World.noted
  split <;> rfl

theorem run_updateAssetInfoShareMemory (request : Buffer) (world : World) :
    (updateAssetInfoShareMemory request).run world =
      (.returned (setCode request), world.noted request) := by
  cases type : AssetType.ofDeviceType? (request 0) with
  | none =>
      rw [run_updateAssetInfoShareMemory_unsupported type, World.noted_unsupported type, setCode, type]
      rfl
  | some type' =>
      rw [run_updateAssetInfoShareMemory_supported type, World.noted_supported type, setCode, type]
      rfl

/-- How far a request for a device type gets with the EEPROM. -/
inductive BusCalls.AssetReach (calls : BusCalls) (deviceType : UInt8) (fds : Finset ℕ) : Prop
  | halted (halted : (calls.opens 0).verdict fds = .halted)
  | failed (failed : AssetType.ofDeviceType? deviceType = none ∨
      (calls.opens 0).verdict fds ≠ .opened) (alive : (calls.opens 0).verdict fds ≠ .halted)
  | opened {type : AssetType} (supported : AssetType.ofDeviceType? deviceType = some type)
      (opened : (calls.opens 0).verdict fds = .opened)

theorem BusCalls.assetReach (calls : BusCalls) (deviceType : UInt8) (fds : Finset ℕ) :
    calls.AssetReach deviceType fds := by
  cases verdict : (calls.opens 0).verdict fds with
  | halted => exact .halted verdict
  | refused status =>
    exact .failed (.inr (verdict.trans_ne (by simp))) (verdict.trans_ne (by simp))
  | opened =>
    cases supported : AssetType.ofDeviceType? deviceType with
    | none => exact .failed (.inl supported) (verdict.trans_ne (by simp))
    | some type => exact .opened supported verdict

def World.acknowledged (world : World) : World :=
  { world with dataLen := 1, response := overlay world.response 0 1 fun _ => 0 }

theorem run_ipmiSetSystemInfo_length {calls : BusCalls} {request : Buffer} {world : World}
    (short : world.dataLen ≤ 14) :
    (ipmiSetSystemInfo calls request).run world =
      (.returned ccReqDataLenInvalid, { world with dataLen := 0 }) := by
  unfold ipmiSetSystemInfo
  rw [run_getDataLen_bind, frameHeaderSize_eq, if_pos short]
  rfl

/-- Whatever the EEPROM write returns, the answer is the one of the memory copy. -/
theorem run_ipmiSetSystemInfo_returned {calls : BusCalls} {request : Buffer} {world after : World}
    {status : Int} (long : 14 < world.dataLen)
    (written : (writeAssetInfoToEeprom calls request).run (world.noted request) =
      (.returned status, after)) :
    (ipmiSetSystemInfo calls request).run world =
      (.returned (setCode request), after.acknowledged) := by
  have set : (setSystemInfo calls request).run world = (.returned (setCode request), after) := by
    unfold setSystemInfo
    rw [Process.run_bind_returned (run_updateAssetInfoShareMemory request world)]
    rw [Process.run_bind_returned written]
    rfl
  unfold ipmiSetSystemInfo
  rw [run_getDataLen_bind, frameHeaderSize_eq, if_neg (not_le_of_gt long)]
  exact (Process.run_bind_returned set _).trans rfl

theorem run_ipmiSetSystemInfo_opened {calls : BusCalls} {request : Buffer} {type : AssetType}
    {world : World} (long : 14 < world.dataLen)
    (supported : AssetType.ofDeviceType? (request 0) = some type)
    (opened : (calls.opens 0).verdict world.fds = .opened) :
    (ipmiSetSystemInfo calls request).run world =
      (.returned ccOk,
        World.acknowledged
          { (world.noted request).writtenAsset calls type (calls.persisted type) with
            fds := if calls.persisted type = type.size then world.fds
              else insert (lowestFree world.fds) world.fds }) := by
  have written := run_writeAssetInfoToEeprom_opened supported (world.noted request)
    (by rw [World.noted_fds]; exact opened)
  rw [run_ipmiSetSystemInfo_returned long written, World.noted_fds, setCode, supported]
  rfl

theorem run_ipmiSetSystemInfo_failed {calls : BusCalls} {request : Buffer} {world : World}
    (long : 14 < world.dataLen)
    (failed : AssetType.ofDeviceType? (request 0) = none ∨
      (calls.opens 0).verdict world.fds ≠ .opened)
    (alive : (calls.opens 0).verdict world.fds ≠ .halted) :
    (ipmiSetSystemInfo calls request).run world =
      (.returned (setCode request),
        World.acknowledged
          { world.noted request with fds := (calls.opens 0).fdsAfter world.fds }) := by
  have written := run_writeAssetInfoToEeprom_failed (world.noted request)
    (by rw [World.noted_fds]; exact failed)
    (by rw [World.noted_fds]; exact alive)
  rw [run_ipmiSetSystemInfo_returned long written, World.noted_fds]

theorem run_ipmiSetSystemInfo_halted {calls : BusCalls} {request : Buffer} {world : World}
    (long : 14 < world.dataLen) (halted : (calls.opens 0).verdict world.fds = .halted) :
    (ipmiSetSystemInfo calls request).run world =
      (.exited 1, { world.noted request with fds := (calls.opens 0).fdsAfter world.fds }) := by
  have ended := run_writeAssetInfoToEeprom_halted request (world.noted request)
    (by rw [World.noted_fds]; exact halted)
  rw [World.noted_fds] at ended
  unfold ipmiSetSystemInfo setSystemInfo
  rw [run_getDataLen_bind, frameHeaderSize_eq, if_neg (not_le_of_gt long)]
  have set : (setSystemInfo calls request).run world =
      (.exited 1, { world.noted request with fds := (calls.opens 0).fdsAfter world.fds }) := by
    unfold setSystemInfo
    rw [Process.run_bind_returned (run_updateAssetInfoShareMemory request world)]
    exact Process.run_bind_exited ended _
  exact Process.run_bind_exited set _

/-!
## Getting
-/

def World.looked (request : Buffer) (world : World) : World :=
  { world with trace := world.trace ++ [.lookup .assetInfoGotFlag (request 0).toNat] }

def getCode (request : Buffer) : CompletionCode :=
  if request 0 = deviceTypeFwRevision then ccOk else ccUnspecifiedError

def World.sent (request : Buffer) (world : World) : World :=
  if request 0 = deviceTypeFwRevision then
    { world with
      dataLen := 50
      response := overlay world.response 0 50 fun index => world.records .revisionInfo (50 + index) }
  else world

theorem World.sent_eq (request : Buffer) (world : World) :
    (world.sent request).assetInfoGotFlag = world.assetInfoGotFlag ∧
      (world.sent request).records = world.records ∧
      (world.sent request).eeprom = world.eeprom := by
  unfold World.sent
  split <;> exact ⟨rfl, rfl, rfl⟩

@[simp] theorem World.sent_fds (request : Buffer) (world : World) :
    (world.sent request).fds = world.fds := by
  unfold World.sent
  split <;> rfl

theorem run_sendSystemInfo (request : Buffer) (world : World) (small : world.dataLen < 256) :
    (if request 0 = deviceTypeFwRevision then do
        let info ← Process.gets fun world => world.records .revisionInfo
        writeResponse 0 revisionInfoSize fun index => info (biosIndex * revisionInfoSize + index)
        setDataLenByte revisionInfoSize
        return ccOk
      else
        return ccUnspecifiedError : Daemon CompletionCode).run world =
      (.returned (getCode request), world.sent request) := by
  unfold getCode World.sent
  have noHighBytes : world.dataLen / 256 * 256 = 0 := by omega
  split_ifs
  · simp [setDataLenByte, noHighBytes, biosIndex]
  · rfl

theorem run_ipmiGetSystemInfo_length {calls : BusCalls} {request : Buffer} {world : World}
    (wrong : world.dataLen ≠ 1) :
    (ipmiGetSystemInfo calls request).run world =
      (.returned ccReqDataLenInvalid, { world with dataLen := 0 }) := by
  unfold ipmiGetSystemInfo
  rw [run_getDataLen_bind, if_pos wrong]
  rfl

theorem run_ipmiGetSystemInfo_cached {calls : BusCalls} {request : Buffer} {world : World}
    (right : world.dataLen = 1) (got : world.assetInfoGotFlag (request 0).toNat ≠ 0) :
    (ipmiGetSystemInfo calls request).run world =
      (.returned (getCode request), (world.looked request).sent request) := by
  unfold ipmiGetSystemInfo getSystemInfo
  rw [run_getDataLen_bind, if_neg (not_not_intro right), run_record_bind, Process.run_gets_bind]
  simp only [got, if_false]
  exact run_sendSystemInfo request (world.looked request)
    (show world.dataLen < 256 by rw [right]; decide)

theorem run_ipmiGetSystemInfo_read {calls : BusCalls} {request : Buffer} {world after : World}
    {status : Int} (right : world.dataLen = 1) (missing : world.assetInfoGotFlag (request 0).toNat = 0)
    (read : (readAssetInfoFromEeprom calls request).run (world.looked request) =
      (.returned status, after)) (same : after.dataLen = 1) :
    (ipmiGetSystemInfo calls request).run world =
      if status = 0 then (.returned (getCode request), after.sent request)
      else (.returned ccUnspecifiedError, after) := by
  unfold ipmiGetSystemInfo getSystemInfo
  rw [run_getDataLen_bind, if_neg (not_not_intro right), run_record_bind, Process.run_gets_bind]
  simp only [missing, if_true]
  refine (Process.run_bind_returned read _).trans ?_
  by_cases good : status = 0
  · simp only [good, ne_eq, not_true_eq_false, if_false, if_true]
    exact run_sendSystemInfo request after (by rw [same]; decide)
  · simp only [good, ne_eq, not_false_eq_true, if_true, if_false]
    rfl

/-- The record as a read delivers it, the flag set, and the device left open. -/
def World.loaded (calls : BusCalls) (type : AssetType) (world : World) : World :=
  { (world.setRecord type type.size (calls.readByte world.eeprom.cells type.offset)).markGot type with
    fds := insert (lowestFree world.fds) world.fds }

theorem run_ipmiGetSystemInfo_opened {calls : BusCalls} {request : Buffer} {type : AssetType}
    {world : World} (right : world.dataLen = 1)
    (missing : world.assetInfoGotFlag (request 0).toNat = 0)
    (supported : AssetType.ofDeviceType? (request 0) = some type)
    (opened : (calls.opens 0).verdict world.fds = .opened) :
    ∃ pointer, (ipmiGetSystemInfo calls request).run world =
      (.returned (getCode request),
        World.sent request
          { (world.looked request).loaded calls type with eeprom := world.eeprom.seek pointer }) := by
  obtain ⟨pointer, read⟩ := run_readAssetInfoFromEeprom_opened supported (world.looked request) opened
  exact ⟨pointer, run_ipmiGetSystemInfo_read right missing read right⟩

theorem run_ipmiGetSystemInfo_failed {calls : BusCalls} {request : Buffer} {world : World}
    (right : world.dataLen = 1) (missing : world.assetInfoGotFlag (request 0).toNat = 0)
    (failed : AssetType.ofDeviceType? (request 0) = none ∨
      (calls.opens 0).verdict world.fds ≠ .opened)
    (alive : (calls.opens 0).verdict world.fds ≠ .halted) :
    (ipmiGetSystemInfo calls request).run world =
      (.returned ccUnspecifiedError,
        { world.looked request with fds := (calls.opens 0).fdsAfter world.fds }) := by
  have read := run_readAssetInfoFromEeprom_failed (world.looked request) failed alive
  exact run_ipmiGetSystemInfo_read right missing read right

theorem run_ipmiGetSystemInfo_halted {calls : BusCalls} {request : Buffer} {world : World}
    (right : world.dataLen = 1) (missing : world.assetInfoGotFlag (request 0).toNat = 0)
    (halted : (calls.opens 0).verdict world.fds = .halted) :
    (ipmiGetSystemInfo calls request).run world =
      (.exited 1, { world.looked request with fds := (calls.opens 0).fdsAfter world.fds }) := by
  have ended := run_readAssetInfoFromEeprom_halted request (world.looked request) halted
  unfold ipmiGetSystemInfo getSystemInfo
  rw [run_getDataLen_bind, if_neg (not_not_intro right), run_record_bind, Process.run_gets_bind]
  simp only [missing, if_true]
  exact Process.run_bind_exited ended _

end InspurIpmi

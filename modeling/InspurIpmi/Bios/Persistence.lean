import InspurIpmi.Bios.Effects
import InspurIpmi.Foundation.Runs

/-!
# Persistence of the firmware revision

Without bus faults the daemon is a register of one firmware revision: whatever
else is stored, and however often the daemon restarts, a get answers with the
revision of the last set.
-/

set_option autoImplicit false

namespace InspurIpmi

open Foundation

inductive StoreCommand where
  | setSystemInfo (calls : BusCalls) (request : Request)
  | getSystemInfo (calls : BusCalls) (request : Request)
  | writeEEPROM (calls : BusCalls) (request : Request)
  | restart

/-- A new process: its static variables are zero, and the devices are as they were. -/
def World.restarted (world : World) : World :=
  { World.boot with
    eeprom := world.eeprom
    gpio := world.gpio
    i2cFiles := world.i2cFiles
    fanMode := world.fanMode }

def firmwareRevision (world : World) : Fin revisionInfoSize → UInt8 :=
  fun index => world.eeprom.cells (AssetType.fwRevision.offset + (revisionInfoSize + index))

namespace StoreCommand

def serve (world : World) : StoreCommand → Option (Option Reply × World)
  | setSystemInfo calls request =>
      (InspurIpmi.serve (ipmiSetSystemInfo calls request.bytes) request.length world).map
        fun served => (some served.1, served.2)
  | getSystemInfo calls request =>
      (InspurIpmi.serve (ipmiGetSystemInfo calls request.bytes) request.length world).map
        fun served => (some served.1, served.2)
  | writeEEPROM calls request =>
      (InspurIpmi.serve (ipmiWriteEEPROM calls request.bytes) request.length world).map
        fun served => (some served.1, served.2)
  | restart => some (none, world.restarted)

/-- The register changes with a set of the firmware revision alone. -/
def revisionAfter (revision : Fin revisionInfoSize → UInt8) :
    StoreCommand → Fin revisionInfoSize → UInt8
  | setSystemInfo _ request =>
      if request.bytes 0 = deviceTypeFwRevision then
        fun index => payload request.bytes (revisionInfoSize + index)
      else revision
  | _ => revision

def Allows (revision : Fin revisionInfoSize → UInt8) : StoreCommand → Option Reply → Prop
  | getSystemInfo _ request, reply =>
      request.bytes 0 = deviceTypeFwRevision →
        ∃ answer, reply = some answer ∧ answer.code = ccOk ∧ answer.length = 50 ∧
          ∀ index : Fin revisionInfoSize, answer.data index = revision index
  | _, _ => True

def Valid : StoreCommand → Prop
  | setSystemInfo calls request =>
      calls.Faultless ∧ ∃ type, AssetType.ofDeviceType? (request.bytes 0) = some type ∧
        14 + type.size ≤ request.length
  | getSystemInfo calls request =>
      calls.Faultless ∧ ∃ type, AssetType.ofDeviceType? (request.bytes 0) = some type ∧
        request.length = 1
  | writeEEPROM calls _ => calls.Faultless
  | restart => True

end StoreCommand

/-!
## The invariant
-/

structure FirmwareCached (world : World) : Prop where
  stdin : world.StdinOpen
  cached : world.assetInfoGotFlag deviceTypeFwRevision.toNat ≠ 0 →
    Holds world.eeprom.cells AssetType.fwRevision.offset AssetType.fwRevision.size
      (world.records .revisionInfo)

structure FirmwareUntouched (before after : World) : Prop where
  fds : after.fds = before.fds ∨ ∃ fd, after.fds = insert fd before.fds
  flag : after.assetInfoGotFlag deviceTypeFwRevision.toNat =
    before.assetInfoGotFlag deviceTypeFwRevision.toNat
  record : after.records .revisionInfo = before.records .revisionInfo
  cells : ∀ index < AssetType.fwRevision.size,
    after.eeprom.cells (AssetType.fwRevision.offset + index) =
      before.eeprom.cells (AssetType.fwRevision.offset + index)

theorem FirmwareUntouched.cached {before after : World} (untouched : FirmwareUntouched before after)
    (cached : FirmwareCached before) : FirmwareCached after where
  stdin := by
    have stdin : 0 ∈ before.fds := cached.stdin
    unfold World.StdinOpen
    rcases untouched.fds with same | ⟨fd, grown⟩
    · rw [same]
      exact stdin
    · rw [grown]
      exact Finset.mem_insert_of_mem stdin
  cached := fun got index below => by
    rw [untouched.flag] at got
    rw [untouched.cells index below, untouched.record]
    exact cached.cached got index below

theorem FirmwareUntouched.firmwareRevision_eq {before after : World}
    (untouched : FirmwareUntouched before after) :
    firmwareRevision after = firmwareRevision before := by
  funext index
  have below := index.isLt
  have size : AssetType.fwRevision.size = 2 * revisionInfoSize := rfl
  exact untouched.cells _ (by omega)

/-!
## One command
-/

theorem BusCalls.Faultless.persisted {calls : BusCalls} (faultless : calls.Faultless)
    (type : AssetType) : calls.persisted type = type.size :=
  Process.goodPrefix_eq_iff.mpr fun index _ => faultless.writes index

theorem serve_answered {handler : Daemon CompletionCode} {length : ℕ} {world after : World}
    {code : CompletionCode} (ran : handler.run (world.receive length) = (.returned code, after)) :
    ((serve handler length world).map fun served => (some served.1, served.2)) =
      some (some (⟨code, after.dataLen, after.response⟩ : Reply), after) := by
  rw [serve_returned ran]
  rfl

theorem run_set_faultless {calls : BusCalls} {request : Request} {type : AssetType} {world : World}
    (faultless : calls.Faultless) (stdin : world.StdinOpen)
    (supported : AssetType.ofDeviceType? (request.bytes 0) = some type)
    (long : 14 + type.size ≤ request.length) :
    ∃ after, (ipmiSetSystemInfo calls request.bytes).run (world.receive request.length) =
        (.returned ccOk, after) ∧
      after.fds = world.fds ∧
      after.assetInfoGotFlag = (world.markGot type).assetInfoGotFlag ∧
      after.records = (world.setRecord type type.size (payload request.bytes)).records ∧
      after.eeprom.cells = overlay world.eeprom.cells type.offset type.size
        ((world.setRecord type type.size (payload request.bytes)).records type.object) := by
  have positive := type.size_pos
  have enough : 14 < (world.receive request.length).dataLen :=
    show 14 < request.length by omega
  have ran := run_ipmiSetSystemInfo_opened enough supported ((faultless.opens 0).verdict stdin)
  rw [World.noted_supported supported, faultless.persisted, if_pos rfl] at ran
  refine ⟨_, ran, rfl, rfl, rfl, ?_⟩
  simp only [World.acknowledged, World.writtenAsset]
  rw [Chip.storeAll_overlay fun index _ => faultless.writes index]
  rfl

/-- A get that comes to its answer has the record in memory as the EEPROM holds it. -/
theorem run_get_faultless {calls : BusCalls} {request : Request} {type : AssetType} {world : World}
    (faultless : calls.Faultless) (cached : FirmwareCached world)
    (supported : AssetType.ofDeviceType? (request.bytes 0) = some type)
    (right : request.length = 1) :
    ∃ after, (ipmiGetSystemInfo calls request.bytes).run (world.receive request.length) =
        (.returned (getCode request.bytes), after.sent request.bytes) ∧
      FirmwareCached after ∧ firmwareRevision after = firmwareRevision world ∧
      (type = .fwRevision → Holds after.eeprom.cells AssetType.fwRevision.offset
        AssetType.fwRevision.size (after.records .revisionInfo)) := by
  have number := AssetType.ofDeviceType?_eq_some.mp supported
  have one : (world.receive request.length).dataLen = 1 := right
  by_cases missing : world.assetInfoGotFlag (request.bytes 0).toNat = 0
  · obtain ⟨pointer, ran⟩ := run_ipmiGetSystemInfo_opened one missing supported
      ((faultless.opens 0).verdict cached.stdin)
    refine ⟨_, ran, ?_⟩
    have stdin : 0 ∈ insert (lowestFree world.fds) world.fds :=
      Finset.mem_insert_of_mem cached.stdin
    by_cases firmware : type = .fwRevision
    · subst firmware
      have holds : Holds world.eeprom.cells AssetType.fwRevision.offset AssetType.fwRevision.size
          ((world.setRecord .fwRevision AssetType.fwRevision.size
            (calls.readByte world.eeprom.cells AssetType.fwRevision.offset)).records
              .revisionInfo) := by
        intro index below
        have received := World.setRecord_same .fwRevision below
          (calls.readByte world.eeprom.cells AssetType.fwRevision.offset) world
        exact (received.trans (by rw [faultless.readByte])).symm
      exact ⟨⟨stdin, fun _ => holds⟩, rfl, fun _ => holds⟩
    · have untouched : FirmwareUntouched world
          { ((world.receive request.length).looked request.bytes).loaded calls type with
            eeprom := world.eeprom.seek pointer } :=
        { fds := .inr ⟨_, rfl⟩
          flag := World.markGot_other (Ne.symm firmware) _
          record := World.setRecord_other (Ne.symm firmware) _ _ _
          cells := fun _ _ => rfl }
      exact ⟨untouched.cached cached, untouched.firmwareRevision_eq,
        fun same => absurd same firmware⟩
  · refine ⟨_, run_ipmiGetSystemInfo_cached one missing, ?_⟩
    have untouched : FirmwareUntouched world ((world.receive request.length).looked request.bytes) :=
      { fds := .inl rfl, flag := rfl, record := rfl, cells := fun _ _ => rfl }
    refine ⟨untouched.cached cached, untouched.firmwareRevision_eq, fun firmware => ?_⟩
    rw [number, firmware] at missing
    exact cached.cached missing

/-- The daemon survives the command, answers as the register does, and moves as
the register does. -/
def Simulates (world : World) (command : StoreCommand) : Prop :=
  ∃ reply after, command.serve world = some (reply, after) ∧
    command.Allows (firmwareRevision world) reply ∧
    firmwareRevision after = command.revisionAfter (firmwareRevision world) ∧
    FirmwareCached after

theorem simulates_setSystemInfo {calls : BusCalls} {request : Request} {type : AssetType}
    {world : World} (faultless : calls.Faultless) (cached : FirmwareCached world)
    (supported : AssetType.ofDeviceType? (request.bytes 0) = some type)
    (long : 14 + type.size ≤ request.length) :
    Simulates world (.setSystemInfo calls request) := by
  have number := AssetType.ofDeviceType?_eq_some.mp supported
  obtain ⟨after, ran, fds, flags, records, cells⟩ :=
    run_set_faultless faultless cached.stdin supported long
  refine ⟨_, after, serve_answered ran, trivial, ?_⟩
  by_cases firmware : type = .fwRevision
  · subst firmware
    have holds : Holds after.eeprom.cells AssetType.fwRevision.offset AssetType.fwRevision.size
        (after.records .revisionInfo) := by
      rw [cells, records]
      exact holds_overlay _ _ _ _
    refine ⟨?_, show 0 ∈ after.fds from fds ▸ cached.stdin, fun _ => holds⟩
    funext index
    have below : revisionInfoSize + index < AssetType.fwRevision.size := by
      have bound := index.isLt
      have size : AssetType.fwRevision.size = 2 * revisionInfoSize := rfl
      omega
    simp only [StoreCommand.revisionAfter, number, AssetType.deviceType, if_true]
    rw [firmwareRevision, holds _ below, records]
    exact World.setRecord_same .fwRevision below (payload request.bytes) world
  · have apart := AssetType.offset_injective firmware
    have untouched : FirmwareUntouched world after :=
      { fds := .inl fds
        flag := by rw [flags]; exact World.markGot_other (Ne.symm firmware) world
        record := by rw [records]; exact World.setRecord_other (Ne.symm firmware) _ _ world
        cells := fun index below => by rw [cells, overlay_outside _ _ (by omega)] }
    have other : request.bytes 0 ≠ deviceTypeFwRevision := fun same =>
      firmware (Option.some.inj (supported.symm.trans
        (show _ = some AssetType.fwRevision from AssetType.ofDeviceType?_eq_some.mpr same)))
    have stays : StoreCommand.revisionAfter (firmwareRevision world) (.setSystemInfo calls request) =
        firmwareRevision world := if_neg other
    exact ⟨untouched.firmwareRevision_eq.trans stays.symm, untouched.cached cached⟩

theorem simulates_getSystemInfo {calls : BusCalls} {request : Request} {type : AssetType}
    {world : World} (faultless : calls.Faultless) (cached : FirmwareCached world)
    (supported : AssetType.ofDeviceType? (request.bytes 0) = some type)
    (right : request.length = 1) : Simulates world (.getSystemInfo calls request) := by
  obtain ⟨after, ran, cachedAfter, same, holds⟩ :=
    run_get_faultless faultless cached supported right
  obtain ⟨flags, records, eeprom⟩ := World.sent_eq request.bytes after
  have untouched : FirmwareUntouched after (after.sent request.bytes) :=
    { fds := .inl (World.sent_fds request.bytes after)
      flag := by rw [flags]
      record := by rw [records]
      cells := fun index _ => by rw [eeprom] }
  refine ⟨_, _, serve_answered ran, fun firmware => ?_,
    untouched.firmwareRevision_eq.trans same, untouched.cached cachedAfter⟩
  have isFirmware : type = .fwRevision :=
    Option.some.inj (supported.symm.trans (AssetType.ofDeviceType?_eq_some.mpr firmware))
  refine ⟨_, rfl, by simp only [getCode, firmware, if_true], ?_, fun index => ?_⟩
  · simp only [World.sent, firmware, if_true]
  · have below : revisionInfoSize + index < AssetType.fwRevision.size := by
      have bound := index.isLt
      have size : AssetType.fwRevision.size = 2 * revisionInfoSize := rfl
      omega
    rw [← same]
    simp only [World.sent, firmware, if_true]
    rw [overlay_front _ _ (show (index : ℕ) < 50 from index.isLt)]
    exact (holds isFirmware _ below).symm

theorem simulates_of_untouched {world after : World} {command : StoreCommand}
    {reply : Option Reply} (cached : FirmwareCached world)
    (served : command.serve world = some (reply, after))
    (allowed : command.Allows (firmwareRevision world) reply)
    (stays : command.revisionAfter (firmwareRevision world) = firmwareRevision world)
    (untouched : FirmwareUntouched world after) : Simulates world command :=
  ⟨reply, after, served, allowed, untouched.firmwareRevision_eq.trans stays.symm,
    untouched.cached cached⟩

theorem writtenSys_region (calls : BusCalls) (data : Buffer) (type : AssetType) (index : ℕ)
    (world : World) :
    (world.writtenSys calls data (data 1).toNat).eeprom.cells (type.offset + index) =
      world.eeprom.cells (type.offset + index) := by
  have offsetByte := (data 0).toNat_lt
  have lengthByte := (data 1).toNat_lt
  have far := type.le_offset
  exact Chip.storeAll_outside calls.writes _ world.eeprom (by omega)

theorem simulates_writeEEPROM {calls : BusCalls} {request : Request} {world : World}
    (faultless : calls.Faultless) (cached : FirmwareCached world) :
    Simulates world (.writeEEPROM calls request) := by
  by_cases accepted : WriteAccepted request.bytes (world.receive request.length).dataLen
  · have ran := run_ipmiWriteEEPROM_all accepted (faultless.opensBelow cached.stdin _)
    refine simulates_of_untouched cached (serve_answered ran) trivial rfl ⟨.inl rfl, rfl, rfl, ?_⟩
    exact fun index _ => writtenSys_region calls request.bytes .fwRevision index
      (world.receive request.length)
  · have ran := run_ipmiWriteEEPROM_rejected calls accepted
    exact simulates_of_untouched cached (serve_answered ran) trivial rfl
      ⟨.inl rfl, rfl, rfl, fun _ _ => rfl⟩

theorem simulates_restart (world : World) : Simulates world .restart := by
  have stdin : 0 ∈ World.boot.fds := by decide
  exact ⟨none, world.restarted, rfl, trivial, rfl, stdin, fun got => absurd rfl got⟩

theorem simulates {world : World} {command : StoreCommand} (cached : FirmwareCached world)
    (valid : command.Valid) : Simulates world command := by
  cases command with
  | setSystemInfo calls request =>
      obtain ⟨faultless, type, supported, long⟩ := valid
      exact simulates_setSystemInfo faultless cached supported long
  | getSystemInfo calls request =>
      obtain ⟨faultless, type, supported, right⟩ := valid
      exact simulates_getSystemInfo faultless cached supported right
  | writeEEPROM calls request => exact simulates_writeEEPROM valid cached
  | restart => exact simulates_restart world

/-- The daemon refines the register over every run from its start on. -/
theorem firmware_revision_persists {world : World} (stdin : world.StdinOpen)
    (fresh : ∀ index < deviceTypeMax, world.assetInfoGotFlag index = 0)
    {commands : List StoreCommand} (valid : ∀ command ∈ commands, command.Valid) :
    Refines StoreCommand.serve firmwareRevision StoreCommand.revisionAfter StoreCommand.Allows world
      commands := by
  have start : FirmwareCached world :=
    ⟨stdin, fun got => absurd (fresh _ (AssetType.deviceType_lt .fwRevision)) got⟩
  exact refines_of_step (fun _ _ cached validCommand => simulates cached validCommand) start valid

theorem firmware_revision_persists_boot :
    Refines StoreCommand.serve firmwareRevision StoreCommand.revisionAfter StoreCommand.Allows
      World.boot
      [.setSystemInfo .healthy ⟨fun _ => deviceTypeFwRevision, 114⟩, .restart,
        .setSystemInfo .healthy ⟨fun _ => deviceTypeCpu, 104⟩,
        .writeEEPROM .healthy ⟨fun index => [0xFF, 2, 7, 9].getD index 0, 4⟩,
        .getSystemInfo .healthy ⟨fun _ => deviceTypeFwRevision, 1⟩] :=
  firmware_revision_persists (show 0 ∈ World.boot.fds by decide) (fun _ _ => rfl)
    fun command member => by
      simp only [List.mem_cons, List.not_mem_nil, or_false] at member
      rcases member with rfl | rfl | rfl | rfl | rfl
      · exact ⟨BusCalls.healthy_faultless, .fwRevision, rfl, by decide⟩
      · trivial
      · exact ⟨BusCalls.healthy_faultless, .cpu, rfl, by decide⟩
      · exact BusCalls.healthy_faultless
      · exact ⟨BusCalls.healthy_faultless, .fwRevision, rfl, rfl⟩

end InspurIpmi

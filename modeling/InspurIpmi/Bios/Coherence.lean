import InspurIpmi.Bios.Effects
import InspurIpmi.Foundation.Runs

/-!
# Coherence of the asset cache

A flag that is set promises that memory and EEPROM hold the same record. Which
requests keep the promise depends on the transfers that fail and on what the
EEPROM held before.
-/

set_option autoImplicit false

namespace InspurIpmi

open Foundation

def Agrees (world : World) (type : AssetType) : Prop :=
  Holds world.eeprom.cells type.offset type.size (world.records type.object)

def Coherent (world : World) : Prop :=
  ∀ type : AssetType, world.assetInfoGotFlag type.deviceType.toNat = 1 → Agrees world type

inductive AssetCommand where
  | setSystemInfo (calls : BusCalls) (request : Request)
  | getSystemInfo (calls : BusCalls) (request : Request)

namespace AssetCommand

def step (world : World) : AssetCommand → Option World
  | setSystemInfo calls request =>
      successor (ipmiSetSystemInfo calls request.bytes) request.length world
  | getSystemInfo calls request =>
      successor (ipmiGetSystemInfo calls request.bytes) request.length world

def Valid : AssetCommand → Prop
  | setSystemInfo _ request =>
      ∃ type, AssetType.ofDeviceType? (request.bytes 0) = some type ∧ 14 + type.size ≤ request.length
  | getSystemInfo _ request =>
      ∃ type, AssetType.ofDeviceType? (request.bytes 0) = some type ∧ request.length = 1

/-- A set must get each byte into the EEPROM, unless the byte is there already.
A get that fills the memory must receive each byte, unless the byte is `0xFF`. -/
def KeepsCoherence (world : World) : AssetCommand → Prop
  | setSystemInfo calls request =>
      14 < request.length → (calls.opens 0).verdict world.fds ≠ .halted →
      ∀ type, AssetType.ofDeviceType? (request.bytes 0) = some type → ∀ index < type.size,
        (calls.opens 0).verdict world.fds = .opened ∧
            (∀ earlier ≤ index, calls.writes earlier = true) ∨
          world.eeprom.cells (type.offset + index) = payload request.bytes index
  | getSystemInfo calls request =>
      request.length = 1 → world.assetInfoGotFlag (request.bytes 0).toNat = 0 →
      (calls.opens 0).verdict world.fds = .opened →
      ∀ type, AssetType.ofDeviceType? (request.bytes 0) = some type → ∀ index < type.size,
        calls.writes index = true ∧ calls.reads index = true ∨
          world.eeprom.cells (type.offset + index) = 0xFF

end AssetCommand

/-!
## Frames
-/

/-- Everything that belongs to another type is as it was, and the flag of the
type is set. -/
structure Refreshes (type : AssetType) (before after : World) : Prop where
  got : after.assetInfoGotFlag type.deviceType.toNat = 1
  flags : ∀ other, other ≠ type →
    after.assetInfoGotFlag other.deviceType.toNat = before.assetInfoGotFlag other.deviceType.toNat
  records : ∀ other, other ≠ type → after.records other.object = before.records other.object
  cells : ∀ other, other ≠ type → ∀ index < other.size,
    after.eeprom.cells (other.offset + index) = before.eeprom.cells (other.offset + index)

theorem Refreshes.coherent_iff {type : AssetType} {before after : World}
    (refreshes : Refreshes type before after) (coherent : Coherent before) :
    Coherent after ↔ Agrees after type := by
  constructor
  · intro coherentAfter
    exact coherentAfter type refreshes.got
  · intro agrees other flagged
    by_cases same : other = type
    · rw [same]
      exact agrees
    · rw [refreshes.flags other same] at flagged
      intro index below
      rw [refreshes.cells other same index below, refreshes.records other same]
      exact coherent other flagged index below

theorem Coherent.congr {before after : World} (coherent : Coherent before)
    (flags : after.assetInfoGotFlag = before.assetInfoGotFlag)
    (records : after.records = before.records) (cells : after.eeprom.cells = before.eeprom.cells) :
    Coherent after := by
  intro type flagged index below
  rw [flags] at flagged
  rw [records, cells]
  exact coherent type flagged index below

theorem coherent_iff_holds {before after : World} (coherent : Coherent before) (type : AssetType)
    (source : Buffer)
    (records : after.records = (before.setRecord type type.size source).records)
    (flags : after.assetInfoGotFlag = (before.markGot type).assetInfoGotFlag)
    (cells : ∀ other, other ≠ type → ∀ index < other.size,
      after.eeprom.cells (other.offset + index) = before.eeprom.cells (other.offset + index)) :
    Coherent after ↔ Holds after.eeprom.cells type.offset type.size source := by
  have refreshes : Refreshes type before after :=
    { got := by rw [flags, World.markGot_same]
      flags := fun other different => by rw [flags, World.markGot_other different]
      records := fun other different => by rw [records, World.setRecord_other different]
      cells := cells }
  rw [refreshes.coherent_iff coherent]
  refine forall₂_congr fun index below => ?_
  rw [records, World.setRecord_same type below]

/-!
## One request
-/

/-- Of a set that opened the device the bytes before the first failed write are
in the EEPROM. -/
theorem holds_storeAll_persisted {calls : BusCalls} {type : AssetType} {chip : Chip}
    {written source : Buffer} (same : ∀ index < type.size, written index = source index) :
    Holds (chip.storeAll calls.writes type.offset written (calls.persisted type)).cells type.offset
        type.size source ↔
      ∀ index < type.size, (∀ earlier ≤ index, calls.writes earlier = true) ∨
        chip.cells (type.offset + index) = source index := by
  have succeeded : ∀ index < calls.persisted type, calls.writes index = true :=
    fun index => Process.goodPrefix_succeeds
  have equalSources : ∀ index < calls.persisted type, written index = source index :=
    fun index below => same index (below.trans_le (calls.persisted_le type))
  rw [Chip.storeAll_overlay succeeded, overlay_congr _ _ _ equalSources, holds_overlay_prefix]
  refine forall₂_congr fun index below => ?_
  rw [← Process.lt_goodPrefix_iff below, ← not_lt, ← or_iff_not_imp_left]
  rfl

theorem coherent_setRefused_iff {request : Buffer} {type : AssetType} {world : World}
    {fds : Finset ℕ} (coherent : Coherent world)
    (supported : AssetType.ofDeviceType? (request 0) = some type) :
    Coherent (World.acknowledged { world.noted request with fds }) ↔
      ∀ index < type.size, world.eeprom.cells (type.offset + index) = payload request index := by
  rw [World.noted_supported supported]
  refine coherent_iff_holds coherent type (payload request) ?_ ?_ ?_
  · rfl
  · rfl
  · intro other different index below
    rfl

theorem coherent_setOpened_iff {calls : BusCalls} {request : Buffer} {type : AssetType}
    {world : World} {fds : Finset ℕ} (coherent : Coherent world)
    (supported : AssetType.ofDeviceType? (request 0) = some type) :
    Coherent (World.acknowledged
        { (world.noted request).writtenAsset calls type (calls.persisted type) with fds }) ↔
      ∀ index < type.size, (∀ earlier ≤ index, calls.writes earlier = true) ∨
        world.eeprom.cells (type.offset + index) = payload request index := by
  rw [World.noted_supported supported]
  refine (coherent_iff_holds coherent type (payload request) ?_ ?_ ?_).trans ?_
  · rfl
  · rfl
  · intro other different index below
    have apart := AssetType.offset_injective different
    have within := calls.persisted_le type
    exact Chip.storeAll_outside _ _ _ (by omega)
  · exact holds_storeAll_persisted fun index below =>
      World.setRecord_same type below (payload request) world

theorem setSystemInfo_keeps_iff {calls : BusCalls} {request : Request} {world : World}
    (coherent : Coherent world) :
    (AssetCommand.setSystemInfo calls request).KeepsCoherence world ↔
      ∀ next, (AssetCommand.setSystemInfo calls request).step world = some next → Coherent next := by
  unfold AssetCommand.KeepsCoherence AssetCommand.step
  by_cases long : 14 < request.length
  · simp only [long, forall_const]
    cases supported : AssetType.ofDeviceType? (request.bytes 0) with
    | none =>
        refine iff_of_true (by simp) ?_
        by_cases halted : (calls.opens 0).verdict world.fds = .halted
        · exact successor_exited (run_ipmiSetSystemInfo_halted long halted)
        · rw [successor_returned (run_ipmiSetSystemInfo_failed long (.inl supported) halted),
            World.noted_unsupported supported]
          exact coherent.congr rfl rfl rfl
    | some type =>
        simp only [Option.some.injEq, forall_eq']
        have received : Coherent (world.receive request.length) := coherent.congr rfl rfl rfl
        cases verdict : (calls.opens 0).verdict world.fds with
        | halted =>
            exact iff_of_true (fun alive => absurd rfl alive)
              (successor_exited (run_ipmiSetSystemInfo_halted long verdict))
        | refused status =>
            rw [successor_returned (run_ipmiSetSystemInfo_failed long
              (.inr (verdict.trans_ne (by simp))) (verdict.trans_ne (by simp)))]
            simp only [ne_eq, reduceCtorEq, not_false_eq_true, forall_const, false_and, false_or]
            exact (coherent_setRefused_iff received supported).symm
        | opened =>
            rw [successor_returned (run_ipmiSetSystemInfo_opened long supported verdict)]
            simp only [ne_eq, reduceCtorEq, not_false_eq_true, forall_const, true_and]
            exact (coherent_setOpened_iff received supported).symm
  · simp only [long, IsEmpty.forall_iff, true_iff]
    exact (successor_returned (run_ipmiSetSystemInfo_length (not_lt.mp long))).mpr
      (coherent.congr rfl rfl rfl)

theorem coherent_sent {request : Buffer} {world : World} :
    Coherent (world.sent request) ↔ Coherent world := by
  obtain ⟨flags, records, eeprom⟩ := World.sent_eq request world
  unfold Coherent Agrees
  rw [flags, records, eeprom]

theorem holds_readByte {calls : BusCalls} {cells : ℕ → UInt8} {start length : ℕ} :
    Holds cells start length (calls.readByte cells start) ↔
      ∀ index < length, calls.writes index = true ∧ calls.reads index = true ∨
        cells (start + index) = 0xFF := by
  refine forall₂_congr fun index below => ?_
  unfold BusCalls.readByte
  cases calls.writes index <;> cases calls.reads index <;> simp

theorem getSystemInfo_keeps_iff {calls : BusCalls} {request : Request} {world : World}
    (coherent : Coherent world) :
    (AssetCommand.getSystemInfo calls request).KeepsCoherence world ↔
      ∀ next, (AssetCommand.getSystemInfo calls request).step world = some next → Coherent next := by
  unfold AssetCommand.KeepsCoherence AssetCommand.step
  by_cases right : request.length = 1
  · simp only [right, forall_const]
    rw [← right]
    by_cases missing : world.assetInfoGotFlag (request.bytes 0).toNat = 0
    · simp only [missing, forall_const]
      cases calls.assetReach (request.bytes 0) world.fds with
      | halted halted =>
          refine iff_of_true (fun opened => ?_)
            (successor_exited (run_ipmiGetSystemInfo_halted right missing halted))
          rw [halted] at opened
          cases opened
      | failed failed alive =>
          rw [successor_returned (run_ipmiGetSystemInfo_failed right missing failed alive)]
          refine iff_of_true (fun opened type supported => ?_) (coherent.congr rfl rfl rfl)
          rcases failed with unsupported | unopened
          · rw [unsupported] at supported
            cases supported
          · exact absurd opened unopened
      | @opened type supported opened =>
          have one : (world.receive request.length).dataLen = 1 := right
          obtain ⟨pointer, ran⟩ := run_ipmiGetSystemInfo_opened one missing supported opened
          rw [successor_returned ran, coherent_sent,
            coherent_iff_holds coherent type (calls.readByte world.eeprom.cells type.offset) ?_ ?_ ?_]
          · simp only [opened, supported, Option.some.injEq, forall_eq', forall_const]
            exact holds_readByte.symm
          · rfl
          · rfl
          · intro other different index below
            rfl
    · simp only [missing, IsEmpty.forall_iff, true_iff]
      rw [successor_returned (run_ipmiGetSystemInfo_cached right missing), coherent_sent]
      exact coherent.congr rfl rfl rfl
  · simp only [right, IsEmpty.forall_iff, true_iff]
    exact (successor_returned (run_ipmiGetSystemInfo_length right)).mpr (coherent.congr rfl rfl rfl)

theorem keepsCoherence_iff {world : World} (command : AssetCommand) (coherent : Coherent world) :
    command.KeepsCoherence world ↔ ∀ next, command.step world = some next → Coherent next := by
  cases command with
  | setSystemInfo calls request => exact setSystemInfo_keeps_iff coherent
  | getSystemInfo calls request => exact getSystemInfo_keeps_iff coherent

/-!
## Runs
-/

theorem coherent_of_no_flag {world : World}
    (fresh : ∀ index < deviceTypeMax, world.assetInfoGotFlag index = 0) : Coherent world := by
  intro type flagged
  rw [fresh _ type.deviceType_lt] at flagged
  exact absurd flagged (by decide)

/-- From daemon start on the cache is coherent throughout a run exactly when
every request of the run keeps it so. -/
theorem always_coherent_iff {world : World}
    (fresh : ∀ index < deviceTypeMax, world.assetInfoGotFlag index = 0)
    (commands : List AssetCommand) :
    Always AssetCommand.step Coherent world commands ↔
      EachStep AssetCommand.step (fun state command => command.KeepsCoherence state) world commands :=
  always_iff_eachStep (fun _ command coherent => keepsCoherence_iff command coherent)
    (coherent_of_no_flag fresh) commands

def BusCalls.writesFail : BusCalls := { BusCalls.healthy with writes := fun _ => false }

theorem always_coherent_iff_boot :
    Always AssetCommand.step Coherent World.boot
        [.setSystemInfo .writesFail ⟨fun _ => deviceTypeCpu, 104⟩,
          .getSystemInfo .healthy ⟨fun _ => deviceTypeFwRevision, 1⟩] ↔
      EachStep AssetCommand.step (fun state command => command.KeepsCoherence state) World.boot
        [.setSystemInfo .writesFail ⟨fun _ => deviceTypeCpu, 104⟩,
          .getSystemInfo .healthy ⟨fun _ => deviceTypeFwRevision, 1⟩] :=
  always_coherent_iff (fun _ _ => rfl) _

theorem coherence_lost_by_failed_write :
    (AssetCommand.setSystemInfo .writesFail ⟨fun _ => deviceTypeCpu, 104⟩).Valid ∧
      ¬ Always AssetCommand.step Coherent World.boot
        [.setSystemInfo .writesFail ⟨fun _ => deviceTypeCpu, 104⟩] := by
  refine ⟨⟨.cpu, rfl, by decide⟩, fun always => ?_⟩
  have keeps := (keepsCoherence_iff (.setSystemInfo .writesFail ⟨fun _ => deviceTypeCpu, 104⟩)
    (coherent_of_no_flag fun _ _ => rfl)).mpr fun next stepped => (always.2 next stepped).start
  rcases keeps (by decide) (by decide) .cpu rfl 0 (by decide) with ⟨_, written⟩ | same
  · exact absurd (written 0 le_rfl) (by decide)
  · exact absurd same (by decide)

end InspurIpmi

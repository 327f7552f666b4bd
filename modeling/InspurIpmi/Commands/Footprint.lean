import InspurIpmi.Bios.Effects
import InspurIpmi.Commands
import InspurIpmi.Commands.ReplyData
import InspurIpmi.Fan.Effects
import InspurIpmi.Foundation.Runs
import InspurIpmi.Sfp.Effects

/-!
# Footprints

What a request of each command may write, and that a run writes nothing else.
-/

set_option autoImplicit false

namespace InspurIpmi

open Foundation

/-!
## Locations
-/

/-- A place whose content outlives a request. -/
inductive Location where
  | eeprom (address : ℕ)
  | record (object : AssetObject) (index : ℕ)
  | gotFlag (index : ℕ)
  | gpio (line : ℤ)
  | i2cFile (name : CString) (index : ℕ)
  | fanMode
  deriving DecidableEq, Repr

def World.content (world : World) : Location → Option (List UInt8)
  | .eeprom address => some [world.eeprom.cells address]
  | .record object index => some [world.records object index]
  | .gotFlag index => some [world.assetInfoGotFlag index]
  | .gpio line => world.gpio line
  | .i2cFile name index => (world.i2cFiles name).map fun file => [file index]
  | .fanMode => world.fanMode

/-- Where a byte of the EEPROM behind a file is kept. -/
def fileLocation (name : CString) (index : ℕ) : Location :=
  if name = chipFile then .eeprom index else .i2cFile name index

theorem file_eq_of_bytes {first second : Option Buffer}
    (same : ∀ index, (first.map fun file => [file index]) = second.map fun file => [file index]) :
    first = second := by
  cases first with
  | none => exact (Option.map_eq_none_iff.mp (same 0).symm).symm
  | some file =>
      cases second with
      | none => cases same 0
      | some file' =>
          apply congrArg some
          funext index
          exact List.head_eq_of_cons_eq (Option.some.inj (same index))

theorem World.i2cFile_eq_of_content {first second : World} {name : CString}
    (same : ∀ index, first.content (.i2cFile name index) = second.content (.i2cFile name index)) :
    first.i2cFiles name = second.i2cFiles name :=
  file_eq_of_bytes same

/-- What loading the records of a type writes. -/
def AssetType.Caches (type : AssetType) : Location → Prop
  | .record object index => object = type.object ∧ index < type.size
  | .gotFlag index => index = type.deviceType.toNat
  | _ => False

/-- What setting the records of a type writes. -/
def AssetType.Stores (type : AssetType) : Location → Prop
  | .eeprom address => type.offset ≤ address ∧ address < type.offset + type.size
  | location => type.Caches location

def DeviceCommand.Writes (request : Request) : DeviceCommand → Location → Prop
  | .setSystemInfo _, location =>
      14 < request.length ∧
        ∃ type, AssetType.ofDeviceType? (request.bytes 0) = some type ∧ type.Stores location
  | .getSystemInfo _, location =>
      request.length = 1 ∧
        ∃ type, AssetType.ofDeviceType? (request.bytes 0) = some type ∧ type.Caches location
  | .writeEEPROM _, .eeprom address =>
      WriteAccepted request.bytes request.length ∧ (request.bytes 0).toNat ≤ address ∧
        address < (request.bytes 0).toNat + (request.bytes 1).toNat
  | .setSFPLowPowerMode _, .gpio line => request.length = 2 ∧ line = lowPowerLine request.bytes
  | _, _ => False

def Command.Writes (request : Request) : Command → Location → Prop
  | .device command, location => command.Writes request location
  | .setMACToEEPROM _, location =>
      request.length = setMACAddressInfoReqSize ∧ ∃ index,
        location = fileLocation (macEepromFile (request.bytes 0) (request.bytes 1)) index ∧
        macOffset (request.bytes 2) (request.bytes 3) ≤ index ∧
        index < macOffset (request.bytes 2) (request.bytes 3) + 6
  | .setFan _ _, .fanMode => FanRequestFits request.bytes request.length
  | _, _ => False

/-- How far from its start the response buffer may be written. -/
def DeviceCommand.replySize (request : Request) : DeviceCommand → ℕ
  | .setSystemInfo _ => 1
  | .getSystemInfo _ => revisionInfoSize
  | .readEEPROM _ => (request.bytes 1).toNat
  | .writeEEPROM _ => 1
  | .getSFPPresent _ _ => 1
  | .getSFPInterruptInfo _ _ => 1
  | .getSFPLowPowerMode _ _ => 1
  | .setSFPLowPowerMode _ => 1
  | .sfpReset _ => 1
  | .getSFPEEPROM _ => (request.bytes 3).toNat

def Command.replySize (request : Request) : Command → ℕ
  | .device command => command.replySize request
  | .readCPLDEEPROM _ _ => cpldVersionLength
  | .readVRINFO _ => cpldVersionLength
  | .setMACToEEPROM _ => 0
  | .getSFPSum => 1
  | .setFan _ _ => 0
  | .getFan _ _ => 2

/-!
## One request
-/

/-- Nothing changed but the locations that `writes` allows and the front of the
response buffer, and no descriptor that was open was closed. -/
structure Framed (writes : Location → Prop) (replySize : ℕ) (before after : World) : Prop where
  kept : ∀ location, ¬ writes location → after.content location = before.content location
  reply : ∀ index, replySize ≤ index → after.response index = before.response index
  descriptors : before.fds ⊆ after.fds

section

variable {writes : Location → Prop} {replySize : ℕ} {before middle last world : World}

theorem Framed.trans (first : Framed writes replySize before middle)
    (second : Framed writes replySize middle last) : Framed writes replySize before last where
  kept location outside := (second.kept location outside).trans (first.kept location outside)
  reply index behind := (second.reply index behind).trans (first.reply index behind)
  descriptors := first.descriptors.trans second.descriptors

/-- A record that stays behind the record of the type, or belongs to another object. -/
theorem framed_caches {type : AssetType} {source : Buffer}
    (covered : ∀ location, type.Caches location → writes location) :
    Framed writes replySize world ((world.setRecord type type.size source).markGot type) := by
  refine ⟨fun location outside => ?_, fun _ _ => rfl, Finset.Subset.refl _⟩
  have uncached := mt (covered location) outside
  cases location with
  | record object index =>
      by_cases same : object = type.object
      · subst same
        have behind : type.size ≤ index := not_lt.mp fun below => uncached ⟨rfl, below⟩
        have kept := overlay_outside (world.records type.object) source
          (.inr (by omega) : index < 0 ∨ 0 + type.size ≤ index)
        simp only [World.content, World.markGot, World.setRecord, Function.update_self, kept]
      · simp only [World.content, World.markGot, World.setRecord, Function.update_of_ne same]
  | gotFlag index =>
      have different : index ≠ type.deviceType.toNat := uncached
      simp only [World.content, World.markGot, World.setRecord, Function.update_of_ne different]
  | eeprom address => rfl
  | gpio line => rfl
  | i2cFile name index => rfl
  | fanMode => rfl

theorem framed_storeAll {succeeds : ℕ → Bool} {start count : ℕ} {source : Buffer}
    (covered : ∀ address, start ≤ address → address < start + count → writes (.eeprom address)) :
    Framed writes replySize world
      { world with eeprom := world.eeprom.storeAll succeeds start source count } := by
  refine ⟨fun location outside => ?_, fun _ _ => rfl, Finset.Subset.refl _⟩
  cases location with
  | eeprom address =>
      have apart : address < start ∨ start + count ≤ address := by
        by_contra inside
        exact outside (covered address (by omega) (by omega))
      simp only [World.content, Chip.storeAll_outside succeeds source world.eeprom apart]
  | record object index => rfl
  | gotFlag index => rfl
  | gpio line => rfl
  | i2cFile name index => rfl
  | fanMode => rfl

theorem framed_overwrite {name : CString} {start count : ℕ} {source : Buffer}
    (covered : ∀ index, start ≤ index → index < start + count →
      writes (fileLocation name index)) :
    Framed writes replySize world (world.overwrite name start count source) := by
  have uncovered : ∀ index, ¬ writes (fileLocation name index) →
      index < start ∨ start + count ≤ index := by
    intro index outside
    by_contra inside
    exact outside (covered index (by omega) (by omega))
  unfold fileLocation at uncovered
  unfold World.overwrite
  by_cases chip : name = chipFile
  · simp only [if_pos chip] at uncovered ⊢
    refine ⟨fun location outside => ?_, fun _ _ => rfl, Finset.Subset.refl _⟩
    cases location with
    | eeprom address =>
        simp only [World.content, overlay_outside _ source (uncovered address outside)]
    | record object index => rfl
    | gotFlag index => rfl
    | gpio line => rfl
    | i2cFile name index => rfl
    | fanMode => rfl
  · simp only [if_neg chip] at uncovered ⊢
    refine ⟨fun location outside => ?_, fun _ _ => rfl, Finset.Subset.refl _⟩
    cases location with
    | i2cFile other index =>
        by_cases same : other = name
        · subst same
          simp only [World.content, Function.update_self, Option.map_map]
          congr 1
          funext file
          exact congrArg List.singleton (overlay_outside file source (uncovered index outside))
        · simp only [World.content, Function.update_of_ne same]
    | eeprom address => rfl
    | record object index => rfl
    | gotFlag index => rfl
    | gpio line => rfl
    | fanMode => rfl

theorem framed_reply {size length : ℕ} {source : Buffer} (fits : size ≤ replySize) :
    Framed writes replySize world
      { world with dataLen := length, response := overlay world.response 0 size source } :=
  ⟨fun _ _ => rfl, fun _ behind => overlay_outside _ source (.inr (by omega)),
    Finset.Subset.refl _⟩

theorem framed_fds {fds : Finset ℕ} (opened : world.fds ⊆ fds) :
    Framed writes replySize world { world with fds := fds } :=
  ⟨fun _ _ => rfl, fun _ _ => rfl, opened⟩

theorem framed_dataLen (length : ℕ) :
    Framed writes replySize world { world with dataLen := length } :=
  ⟨fun _ _ => rfl, fun _ _ => rfl, Finset.Subset.refl _⟩

theorem OpenCalls.subset_fdsAfter (calls : OpenCalls) (fds : Finset ℕ) :
    fds ⊆ calls.fdsAfter fds := by
  unfold OpenCalls.fdsAfter
  split
  · exact Finset.subset_insert _ _
  · exact Finset.Subset.refl _

theorem CharWrite.subset_fdsAfter (calls : CharWrite) (present : Bool) (fds : Finset ℕ) :
    fds ⊆ calls.fdsAfter present fds := by
  unfold CharWrite.fdsAfter
  split
  · exact Finset.subset_insert _ _
  · exact Finset.Subset.refl _

theorem GpioOutcome.subset_fdsAfter (outcome : GpioOutcome) (fds : Finset ℕ) :
    fds ⊆ outcome.fdsAfter fds := by
  cases outcome with
  | unopened => exact Finset.Subset.refl _
  | failed => exact Finset.subset_insert _ _
  | delivered text => exact Finset.Subset.refl _

end

/-- The state in which a request leaves the daemon, however it ends. -/
def Command.after (command : Command) (request : Request) (world : World) : World :=
  ((command.handler request.bytes).run (world.receive request.length)).2

abbrev Command.Framed (command : Command) (request : Request) (world : World) : Prop :=
  InspurIpmi.Framed (command.Writes request) (command.replySize request)
    (world.receive request.length) (command.after request world)

theorem Command.framed_of_run {command : Command} {request : Request} {world after : World}
    {outcome : Outcome Exception CompletionCode}
    (ran : (command.handler request.bytes).run (world.receive request.length) = (outcome, after))
    (framed : InspurIpmi.Framed (command.Writes request) (command.replySize request)
      (world.receive request.length) after) :
    command.Framed request world := by
  rw [Command.Framed, Command.after, ran]
  exact framed

/-!
### The asset store
-/

section

variable {request : Request} {world : World}

theorem framed_noted {calls : BusCalls} (long : 14 < request.length) :
    Framed (Command.Writes request (.device (.setSystemInfo calls))) 1 (world.receive request.length)
      ((world.receive request.length).noted request.bytes) := by
  cases supported : AssetType.ofDeviceType? (request.bytes 0) with
  | none =>
      rw [World.noted_unsupported supported]
      exact ⟨fun _ _ => rfl, fun _ _ => rfl, Finset.Subset.refl _⟩
  | some type =>
      rw [World.noted_supported supported]
      refine framed_caches fun location cached => ⟨long, type, supported, ?_⟩
      cases location <;> first | exact cached | exact cached.elim

theorem framed_acknowledged {writes : Location → Prop} (world : World) :
    Framed writes 1 world world.acknowledged :=
  framed_reply (Nat.le_refl 1)

theorem framed_setSystemInfo (calls : BusCalls) :
    Command.Framed (.device (.setSystemInfo calls)) request world := by
  by_cases long : 14 < request.length
  · have noted := @framed_noted request world calls long
    cases calls.assetReach (request.bytes 0) world.fds with
    | halted halted =>
        refine Command.framed_of_run (run_ipmiSetSystemInfo_halted long halted) ?_
        refine noted.trans (framed_fds ?_)
        rw [World.noted_fds]
        exact OpenCalls.subset_fdsAfter _ _
    | failed failed alive =>
        refine Command.framed_of_run (run_ipmiSetSystemInfo_failed long failed alive) ?_
        refine (noted.trans (framed_fds ?_)).trans (framed_acknowledged _)
        rw [World.noted_fds]
        exact OpenCalls.subset_fdsAfter _ _
    | @opened type supported opened =>
        refine Command.framed_of_run (run_ipmiSetSystemInfo_opened long supported opened) ?_
        have written : Framed (Command.Writes request (.device (.setSystemInfo calls))) 1
            ((world.receive request.length).noted request.bytes)
            (((world.receive request.length).noted request.bytes).writtenAsset calls type
              (calls.persisted type)) := by
          refine framed_storeAll fun address above below => ⟨long, type, supported, above, ?_⟩
          have within := calls.persisted_le type
          omega
        refine ((noted.trans written).trans (framed_fds ?_)).trans (framed_acknowledged _)
        have same : (((world.receive request.length).noted request.bytes).writtenAsset calls type
            (calls.persisted type)).fds = (world.receive request.length).fds := World.noted_fds _ _
        rw [same]
        split
        · exact Finset.Subset.refl _
        · exact Finset.subset_insert _ _
  · refine Command.framed_of_run (run_ipmiSetSystemInfo_length (not_lt.mp long)) ?_
    exact framed_dataLen 0

theorem framed_looked {writes : Location → Prop} {replySize : ℕ} (world : World) :
    Framed writes replySize world (world.looked request.bytes) :=
  ⟨fun _ _ => rfl, fun _ _ => rfl, Finset.Subset.refl _⟩

theorem framed_sent {writes : Location → Prop} (world : World) :
    Framed writes revisionInfoSize world (world.sent request.bytes) := by
  unfold World.sent
  split
  · exact framed_reply (by decide)
  · exact ⟨fun _ _ => rfl, fun _ _ => rfl, Finset.Subset.refl _⟩

theorem framed_getSystemInfo (calls : BusCalls) :
    Command.Framed (.device (.getSystemInfo calls)) request world := by
  by_cases right : request.length = 1
  · have one : (world.receive request.length).dataLen = 1 := right
    by_cases missing : world.assetInfoGotFlag (request.bytes 0).toNat = 0
    · cases calls.assetReach (request.bytes 0) world.fds with
      | halted halted =>
          refine Command.framed_of_run (run_ipmiGetSystemInfo_halted one missing halted) ?_
          exact (framed_looked _).trans (framed_fds (OpenCalls.subset_fdsAfter _ _))
      | failed failed alive =>
          refine Command.framed_of_run (run_ipmiGetSystemInfo_failed one missing failed alive) ?_
          exact (framed_looked _).trans (framed_fds (OpenCalls.subset_fdsAfter _ _))
      | @opened type supported opened =>
          obtain ⟨pointer, ran⟩ := run_ipmiGetSystemInfo_opened one missing supported opened
          refine Command.framed_of_run ran ?_
          have loaded : Framed (Command.Writes request (.device (.getSystemInfo calls)))
              revisionInfoSize ((world.receive request.length).looked request.bytes)
              ((((world.receive request.length).looked request.bytes).setRecord type type.size
                (calls.readByte world.eeprom.cells type.offset)).markGot type) :=
            framed_caches fun location cached => ⟨right, type, supported, cached⟩
          refine (((framed_looked _).trans loaded).trans ?_).trans (framed_sent _)
          exact ⟨fun _ _ => rfl, fun _ _ => rfl, Finset.subset_insert _ _⟩
    · refine Command.framed_of_run (run_ipmiGetSystemInfo_cached one missing) ?_
      exact (framed_looked _).trans (framed_sent _)
  · exact Command.framed_of_run (run_ipmiGetSystemInfo_length right) (framed_dataLen 0)

/-!
### The raw EEPROM commands
-/

theorem framed_readEEPROM (calls : BusCalls) :
    Command.Framed (.device (.readEEPROM calls)) request world := by
  by_cases right : request.length = 2
  · have two : (world.receive request.length).dataLen = 2 := right
    cases verdict : (calls.opens 0).verdict world.fds with
    | halted =>
        refine Command.framed_of_run (run_ipmiReadEEPROM_halted two verdict) ?_
        exact framed_fds (OpenCalls.subset_fdsAfter _ _)
    | refused status =>
        refine Command.framed_of_run (run_ipmiReadEEPROM_refused two verdict) ?_
        exact framed_fds (OpenCalls.subset_fdsAfter _ _)
    | opened =>
        obtain ⟨pointer, ran⟩ := run_ipmiReadEEPROM_opened two verdict
        refine Command.framed_of_run ran ?_
        exact ⟨fun _ _ => rfl, fun _ behind => overlay_outside _ _ (.inr ((Nat.zero_add _).le.trans behind)),
          Finset.Subset.refl _⟩
  · exact Command.framed_of_run (run_ipmiReadEEPROM_length right) (framed_dataLen 0)

theorem framed_writtenSys {calls : BusCalls} {count : ℕ}
    (accepted : WriteAccepted request.bytes request.length) (within : count ≤ (request.bytes 1).toNat) :
    Framed (Command.Writes request (.device (.writeEEPROM calls))) 1 (world.receive request.length)
      ((world.receive request.length).writtenSys calls request.bytes count) :=
  framed_storeAll fun _ above below => ⟨accepted, above, by omega⟩

theorem framed_writeEEPROM (calls : BusCalls) :
    Command.Framed (.device (.writeEEPROM calls)) request world := by
  by_cases accepted : WriteAccepted request.bytes request.length
  · cases calls.writeReach world.fds (request.bytes 1).toNat with
    | opened opens =>
        refine Command.framed_of_run (run_ipmiWriteEEPROM_all accepted opens) ?_
        exact (framed_writtenSys accepted (Nat.le_refl _)).trans (framed_reply (Nat.le_refl 1))
    | halted below earlier halted =>
        refine Command.framed_of_run (run_ipmiWriteEEPROM_halted accepted below earlier halted) ?_
        exact (framed_writtenSys accepted (Nat.le_of_lt below)).trans
          (framed_fds (OpenCalls.subset_fdsAfter _ _))
    | refused below earlier refused =>
        refine Command.framed_of_run (run_ipmiWriteEEPROM_refused accepted below earlier refused) ?_
        exact (framed_writtenSys accepted (Nat.le_of_lt below)).trans
          (framed_fds (OpenCalls.subset_fdsAfter _ _))
  · exact Command.framed_of_run (run_ipmiWriteEEPROM_rejected calls accepted)
      (framed_dataLen request.length)

/-!
### The SFP commands
-/

theorem framed_sfpStatus {command : Command} {base : ℤ} {status : Int → UInt8} {calls : GpioRead}
    {locals : Locals} (handler : command.handler = sfpStatus base status calls locals)
    (size : 1 ≤ command.replySize request) : command.Framed request world := by
  unfold Command.Framed Command.after
  rw [handler]
  by_cases right : request.length = 1
  · have one : (world.receive request.length).dataLen = 1 := right
    by_cases inside : (request.bytes 0).toNat < getSFPSum
    · have ran : (sfpStatus base status calls locals request.bytes).run
          (world.receive request.length) = _ := run_sfpStatus_read one inside rfl
      rw [ran]
      have opened := GpioOutcome.subset_fdsAfter
        (calls.outcome (world.gpio (gpioLine base (request.bytes 0)))) world.fds
      split
      · exact ⟨fun _ _ => rfl, fun _ _ => rfl, opened⟩
      · refine ⟨fun _ _ => rfl, fun index behind => ?_, opened⟩
        dsimp only
        exact overlay_outside _ _ (.inr (size.trans behind))
    · rw [run_sfpStatus_range one (not_lt.mp inside)]
      exact framed_dataLen 0
  · rw [run_sfpStatus_length right]
    exact framed_dataLen 0

theorem framed_setSFPLowPowerMode (calls : CharWrite) :
    Command.Framed (.device (.setSFPLowPowerMode calls)) request world := by
  by_cases right : request.length = 2
  · have two : (world.receive request.length).dataLen = 2 := right
    refine Command.framed_of_run (run_ipmiSetSFPLowPowerMode_write two rfl) ?_
    refine ⟨fun location outside => ?_, fun index behind => ?_, CharWrite.subset_fdsAfter _ _ _⟩
    · cases location with
      | gpio line =>
          have other : line ≠ lowPowerLine request.bytes := fun same => outside ⟨right, same⟩
          simp only [World.content]
          split
          · exact Function.update_of_ne other _ _
          · rfl
      | eeprom address => rfl
      | record object index => rfl
      | gotFlag index => rfl
      | i2cFile name index => rfl
      | fanMode => rfl
    · dsimp only
      split
      · exact overlay_outside _ _ (.inr behind)
      · rfl
  · exact Command.framed_of_run (run_ipmiSetSFPLowPowerMode_length right)
      (framed_dataLen request.length)

theorem framed_sfpReset (calls : CharWrite) :
    Command.Framed (.device (.sfpReset calls)) request world := by
  by_cases right : request.length = 1
  · have one : (world.receive request.length).dataLen = 1 := right
    refine Command.framed_of_run (run_ipmiSFPReset_reset one) ?_
    refine ⟨fun _ _ => rfl, fun index behind => ?_, CharWrite.subset_fdsAfter _ _ _⟩
    dsimp only
    split
    · exact overlay_outside _ _ (.inr behind)
    · rfl
  · exact Command.framed_of_run (run_ipmiSFPReset_length right) (framed_dataLen request.length)

theorem framed_getSFPEEPROM (calls : SffCalls) :
    Command.Framed (.device (.getSFPEEPROM calls)) request world := by
  by_cases right : request.length = 4
  · have four : (world.receive request.length).dataLen = 4 := right
    by_cases inside : (request.bytes 0).toNat < getSFPSum
    · cases answered : calls.outcome (world.files (sffFile (request.bytes 0).toNat)) with
      | error status =>
          refine Command.framed_of_run (run_ipmigetSFPEEPROM_error four inside answered) ?_
          exact ⟨fun _ _ => rfl, fun _ _ => rfl, Finset.Subset.refl _⟩
      | ok delivered =>
          refine Command.framed_of_run (run_ipmigetSFPEEPROM_ok four inside answered) ?_
          refine ⟨fun _ _ => rfl, fun index behind => ?_, Finset.Subset.refl _⟩
          have size : min delivered.2 (request.bytes 3).toNat ≤ index :=
            (Nat.min_le_right _ _).trans behind
          dsimp only
          exact overlay_outside _ _ (.inr ((Nat.zero_add _).le.trans size))
    · refine Command.framed_of_run (run_ipmigetSFPEEPROM_range four (not_lt.mp inside)) ?_
      exact framed_dataLen 0
  · exact Command.framed_of_run (run_ipmigetSFPEEPROM_length right) (framed_dataLen request.length)

theorem framed_getSFPSum : Command.Framed .getSFPSum request world := by
  by_cases right : request.length = 0
  · have none : (world.receive request.length).dataLen = 0 := right
    exact Command.framed_of_run (run_ipmiGetSFPSum_ok none) (framed_reply (Nat.le_refl 1))
  · exact Command.framed_of_run (run_ipmiGetSFPSum_length right) (framed_dataLen request.length)

/-!
### The version, MAC address and fan commands
-/

theorem framed_readCPLDEEPROM (calls : CpldCalls) (temp : Buffer) :
    Command.Framed (.readCPLDEEPROM calls temp) request world := by
  by_cases right : request.length = 2
  · have two : (world.receive request.length).dataLen = 2 := right
    exact Command.framed_of_run (run_ipmiReadCPLDEEPROM_ok two) (framed_reply (Nat.le_refl 10))
  · exact Command.framed_of_run (run_ipmiReadCPLDEEPROM_length right) (framed_dataLen 0)

theorem framed_readVRINFO (calls : VrCalls) : Command.Framed (.readVRINFO calls) request world := by
  by_cases right : request.length = 2
  · have two : (world.receive request.length).dataLen = 2 := right
    cases calls.reach (calls.row request.bytes) with
    | unopened unopened =>
        refine Command.framed_of_run (run_ipmiReadVRINFO_unopened two unopened) ?_
        exact ⟨fun _ _ => rfl, fun _ _ => rfl, Finset.Subset.refl _⟩
    | unselected opened unselected =>
        refine Command.framed_of_run (run_ipmiReadVRINFO_unselected two opened unselected) ?_
        exact ⟨fun _ _ => rfl, fun _ _ => rfl, Finset.subset_insert _ _⟩
    | unread opened selected unread =>
        refine Command.framed_of_run (run_ipmiReadVRINFO_unread two opened selected unread) ?_
        exact ⟨fun _ _ => rfl, fun _ _ => rfl, Finset.subset_insert _ _⟩
    | read opened selected read =>
        refine Command.framed_of_run (run_ipmiReadVRINFO_read two opened selected read) ?_
        exact ⟨fun _ _ => rfl, fun _ behind => overlay_outside _ _ (.inr behind),
          Finset.Subset.refl _⟩
  · exact Command.framed_of_run (run_ipmiReadVRINFO_length right) (framed_dataLen 0)

theorem framed_setMACToEEPROM (calls : MacCalls) :
    Command.Framed (.setMACToEEPROM calls) request world := by
  by_cases right : request.length = setMACAddressInfoReqSize
  · have ten : (world.receive request.length).dataLen = setMACAddressInfoReqSize := right
    refine Command.framed_of_run (run_ipmiSetMACToEEPROM_store ten) ?_
    refine framed_overwrite fun index above below => ⟨right, index, rfl, above, ?_⟩
    have taken := calls.taken_le
    omega
  · exact Command.framed_of_run (run_ipmiSetMACToEEPROM_length right) (framed_dataLen 0)

theorem framed_fanVerdict {sensors : SensorTable} {calls : SetFanCalls}
    (fits : FanRequestFits request.bytes request.length) (verdict : FanVerdict) :
    Framed (Command.Writes request (.setFan sensors calls)) 0 world
      (verdict.after calls request.bytes world) := by
  have echoed : Framed (Command.Writes request (.setFan sensors calls)) 0 world
      (world.echoed calls (request.bytes 1)) := by
    refine ⟨fun location outside => ?_, fun _ _ => rfl, Finset.Subset.refl _⟩
    cases location with
    | fanMode => exact absurd fits outside
    | eeprom address => rfl
    | record object index => rfl
    | gotFlag index => rfl
    | gpio line => rfl
    | i2cFile name index => rfl
  cases verdict with
  | unknown => exact framed_dataLen world.dataLen
  | unset => exact echoed
  | automatic => exact echoed
  | forbidden => exact echoed
  | handed info => exact echoed.trans ⟨fun _ _ => rfl, fun _ _ => rfl, Finset.Subset.refl _⟩

theorem framed_setFan (sensors : SensorTable) (calls : SetFanCalls) :
    Command.Framed (.setFan sensors calls) request world := by
  by_cases fits : FanRequestFits request.bytes request.length
  · have received : FanRequestFits request.bytes (world.receive request.length).dataLen := fits
    have framed := @framed_fanVerdict request (world.receive request.length) sensors calls fits
      (fanVerdict sensors calls request.bytes)
    rcases (fanVerdict sensors calls request.bytes).outcome_cases (request.bytes 0)
        (request.bytes 2) with ⟨code, answers⟩ | throws
    · refine Command.framed_of_run (run_ipmiSetFan_answers received answers) ?_
      exact framed.trans (framed_dataLen 0)
    · exact Command.framed_of_run (run_ipmiSetFan_throws received throws) framed
  · exact Command.framed_of_run (run_ipmiSetFan_misfit fits) (framed_dataLen 0)

theorem framed_getFan (sensors : SensorTable) (reads : Bool) :
    Command.Framed (.getFan sensors reads) request world := by
  cases found : fanValue? sensors request.bytes with
  | none =>
      obtain ⟨code, _, ran⟩ := @run_ipmiGetFan_error sensors reads request.bytes
        (world.receive request.length) fun _ => found
      exact Command.framed_of_run ran (framed_dataLen 0)
  | some value =>
      by_cases right : request.length = 1
      · have one : (world.receive request.length).dataLen = 1 := right
        refine Command.framed_of_run (run_ipmiGetFan_ok one found) ?_
        refine ⟨fun _ _ => rfl, fun index behind => ?_, Finset.Subset.refl _⟩
        have two : 2 ≤ index := behind
        have second := overlay_outside (overlay world.response 0 1 fun _ => modeRead reads world.fanMode)
          (fun _ => value) (.inr two : index < 1 ∨ 1 + 1 ≤ index)
        exact second.trans (overlay_outside _ _ (.inr (by omega)))
      · obtain ⟨code, _, ran⟩ := @run_ipmiGetFan_error sensors reads request.bytes
          (world.receive request.length) fun one => absurd one right
        exact Command.framed_of_run ran (framed_dataLen 0)

end

theorem Command.framed (command : Command) (request : Request) (world : World) :
    command.Framed request world := by
  cases command with
  | device command =>
      cases command with
      | setSystemInfo calls => exact framed_setSystemInfo calls
      | getSystemInfo calls => exact framed_getSystemInfo calls
      | readEEPROM calls => exact framed_readEEPROM calls
      | writeEEPROM calls => exact framed_writeEEPROM calls
      | getSFPPresent calls locals => exact framed_sfpStatus rfl (Nat.le_refl 1)
      | getSFPInterruptInfo calls locals => exact framed_sfpStatus rfl (Nat.le_refl 1)
      | getSFPLowPowerMode calls locals => exact framed_sfpStatus rfl (Nat.le_refl 1)
      | setSFPLowPowerMode calls => exact framed_setSFPLowPowerMode calls
      | sfpReset calls => exact framed_sfpReset calls
      | getSFPEEPROM calls => exact framed_getSFPEEPROM calls
  | readCPLDEEPROM calls temp => exact framed_readCPLDEEPROM calls temp
  | readVRINFO calls => exact framed_readVRINFO calls
  | setMACToEEPROM calls => exact framed_setMACToEEPROM calls
  | getSFPSum => exact framed_getSFPSum
  | setFan sensors calls => exact framed_setFan sensors calls
  | getFan sensors reads => exact framed_getFan sensors reads

/-!
## Runs
-/

/-- A request with the answers of the system, and what the buffer for the reply
holds when it is handed over. -/
structure Message where
  command : Command
  request : Request
  response : Buffer

namespace Message

def Writes (message : Message) : Location → Prop := message.command.Writes message.request

def replySize (message : Message) : ℕ := message.command.replySize message.request

def serve (world : World) (message : Message) : Option (Reply × World) :=
  InspurIpmi.serve (message.command.handler message.request.bytes) message.request.length
    (world.withResponse message.response)

def step (world : World) (message : Message) : Option World :=
  (message.serve world).map Prod.snd

end Message

theorem serve_eq_some {handler : Daemon CompletionCode} {length : ℕ} {world after : World}
    {reply : Reply} (served : serve handler length world = some (reply, after)) :
    after = (handler.run (world.receive length)).2 ∧ reply.data = after.response := by
  unfold serve at served
  split at served
  · rename_i code final ran
    cases served
    exact ⟨by rw [ran], rfl⟩
  · cases served

theorem Message.framed {message : Message} {world after : World} {reply : Reply}
    (served : message.serve world = some (reply, after)) :
    Framed message.Writes message.replySize (world.withResponse message.response) after ∧
      reply.data = after.response := by
  obtain ⟨rfl, same⟩ := serve_eq_some served
  have framed := message.command.framed message.request (world.withResponse message.response)
  exact ⟨(framed_dataLen message.request.length).trans framed, same⟩

end InspurIpmi

import InspurIpmi.Commands.Footprint
import InspurIpmi.Foundation.Noninterference
import InspurIpmi.Sfp.ModuleMemory

/-!
# Isolation

The commands fall into families, each with a store of its own. What a family
answers depends on its own store and its own requests only.
-/

set_option autoImplicit false

namespace InspurIpmi

open Foundation

/-!
## Stores
-/

/-- The stores behind the commands; `device` stands for the commands that only ask
a device, or write where no command reads. -/
inductive Store where
  | rawEeprom
  | assets
  | lines
  | files
  | fan
  | device
  deriving DecidableEq, Repr

def DeviceCommand.store : DeviceCommand → Store
  | setSystemInfo _ => .assets
  | getSystemInfo _ => .assets
  | readEEPROM _ => .rawEeprom
  | writeEEPROM _ => .rawEeprom
  | getSFPPresent _ _ => .lines
  | getSFPInterruptInfo _ _ => .lines
  | getSFPLowPowerMode _ _ => .lines
  | setSFPLowPowerMode _ => .lines
  | sfpReset _ => .device
  | getSFPEEPROM _ => .files

/-- Whose bytes six bytes of the EEPROM may touch, from the offset on. -/
def chipStore (offset : ℕ) : Store :=
  if offset < 510 then .rawEeprom
  else if biosInfoEepromStartAddr.toNat < offset + 6 then .assets
  else .device

/-- The family of a MAC address request is that of the device it names, and on the EEPROM
of the raw commands and the assets that of the bytes it addresses. -/
def Command.store (request : Request) : Command → Store
  | device command => command.store
  | readCPLDEEPROM _ _ => .device
  | readVRINFO _ => .device
  | setMACToEEPROM _ =>
      if macEepromFile (request.bytes 0) (request.bytes 1) = chipFile then
        chipStore (macOffset (request.bytes 2) (request.bytes 3))
      else .files
  | getSFPSum => .device
  | setFan _ _ => .fan
  | getFan _ _ => .fan

def Message.store (message : Message) : Store := message.command.store message.request

/-- The raw commands reach the first 510 bytes of the EEPROM, the assets lie behind
the first 16 KiB. -/
def Store.Holds : Store → Location → Prop
  | rawEeprom, .eeprom address => address < 510
  | assets, .eeprom address => biosInfoEepromStartAddr.toNat ≤ address
  | assets, .record _ _ => True
  | assets, .gotFlag _ => True
  | lines, .gpio _ => True
  | files, .i2cFile _ _ => True
  | fan, .fanMode => True
  | _, _ => False

theorem Store.holds_unique {first second : Store} {location : Location}
    (held : first.Holds location) (heldToo : second.Holds location) : first = second := by
  have apart : biosInfoEepromStartAddr.toNat = 16384 := by decide
  cases location with
  | eeprom address =>
      cases first <;> cases second <;>
        first
        | rfl
        | exact held.elim
        | exact heldToo.elim
        | (simp only [Store.Holds] at held heldToo; omega)
  | record object index =>
      cases first <;> cases second <;> first | rfl | exact held.elim | exact heldToo.elim
  | gotFlag index =>
      cases first <;> cases second <;> first | rfl | exact held.elim | exact heldToo.elim
  | gpio line =>
      cases first <;> cases second <;> first | rfl | exact held.elim | exact heldToo.elim
  | i2cFile name index =>
      cases first <;> cases second <;> first | rfl | exact held.elim | exact heldToo.elim
  | fanMode =>
      cases first <;> cases second <;> first | rfl | exact held.elim | exact heldToo.elim

theorem AssetType.start_le_offset (type : AssetType) :
    biosInfoEepromStartAddr.toNat ≤ type.offset := by
  cases type <;> decide

theorem assets_hold_caches {type : AssetType} {location : Location}
    (cached : type.Caches location) : Store.assets.Holds location := by
  cases location with
  | record object index => trivial
  | gotFlag index => trivial
  | eeprom address => exact cached.elim
  | gpio line => exact cached.elim
  | i2cFile name index => exact cached.elim
  | fanMode => exact cached.elim

theorem assets_hold_stores {type : AssetType} {location : Location}
    (stored : type.Stores location) : Store.assets.Holds location := by
  cases location with
  | eeprom address => exact type.start_le_offset.trans stored.1
  | record object index => trivial
  | gotFlag index => trivial
  | gpio line => exact stored.elim
  | i2cFile name index => exact stored.elim
  | fanMode => exact stored.elim

theorem DeviceCommand.writes_inside {command : DeviceCommand} {request : Request}
    {location : Location} (written : command.Writes request location) :
    command.store.Holds location := by
  cases command with
  | setSystemInfo calls =>
      obtain ⟨_, type, _, stored⟩ := written
      exact assets_hold_stores stored
  | getSystemInfo calls =>
      obtain ⟨_, type, _, cached⟩ := written
      exact assets_hold_caches cached
  | writeEEPROM calls =>
      cases location <;> first | exact written.elim | skip
      obtain ⟨_, _, below⟩ := written
      have offset := (request.bytes 0).toNat_lt
      have length := (request.bytes 1).toNat_lt
      exact Nat.lt_of_lt_of_le below
        (Nat.add_le_add (Nat.le_of_lt_succ offset) (Nat.le_of_lt_succ length))
  | setSFPLowPowerMode calls =>
      cases location <;> first | exact written.elim | trivial
  | readEEPROM calls => exact written.elim
  | getSFPPresent calls locals => exact written.elim
  | getSFPInterruptInfo calls locals => exact written.elim
  | getSFPLowPowerMode calls locals => exact written.elim
  | sfpReset calls => exact written.elim
  | getSFPEEPROM calls => exact written.elim

theorem chipStore_of_holds {store : Store} {offset address : ℕ} (above : offset ≤ address)
    (below : address < offset + 6) (held : store.Holds (.eeprom address)) :
    chipStore offset = store := by
  have start : biosInfoEepromStartAddr.toNat = 16384 := by decide
  unfold chipStore
  cases store with
  | rawEeprom =>
      simp only [Store.Holds] at held
      rw [if_pos (by omega)]
  | assets =>
      simp only [Store.Holds] at held
      rw [if_neg (by omega), if_pos (by omega)]
  | lines => exact held.elim
  | files => exact held.elim
  | fan => exact held.elim
  | device => exact held.elim

/-- What a request writes of a store, it writes as one of the family. -/
theorem Message.writes_own {message : Message} {store : Store} {location : Location}
    (written : message.Writes location) (held : store.Holds location) : message.store = store := by
  obtain ⟨command, request, response⟩ := message
  cases command with
  | device command => exact Store.holds_unique (DeviceCommand.writes_inside written) held
  | setMACToEEPROM calls =>
      obtain ⟨_, index, rfl, above, below⟩ := written
      unfold fileLocation at held
      unfold Message.store Command.store
      by_cases chip : macEepromFile (request.bytes 0) (request.bytes 1) = chipFile
      · rw [if_pos chip] at held
        dsimp only
        rw [if_pos chip]
        exact chipStore_of_holds above below held
      · rw [if_neg chip] at held
        dsimp only
        rw [if_neg chip]
        exact @Store.holds_unique .files _ (.i2cFile _ _) trivial held
  | setFan sensors calls =>
      cases location <;> first | exact written.elim | skip
      exact @Store.holds_unique .fan _ .fanMode trivial held
  | readCPLDEEPROM calls temp => exact written.elim
  | readVRINFO calls => exact written.elim
  | getSFPSum => exact written.elim
  | getFan sensors reads => exact written.elim

/-!
## States that a store cannot tell apart
-/

def Store.Alike (store : Store) (first second : World) : Prop :=
  ∀ location, store.Holds location → first.content location = second.content location

section

variable {first second : World}

theorem singleton_inj {first second : UInt8} : some [first] = some [second] ↔ first = second := by
  simp

theorem alike_rawEeprom_iff :
    Store.rawEeprom.Alike first second ↔
      ∀ address < 510, first.eeprom.cells address = second.eeprom.cells address := by
  constructor
  · intro same address below
    exact singleton_inj.mp (same (.eeprom address) below)
  · intro same location held
    cases location <;> first | exact held.elim | skip
    exact singleton_inj.mpr (same _ held)

theorem alike_assets_iff :
    Store.assets.Alike first second ↔
      first.records = second.records ∧ first.assetInfoGotFlag = second.assetInfoGotFlag ∧
        ∀ address, biosInfoEepromStartAddr.toNat ≤ address →
          first.eeprom.cells address = second.eeprom.cells address := by
  constructor
  · intro same
    refine ⟨?_, ?_, fun address above => singleton_inj.mp (same (.eeprom address) above)⟩
    · funext object index
      exact singleton_inj.mp (same (.record object index) trivial)
    · funext index
      exact singleton_inj.mp (same (.gotFlag index) trivial)
  · rintro ⟨records, flags, cells⟩ location held
    cases location with
    | eeprom address => exact singleton_inj.mpr (cells address held)
    | record object index => simp only [World.content, records]
    | gotFlag index => simp only [World.content, flags]
    | gpio line => exact held.elim
    | i2cFile name index => exact held.elim
    | fanMode => exact held.elim

theorem alike_lines_iff : Store.lines.Alike first second ↔ first.gpio = second.gpio := by
  constructor
  · intro same
    funext line
    exact same (.gpio line) trivial
  · intro same location held
    cases location <;> first | exact held.elim | skip
    exact congrFun same _

theorem alike_files_iff : Store.files.Alike first second ↔ first.i2cFiles = second.i2cFiles := by
  constructor
  · intro same
    funext name
    exact World.i2cFile_eq_of_content fun index => same (.i2cFile name index) trivial
  · intro same location held
    cases location <;> first | exact held.elim | skip
    simp only [World.content, same]

theorem alike_fan_iff : Store.fan.Alike first second ↔ first.fanMode = second.fanMode := by
  constructor
  · intro same
    exact same .fanMode trivial
  · intro same location held
    cases location <;> first | exact held.elim | skip
    exact same

theorem alike_device (first second : World) : Store.device.Alike first second := by
  intro location held
  cases location <;> exact held.elim

end

/-!
## One request on two states
-/

/-- Two states in which the same request arrives, alike for the store. -/
structure Matched (store : Store) (first second : World) : Prop where
  dataLen : first.dataLen = second.dataLen
  response : first.response = second.response
  stdin : first.StdinOpen
  stdin' : second.StdinOpen
  alike : store.Alike first second

/-- The handler ends in the same way, with the same reply and stores that are alike. -/
def RunsAlike (store : Store) (handler : Daemon CompletionCode) (first second : World) : Prop :=
  ∃ outcome after after', handler.run first = (outcome, after) ∧
    handler.run second = (outcome, after') ∧ after.dataLen = after'.dataLen ∧
    after.response = after'.response ∧ store.Alike after after'

section

variable {request : Buffer} {first second : World}

theorem verdict_eq (calls : OpenCalls) (stdin : first.StdinOpen) (stdin' : second.StdinOpen) :
    calls.verdict second.fds = calls.verdict first.fds := by
  unfold World.StdinOpen at stdin stdin'
  simp only [OpenCalls.verdict, stdin, stdin', not_true_eq_false, or_false]

theorem storeAll_cells_congr {succeeds : ℕ → Bool} {start count place : ℕ} {source : Buffer}
    {chip chip' : Chip} (same : chip.cells place = chip'.cells place) :
    (chip.storeAll succeeds start source count).cells place =
      (chip'.storeAll succeeds start source count).cells place := by
  induction count with
  | zero => exact same
  | succ count ih =>
      simp only [Chip.storeAll]
      split
      · by_cases here : place = start + count
        · subst here
          simp only [Chip.store_cells, Function.update_self]
        · simp only [Chip.store_cells, Function.update_of_ne here, ih]
      · exact ih

theorem alike_noted (matched : Matched .assets first second) :
    Store.assets.Alike (first.noted request) (second.noted request) := by
  obtain ⟨records, flags, cells⟩ := alike_assets_iff.mp matched.alike
  unfold World.noted
  split
  · refine alike_assets_iff.mpr ⟨?_, ?_, cells⟩
    · simp only [World.markGot, World.setRecord, records]
    · simp only [World.markGot, World.setRecord, flags]
  · exact matched.alike

theorem noted_response (world : World) : (world.noted request).response = world.response := by
  unfold World.noted
  split <;> rfl

theorem noted_dataLen (world : World) : (world.noted request).dataLen = world.dataLen := by
  unfold World.noted
  split <;> rfl

theorem alike_writtenAsset {calls : BusCalls} {type : AssetType} {count : ℕ}
    (alike : Store.assets.Alike first second) :
    Store.assets.Alike (first.writtenAsset calls type count)
      (second.writtenAsset calls type count) := by
  obtain ⟨records, flags, cells⟩ := alike_assets_iff.mp alike
  refine alike_assets_iff.mpr ⟨records, flags, fun address above => ?_⟩
  simp only [World.writtenAsset, records]
  exact storeAll_cells_congr (cells address above)

theorem runsAlike_setSystemInfo (calls : BusCalls) (matched : Matched .assets first second) :
    RunsAlike .assets (ipmiSetSystemInfo calls request) first second := by
  have response := matched.response
  by_cases long : 14 < first.dataLen
  · have long' : 14 < second.dataLen := matched.dataLen ▸ long
    have noted := @alike_noted request first second matched
    have verdict := verdict_eq (calls.opens 0) matched.stdin matched.stdin'
    have noted_same : (first.noted request).response = (second.noted request).response := by
      rw [noted_response, noted_response, response]
    have acknowledged : (overlay (first.noted request).response 0 1 fun _ => (0 : UInt8)) =
        overlay (second.noted request).response 0 1 fun _ => 0 := by rw [noted_same]
    cases calls.assetReach (request 0) first.fds with
    | halted halted =>
        refine ⟨_, _, _, run_ipmiSetSystemInfo_halted long halted,
          run_ipmiSetSystemInfo_halted long' (verdict.trans halted), ?_, noted_same, noted⟩
        exact (noted_dataLen first).trans (matched.dataLen.trans (noted_dataLen second).symm)
    | failed failed alive =>
        have ran := @run_ipmiSetSystemInfo_failed calls request first long failed alive
        rw [← verdict] at failed alive
        exact ⟨_, _, _, ran, run_ipmiSetSystemInfo_failed long' failed alive, rfl, acknowledged, noted⟩
    | @opened type supported opened =>
        exact ⟨_, _, _, run_ipmiSetSystemInfo_opened long supported opened,
          run_ipmiSetSystemInfo_opened long' supported (verdict.trans opened), rfl, acknowledged,
          alike_writtenAsset noted⟩
  · have short := not_lt.mp long
    exact ⟨_, _, _, run_ipmiSetSystemInfo_length short,
      run_ipmiSetSystemInfo_length (matched.dataLen ▸ short), rfl, response, matched.alike⟩

theorem alike_sent (records : first.records = second.records)
    (dataLen : first.dataLen = second.dataLen) (response : first.response = second.response)
    (alike : Store.assets.Alike first second) :
    (first.sent request).dataLen = (second.sent request).dataLen ∧
      (first.sent request).response = (second.sent request).response ∧
      Store.assets.Alike (first.sent request) (second.sent request) := by
  unfold World.sent
  split
  · exact ⟨rfl, by simp only [records, response], alike⟩
  · exact ⟨dataLen, response, alike⟩

theorem readByte_congr (calls : BusCalls) {cells cells' : ℕ → UInt8} {start index : ℕ}
    (same : cells (start + index) = cells' (start + index)) :
    calls.readByte cells start index = calls.readByte cells' start index := by
  unfold BusCalls.readByte
  rw [same]

theorem runsAlike_getSystemInfo (calls : BusCalls) (matched : Matched .assets first second) :
    RunsAlike .assets (ipmiGetSystemInfo calls request) first second := by
  have response := matched.response
  obtain ⟨records, flags, cells⟩ := alike_assets_iff.mp matched.alike
  by_cases right : first.dataLen = 1
  · have right' : second.dataLen = 1 := matched.dataLen ▸ right
    have verdict := verdict_eq (calls.opens 0) matched.stdin matched.stdin'
    by_cases missing : first.assetInfoGotFlag (request 0).toNat = 0
    · have missing' : second.assetInfoGotFlag (request 0).toNat = 0 := flags ▸ missing
      cases calls.assetReach (request 0) first.fds with
      | halted halted =>
          exact ⟨_, _, _, run_ipmiGetSystemInfo_halted right missing halted,
            run_ipmiGetSystemInfo_halted right' missing' (verdict.trans halted), matched.dataLen,
            response, matched.alike⟩
      | failed failed alive =>
          have ran := @run_ipmiGetSystemInfo_failed calls request first right missing failed alive
          rw [← verdict] at failed alive
          exact ⟨_, _, _, ran, run_ipmiGetSystemInfo_failed right' missing' failed alive,
            matched.dataLen, response, matched.alike⟩
      | @opened type supported opened =>
          obtain ⟨pointer, ran⟩ := run_ipmiGetSystemInfo_opened right missing supported opened
          obtain ⟨pointer', ran'⟩ :=
            run_ipmiGetSystemInfo_opened right' missing' supported (verdict.trans opened)
          have loaded : ((first.looked request).loaded calls type).records =
              ((second.looked request).loaded calls type).records := by
            have bytes : calls.readByte first.eeprom.cells type.offset =
                calls.readByte second.eeprom.cells type.offset := by
              funext index
              exact readByte_congr calls
                (cells _ (type.start_le_offset.trans (Nat.le_add_right _ _)))
            simp only [World.loaded, World.markGot, World.setRecord, World.looked, records, bytes]
          have marked : ((first.looked request).loaded calls type).assetInfoGotFlag =
              ((second.looked request).loaded calls type).assetInfoGotFlag := by
            simp only [World.loaded, World.markGot, World.setRecord, World.looked, flags]
          refine ⟨_, _, _, ran, ran', ?_⟩
          exact alike_sent loaded matched.dataLen response
            (alike_assets_iff.mpr ⟨loaded, marked, cells⟩)
    · have got' : second.assetInfoGotFlag (request 0).toNat ≠ 0 := flags ▸ missing
      refine ⟨_, _, _, run_ipmiGetSystemInfo_cached right missing,
        run_ipmiGetSystemInfo_cached right' got', ?_⟩
      exact alike_sent records matched.dataLen response matched.alike
  · have wrong' : second.dataLen ≠ 1 := matched.dataLen ▸ right
    exact ⟨_, _, _, run_ipmiGetSystemInfo_length right, run_ipmiGetSystemInfo_length wrong', rfl,
      response, matched.alike⟩

theorem runsAlike_readEEPROM (calls : BusCalls) (matched : Matched .rawEeprom first second) :
    RunsAlike .rawEeprom (ipmiReadEEPROM calls request) first second := by
  have response := matched.response
  have cells := alike_rawEeprom_iff.mp matched.alike
  by_cases right : first.dataLen = 2
  · have right' : second.dataLen = 2 := matched.dataLen ▸ right
    have same := verdict_eq (calls.opens 0) matched.stdin matched.stdin'
    cases verdict : (calls.opens 0).verdict first.fds with
    | halted =>
        exact ⟨_, _, _, run_ipmiReadEEPROM_halted right verdict,
          run_ipmiReadEEPROM_halted right' (same.trans verdict), matched.dataLen, response,
          matched.alike⟩
    | refused status =>
        exact ⟨_, _, _, run_ipmiReadEEPROM_refused right verdict,
          run_ipmiReadEEPROM_refused right' (same.trans verdict), matched.dataLen, response,
          matched.alike⟩
    | opened =>
        obtain ⟨pointer, ran⟩ := run_ipmiReadEEPROM_opened right verdict
        obtain ⟨pointer', ran'⟩ := run_ipmiReadEEPROM_opened right' (same.trans verdict)
        refine ⟨_, _, _, ran, ran', rfl, ?_, matched.alike⟩
        rw [response]
        refine overlay_congr _ _ _ fun index below => readByte_congr calls (cells _ ?_)
        have offset := (request 0).toNat_lt
        have length := (request 1).toNat_lt
        omega
  · have wrong' : second.dataLen ≠ 2 := matched.dataLen ▸ right
    exact ⟨_, _, _, run_ipmiReadEEPROM_length right, run_ipmiReadEEPROM_length wrong', rfl, response,
      matched.alike⟩

theorem alike_writtenSys (calls : BusCalls) (count : ℕ)
    (alike : Store.rawEeprom.Alike first second) :
    Store.rawEeprom.Alike (first.writtenSys calls request count)
      (second.writtenSys calls request count) := by
  refine alike_rawEeprom_iff.mpr fun address below => ?_
  exact storeAll_cells_congr (alike_rawEeprom_iff.mp alike address below)

theorem runsAlike_writeEEPROM (calls : BusCalls) (matched : Matched .rawEeprom first second) :
    RunsAlike .rawEeprom (ipmiWriteEEPROM calls request) first second := by
  have response := matched.response
  have verdict : ∀ index, (calls.opens index).verdict second.fds =
      (calls.opens index).verdict first.fds :=
    fun index => verdict_eq (calls.opens index) matched.stdin matched.stdin'
  by_cases accepted : WriteAccepted request first.dataLen
  · have accepted' : WriteAccepted request second.dataLen := matched.dataLen ▸ accepted
    have transfer : ∀ {count}, calls.OpensBelow first.fds count → calls.OpensBelow second.fds count :=
      fun opens index below => (verdict index).trans (opens index below)
    cases calls.writeReach first.fds (request 1).toNat with
    | opened opens =>
        refine ⟨_, _, _, run_ipmiWriteEEPROM_all accepted opens,
          run_ipmiWriteEEPROM_all accepted' (transfer opens), rfl, ?_,
          alike_writtenSys calls _ matched.alike⟩
        rw [response]
    | @halted index below earlier halted =>
        exact ⟨_, _, _, run_ipmiWriteEEPROM_halted accepted below earlier halted,
          run_ipmiWriteEEPROM_halted accepted' below (transfer earlier) ((verdict index).trans halted),
          matched.dataLen, response, alike_writtenSys calls _ matched.alike⟩
    | @refused index status below earlier refused =>
        exact ⟨_, _, _, run_ipmiWriteEEPROM_refused accepted below earlier refused,
          run_ipmiWriteEEPROM_refused accepted' below (transfer earlier)
            ((verdict index).trans refused),
          matched.dataLen, response, alike_writtenSys calls _ matched.alike⟩
  · have rejected' : ¬ WriteAccepted request second.dataLen := matched.dataLen ▸ accepted
    have ran' := @run_ipmiWriteEEPROM_rejected calls request second rejected'
    rw [← matched.dataLen] at ran'
    exact ⟨_, _, _, run_ipmiWriteEEPROM_rejected calls accepted, ran', matched.dataLen, response,
      matched.alike⟩

theorem runsAlike_sfpStatus {base : ℤ} {status : Int → UInt8} (calls : GpioRead) (locals : Locals)
    (matched : Matched .lines first second) :
    RunsAlike .lines (sfpStatus base status calls locals request) first second := by
  have response := matched.response
  by_cases right : first.dataLen = 1
  · have right' : second.dataLen = 1 := matched.dataLen ▸ right
    by_cases inside : (request 0).toNat < getSFPSum
    · have gpio := alike_lines_iff.mp matched.alike
      have ran := @run_sfpStatus_read base status calls locals request first _ right inside rfl
      have ran' := @run_sfpStatus_read base status calls locals request second _ right' inside rfl
      rw [← gpio] at ran'
      by_cases failed : (calls.outcome (first.gpio (gpioLine base (request 0)))).value locals = -1
      · rw [if_pos failed] at ran ran'
        exact ⟨_, _, _, ran, ran', rfl, response, alike_lines_iff.mpr rfl⟩
      · rw [if_neg failed] at ran ran'
        exact ⟨_, _, _, ran, ran', rfl, by rw [response], alike_lines_iff.mpr rfl⟩
    · have outside := not_lt.mp inside
      exact ⟨_, _, _, run_sfpStatus_range right outside, run_sfpStatus_range right' outside, rfl,
        response, matched.alike⟩
  · have wrong' : second.dataLen ≠ 1 := matched.dataLen ▸ right
    exact ⟨_, _, _, run_sfpStatus_length right, run_sfpStatus_length wrong', rfl, response,
      matched.alike⟩

theorem runsAlike_setSFPLowPowerMode (calls : CharWrite) (matched : Matched .lines first second) :
    RunsAlike .lines (ipmiSetSFPLowPowerMode calls request) first second := by
  have response := matched.response
  by_cases right : first.dataLen = 2
  · have right' : second.dataLen = 2 := matched.dataLen ▸ right
    have gpio := alike_lines_iff.mp matched.alike
    have ran := @run_ipmiSetSFPLowPowerMode_write calls request first _ right rfl
    have ran' := @run_ipmiSetSFPLowPowerMode_write calls request second _ right' rfl
    rw [← gpio, ← response] at ran'
    exact ⟨_, _, _, ran, ran', rfl, rfl, alike_lines_iff.mpr rfl⟩
  · have wrong' : second.dataLen ≠ 2 := matched.dataLen ▸ right
    exact ⟨_, _, _, run_ipmiSetSFPLowPowerMode_length right,
      run_ipmiSetSFPLowPowerMode_length wrong', matched.dataLen, response, matched.alike⟩

theorem runsAlike_sfpReset (calls : CharWrite) (matched : Matched .device first second) :
    RunsAlike .device (ipmiSFPReset calls request) first second := by
  have response := matched.response
  by_cases right : first.dataLen = 1
  · have right' : second.dataLen = 1 := matched.dataLen ▸ right
    have ran' := @run_ipmiSFPReset_reset calls request second right'
    rw [← response] at ran'
    exact ⟨_, _, _, run_ipmiSFPReset_reset right, ran', rfl, rfl, alike_device _ _⟩
  · have wrong' : second.dataLen ≠ 1 := matched.dataLen ▸ right
    exact ⟨_, _, _, run_ipmiSFPReset_length right, run_ipmiSFPReset_length wrong', matched.dataLen,
      response, alike_device _ _⟩

theorem runsAlike_getSFPEEPROM (calls : SffCalls) (matched : Matched .files first second) :
    RunsAlike .files (ipmigetSFPEEPROM calls request) first second := by
  have response := matched.response
  have files := alike_files_iff.mp matched.alike
  by_cases right : first.dataLen = 4
  · have right' : second.dataLen = 4 := matched.dataLen ▸ right
    by_cases inside : (request 0).toNat < getSFPSum
    · have module := sffFile_ne_chipFile inside
      have same : second.files (sffFile (request 0).toNat) = first.files (sffFile (request 0).toNat) := by
        rw [World.files_of_ne module, World.files_of_ne module, files]
      cases answered : calls.outcome (first.files (sffFile (request 0).toNat)) with
      | error status =>
          exact ⟨_, _, _, run_ipmigetSFPEEPROM_error right inside answered,
            run_ipmigetSFPEEPROM_error right' inside (same ▸ answered), rfl, response,
            alike_files_iff.mpr files⟩
      | ok delivered =>
          exact ⟨_, _, _, run_ipmigetSFPEEPROM_ok right inside answered,
            run_ipmigetSFPEEPROM_ok right' inside (same ▸ answered), rfl, by rw [response],
            alike_files_iff.mpr files⟩
    · have outside := not_lt.mp inside
      exact ⟨_, _, _, run_ipmigetSFPEEPROM_range right outside,
        run_ipmigetSFPEEPROM_range right' outside, rfl, response, matched.alike⟩
  · have wrong' : second.dataLen ≠ 4 := matched.dataLen ▸ right
    exact ⟨_, _, _, run_ipmigetSFPEEPROM_length right, run_ipmigetSFPEEPROM_length wrong',
      matched.dataLen, response, matched.alike⟩

theorem runsAlike_getSFPSum (matched : Matched .device first second) :
    RunsAlike .device ipmiGetSFPSum first second := by
  have response := matched.response
  by_cases right : first.dataLen = 0
  · have right' : second.dataLen = 0 := matched.dataLen ▸ right
    exact ⟨_, _, _, run_ipmiGetSFPSum_ok right, run_ipmiGetSFPSum_ok right', rfl, by rw [response],
      alike_device _ _⟩
  · have wrong' : second.dataLen ≠ 0 := matched.dataLen ▸ right
    exact ⟨_, _, _, run_ipmiGetSFPSum_length right, run_ipmiGetSFPSum_length wrong', matched.dataLen,
      response, alike_device _ _⟩

theorem runsAlike_readCPLDEEPROM (calls : CpldCalls) (temp : Buffer)
    (matched : Matched .device first second) :
    RunsAlike .device (ipmiReadCPLDEEPROM calls temp request) first second := by
  have response := matched.response
  by_cases right : first.dataLen = 2
  · have right' : second.dataLen = 2 := matched.dataLen ▸ right
    exact ⟨_, _, _, run_ipmiReadCPLDEEPROM_ok right, run_ipmiReadCPLDEEPROM_ok right', rfl,
      by rw [response], alike_device _ _⟩
  · have wrong' : second.dataLen ≠ 2 := matched.dataLen ▸ right
    exact ⟨_, _, _, run_ipmiReadCPLDEEPROM_length right, run_ipmiReadCPLDEEPROM_length wrong', rfl,
      response, alike_device _ _⟩

theorem runsAlike_readVRINFO (calls : VrCalls) (matched : Matched .device first second) :
    RunsAlike .device (ipmiReadVRINFO calls request) first second := by
  have response := matched.response
  by_cases right : first.dataLen = 2
  · have right' : second.dataLen = 2 := matched.dataLen ▸ right
    cases calls.reach (calls.row request) with
    | unopened unopened =>
        exact ⟨_, _, _, run_ipmiReadVRINFO_unopened right unopened,
          run_ipmiReadVRINFO_unopened right' unopened, matched.dataLen, response, alike_device _ _⟩
    | unselected opened unselected =>
        exact ⟨_, _, _, run_ipmiReadVRINFO_unselected right opened unselected,
          run_ipmiReadVRINFO_unselected right' opened unselected, matched.dataLen, response,
          alike_device _ _⟩
    | unread opened selected unread =>
        exact ⟨_, _, _, run_ipmiReadVRINFO_unread right opened selected unread,
          run_ipmiReadVRINFO_unread right' opened selected unread, matched.dataLen, response,
          alike_device _ _⟩
    | read opened selected read =>
        exact ⟨_, _, _, run_ipmiReadVRINFO_read right opened selected read,
          run_ipmiReadVRINFO_read right' opened selected read, rfl, by rw [response],
          alike_device _ _⟩
  · have wrong' : second.dataLen ≠ 2 := matched.dataLen ▸ right
    exact ⟨_, _, _, run_ipmiReadVRINFO_length right, run_ipmiReadVRINFO_length wrong', rfl, response,
      alike_device _ _⟩

/-- On the EEPROM of the raw commands and the assets every byte is written alike. -/
theorem alike_overwrite_chip {store : Store} {start count : ℕ} {source : Buffer}
    (alike : store.Alike first second) :
    store.Alike (first.overwrite chipFile start count source)
      (second.overwrite chipFile start count source) := by
  unfold World.overwrite
  rw [if_pos rfl, if_pos rfl]
  intro location held
  cases location with
  | eeprom address =>
      have cell := singleton_inj.mp (alike (.eeprom address) held)
      refine singleton_inj.mpr ?_
      simp only [overlay, cell]
  | record object index => exact alike (.record object index) held
  | gotFlag index => exact alike (.gotFlag index) held
  | gpio line => exact alike (.gpio line) held
  | i2cFile name index => exact alike (.i2cFile name index) held
  | fanMode => exact alike .fanMode held

theorem alike_overwrite_file {name : CString} {start count : ℕ} {source : Buffer}
    (other : name ≠ chipFile) (alike : Store.files.Alike first second) :
    Store.files.Alike (first.overwrite name start count source)
      (second.overwrite name start count source) := by
  have files := alike_files_iff.mp alike
  unfold World.overwrite
  rw [if_neg other, if_neg other]
  exact alike_files_iff.mpr (by simp only [files])

theorem macStored_reply (world : World) (calls : MacCalls) (request : Buffer) :
    (world.macStored calls request).dataLen = world.dataLen ∧
      (world.macStored calls request).response = world.response := by
  obtain ⟨cells, files, kept⟩ := world.overwrite_frame _ _ _ _
  rw [World.macStored, kept]
  exact ⟨rfl, rfl⟩

theorem runsAlike_setMACToEEPROM {bytes : Request} (calls : MacCalls)
    (matched : Matched ((Command.setMACToEEPROM calls).store bytes) first second) :
    RunsAlike ((Command.setMACToEEPROM calls).store bytes) (ipmiSetMACToEEPROM calls bytes.bytes)
      first second := by
  have response := matched.response
  have alike := matched.alike
  by_cases right : first.dataLen = setMACAddressInfoReqSize
  · have right' : second.dataLen = setMACAddressInfoReqSize := matched.dataLen ▸ right
    have ran := @run_ipmiSetMACToEEPROM_store calls bytes.bytes first right
    have ran' := @run_ipmiSetMACToEEPROM_store calls bytes.bytes second right'
    obtain ⟨length, reply⟩ := macStored_reply first calls bytes.bytes
    obtain ⟨length', reply'⟩ := macStored_reply second calls bytes.bytes
    replace length := length.trans (matched.dataLen.trans length'.symm)
    replace reply := reply.trans (response.trans reply'.symm)
    by_cases chip : macEepromFile (bytes.bytes 0) (bytes.bytes 1) = chipFile
    · have shown : ∀ world : World, (world.files chipFile).isSome = true := fun world => by
        rw [World.files, Function.update_self]
        rfl
      rw [chip, shown] at ran ran'
      refine ⟨_, _, _, ran, ran', length, reply, ?_⟩
      unfold World.macStored
      rw [chip]
      exact alike_overwrite_chip alike
    · have family : (Command.setMACToEEPROM calls).store bytes = .files := if_neg chip
      rw [family] at alike ⊢
      have same : second.files (macEepromFile (bytes.bytes 0) (bytes.bytes 1)) =
          first.files (macEepromFile (bytes.bytes 0) (bytes.bytes 1)) := by
        rw [World.files_of_ne chip, World.files_of_ne chip, alike_files_iff.mp alike]
      rw [same] at ran'
      exact ⟨_, _, _, ran, ran', length, reply, alike_overwrite_file chip alike⟩
  · have wrong' : second.dataLen ≠ setMACAddressInfoReqSize := matched.dataLen ▸ right
    exact ⟨_, _, _, run_ipmiSetMACToEEPROM_length right, run_ipmiSetMACToEEPROM_length wrong', rfl,
      response, alike⟩

theorem alike_fanVerdict (calls : SetFanCalls) (verdict : FanVerdict)
    (same : first.fanMode = second.fanMode) :
    (verdict.after calls request first).fanMode =
      (verdict.after calls request second).fanMode := by
  cases verdict with
  | unknown => exact same
  | unset => simp only [FanVerdict.after, World.echoed, same]
  | automatic => simp only [FanVerdict.after, World.echoed, same]
  | forbidden => simp only [FanVerdict.after, World.echoed, same]
  | handed info => simp only [FanVerdict.after, World.echoed, World.sensorUpdated, same]

theorem fanVerdict_after_reply (calls : SetFanCalls) (verdict : FanVerdict) (world : World) :
    (verdict.after calls request world).dataLen = world.dataLen ∧
      (verdict.after calls request world).response = world.response := by
  cases verdict <;> exact ⟨rfl, rfl⟩

theorem runsAlike_setFan (sensors : SensorTable) (calls : SetFanCalls)
    (matched : Matched .fan first second) :
    RunsAlike .fan (ipmiSetFan sensors calls request) first second := by
  by_cases fits : FanRequestFits request first.dataLen
  · have fits' : FanRequestFits request second.dataLen := matched.dataLen ▸ fits
    let verdict := fanVerdict sensors calls request
    have mode := @alike_fanVerdict request _ _ calls verdict (alike_fan_iff.mp matched.alike)
    obtain ⟨length, reply⟩ := @fanVerdict_after_reply request calls verdict first
    obtain ⟨length', reply'⟩ := @fanVerdict_after_reply request calls verdict second
    have response := reply.trans (matched.response.trans reply'.symm)
    rcases verdict.outcome_cases (request 0) (request 2) with ⟨code, answers⟩ | throws
    · exact ⟨_, _, _, run_ipmiSetFan_answers fits answers, run_ipmiSetFan_answers fits' answers, rfl,
        response, alike_fan_iff.mpr mode⟩
    · exact ⟨_, _, _, run_ipmiSetFan_throws fits throws, run_ipmiSetFan_throws fits' throws,
        length.trans (matched.dataLen.trans length'.symm), response, alike_fan_iff.mpr mode⟩
  · have misfit' : ¬ FanRequestFits request second.dataLen := matched.dataLen ▸ fits
    exact ⟨_, _, _, run_ipmiSetFan_misfit fits, run_ipmiSetFan_misfit misfit', rfl, matched.response,
      matched.alike⟩

/-- Why no value is delivered does not depend on the state. -/
theorem getFan_refuses {sensors : SensorTable} {reads : Bool}
    (missing : fanValue? sensors request = none) :
    ∃ code, code ≠ ccOk ∧
      ∀ world, (getFan sensors reads request).run world = (.returned code, world) := by
  unfold fanValue? at missing
  unfold getFan
  cases present : sensors (request 0) with
  | none => exact ⟨ccSensorInvalid, ccSensorInvalid_ne_ok, fun _ => rfl⟩
  | some info =>
      simp only [present] at missing
      dsimp only
      cases readable : info.readable with
      | false => exact ⟨ccIllegalCommand, ccIllegalCommand_ne_ok, fun _ => rfl⟩
      | true =>
          rw [if_neg (by simp)]
          by_cases fan : info.sensorType = fanType
          · rw [if_neg (not_not_intro fan)]
            rw [if_pos ⟨readable, fan⟩] at missing
            cases got : info.getFunc with
            | ok value =>
                rw [got] at missing
                cases missing
            | error error => exact ⟨ccUnspecifiedError, ccUnspecifiedError_ne_ok, fun _ => rfl⟩
          · rw [if_pos fan]
            exact ⟨ccSensorInvalid, ccSensorInvalid_ne_ok, fun _ => rfl⟩

theorem runsAlike_getFan (sensors : SensorTable) (reads : Bool) (matched : Matched .fan first second) :
    RunsAlike .fan (ipmiGetFan sensors reads request) first second := by
  have response := matched.response
  by_cases right : first.dataLen = 1
  · have right' : second.dataLen = 1 := matched.dataLen ▸ right
    cases found : fanValue? sensors request with
    | some value =>
        have mode := alike_fan_iff.mp matched.alike
        refine ⟨_, _, _, run_ipmiGetFan_ok right found, run_ipmiGetFan_ok right' found, rfl, ?_,
          matched.alike⟩
        simp only [World.fanSent, response, mode]
    | none =>
        obtain ⟨code, error, refuses⟩ := @getFan_refuses request sensors reads found
        have ran : ∀ {world : World}, world.dataLen = 1 → (ipmiGetFan sensors reads request).run world =
            (.returned code, { world with dataLen := 0 }) := by
          intro world one
          unfold ipmiGetFan
          rw [run_getDataLen_bind, if_neg (not_not_intro one), Process.run_bind_returned (refuses world),
            if_neg error]
          rfl
        exact ⟨_, _, _, ran right, ran right', rfl, response, matched.alike⟩
  · have ran : ∀ {world : World}, world.dataLen ≠ 1 → (ipmiGetFan sensors reads request).run world =
        (.returned ccReqDataLenInvalid, { world with dataLen := 0 }) := by
      intro world wrong
      unfold ipmiGetFan
      rw [run_getDataLen_bind, if_pos wrong]
      rfl
    have wrong' : second.dataLen ≠ 1 := matched.dataLen ▸ right
    exact ⟨_, _, _, ran right, ran wrong', rfl, response, matched.alike⟩

theorem Message.runsAlike (message : Message) (matched : Matched message.store first second) :
    RunsAlike message.store (message.command.handler message.request.bytes) first second := by
  obtain ⟨command, request, response⟩ := message
  cases command with
  | device command =>
      cases command with
      | setSystemInfo calls => exact runsAlike_setSystemInfo calls matched
      | getSystemInfo calls => exact runsAlike_getSystemInfo calls matched
      | readEEPROM calls => exact runsAlike_readEEPROM calls matched
      | writeEEPROM calls => exact runsAlike_writeEEPROM calls matched
      | getSFPPresent calls locals => exact runsAlike_sfpStatus calls locals matched
      | getSFPInterruptInfo calls locals => exact runsAlike_sfpStatus calls locals matched
      | getSFPLowPowerMode calls locals => exact runsAlike_sfpStatus calls locals matched
      | setSFPLowPowerMode calls => exact runsAlike_setSFPLowPowerMode calls matched
      | sfpReset calls => exact runsAlike_sfpReset calls matched
      | getSFPEEPROM calls => exact runsAlike_getSFPEEPROM calls matched
  | readCPLDEEPROM calls temp => exact runsAlike_readCPLDEEPROM calls temp matched
  | readVRINFO calls => exact runsAlike_readVRINFO calls matched
  | setMACToEEPROM calls => exact runsAlike_setMACToEEPROM calls matched
  | getSFPSum => exact runsAlike_getSFPSum matched
  | setFan sensors calls => exact runsAlike_setFan sensors calls matched
  | getFan sensors reads => exact runsAlike_getFan sensors reads matched

end

/-!
## Runs
-/

/-- A handler that throws leaves the request without a reply, and the daemon goes on;
one that exits ends it. -/
def Message.answer (world : World) (message : Message) : Option (Option Reply × World) :=
  match (message.command.handler message.request.bytes).run
      ((world.withResponse message.response).receive message.request.length) with
  | (.returned code, after) => some (some ⟨code, after.dataLen, after.response⟩, after)
  | (.thrown _, after) => some (none, after)
  | (.exited _, _) => none

theorem answer_inside {message : Message} {first second next : World} {reply : Option Reply}
    (stdin : first.StdinOpen) (stdin' : second.StdinOpen)
    (same : message.store.Alike first second)
    (answered : message.answer first = some (reply, next)) :
    ∃ next', message.answer second = some (reply, next') ∧ message.store.Alike next next' := by
  have matched : Matched message.store
      ((first.withResponse message.response).receive message.request.length)
      ((second.withResponse message.response).receive message.request.length) :=
    ⟨rfl, rfl, stdin, stdin', same⟩
  obtain ⟨outcome, after, after', ran, ran', length, data, alike⟩ := message.runsAlike matched
  unfold Message.answer at answered ⊢
  rw [ran] at answered
  rw [ran']
  cases outcome with
  | returned code =>
      cases answered
      exact ⟨after', by rw [length, data], alike⟩
  | thrown error =>
      cases answered
      exact ⟨after', rfl, alike⟩
  | exited status => cases answered

theorem Message.answer_framed {message : Message} {world next : World} {reply : Option Reply}
    (answered : message.answer world = some (reply, next)) :
    Framed message.Writes message.replySize
      ((world.withResponse message.response).receive message.request.length) next := by
  have framed := message.command.framed message.request (world.withResponse message.response)
  unfold Command.Framed Command.after at framed
  unfold Message.answer at answered
  split at answered
  · rename_i ran
    rw [ran] at framed
    cases answered
    exact framed
  · rename_i ran
    rw [ran] at framed
    cases answered
    exact framed
  · cases answered

theorem answer_outside {message : Message} {store : Store} {world next : World}
    {reply : Option Reply} (other : message.store ≠ store)
    (answered : message.answer world = some (reply, next)) : store.Alike next world := by
  intro location held
  have outside : ¬ message.Writes location := fun written => other (Message.writes_own written held)
  exact (Message.answer_framed answered).kept location outside

theorem commands_separated :
    Separated (fun world message => Message.answer world message) Message.store World.StdinOpen
      Store.Alike where
  symm same location held := (same location held).symm
  trans first second location held := (first location held).trans (second location held)
  inside stdin stdin' same answered := answer_inside stdin stdin' same answered
  outside other answered := answer_outside other answered
  keeps stdin answered := (Message.answer_framed answered).descriptors stdin

/-- In two runs the requests of one family are the same and arrive in the same
order. Whatever the other families ask in between, however the system answers
them and wherever the daemon ends, this family gets the same replies from stores that
started alike, as far as both daemons live; where the second lives on, it gets there all
that it gets from the first. -/
theorem family_replies_independent {store : Store} {world world' : World}
    {messages messages' : List Message} (stdin : world.StdinOpen) (stdin' : world'.StdinOpen)
    (same : store.Alike world world')
    (asked : (messages.filter fun message => message.store = store) =
      messages'.filter fun message => message.store = store) :
    let log := (replyLog Message.answer world messages).filter fun entry => entry.1.store = store
    let log' := (replyLog Message.answer world' messages').filter fun entry => entry.1.store = store
    (log <+: log' ∨ log' <+: log) ∧
      (Survives Message.answer world' messages' → log <+: log') :=
  commands_separated.replies_agree stdin stdin' same asked

/-- Two get-fan requests, of which one comes too late behind a request that finds a bus
without transfers and ends the daemon. -/
theorem fan_reply_independent_of_exit :
    let getFan : Message := ⟨.getFan (fun _ => some .pwm) true, ⟨fun _ => 0, 1⟩, fun _ => 0⟩
    let getRecords : Message :=
      ⟨.device (.getSystemInfo ⟨fun _ => ⟨true, some 0, true⟩, fun _ => true, fun _ => true⟩),
        ⟨fun _ => deviceTypeFwRevision, 1⟩, fun _ => 0⟩
    let log := (replyLog Message.answer World.boot [getFan, getRecords, getFan]).filter
      fun entry => entry.1.store = .fan
    let log' := (replyLog Message.answer World.boot [getFan, getFan]).filter
      fun entry => entry.1.store = .fan
    log.length = 1 ∧ log'.length = 2 ∧ log <+: log' := by
  intro getFan getRecords log log'
  have stdin : World.boot.StdinOpen := show 0 ∈ World.boot.fds by decide
  refine ⟨rfl, rfl, ?_⟩
  have independent := @family_replies_independent .fan _ _ [getFan, getRecords, getFan]
    [getFan, getFan] stdin stdin (fun _ _ => rfl) rfl
  exact independent.2 rfl

end InspurIpmi

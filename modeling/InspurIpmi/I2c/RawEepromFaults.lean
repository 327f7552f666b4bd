import InspurIpmi.I2c.RawEepromArray

/-!
# Bus faults behind the raw EEPROM commands

Every byte is a transfer of its own that may fail. What a success says about the
transfers depends on who looks at their status.
-/

set_option autoImplicit false

namespace InspurIpmi

open Foundation

namespace RawCommand

/-- The transfers of one byte: a read sets the address and receives the byte, a
write sends both. -/
def transfers : RawCommand → ℕ → Bool
  | readEEPROM calls _, index => calls.writes index && calls.reads index
  | writeEEPROM calls _, index => calls.writes index

def count (command : RawCommand) : ℕ := (command.request.bytes 1).toNat

/-- Byte `index` has made its way between the request or the reply and the chip. -/
def Moved (reply : Reply) (after : World) : RawCommand → ℕ → Prop
  | readEEPROM _ request, index =>
      reply.data index = after.eeprom.cells ((request.bytes 0).toNat + index)
  | writeEEPROM _ request, index =>
      after.eeprom.cells ((request.bytes 0).toNat + index) = request.bytes (2 + index)

/-- Success is answered only when no transfer of the request failed. -/
def FaultsReported (world : World) (command : RawCommand) : Prop :=
  ∀ reply after, command.serve world = some (reply, after) → reply.code = ccOk →
    ∀ index < command.count, command.transfers index = true ∧ command.Moved reply after index

/-- The handler gets as far as the last transfer. -/
def ReachesChip (world : World) : RawCommand → Prop
  | readEEPROM calls request =>
      request.length = 2 ∧ (calls.opens 0).verdict world.fds = .opened
  | writeEEPROM calls request =>
      WriteAccepted request.bytes request.length ∧
        calls.OpensBelow world.fds (request.bytes 1).toNat

end RawCommand

/-- Where the chip is not reached there is no success. -/
theorem RawCommand.serve_unreached {world : World} {command : RawCommand}
    (unreached : ¬ command.ReachesChip world) :
    ∀ reply after, command.serve world = some (reply, after) → reply.code ≠ ccOk := by
  intro reply after served
  cases command with
  | readEEPROM calls request =>
    by_cases right : request.length = 2
    · have two : (world.receive request.length).dataLen = 2 := right
      cases verdict : (calls.opens 0).verdict world.fds with
      | opened => exact absurd ⟨right, verdict⟩ unreached
      | refused status =>
        rw [RawCommand.serve, serve_returned (run_ipmiReadEEPROM_refused two verdict)] at served
        cases served
        exact ccInvalidFieldRequest_ne_ok
      | halted =>
        rw [RawCommand.serve, InspurIpmi.serve, run_ipmiReadEEPROM_halted two verdict] at served
        cases served
    · rw [RawCommand.serve, serve_returned (run_ipmiReadEEPROM_length right)] at served
      cases served
      exact ccReqDataLenInvalid_ne_ok
  | writeEEPROM calls request =>
    by_cases accepted : WriteAccepted request.bytes request.length
    · cases calls.writeReach world.fds (request.bytes 1).toNat with
      | opened opens => exact absurd ⟨accepted, opens⟩ unreached
      | refused below earlier refused =>
        rw [RawCommand.serve,
          serve_returned (run_ipmiWriteEEPROM_refused accepted below earlier refused)] at served
        cases served
        exact ccInvalidFieldRequest_ne_ok
      | halted below earlier halted =>
        have ended : (ipmiWriteEEPROM calls request.bytes).run (world.receive request.length) = _ :=
          run_ipmiWriteEEPROM_halted accepted below earlier halted
        rw [RawCommand.serve, InspurIpmi.serve, ended] at served
        cases served
    · rw [RawCommand.serve, serve_returned (run_ipmiWriteEEPROM_rejected calls accepted)] at served
      cases served
      split
      · exact ccReqDataLenInvalid_ne_ok
      · exact ccInvalidFieldRequest_ne_ok

/-- Where the chip is reached there is success, whatever the transfers did. -/
theorem RawCommand.serve_reached {world : World} {command : RawCommand}
    (reached : command.ReachesChip world) :
    ∃ reply after, command.serve world = some (reply, after) ∧ reply.code = ccOk ∧
      ((∀ index < command.count, command.transfers index = true) →
        ∀ index < command.count, command.Moved reply after index) := by
  cases command with
  | readEEPROM calls request =>
    obtain ⟨right, opened⟩ := reached
    have two : (world.receive request.length).dataLen = 2 := right
    obtain ⟨pointer, ran⟩ := run_ipmiReadEEPROM_opened two opened
    refine ⟨_, _, serve_returned ran, rfl, fun all index below => ?_⟩
    have transferred : (calls.writes index && calls.reads index) = true := all index below
    refine (overlay_front _ _ below).trans ?_
    rw [BusCalls.readByte, if_pos transferred]
    rfl
  | writeEEPROM calls request =>
    obtain ⟨accepted, opens⟩ := reached
    have ran : (ipmiWriteEEPROM calls request.bytes).run (world.receive request.length) = _ :=
      run_ipmiWriteEEPROM_all accepted opens
    refine ⟨_, _, serve_returned ran, rfl, fun all index below => ?_⟩
    have written : ∀ index < (request.bytes 1).toNat, calls.writes index = true := all
    have stored := Chip.storeAll_overlay written (request.bytes 0).toNat
      (fun index => request.bytes (2 + index)) world.eeprom
    change (world.eeprom.storeAll calls.writes _ _ (request.bytes 1).toNat).cells _ = _
    rw [stored]
    have inside : index < (request.bytes 1).toNat := below
    exact overlay_inside world.eeprom.cells (fun index => request.bytes (2 + index)) inside

/-- A success of either command can be trusted exactly when no transfer failed on
the way: their status decides nothing. -/
theorem RawCommand.faultsReported_iff {world : World} (command : RawCommand) :
    command.FaultsReported world ↔
      (command.ReachesChip world → ∀ index < command.count, command.transfers index = true) := by
  constructor
  · intro reported reached index below
    obtain ⟨reply, after, served, success, _⟩ := RawCommand.serve_reached reached
    exact (reported reply after served success index below).1
  · intro transferred reply after served success index below
    by_cases reached : command.ReachesChip world
    · obtain ⟨known, final, servedKnown, _, moved⟩ := RawCommand.serve_reached reached
      rw [servedKnown] at served
      cases served
      have all := transferred reached
      exact ⟨all index below, moved all index below⟩
    · exact absurd success (RawCommand.serve_unreached reached reply after served)

def BusCalls.readsFail : BusCalls := { BusCalls.healthy with reads := fun _ => false }

/-- The error of a transfer is narrowed to a byte of data. -/
theorem faultsReported_lost_by_failed_read :
    ¬ (RawCommand.readEEPROM .readsFail ⟨fun _ => 1, 2⟩).FaultsReported World.boot := by
  intro reported
  have opened : (BusCalls.readsFail.opens 0).verdict World.boot.fds = .opened := by decide
  obtain ⟨reply, after, served, success, _⟩ :=
    @RawCommand.serve_reached World.boot (.readEEPROM .readsFail ⟨fun _ => 1, 2⟩) ⟨rfl, opened⟩
  have transferred := (reported reply after served success 0 (by decide)).1
  exact absurd transferred (by decide)

end InspurIpmi

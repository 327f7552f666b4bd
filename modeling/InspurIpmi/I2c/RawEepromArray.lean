import InspurIpmi.Foundation.Runs
import InspurIpmi.I2c.RawEeprom

/-!
# The raw EEPROM as a byte array

Without bus faults the two raw EEPROM commands are reads and writes of one flat
array, whatever their order and however their ranges overlap.
-/

set_option autoImplicit false

namespace InspurIpmi

open Foundation

inductive RawCommand where
  | readEEPROM (calls : BusCalls) (request : Request)
  | writeEEPROM (calls : BusCalls) (request : Request)

namespace RawCommand

def calls : RawCommand → BusCalls
  | readEEPROM calls _ | writeEEPROM calls _ => calls

def request : RawCommand → Request
  | readEEPROM _ request | writeEEPROM _ request => request

def serve (world : World) : RawCommand → Option (Reply × World)
  | readEEPROM calls request => InspurIpmi.serve (ipmiReadEEPROM calls request.bytes) request.length world
  | writeEEPROM calls request =>
      InspurIpmi.serve (ipmiWriteEEPROM calls request.bytes) request.length world

def arrayAfter (array : ℕ → UInt8) : RawCommand → ℕ → UInt8
  | readEEPROM _ _ => array
  | writeEEPROM _ request =>
      if WriteRequestFits request.bytes request.length then
        overlay array (request.bytes 0).toNat (request.length - 2) fun index => request.bytes (2 + index)
      else array

def Allows (array : ℕ → UInt8) (command : RawCommand) (reply : Reply) : Prop :=
  match command with
  | readEEPROM _ request =>
      request.length = 2 →
        reply.code = ccOk ∧ reply.length = (request.bytes 1).toNat ∧
        ∀ index < reply.length, reply.data index = array ((request.bytes 0).toNat + index)
  | writeEEPROM _ request => reply.code = ccOk ↔ WriteRequestFits request.bytes request.length

structure Valid (command : RawCommand) : Prop where
  faultless : command.calls.Faultless
  length : command.request.length < 2 ^ 31

end RawCommand

theorem serve_readEEPROM {calls : BusCalls} (request : Request) {world : World}
    (faultless : calls.Faultless) (stdin : world.StdinOpen) :
    ∃ reply after, (RawCommand.readEEPROM calls request).serve world = some (reply, after) ∧
      RawCommand.Allows world.eeprom.cells (.readEEPROM calls request) reply ∧
      after.eeprom.cells = world.eeprom.cells ∧ after.fds = world.fds := by
  by_cases right : request.length = 2
  · have two : (world.receive request.length).dataLen = 2 := right
    obtain ⟨pointer, ran⟩ := run_ipmiReadEEPROM_opened two ((faultless.opens 0).verdict stdin)
    refine ⟨_, _, serve_returned ran, fun _ => ⟨rfl, rfl, fun index below => ?_⟩, rfl, rfl⟩
    exact (overlay_front _ _ below).trans (by rw [faultless.readByte]; rfl)
  · exact ⟨_, _, serve_returned (run_ipmiReadEEPROM_length right),
      fun two => absurd two right, rfl, rfl⟩

theorem serve_writeEEPROM {calls : BusCalls} {request : Request} {world : World}
    (faultless : calls.Faultless) (small : request.length < 2 ^ 31) (stdin : world.StdinOpen) :
    ∃ reply after, (RawCommand.writeEEPROM calls request).serve world = some (reply, after) ∧
      RawCommand.Allows world.eeprom.cells (.writeEEPROM calls request) reply ∧
      after.eeprom.cells = (RawCommand.writeEEPROM calls request).arrayAfter world.eeprom.cells ∧
      after.fds = world.fds := by
  have acceptance : WriteAccepted request.bytes (world.receive request.length).dataLen ↔
      WriteRequestFits request.bytes request.length := writeAccepted_iff small
  by_cases fits : WriteRequestFits request.bytes request.length
  · have ran := run_ipmiWriteEEPROM_all (acceptance.mpr fits)
      (faultless.opensBelow stdin _)
    refine ⟨_, _, serve_returned ran, ⟨fun _ => fits, fun _ => rfl⟩, ?_, rfl⟩
    simp only [RawCommand.arrayAfter, fits, if_true, World.writtenSys]
    rw [Chip.storeAll_overlay fun index _ => faultless.writes index, fits.2]
    rfl
  · have ran := run_ipmiWriteEEPROM_rejected calls (mt acceptance.mp fits)
    refine ⟨_, _, serve_returned ran, ⟨fun accepted => ?_, fun shape => absurd shape fits⟩, ?_, rfl⟩
    · split at accepted <;> simp at accepted
    · simp only [RawCommand.arrayAfter, fits, if_false]
      rfl

/-- Raw reads and writes refine one flat byte array over every run. -/
theorem raw_eeprom_refines_array {world : World} (stdin : world.StdinOpen)
    {commands : List RawCommand} (valid : ∀ command ∈ commands, command.Valid) :
    Refines RawCommand.serve (fun state => state.eeprom.cells) RawCommand.arrayAfter
      RawCommand.Allows world commands := by
  refine refines_of_step (fun state command stdin validCommand => ?_) stdin valid
  cases command with
  | readEEPROM calls request =>
      obtain ⟨reply, after, served, allowed, same, fds⟩ :=
        serve_readEEPROM request validCommand.faultless stdin
      exact ⟨reply, after, served, allowed, same, show 0 ∈ after.fds from fds ▸ stdin⟩
  | writeEEPROM calls request =>
      obtain ⟨reply, after, served, allowed, moved, fds⟩ :=
        serve_writeEEPROM validCommand.faultless validCommand.length stdin
      exact ⟨reply, after, served, allowed, moved, show 0 ∈ after.fds from fds ▸ stdin⟩

theorem raw_eeprom_refines_array_boot :
    Refines RawCommand.serve (fun state => state.eeprom.cells) RawCommand.arrayAfter
      RawCommand.Allows World.boot
      [.writeEEPROM .healthy ⟨fun index => [0xFF, 2, 7, 9].getD index 0, 4⟩,
        .readEEPROM .healthy ⟨fun index => [0xFE, 4].getD index 0, 2⟩] :=
  raw_eeprom_refines_array (show 0 ∈ World.boot.fds by decide) fun command member => by
    simp only [List.mem_cons, List.not_mem_nil, or_false] at member
    rcases member with rfl | rfl <;>
      exact ⟨BusCalls.healthy_faultless, by simp [RawCommand.request]⟩

end InspurIpmi

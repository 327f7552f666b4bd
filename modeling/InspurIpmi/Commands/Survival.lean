import InspurIpmi.Bios.Effects
import InspurIpmi.Commands

/-!
# Device failures

Which device failures are answered, and which end the process.
-/

set_option autoImplicit false

namespace InspurIpmi

open Foundation

inductive BusCommand where
  | readVRINFO (calls : VrCalls)
  | readEEPROM (calls : BusCalls)
  | writeEEPROM (calls : BusCalls)
  | setSystemInfo (calls : BusCalls)
  | getSystemInfo (calls : BusCalls)

def VrCalls.StepFails (calls : VrCalls) (row : InputVRVerRes) : Prop :=
  lookupI2cBus calls.adapters row.bus < 0 ∨ parseI2cAddress row.addr false < 0 ∨
    calls.opens row = false ∨ ¬ calls.Selects row ∨ calls.byte? row = none

namespace BusCommand

def command : BusCommand → Command
  | readVRINFO calls => .readVRINFO calls
  | readEEPROM calls => .device (.readEEPROM calls)
  | writeEEPROM calls => .device (.writeEEPROM calls)
  | setSystemInfo calls => .device (.setSystemInfo calls)
  | getSystemInfo calls => .device (.getSystemInfo calls)

def StepFails (request : Buffer) : BusCommand → Prop
  | readVRINFO calls => calls.StepFails (calls.row request)
  | _ => False

def Answers (request : Request) (world : World) (command : BusCommand) : Prop :=
  ∃ code after, (command.command.handler request.bytes).run (world.receive request.length) =
      (.returned code, after) ∧
    (command.StepFails request.bytes → code ≠ ccOk)

/-- No device is open that turns out to lack a capability; a regulator whose
device opens can be read, at a bus and an address that are valid. -/
def Tolerates (request : Request) (world : World) : BusCommand → Prop
  | readVRINFO calls =>
      let row := calls.row request.bytes
      request.length = 2 → calls.opens row = true →
        calls.Selects row ∧ calls.byte? row ≠ none ∧
          0 ≤ lookupI2cBus calls.adapters row.bus ∧ 0 ≤ parseI2cAddress row.addr false
  | readEEPROM calls => request.length = 2 → (calls.opens 0).verdict world.fds ≠ .halted
  | writeEEPROM calls =>
      WriteAccepted request.bytes request.length → ∀ index < (request.bytes 1).toNat,
        calls.OpensBelow world.fds index → (calls.opens index).verdict world.fds ≠ .halted
  | setSystemInfo calls => 14 < request.length → (calls.opens 0).verdict world.fds ≠ .halted
  | getSystemInfo calls =>
      request.length = 1 → world.assetInfoGotFlag (request.bytes 0).toNat = 0 →
        (calls.opens 0).verdict world.fds ≠ .halted

end BusCommand

section

variable {request : Request} {world : World}

theorem answers_of_run {command : BusCommand} {code : CompletionCode} {after : World}
    (ran : (command.command.handler request.bytes).run (world.receive request.length) =
      (.returned code, after))
    (reported : command.StepFails request.bytes → code ≠ ccOk) : command.Answers request world :=
  ⟨code, after, ran, reported⟩

theorem not_answers_of_exit {command : BusCommand} {status : Int} {after : World}
    (ran : (command.command.handler request.bytes).run (world.receive request.length) =
      (.exited status, after)) : ¬ command.Answers request world := by
  rintro ⟨code, reached, returned, _⟩
  rw [ran] at returned
  cases returned

theorem answers_iff_of_success {command : BusCommand} {after : World}
    (ran : (command.command.handler request.bytes).run (world.receive request.length) =
      (.returned ccOk, after)) :
    command.Answers request world ↔ ¬ command.StepFails request.bytes := by
  constructor
  · rintro ⟨code, reached, returned, reported⟩ fails
    rw [ran] at returned
    cases returned
    exact reported fails rfl
  · intro sound
    exact answers_of_run ran fun fails => absurd fails sound

theorem VrCalls.stepFails_iff {calls : VrCalls} {row : InputVRVerRes} {byte : UInt8}
    (opened : calls.opens row = true) (selected : calls.Selects row)
    (read : calls.byte? row = some byte) :
    calls.StepFails row ↔
      lookupI2cBus calls.adapters row.bus < 0 ∨ parseI2cAddress row.addr false < 0 := by
  simp [VrCalls.StepFails, opened, selected, read]

theorem answers_readVRINFO {calls : VrCalls} :
    (BusCommand.readVRINFO calls).Answers request world ↔
      (BusCommand.readVRINFO calls).Tolerates request world := by
  unfold BusCommand.Tolerates
  by_cases right : request.length = 2
  · have two : (world.receive request.length).dataLen = 2 := right
    simp only [right, forall_const]
    cases calls.reach (calls.row request.bytes) with
    | unopened unopened =>
        refine iff_of_true (answers_of_run (run_ipmiReadVRINFO_unopened two unopened)
          fun _ => ccInvalidFieldRequest_ne_ok) fun opened => ?_
        exact absurd opened (unopened.trans_ne Bool.false_ne_true)
    | unselected opened unselected =>
        exact iff_of_false
          (not_answers_of_exit (run_ipmiReadVRINFO_unselected two opened unselected))
          fun all => unselected (all opened).1
    | unread opened selected unread =>
        exact iff_of_false
          (not_answers_of_exit (run_ipmiReadVRINFO_unread two opened selected unread))
          fun all => (all opened).2.1 unread
    | read opened selected read =>
        have ran := run_ipmiReadVRINFO_read two opened selected read
        refine (@answers_iff_of_success request world (.readVRINFO calls) _ ran).trans ?_
        refine (not_congr (VrCalls.stepFails_iff opened selected read)).trans ?_
        simp [opened, selected, read]
  · simp only [right, IsEmpty.forall_iff, iff_true]
    exact answers_of_run (run_ipmiReadVRINFO_length right) fun _ => ccReqDataLenInvalid_ne_ok

theorem answers_readEEPROM {calls : BusCalls} :
    (BusCommand.readEEPROM calls).Answers request world ↔
      (BusCommand.readEEPROM calls).Tolerates request world := by
  unfold BusCommand.Tolerates
  by_cases right : request.length = 2
  · have two : (world.receive request.length).dataLen = 2 := right
    simp only [right, forall_const]
    cases verdict : (calls.opens 0).verdict world.fds with
    | halted =>
        exact iff_of_false (not_answers_of_exit (run_ipmiReadEEPROM_halted two verdict))
          (not_not_intro rfl)
    | refused status =>
        exact iff_of_true (answers_of_run (run_ipmiReadEEPROM_refused two verdict) False.elim)
          (by simp)
    | opened =>
        obtain ⟨pointer, ran⟩ := run_ipmiReadEEPROM_opened two verdict
        exact iff_of_true (answers_of_run ran False.elim) (by simp)
  · simp only [right, IsEmpty.forall_iff, iff_true]
    exact answers_of_run (run_ipmiReadEEPROM_length right) False.elim

theorem answers_writeEEPROM {calls : BusCalls} :
    (BusCommand.writeEEPROM calls).Answers request world ↔
      (BusCommand.writeEEPROM calls).Tolerates request world := by
  unfold BusCommand.Tolerates
  by_cases accepted : WriteAccepted request.bytes request.length
  · simp only [accepted, forall_const]
    cases calls.writeReach world.fds (request.bytes 1).toNat with
    | opened opens =>
        exact iff_of_true (answers_of_run (run_ipmiWriteEEPROM_all accepted opens) False.elim)
          fun index below _ => (opens index below).trans_ne (by simp)
    | halted below earlier halted =>
        refine Iff.trans ?_ (Process.forall_reached_iff below earlier (halted.trans_ne (by simp))
          fun index opened => opened.trans_ne (by simp)).symm
        exact iff_of_false
          (not_answers_of_exit (run_ipmiWriteEEPROM_halted accepted below earlier halted))
          (not_not_intro halted)
    | refused below earlier refused =>
        refine Iff.trans ?_ (Process.forall_reached_iff below earlier (refused.trans_ne (by simp))
          fun index opened => opened.trans_ne (by simp)).symm
        exact iff_of_true
          (answers_of_run (run_ipmiWriteEEPROM_refused accepted below earlier refused) False.elim)
          (refused.trans_ne (by simp))
  · simp only [accepted, IsEmpty.forall_iff, iff_true]
    exact answers_of_run (run_ipmiWriteEEPROM_rejected calls accepted) False.elim

theorem answers_setSystemInfo {calls : BusCalls} :
    (BusCommand.setSystemInfo calls).Answers request world ↔
      (BusCommand.setSystemInfo calls).Tolerates request world := by
  unfold BusCommand.Tolerates
  by_cases long : 14 < request.length
  · simp only [long, forall_const]
    cases calls.assetReach (request.bytes 0) world.fds with
    | halted halted =>
        exact iff_of_false (not_answers_of_exit (run_ipmiSetSystemInfo_halted long halted))
          (not_not_intro halted)
    | failed failed alive =>
        exact iff_of_true
          (answers_of_run (run_ipmiSetSystemInfo_failed long failed alive) False.elim) alive
    | opened supported opened =>
        exact iff_of_true
          (answers_of_run (run_ipmiSetSystemInfo_opened long supported opened) False.elim)
          (opened.trans_ne (by simp))
  · simp only [long, IsEmpty.forall_iff, iff_true]
    exact answers_of_run (run_ipmiSetSystemInfo_length (not_lt.mp long)) False.elim

theorem answers_getSystemInfo {calls : BusCalls} :
    (BusCommand.getSystemInfo calls).Answers request world ↔
      (BusCommand.getSystemInfo calls).Tolerates request world := by
  unfold BusCommand.Tolerates
  by_cases right : request.length = 1
  · have one : (world.receive request.length).dataLen = 1 := right
    simp only [right, forall_const]
    by_cases missing : world.assetInfoGotFlag (request.bytes 0).toNat = 0
    · simp only [missing, forall_const]
      cases calls.assetReach (request.bytes 0) world.fds with
      | halted halted =>
          exact iff_of_false (not_answers_of_exit (run_ipmiGetSystemInfo_halted one missing halted))
            (not_not_intro halted)
      | failed failed alive =>
          exact iff_of_true
            (answers_of_run (run_ipmiGetSystemInfo_failed one missing failed alive) False.elim) alive
      | opened supported opened =>
          obtain ⟨pointer, ran⟩ := run_ipmiGetSystemInfo_opened one missing supported opened
          exact iff_of_true (answers_of_run ran False.elim) (opened.trans_ne (by simp))
    · simp only [missing, IsEmpty.forall_iff, iff_true]
      exact answers_of_run (run_ipmiGetSystemInfo_cached one missing) False.elim
  · simp only [right, IsEmpty.forall_iff, iff_true]
    exact answers_of_run (run_ipmiGetSystemInfo_length right) False.elim

end

/-- The device failures that are answered are exactly those the code tolerates. -/
theorem answers_iff (command : BusCommand) (request : Request) (world : World) :
    command.Answers request world ↔ command.Tolerates request world := by
  cases command with
  | readVRINFO calls => exact answers_readVRINFO
  | readEEPROM calls => exact answers_readEEPROM
  | writeEEPROM calls => exact answers_writeEEPROM
  | setSystemInfo calls => exact answers_setSystemInfo
  | getSystemInfo calls => exact answers_getSystemInfo

def BusCalls.incapable : BusCalls := { BusCalls.healthy with opens := fun _ => ⟨true, some 0, true⟩ }

theorem daemon_ended_by_read :
    ¬ (BusCommand.readEEPROM .incapable).Answers ⟨fun _ => 1, 2⟩ World.boot :=
  not_answers_of_exit (run_ipmiReadEEPROM_halted rfl (by decide))

end InspurIpmi

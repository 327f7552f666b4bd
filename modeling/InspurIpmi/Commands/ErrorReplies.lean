import InspurIpmi.Bios.Effects
import InspurIpmi.Commands
import InspurIpmi.ReceivedBytes
import InspurIpmi.Sfp.Effects

/-!
# Error replies

Which requests, when they are answered with an error, are answered with no data.
-/

set_option autoImplicit false

namespace InspurIpmi

open Foundation

def ErrorReplyEmpty (handler : Daemon CompletionCode) (length : ℕ) (world : World) : Prop :=
  ∀ reply next, serve handler length world = some (reply, next) →
    reply.code ≠ ccOk → reply.length = 0

/-- The length that came in with the request does not go out with an error. -/
def DeviceCommand.ClearsLength (request : Request) (world : World) : DeviceCommand → Prop
  | setSystemInfo calls =>
      14 < request.length → (calls.opens 0).verdict world.fds = .halted ∨
        (AssetType.ofDeviceType? (request.bytes 0)).isSome = true
  | getSystemInfo calls =>
      request.length = 1 →
        world.assetInfoGotFlag (request.bytes 0).toNat = 0 ∧
            (calls.opens 0).verdict world.fds = .halted ∨
          request.bytes 0 = deviceTypeFwRevision ∧
            (world.assetInfoGotFlag (request.bytes 0).toNat ≠ 0 ∨
              (calls.opens 0).verdict world.fds = .opened)
  | readEEPROM calls =>
      request.length = 2 → ∀ status, (calls.opens 0).verdict world.fds ≠ .refused status
  | writeEEPROM calls =>
      request.length = 0 ∨ WriteAccepted request.bytes request.length ∧
        ∀ index < (request.bytes 1).toNat, calls.OpensBelow world.fds index →
          ∀ status, (calls.opens index).verdict world.fds ≠ .refused status
  | getSFPPresent calls locals =>
      request.length = 1 → (request.bytes 0).toNat < 32 →
        (calls.outcome (world.gpio (gpioLine presentIndex (request.bytes 0)))).value locals ≠ -1
  | getSFPInterruptInfo calls locals =>
      request.length = 1 → (request.bytes 0).toNat < 32 →
        (calls.outcome (world.gpio (gpioLine interruptIndex (request.bytes 0)))).value locals ≠ -1
  | getSFPLowPowerMode calls locals =>
      request.length = 1 → (request.bytes 0).toNat < 32 →
        (calls.outcome (world.gpio (gpioLine lpmodeIndex (request.bytes 0)))).value locals ≠ -1
  | setSFPLowPowerMode calls =>
      request.length = 0 ∨ request.length = 2 ∧
        calls.succeeds (world.gpio (lowPowerLine request.bytes)).isSome = true
  | sfpReset calls => request.length = 0 ∨ request.length = 1 ∧ calls.succeeds true = true
  | getSFPEEPROM _ => request.length = 0 ∨ request.length = 4

def Command.ClearsLength (request : Request) (world : World) : Command → Prop
  | device command => command.ClearsLength request world
  | readCPLDEEPROM _ _ => True
  | readVRINFO calls => request.length = 2 → calls.opens (calls.row request.bytes) = true
  | setMACToEEPROM calls =>
      request.length = 10 → calls.fails
        (world.files (macEepromFile (request.bytes 0) (request.bytes 1))).isSome = false
  | getSFPSum => request.length = 0
  | setFan _ _ => True
  | getFan _ _ => True

theorem errorReplyEmpty_returned {handler : Daemon CompletionCode} {length : ℕ}
    {world after : World} {code : CompletionCode}
    (ran : handler.run (world.receive length) = (.returned code, after)) :
    ErrorReplyEmpty handler length world ↔ (code ≠ ccOk → after.dataLen = 0) := by
  unfold ErrorReplyEmpty
  rw [serve_returned ran]
  constructor
  · intro empty
    exact empty _ after rfl
  · rintro empty reply next ⟨⟩
    exact empty

theorem errorReplyEmpty_exited {handler : Daemon CompletionCode} {length : ℕ}
    {world after : World} {status : Int}
    (ran : handler.run (world.receive length) = (.exited status, after)) :
    ErrorReplyEmpty handler length world := by
  intro reply next served
  rw [serve, ran] at served
  cases served

theorem setCode_ne_ok_iff {request : Buffer} :
    setCode request ≠ ccOk ↔ ¬ (AssetType.ofDeviceType? (request 0)).isSome = true := by
  unfold setCode
  split <;> simp_all

theorem sent_empty_iff {request : Buffer} {world : World} (one : world.dataLen = 1) :
    (getCode request ≠ ccOk → (world.sent request).dataLen = 0) ↔ request 0 = deviceTypeFwRevision := by
  unfold getCode World.sent
  by_cases firmware : request 0 = deviceTypeFwRevision <;> simp [firmware, one]

theorem ofDeviceType?_fwRevision {request : Buffer} (firmware : request 0 = deviceTypeFwRevision) :
    AssetType.ofDeviceType? (request 0) = some .fwRevision :=
  AssetType.ofDeviceType?_eq_some.mpr firmware

section Device

variable {request : Request} {world : World}

theorem clearsLength_setSystemInfo {calls : BusCalls} :
    ErrorReplyEmpty (ipmiSetSystemInfo calls request.bytes) request.length world ↔
      (DeviceCommand.setSystemInfo calls).ClearsLength request world := by
  unfold DeviceCommand.ClearsLength
  by_cases long : 14 < request.length
  · simp only [long, forall_const]
    cases calls.assetReach (request.bytes 0) world.fds with
    | halted halted =>
        exact iff_of_true (errorReplyEmpty_exited (run_ipmiSetSystemInfo_halted long halted))
          (.inl halted)
    | failed failed alive =>
        rw [errorReplyEmpty_returned (run_ipmiSetSystemInfo_failed long failed alive),
          setCode_ne_ok_iff, or_iff_right alive]
        cases (AssetType.ofDeviceType? (request.bytes 0)).isSome <;> simp [World.acknowledged]
    | opened supported opened =>
        rw [errorReplyEmpty_returned (run_ipmiSetSystemInfo_opened long supported opened), supported]
        simp
  · simp only [long, IsEmpty.forall_iff, iff_true]
    exact (errorReplyEmpty_returned (run_ipmiSetSystemInfo_length (not_lt.mp long))).mpr
      fun _ => rfl

theorem clearsLength_getSystemInfo {calls : BusCalls} :
    ErrorReplyEmpty (ipmiGetSystemInfo calls request.bytes) request.length world ↔
      (DeviceCommand.getSystemInfo calls).ClearsLength request world := by
  unfold DeviceCommand.ClearsLength
  by_cases right : request.length = 1
  · have one : (world.receive request.length).dataLen = 1 := right
    simp only [right, forall_const]
    rw [← right]
    by_cases missing : world.assetInfoGotFlag (request.bytes 0).toNat = 0
    · simp only [missing, true_and, ne_eq, not_true_eq_false, false_or]
      cases calls.assetReach (request.bytes 0) world.fds with
      | halted halted =>
          exact iff_of_true (errorReplyEmpty_exited (run_ipmiGetSystemInfo_halted one missing halted))
            (.inl halted)
      | failed failed alive =>
          rw [errorReplyEmpty_returned (run_ipmiGetSystemInfo_failed one missing failed alive),
            or_iff_right alive]
          have unsent : ¬ (request.bytes 0 = deviceTypeFwRevision ∧
              (calls.opens 0).verdict world.fds = .opened) := by
            rintro ⟨firmware, opened⟩
            rcases failed with unsupported | unopened
            · rw [ofDeviceType?_fwRevision firmware] at unsupported
              cases unsupported
            · exact unopened opened
          simp [World.looked, one, unsent]
      | opened supported opened =>
          obtain ⟨pointer, ran⟩ := run_ipmiGetSystemInfo_opened one missing supported opened
          rw [errorReplyEmpty_returned ran, sent_empty_iff ?_]
          · simp [opened]
          · exact one
    · rw [errorReplyEmpty_returned (run_ipmiGetSystemInfo_cached one missing), sent_empty_iff ?_]
      · simp [missing]
      · exact one
  · simp only [right, IsEmpty.forall_iff, iff_true]
    exact (errorReplyEmpty_returned (run_ipmiGetSystemInfo_length right)).mpr fun _ => rfl

theorem clearsLength_readEEPROM {calls : BusCalls} :
    ErrorReplyEmpty (ipmiReadEEPROM calls request.bytes) request.length world ↔
      (DeviceCommand.readEEPROM calls).ClearsLength request world := by
  unfold DeviceCommand.ClearsLength
  by_cases right : request.length = 2
  · have two : (world.receive request.length).dataLen = 2 := right
    simp only [right, forall_const]
    rw [← right]
    cases verdict : (calls.opens 0).verdict world.fds with
    | halted =>
        exact iff_of_true (errorReplyEmpty_exited (run_ipmiReadEEPROM_halted two verdict)) (by simp)
    | refused status =>
        rw [errorReplyEmpty_returned (run_ipmiReadEEPROM_refused two verdict)]
        simp [two]
    | opened =>
        obtain ⟨pointer, ran⟩ := run_ipmiReadEEPROM_opened two verdict
        rw [errorReplyEmpty_returned ran]
        simp
  · simp only [right, IsEmpty.forall_iff, iff_true]
    exact (errorReplyEmpty_returned (run_ipmiReadEEPROM_length right)).mpr fun _ => rfl

theorem clearsLength_writeEEPROM {calls : BusCalls} :
    ErrorReplyEmpty (ipmiWriteEEPROM calls request.bytes) request.length world ↔
      (DeviceCommand.writeEEPROM calls).ClearsLength request world := by
  unfold DeviceCommand.ClearsLength
  by_cases accepted : WriteAccepted request.bytes request.length
  · have nonempty := accepted.1
    simp only [nonempty, accepted, true_and, false_or]
    cases calls.writeReach world.fds (request.bytes 1).toNat with
    | opened opens =>
        rw [errorReplyEmpty_returned (run_ipmiWriteEEPROM_all accepted opens)]
        exact iff_of_true (fun code => absurd rfl code)
          fun index below _ status => (opens index below).trans_ne (by simp)
    | halted below earlier halted =>
        refine Iff.trans ?_ (Process.forall_reached_iff below earlier (halted.trans_ne (by simp))
          fun index opened status => opened.trans_ne (by simp)).symm
        exact iff_of_true
          (errorReplyEmpty_exited (run_ipmiWriteEEPROM_halted accepted below earlier halted))
          fun status => halted.trans_ne (by simp)
    | refused below earlier refused =>
        refine Iff.trans ?_ (Process.forall_reached_iff below earlier (refused.trans_ne (by simp))
          fun index opened status => opened.trans_ne (by simp)).symm
        rw [errorReplyEmpty_returned (run_ipmiWriteEEPROM_refused accepted below earlier refused)]
        simp [World.writtenSys, World.receive, nonempty, refused]
  · rw [errorReplyEmpty_returned (run_ipmiWriteEEPROM_rejected calls accepted)]
    by_cases empty : request.length = 0
    · simp [World.receive, empty]
    · simp [World.receive, empty, accepted]

theorem clearsLength_sfpStatus {base : ℤ} {status : Int → UInt8} {calls : GpioRead}
    {locals : Locals} :
    ErrorReplyEmpty (sfpStatus base status calls locals request.bytes) request.length world ↔
      (request.length = 1 → (request.bytes 0).toNat < 32 →
        (calls.outcome (world.gpio (gpioLine base (request.bytes 0)))).value locals ≠ -1) := by
  by_cases right : request.length = 1
  · have one : (world.receive request.length).dataLen = 1 := right
    by_cases inside : (request.bytes 0).toNat < 32
    · simp only [right, inside, forall_const]
      rw [← right]
      have ran : (sfpStatus base status calls locals request.bytes).run
          (world.receive request.length) = _ := run_sfpStatus_read one inside rfl
      split at ran
      · rename_i failed
        rw [errorReplyEmpty_returned ran]
        exact iff_of_false (fun empty => Nat.one_ne_zero (empty ccInvalidFieldRequest_ne_ok))
          (not_not_intro failed)
      · rename_i succeeded
        rw [errorReplyEmpty_returned ran]
        exact iff_of_true (fun code => absurd rfl code) succeeded
    · simp only [inside, IsEmpty.forall_iff, implies_true, iff_true]
      exact (errorReplyEmpty_returned (run_sfpStatus_range one (not_lt.mp inside))).mpr fun _ => rfl
  · simp only [right, IsEmpty.forall_iff, iff_true]
    exact (errorReplyEmpty_returned (run_sfpStatus_length right)).mpr fun _ => rfl

theorem clearsLength_setSFPLowPowerMode {calls : CharWrite} :
    ErrorReplyEmpty (ipmiSetSFPLowPowerMode calls request.bytes) request.length world ↔
      (DeviceCommand.setSFPLowPowerMode calls).ClearsLength request world := by
  unfold DeviceCommand.ClearsLength
  by_cases right : request.length = 2
  · rw [errorReplyEmpty_returned (run_ipmiSetSFPLowPowerMode_write right rfl)]
    simp only [right, OfNat.ofNat_ne_zero, true_and, false_or]
    change ((if calls.succeeds (world.gpio (lowPowerLine request.bytes)).isSome then ccOk
      else ccInvalidFieldRequest) ≠ ccOk → 1 = 0) ↔ _
    split <;> simp_all
  · rw [errorReplyEmpty_returned (run_ipmiSetSFPLowPowerMode_length right)]
    simp [World.receive, right]

theorem clearsLength_sfpReset {calls : CharWrite} :
    ErrorReplyEmpty (ipmiSFPReset calls request.bytes) request.length world ↔
      (DeviceCommand.sfpReset calls).ClearsLength request world := by
  unfold DeviceCommand.ClearsLength
  by_cases right : request.length = 1
  · rw [errorReplyEmpty_returned (run_ipmiSFPReset_reset right)]
    simp only [right, one_ne_zero, true_and, false_or]
    split <;> simp_all
  · rw [errorReplyEmpty_returned (run_ipmiSFPReset_length right)]
    simp [World.receive, right]

theorem clearsLength_getSFPEEPROM {calls : SffCalls} :
    ErrorReplyEmpty (ipmigetSFPEEPROM calls request.bytes) request.length world ↔
      (DeviceCommand.getSFPEEPROM calls).ClearsLength request world := by
  unfold DeviceCommand.ClearsLength
  by_cases right : request.length = 4
  · refine iff_of_true ?_ (.inr right)
    by_cases inside : (request.bytes 0).toNat < 32
    · cases answer : calls.outcome (world.files (sffFile (request.bytes 0).toNat)) with
      | error status =>
          exact (errorReplyEmpty_returned (run_ipmigetSFPEEPROM_error right inside answer)).mpr
            fun _ => rfl
      | ok delivered =>
          exact (errorReplyEmpty_returned (run_ipmigetSFPEEPROM_ok right inside answer)).mpr
            fun code => absurd rfl code
    · exact (errorReplyEmpty_returned (run_ipmigetSFPEEPROM_range right (not_lt.mp inside))).mpr
        fun _ => rfl
  · rw [errorReplyEmpty_returned (run_ipmigetSFPEEPROM_length right)]
    simp [World.receive, right]

theorem clearsLength_device (command : DeviceCommand) :
    ErrorReplyEmpty (command.handler request.bytes) request.length world ↔
      command.ClearsLength request world := by
  cases command with
  | setSystemInfo calls => exact clearsLength_setSystemInfo
  | getSystemInfo calls => exact clearsLength_getSystemInfo
  | readEEPROM calls => exact clearsLength_readEEPROM
  | writeEEPROM calls => exact clearsLength_writeEEPROM
  | getSFPPresent calls locals => exact clearsLength_sfpStatus
  | getSFPInterruptInfo calls locals => exact clearsLength_sfpStatus
  | getSFPLowPowerMode calls locals => exact clearsLength_sfpStatus
  | setSFPLowPowerMode calls => exact clearsLength_setSFPLowPowerMode
  | sfpReset calls => exact clearsLength_sfpReset
  | getSFPEEPROM calls => exact clearsLength_getSFPEEPROM

end Device

section Other

variable {request : Request} {world : World}

theorem clearsLength_readCPLDEEPROM {calls : CpldCalls} {temp : Buffer} :
    ErrorReplyEmpty (ipmiReadCPLDEEPROM calls temp request.bytes) request.length world := by
  by_cases right : request.length = 2
  · exact (errorReplyEmpty_returned (run_ipmiReadCPLDEEPROM_ok right)).mpr fun code => absurd rfl code
  · exact (errorReplyEmpty_returned (run_ipmiReadCPLDEEPROM_length right)).mpr fun _ => rfl

theorem clearsLength_readVRINFO {calls : VrCalls} :
    ErrorReplyEmpty (ipmiReadVRINFO calls request.bytes) request.length world ↔
      (request.length = 2 → calls.opens (calls.row request.bytes) = true) := by
  by_cases right : request.length = 2
  · have two : (world.receive request.length).dataLen = 2 := right
    simp only [right, forall_const]
    rw [← right]
    cases calls.reach (calls.row request.bytes) with
    | unopened unopened =>
        rw [errorReplyEmpty_returned (run_ipmiReadVRINFO_unopened two unopened)]
        refine iff_of_false (fun empty => ?_) (unopened.trans_ne Bool.false_ne_true)
        exact absurd ((empty ccInvalidFieldRequest_ne_ok).symm.trans two) (by decide)
    | unselected opened unselected =>
        refine iff_of_true ?_ opened
        exact errorReplyEmpty_exited (run_ipmiReadVRINFO_unselected two opened unselected)
    | unread opened selected unread =>
        refine iff_of_true ?_ opened
        exact errorReplyEmpty_exited (run_ipmiReadVRINFO_unread two opened selected unread)
    | read opened selected read =>
        refine iff_of_true ?_ opened
        exact (errorReplyEmpty_returned (run_ipmiReadVRINFO_read two opened selected read)).mpr
          fun code => absurd rfl code
  · simp only [right, IsEmpty.forall_iff, iff_true]
    exact (errorReplyEmpty_returned (run_ipmiReadVRINFO_length right)).mpr fun _ => rfl

theorem clearsLength_setMACToEEPROM {calls : MacCalls} :
    ErrorReplyEmpty (ipmiSetMACToEEPROM calls request.bytes) request.length world ↔
      (Command.setMACToEEPROM calls).ClearsLength request world := by
  unfold Command.ClearsLength
  by_cases right : request.length = 10
  · have ten : (world.receive request.length).dataLen = 10 := right
    simp only [right, forall_const]
    rw [← right]
    have ran : (ipmiSetMACToEEPROM calls request.bytes).run (world.receive request.length) = _ :=
      run_ipmiSetMACToEEPROM_store ten
    obtain ⟨cells, files, kept⟩ :=
      (world.receive request.length).overwrite_frame _ _ _ _
    rw [errorReplyEmpty_returned ran, World.macStored, kept]
    change ((if calls.fails (world.files (macEepromFile (request.bytes 0) (request.bytes 1))).isSome
      then ccUnspecifiedError else ccOk) ≠ ccOk → (world.receive request.length).dataLen = 0) ↔ _
    rw [ten]
    split <;> simp_all
  · simp only [right, IsEmpty.forall_iff, iff_true]
    exact (errorReplyEmpty_returned (run_ipmiSetMACToEEPROM_length right)).mpr fun _ => rfl

theorem clearsLength_getSFPSum :
    ErrorReplyEmpty ipmiGetSFPSum request.length world ↔ request.length = 0 := by
  by_cases right : request.length = 0
  · refine iff_of_true ?_ right
    exact (errorReplyEmpty_returned (run_ipmiGetSFPSum_ok right)).mpr fun code => absurd rfl code
  · rw [errorReplyEmpty_returned (run_ipmiGetSFPSum_length right)]
    simp [World.receive, right]

theorem clearsLength_setFan {sensors : SensorTable} {calls : SetFanCalls} :
    ErrorReplyEmpty (ipmiSetFan sensors calls request.bytes) request.length world := by
  intro reply next served _
  unfold serve at served
  rw [run_ipmiSetFan] at served
  split_ifs at served
  · rw [Process.run_bind] at served
    rcases ran : (setFan sensors calls request.bytes).run (world.receive request.length) with
      ⟨code | error | status, after⟩ <;> rw [ran] at served <;> cases served
    rfl
  · cases served
    rfl

theorem clearsLength_getFan {sensors : SensorTable} {reads : Bool} :
    ErrorReplyEmpty (ipmiGetFan sensors reads request.bytes) request.length world := by
  intro reply next served error
  unfold serve ipmiGetFan at served
  rw [run_getDataLen_bind] at served
  split_ifs at served
  · cases served
    rfl
  · rw [Process.run_bind] at served
    rcases ran : (getFan sensors reads request.bytes).run (world.receive request.length) with
      ⟨code | error | status, after⟩ <;> rw [ran] at served
    · by_cases succeeded : code = ccOk
      · simp only [succeeded, if_true] at served
        cases served
        exact absurd rfl error
      · simp only [succeeded, if_false] at served
        cases served
        rfl
    · cases served
    · cases served

end Other

/-- A command answers its errors without data exactly where it clears the length
before the error can arise. -/
theorem errorReplyEmpty_iff (command : Command) (request : Request) (world : World) :
    ErrorReplyEmpty (command.handler request.bytes) request.length world ↔
      command.ClearsLength request world := by
  cases command with
  | device command => exact clearsLength_device command
  | readCPLDEEPROM calls temp => exact iff_of_true clearsLength_readCPLDEEPROM trivial
  | readVRINFO calls => exact clearsLength_readVRINFO
  | setMACToEEPROM calls => exact clearsLength_setMACToEEPROM
  | getSFPSum => exact clearsLength_getSFPSum
  | setFan sensors calls => exact iff_of_true clearsLength_setFan trivial
  | getFan sensors reads => exact iff_of_true clearsLength_getFan trivial

/-- A reset request of two bytes is too long, and its length goes out with the
error. -/
theorem error_reply_not_empty :
    ¬ ErrorReplyEmpty ((Command.device (.sfpReset ⟨true, true⟩)).handler fun _ => 0) 2 World.boot := by
  intro empty
  have length := empty ⟨ccReqDataLenInvalid, 2, fun _ => 0⟩ (World.boot.receive 2) rfl
    ccReqDataLenInvalid_ne_ok
  exact absurd length (by decide)

end InspurIpmi

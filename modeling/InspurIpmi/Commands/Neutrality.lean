import InspurIpmi.Bios.Effects
import InspurIpmi.Commands
import InspurIpmi.Foundation.Runs
import InspurIpmi.Sfp.Effects

/-!
# Descriptor neutrality

Which requests leave the set of open descriptors as it was.
-/

set_option autoImplicit false

namespace InspurIpmi

open Foundation

theorem OpenCalls.fdsAfter_eq_iff {calls : OpenCalls} {fds : Finset ℕ} :
    calls.fdsAfter fds = fds ↔ calls.opened = false := by
  unfold OpenCalls.fdsAfter
  cases calls.opened with
  | false => simp
  | true => simp [insert_lowestFree_ne fds]

/-- The process ends, or there is no descriptor to lose. -/
def OpenCalls.Harmless (calls : OpenCalls) (fds : Finset ℕ) : Prop :=
  calls.verdict fds = .halted ∨ calls.opened = false

def DeviceMessage.Neutral (world : World) (message : DeviceMessage) : Prop :=
  let request := message.request.bytes
  let length := message.request.length
  match message.command with
  | .setSystemInfo calls =>
      14 < length → ((calls.opens 0).Harmless world.fds ∨
        (calls.opens 0).verdict world.fds = .opened ∧
          ∃ type, AssetType.ofDeviceType? (request 0) = some type ∧
            ∀ index < type.size, calls.writes index = true)
  | .getSystemInfo calls =>
      length = 1 → world.assetInfoGotFlag (request 0).toNat = 0 →
        (calls.opens 0).Harmless world.fds
  | .readEEPROM calls =>
      length = 2 →
        ((calls.opens 0).Harmless world.fds ∨ (calls.opens 0).verdict world.fds = .opened)
  | .writeEEPROM calls =>
      WriteAccepted request length → ∀ index < (request 1).toNat,
        calls.OpensBelow world.fds index →
          ((calls.opens index).Harmless world.fds ∨ (calls.opens index).verdict world.fds = .opened)
  | .getSFPPresent calls _ =>
      length = 1 → (request 0).toNat < 32 →
        calls.outcome (world.gpio (gpioLine presentIndex (request 0))) ≠ .failed
  | .getSFPInterruptInfo calls _ =>
      length = 1 → (request 0).toNat < 32 →
        calls.outcome (world.gpio (gpioLine interruptIndex (request 0))) ≠ .failed
  | .getSFPLowPowerMode calls _ =>
      length = 1 → (request 0).toNat < 32 →
        calls.outcome (world.gpio (gpioLine lpmodeIndex (request 0))) ≠ .failed
  | .setSFPLowPowerMode calls =>
      length = 2 → calls.opened = true →
        (world.gpio (lowPowerLine request)).isSome = true → calls.written = true
  | .sfpReset calls => length = 1 → calls.opened = true → calls.written = true
  | .getSFPEEPROM _ => True

/-!
## One request
-/

theorem harmless_of_alive {calls : OpenCalls} {fds : Finset ℕ}
    (alive : calls.verdict fds ≠ .halted) : calls.Harmless fds ↔ calls.fdsAfter fds = fds := by
  rw [OpenCalls.fdsAfter_eq_iff]
  exact or_iff_right alive

theorem not_harmless_of_opened {calls : OpenCalls} {fds : Finset ℕ}
    (opened : calls.verdict fds = .opened) : ¬ calls.Harmless fds := by
  rintro (halted | closed)
  · rw [opened] at halted
    cases halted
  · rw [OpenCalls.opened_of_verdict opened] at closed
    cases closed

abbrev KeepsFds (handler : Daemon CompletionCode) (length : ℕ) (world : World) : Prop :=
  ∀ next, successor handler length world = some next → next.fds = world.fds

theorem keepsFds_setSystemInfo {calls : BusCalls} {request : Request} {world : World} :
    DeviceMessage.Neutral world ⟨.setSystemInfo calls, request⟩ ↔
      KeepsFds (ipmiSetSystemInfo calls request.bytes) request.length world := by
  unfold DeviceMessage.Neutral
  by_cases long : 14 < request.length
  · simp only [long, forall_const]
    cases calls.assetReach (request.bytes 0) world.fds with
    | halted halted =>
        exact iff_of_true (.inl (.inl halted))
          (successor_exited (run_ipmiSetSystemInfo_halted long halted))
    | failed failed alive =>
        have unstored : ¬ ((calls.opens 0).verdict world.fds = .opened ∧
            ∃ type, AssetType.ofDeviceType? (request.bytes 0) = some type ∧
              ∀ index < type.size, calls.writes index = true) := by
          rintro ⟨opened, type, supported, _⟩
          rcases failed with unsupported | unopened
          · rw [unsupported] at supported
            cases supported
          · exact unopened opened
        rw [or_iff_left unstored, harmless_of_alive alive, KeepsFds,
          successor_returned (run_ipmiSetSystemInfo_failed long failed alive)]
        rfl
    | @opened type supported opened =>
        rw [KeepsFds, successor_returned (run_ipmiSetSystemInfo_opened long supported opened)]
        simp only [not_harmless_of_opened opened, false_or, opened, true_and, supported,
          Option.some.injEq, exists_eq_left']
        rw [← Process.goodPrefix_eq_iff]
        by_cases full : calls.persisted type = type.size
        · refine iff_of_true full ?_
          simp only [World.acknowledged, full, if_true]
          rfl
        · refine iff_of_false full ?_
          simp only [World.acknowledged, full, if_false]
          exact insert_lowestFree_ne world.fds
  · simp only [long, IsEmpty.forall_iff, true_iff]
    exact (successor_returned (run_ipmiSetSystemInfo_length (not_lt.mp long))).mpr rfl

theorem keepsFds_getSystemInfo {calls : BusCalls} {request : Request} {world : World} :
    DeviceMessage.Neutral world ⟨.getSystemInfo calls, request⟩ ↔
      KeepsFds (ipmiGetSystemInfo calls request.bytes) request.length world := by
  unfold DeviceMessage.Neutral KeepsFds
  by_cases right : request.length = 1
  · simp only [right, forall_const]
    rw [← right]
    by_cases missing : world.assetInfoGotFlag (request.bytes 0).toNat = 0
    · simp only [missing, forall_const]
      cases calls.assetReach (request.bytes 0) world.fds with
      | halted halted =>
          exact iff_of_true (.inl halted)
            (successor_exited (run_ipmiGetSystemInfo_halted right missing halted))
      | failed failed alive =>
          rw [harmless_of_alive alive,
            successor_returned (run_ipmiGetSystemInfo_failed right missing failed alive)]
          rfl
      | opened supported opened =>
          have one : (world.receive request.length).dataLen = 1 := right
          obtain ⟨pointer, ran⟩ := run_ipmiGetSystemInfo_opened one missing supported opened
          rw [successor_returned ran, World.sent_fds]
          exact iff_of_false (not_harmless_of_opened opened) (insert_lowestFree_ne world.fds)
    · simp only [missing, IsEmpty.forall_iff, true_iff]
      rw [successor_returned (run_ipmiGetSystemInfo_cached right missing), World.sent_fds]
      rfl
  · simp only [right, IsEmpty.forall_iff, true_iff]
    exact (successor_returned (run_ipmiGetSystemInfo_length right)).mpr rfl

theorem keepsFds_readEEPROM {calls : BusCalls} {request : Request} {world : World} :
    DeviceMessage.Neutral world ⟨.readEEPROM calls, request⟩ ↔
      KeepsFds (ipmiReadEEPROM calls request.bytes) request.length world := by
  unfold DeviceMessage.Neutral KeepsFds
  by_cases right : request.length = 2
  · simp only [right, forall_const]
    rw [← right]
    cases verdict : (calls.opens 0).verdict world.fds with
    | halted =>
        exact iff_of_true (.inl (.inl verdict))
          (successor_exited (run_ipmiReadEEPROM_halted right verdict))
    | refused status =>
        rw [harmless_of_alive (verdict.trans_ne (by simp)), successor_returned
          (run_ipmiReadEEPROM_refused right verdict)]
        simp only [reduceCtorEq, or_false]
        rfl
    | opened =>
        have two : (world.receive request.length).dataLen = 2 := right
        obtain ⟨pointer, ran⟩ := run_ipmiReadEEPROM_opened two verdict
        rw [successor_returned ran]
        exact iff_of_true (.inr rfl) rfl
  · simp only [right, IsEmpty.forall_iff, true_iff]
    exact (successor_returned (run_ipmiReadEEPROM_length right)).mpr rfl

theorem keepsFds_writeEEPROM {calls : BusCalls} {request : Request} {world : World} :
    DeviceMessage.Neutral world ⟨.writeEEPROM calls, request⟩ ↔
      KeepsFds (ipmiWriteEEPROM calls request.bytes) request.length world := by
  unfold DeviceMessage.Neutral KeepsFds
  by_cases accepted : WriteAccepted request.bytes request.length
  · simp only [accepted, forall_const]
    cases calls.writeReach world.fds (request.bytes 1).toNat with
    | opened opens =>
        rw [successor_returned (run_ipmiWriteEEPROM_all accepted opens)]
        exact iff_of_true (fun index below _ => .inr (opens index below)) rfl
    | halted below earlier halted =>
        refine (Process.forall_reached_iff below earlier (halted.trans_ne (by simp))
          fun index opened => .inr opened).trans ?_
        exact iff_of_true (.inl (.inl halted))
          (successor_exited (run_ipmiWriteEEPROM_halted accepted below earlier halted))
    | refused below earlier refused =>
        refine (Process.forall_reached_iff below earlier (refused.trans_ne (by simp))
          fun index opened => .inr opened).trans ?_
        rw [successor_returned (run_ipmiWriteEEPROM_refused accepted below earlier refused),
          harmless_of_alive (refused.trans_ne (by simp)), refused]
        simp only [reduceCtorEq, or_false]
        rfl
  · simp only [accepted, IsEmpty.forall_iff, true_iff]
    exact (successor_returned (run_ipmiWriteEEPROM_rejected calls accepted)).mpr rfl

theorem GpioOutcome.fdsAfter_eq_iff {outcome : GpioOutcome} {fds : Finset ℕ} :
    outcome.fdsAfter fds = fds ↔ outcome ≠ .failed := by
  cases outcome with
  | unopened => exact iff_of_true rfl (by simp)
  | failed => exact iff_of_false (insert_lowestFree_ne fds) (not_not_intro rfl)
  | delivered text => exact iff_of_true rfl (by simp)

theorem CharWrite.fdsAfter_eq_iff {calls : CharWrite} {present : Bool} {fds : Finset ℕ} :
    calls.fdsAfter present fds = fds ↔
      (calls.opened = true → present = true → calls.written = true) := by
  unfold CharWrite.fdsAfter
  cases calls.opened <;> cases present <;> cases calls.written <;> simp [insert_lowestFree_ne fds]

theorem keepsFds_sfpStatus {base : ℤ} {status : Int → UInt8} {calls : GpioRead} {locals : Locals}
    {request : Request} {world : World} :
    (request.length = 1 → (request.bytes 0).toNat < 32 →
        calls.outcome (world.gpio (gpioLine base (request.bytes 0))) ≠ .failed) ↔
      KeepsFds (sfpStatus base status calls locals request.bytes) request.length world := by
  unfold KeepsFds
  by_cases right : request.length = 1
  · by_cases inside : (request.bytes 0).toNat < 32
    · simp only [right, inside, forall_const]
      rw [← right, ← GpioOutcome.fdsAfter_eq_iff]
      have one : (world.receive request.length).dataLen = 1 := right
      have ran : (sfpStatus base status calls locals request.bytes).run
          (world.receive request.length) = _ := run_sfpStatus_read one inside rfl
      split at ran
      · rw [successor_returned ran]
        rfl
      · rw [successor_returned ran]
        rfl
    · simp only [inside, IsEmpty.forall_iff, implies_true, true_iff]
      exact (successor_returned (run_sfpStatus_range right (not_lt.mp inside))).mpr rfl
  · simp only [right, IsEmpty.forall_iff, true_iff]
    exact (successor_returned (run_sfpStatus_length right)).mpr rfl

theorem keepsFds_setSFPLowPowerMode {calls : CharWrite} {request : Request} {world : World} :
    DeviceMessage.Neutral world ⟨.setSFPLowPowerMode calls, request⟩ ↔
      KeepsFds (ipmiSetSFPLowPowerMode calls request.bytes) request.length world := by
  unfold DeviceMessage.Neutral KeepsFds
  by_cases right : request.length = 2
  · simp only [right, forall_const]
    rw [← right, successor_returned (run_ipmiSetSFPLowPowerMode_write right rfl)]
    exact CharWrite.fdsAfter_eq_iff.symm
  · simp only [right, IsEmpty.forall_iff, true_iff]
    exact (successor_returned (run_ipmiSetSFPLowPowerMode_length right)).mpr rfl

theorem keepsFds_sfpReset {calls : CharWrite} {request : Request} {world : World} :
    DeviceMessage.Neutral world ⟨.sfpReset calls, request⟩ ↔
      KeepsFds (ipmiSFPReset calls request.bytes) request.length world := by
  unfold DeviceMessage.Neutral KeepsFds
  by_cases right : request.length = 1
  · simp only [right, forall_const]
    rw [← right, successor_returned (run_ipmiSFPReset_reset right)]
    have exact : calls.fdsAfter true world.fds = world.fds ↔ _ := CharWrite.fdsAfter_eq_iff
    simp only [forall_const] at exact
    exact exact.symm
  · simp only [right, IsEmpty.forall_iff, true_iff]
    exact (successor_returned (run_ipmiSFPReset_length right)).mpr rfl

theorem keepsFds_getSFPEEPROM {calls : SffCalls} {request : Request} {world : World} :
    KeepsFds (ipmigetSFPEEPROM calls request.bytes) request.length world := by
  unfold KeepsFds
  by_cases right : request.length = 4
  · by_cases inside : (request.bytes 0).toNat < 32
    · cases answer : calls.outcome (world.files (sffFile (request.bytes 0).toNat)) with
      | error status =>
          exact (successor_returned (run_ipmigetSFPEEPROM_error right inside answer)).mpr rfl
      | ok delivered =>
          exact (successor_returned (run_ipmigetSFPEEPROM_ok right inside answer)).mpr rfl
    · exact (successor_returned (run_ipmigetSFPEEPROM_range right (not_lt.mp inside))).mpr rfl
  · exact (successor_returned (run_ipmigetSFPEEPROM_length right)).mpr rfl

theorem neutral_iff (message : DeviceMessage) (world : World) :
    message.Neutral world ↔ ∀ next, message.step world = some next → next.fds = world.fds := by
  obtain ⟨command, request⟩ := message
  cases command with
  | setSystemInfo calls => exact keepsFds_setSystemInfo
  | getSystemInfo calls => exact keepsFds_getSystemInfo
  | readEEPROM calls => exact keepsFds_readEEPROM
  | writeEEPROM calls => exact keepsFds_writeEEPROM
  | getSFPPresent calls locals => exact keepsFds_sfpStatus
  | getSFPInterruptInfo calls locals => exact keepsFds_sfpStatus
  | getSFPLowPowerMode calls locals => exact keepsFds_sfpStatus
  | setSFPLowPowerMode calls => exact keepsFds_setSFPLowPowerMode
  | sfpReset calls => exact keepsFds_sfpReset
  | getSFPEEPROM calls => exact iff_of_true trivial keepsFds_getSFPEEPROM

/-!
## Runs
-/

/-- A run never changes the set of open descriptors exactly when no request of it
loses one. -/
theorem always_fds_iff (world : World) (messages : List DeviceMessage) :
    Always DeviceMessage.step (fun state => state.fds = world.fds) world messages ↔
      EachStep DeviceMessage.step (fun state message => message.Neutral state) world messages := by
  have exact : ∀ (state : World) (message : DeviceMessage), state.fds = world.fds →
      (message.Neutral state ↔
        ∀ next, message.step state = some next → next.fds = world.fds) := by
    intro state message same
    rw [neutral_iff, same]
  exact always_iff_eachStep exact rfl messages

theorem descriptor_lost_by_get :
    ¬ Always DeviceMessage.step (fun state => state.fds = World.boot.fds) World.boot
      [⟨.getSystemInfo .healthy, ⟨fun _ => deviceTypeFwRevision, 1⟩⟩] := by
  intro always
  have neutral := (neutral_iff ⟨.getSystemInfo .healthy, ⟨fun _ => deviceTypeFwRevision, 1⟩⟩
    World.boot).mpr fun next stepped => (always.2 next stepped).start
  rcases neutral rfl rfl with halted | closed
  · exact absurd halted (by decide)
  · exact absurd closed (by decide)

end InspurIpmi

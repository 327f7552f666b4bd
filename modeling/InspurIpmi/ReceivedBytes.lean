import InspurIpmi.Fan
import InspurIpmi.I2c.RawEeprom

/-!
# Judging a request by the bytes received

The set fan and write EEPROM commands look at bytes that may lie behind the end
of the request. None of them makes a difference.
-/

set_option autoImplicit false

namespace InspurIpmi

open Foundation

def AgreeOn (length : ℕ) (first second : Buffer) : Prop :=
  ∀ index < length, first index = second index

/-!
## Setting the fan
-/

def FanRequestFits (request : Buffer) (length : ℕ) : Prop :=
  length = 2 ∧ request 1 = autoMode ∨ length = 3 ∧ request 1 = 0

instance (request : Buffer) (length : ℕ) : Decidable (FanRequestFits request length) :=
  inferInstanceAs (Decidable (_ ∨ _))

theorem mode_cases (mode : UInt8) : mode >>> 1 ≠ 0 ∨ mode = autoMode ∨ mode = 0 := by
  by_contra excluded
  have shifted : mode >>> 1 = 0 := not_not.mp (not_or.mp excluded).1
  have halved : mode.toNat / 2 = 0 := by
    have same := congrArg UInt8.toNat shifted
    rwa [UInt8.toNat_shiftRight, show (1 : UInt8).toNat % 8 = 1 from rfl,
      Nat.shiftRight_eq_div_pow] at same
  refine (not_or.mp excluded).2 ?_
  rcases Nat.lt_succ_iff_lt_or_eq.mp (show mode.toNat < 2 by omega) with zero | one
  · exact .inr (UInt8.toNat.inj (Nat.lt_one_iff.mp zero))
  · exact .inl (UInt8.toNat.inj one)

theorem run_ipmiSetFan (sensors : SensorTable) (calls : SetFanCalls) (request : Buffer)
    (world : World) :
    (ipmiSetFan sensors calls request).run world =
      if FanRequestFits request world.dataLen then
        (do
          let rc ← setFan sensors calls request
          setDataLen 0
          return rc : Daemon CompletionCode).run world
      else (.returned ccIllegalCommand, { world with dataLen := 0 }) := by
  unfold ipmiSetFan
  rcases mode_cases (request 1) with large | auto | manual
  · have misfit : ¬ FanRequestFits request world.dataLen := by
      rintro (⟨_, mode⟩ | ⟨_, mode⟩) <;> rw [mode] at large <;> exact large (by decide)
    rw [if_neg misfit]
    simp only [large, ne_eq, not_false_eq_true, if_true]
    rfl
  · have small : autoMode >>> 1 = 0 := by decide
    by_cases two : world.dataLen = 2
    · have fits : FanRequestFits request world.dataLen := .inl ⟨two, auto⟩
      rw [if_pos fits]
      simp only [auto, small, two, ne_eq, not_true_eq_false, if_false, if_true,
        run_getDataLen_bind]
    · have misfit : ¬ FanRequestFits request world.dataLen := by
        rintro (⟨two', _⟩ | ⟨_, mode⟩)
        · exact two two'
        · exact absurd (auto.symm.trans mode) (by decide)
      rw [if_neg misfit]
      simp only [auto, small, two, ne_eq, not_true_eq_false, not_false_eq_true, if_false, if_true,
        run_getDataLen_bind]
      rfl
  · have small : (0 : UInt8) >>> 1 = 0 := by decide
    have notAuto : (0 : UInt8) ≠ autoMode := by decide
    by_cases three : world.dataLen = 3
    · have fits : FanRequestFits request world.dataLen := .inr ⟨three, manual⟩
      rw [if_pos fits]
      simp only [manual, small, notAuto, three, ne_eq, not_true_eq_false, if_false,
        run_getDataLen_bind]
    · have misfit : ¬ FanRequestFits request world.dataLen := by
        rintro (⟨_, mode⟩ | ⟨three', _⟩)
        · exact notAuto (manual.symm.trans mode)
        · exact three three'
      rw [if_neg misfit]
      simp only [manual, small, notAuto, three, ne_eq, not_true_eq_false, not_false_eq_true,
        if_false, if_true, run_getDataLen_bind]
      rfl

theorem setFan_congr {sensors : SensorTable} {calls : SetFanCalls} {first second : Buffer}
    (number : first 0 = second 0) (mode : first 1 = second 1)
    (value : first 1 = autoMode ∨ first 2 = second 2) :
    setFan sensors calls first = setFan sensors calls second := by
  unfold setFan
  rcases value with auto | value
  · have autoSecond : second 1 = autoMode := mode ▸ auto
    simp only [number, auto, autoSecond, ne_eq, not_true_eq_false, if_false]
  · simp only [number, mode, value]

theorem run_ipmiSetFan_congr {sensors : SensorTable} {calls : SetFanCalls} {first second : Buffer}
    {length : ℕ} (agree : AgreeOn length first second) (world : World) :
    (ipmiSetFan sensors calls first).run (world.receive length) =
      (ipmiSetFan sensors calls second).run (world.receive length) := by
  rw [run_ipmiSetFan, run_ipmiSetFan]
  change (if FanRequestFits first length then _ else _) = if FanRequestFits second length then _ else _
  have fits : FanRequestFits first length ↔ FanRequestFits second length := by
    unfold FanRequestFits
    constructor <;> rintro (⟨two, mode⟩ | ⟨three, mode⟩)
    · exact .inl ⟨two, (agree 1 (by omega)).symm.trans mode⟩
    · exact .inr ⟨three, (agree 1 (by omega)).symm.trans mode⟩
    · exact .inl ⟨two, (agree 1 (by omega)).trans mode⟩
    · exact .inr ⟨three, (agree 1 (by omega)).trans mode⟩
  by_cases acts : FanRequestFits first length
  · rw [if_pos acts, if_pos (fits.mp acts)]
    rw [setFan_congr (agree 0 (by rcases acts with ⟨two, _⟩ | ⟨three, _⟩ <;> omega))
      (agree 1 (by rcases acts with ⟨two, _⟩ | ⟨three, _⟩ <;> omega))
      (acts.imp And.right fun manual => agree 2 (by omega))]
  · rw [if_neg acts, if_neg (mt fits.mpr acts)]

/-!
## Writing the EEPROM
-/

/-- What the handler does once the length byte has been found to agree. -/
def writePayload (calls : BusCalls) (request : Buffer) (count : ℕ) : Daemon CompletionCode := do
  let rt ← writeSysEeprom calls request count
  if rt ≠ 0 then
    return ccInvalidFieldRequest
  setDataLen 1
  writeResponse 0 1 fun _ => 0
  return ccOk

theorem run_ipmiWriteEEPROM (calls : BusCalls) (request : Buffer) {world : World}
    (small : world.dataLen < 2 ^ 31) :
    (ipmiWriteEEPROM calls request).run world =
      if WriteRequestFits request world.dataLen then
        (writePayload calls request (world.dataLen - 2)).run world
      else
        (.returned (if world.dataLen = 0 then ccReqDataLenInvalid else ccInvalidFieldRequest),
          world) := by
  have acceptance : WriteAccepted request world.dataLen ↔ WriteRequestFits request world.dataLen :=
    writeAccepted_iff small
  by_cases fits : WriteRequestFits request world.dataLen
  · have accepted := acceptance.mpr fits
    rw [if_pos fits]
    unfold ipmiWriteEEPROM writePayload
    rw [run_getDataLen_bind, if_neg accepted.1, ← accepted.2, fits.2]
  · rw [if_neg fits, run_ipmiWriteEEPROM_rejected calls (mt acceptance.mp fits)]

theorem writePayload_congr {calls : BusCalls} {first second : Buffer} {length : ℕ}
    (agree : AgreeOn length first second) (long : 2 ≤ length) :
    writePayload calls first (length - 2) = writePayload calls second (length - 2) := by
  have loops : ∀ addr, Process.forLoop (writeSysByte calls addr first) (length - 2) =
      Process.forLoop (writeSysByte calls addr second) (length - 2) := by
    intro addr
    refine Process.forLoop_congr fun index below => ?_
    unfold writeSysByte
    rw [agree (2 + index) (by omega)]
  unfold writePayload writeSysEeprom
  simp only [agree 0 (by omega), agree 1 (by omega), Int.toNat_natCast, loops]

theorem run_ipmiWriteEEPROM_congr {calls : BusCalls} {first second : Buffer} {length : ℕ}
    (agree : AgreeOn length first second) (small : length < 2 ^ 31) (world : World) :
    (ipmiWriteEEPROM calls first).run (world.receive length) =
      (ipmiWriteEEPROM calls second).run (world.receive length) := by
  have received : (world.receive length).dataLen = length := rfl
  rw [run_ipmiWriteEEPROM calls first small, run_ipmiWriteEEPROM calls second small, received]
  have fits : WriteRequestFits first length ↔ WriteRequestFits second length := by
    refine and_congr_right fun long => ?_
    rw [agree 1 (by omega)]
  by_cases writes : WriteRequestFits first length
  · rw [if_pos writes, if_pos (fits.mp writes), writePayload_congr agree writes.1]
  · rw [if_neg writes, if_neg (mt fits.mpr writes)]

/-!
## Both commands
-/

/-- Completion code, state and reply are a function of the bytes received, and
only the requests that fit get past the checks. -/
theorem judged_by_received_bytes {length : ℕ} (small : length < 2 ^ 31) {first second : Buffer}
    (agree : AgreeOn length first second) (sensors : SensorTable) (fan : SetFanCalls)
    (bus : BusCalls) (world : World) :
    (ipmiSetFan sensors fan first).run (world.receive length) =
        (ipmiSetFan sensors fan second).run (world.receive length) ∧
      (ipmiWriteEEPROM bus first).run (world.receive length) =
        (ipmiWriteEEPROM bus second).run (world.receive length) ∧
      (ipmiSetFan sensors fan first).run (world.receive length) =
        (if FanRequestFits first length then
          (do
            let rc ← setFan sensors fan first
            setDataLen 0
            return rc : Daemon CompletionCode).run (world.receive length)
        else (.returned ccIllegalCommand, { world with dataLen := 0 })) ∧
      (ipmiWriteEEPROM bus first).run (world.receive length) =
        (if WriteRequestFits first length then
          (writePayload bus first (length - 2)).run (world.receive length)
        else
          (.returned (if length = 0 then ccReqDataLenInvalid else ccInvalidFieldRequest),
            world.receive length)) :=
  ⟨run_ipmiSetFan_congr agree world, run_ipmiWriteEEPROM_congr agree small world,
    run_ipmiSetFan sensors fan first (world.receive length),
    run_ipmiWriteEEPROM bus first (show (world.receive length).dataLen < 2 ^ 31 from small)⟩

/-- One byte, on which neither command acts, a manual setting of a fan and the
writing of one byte. -/
theorem judged_by_received_bytes_samples :
    ((ipmiSetFan (fun _ => none) ⟨0, id, []⟩ fun _ => 0).run (World.boot.receive 1) =
        (ipmiSetFan (fun _ => none) ⟨0, id, []⟩ fun index => UInt8.ofNat index).run
          (World.boot.receive 1) ∧
      (ipmiWriteEEPROM .healthy fun _ => 0).run (World.boot.receive 1) =
        (ipmiWriteEEPROM .healthy fun index => UInt8.ofNat index).run (World.boot.receive 1)) ∧
      (FanRequestFits (fun _ => 0) 3 ∧
        (ipmiSetFan (fun _ => some .pwm) ⟨0, id, []⟩ fun _ => 0).run (World.boot.receive 3) =
          (ipmiSetFan (fun _ => some .pwm) ⟨0, id, []⟩ fun index => if index < 3 then 0 else 9).run
            (World.boot.receive 3)) ∧
      WriteRequestFits (fun _ => 1) 3 ∧
        (ipmiWriteEEPROM .healthy fun _ => 1).run (World.boot.receive 3) =
          (ipmiWriteEEPROM .healthy fun index => if index < 3 then 1 else 9).run
            (World.boot.receive 3) := by
  have short := judged_by_received_bytes (show 1 < 2 ^ 31 by decide)
    (show AgreeOn 1 (fun _ => 0) fun index => UInt8.ofNat index from fun index below => by
      rw [Nat.lt_one_iff.mp below]
      rfl)
    (fun _ => none) ⟨0, id, []⟩ .healthy World.boot
  have padded : ∀ byte : UInt8, AgreeOn 3 (fun _ => byte) fun index => if index < 3 then byte else 9 :=
    fun _ _ below => (if_pos below).symm
  have manual := judged_by_received_bytes (show 3 < 2 ^ 31 by decide) (padded 0)
    (fun _ => some .pwm) ⟨0, id, []⟩ .healthy World.boot
  have written := judged_by_received_bytes (show 3 < 2 ^ 31 by decide) (padded 1)
    (fun _ => none) ⟨0, id, []⟩ .healthy World.boot
  exact ⟨⟨short.1, short.2.1⟩, ⟨by decide, manual.1⟩, by decide, written.2.1⟩

end InspurIpmi

import InspurIpmi.Fan.Effects

/-!
# What a set fan reply promises

An answer of success should mean that the mode file was written, an error that
nothing was.
-/

set_option autoImplicit false

namespace InspurIpmi

open Foundation

variable {sensors : SensorTable} {calls : SetFanCalls} {request : Buffer} {length : ℕ}
  {world : World}

/-!
## Success
-/

/-- Success is reported, and a sensor updated, only when the shell has written
the file. -/
def ReportedModeSet (sensors : SensorTable) (calls : SetFanCalls) (request : Buffer) (length : ℕ)
    (world : World) : Prop :=
  ∀ outcome after,
    (ipmiSetFan sensors calls request).run (world.receive length) = (outcome, after) →
      outcome = .returned ccOk ∨ after.trace ≠ world.trace →
        calls.status = 0 ∧ after.fanMode = some (modeText (request 1))

/-- The wait status survives the narrowing, where it decides anything. -/
def StatusSeen (sensors : SensorTable) (calls : SetFanCalls) (request : Buffer) (length : ℕ) :
    Prop :=
  FanRequestFits request length → ∀ info, sensors (request 0) = some info →
    request 1 = autoMode ∨ info.Controllable calls.strayInterface →
      calls.status % 256 = 0 → calls.status = 0

theorem toByte_eq_zero_iff {value : Int} : toByte value = 0 ↔ value % 256 = 0 := by
  have small : (value % 2 ^ 8).toNat < 2 ^ 8 := by omega
  constructor
  · intro zero
    have same := congrArg UInt8.toNat zero
    rw [toByte, UInt8.ofInt, UInt8.toNat_ofNat', Nat.mod_eq_of_lt small] at same
    change (value % 2 ^ 8).toNat = 0 at same
    omega
  · intro multiple
    have zero : (value % 2 ^ 8).toNat = 0 := by omega
    rw [toByte, UInt8.ofInt, zero]
    rfl

/-- A request that gets past the status byte, up to success or to the sensor. -/
theorem reported_iff_status {outcome : Outcome Exception CompletionCode} {after : World}
    (ran : (ipmiSetFan sensors calls request).run (world.receive length) = (outcome, after))
    (reached : outcome = .returned ccOk ∨ after.trace ≠ world.trace)
    (mode : after.fanMode = (world.echoed calls (request 1)).fanMode) :
    ReportedModeSet sensors calls request length world ↔ calls.status = 0 := by
  constructor
  · intro reported
    exact (reported outcome after ran reached).1
  · intro written other final ranOther _
    rw [ran] at ranOther
    cases ranOther
    exact ⟨written, mode.trans (if_pos written)⟩

theorem reportedModeSet_of_rejected {code : CompletionCode} {after : World}
    (ran : (ipmiSetFan sensors calls request).run (world.receive length) = (.returned code, after))
    (error : code ≠ ccOk) (untouched : after.trace = world.trace) :
    ReportedModeSet sensors calls request length world := by
  intro outcome final ranOther reached
  rw [ran] at ranOther
  cases ranOther
  rcases reached with success | touched
  · exact absurd (Outcome.returned.inj success) error
  · exact absurd untouched touched

/-- A set-fan request is truthfully reported exactly when the shell's failure, if
any, is one that a byte can show. -/
theorem reportedModeSet_iff :
    ReportedModeSet sensors calls request length world ↔
      StatusSeen sensors calls request length := by
  unfold StatusSeen
  by_cases fits : FanRequestFits request length
  · simp only [fits, forall_const]
    obtain ⟨after, ran, mode, trace⟩ := run_ipmiSetFan_fits fits sensors calls world
    have decided := fanVerdict_decided sensors calls request
    generalize fanVerdict sensors calls request = verdict at decided ran mode trace
    cases decided with
    | unknown missing =>
      refine iff_of_true (reportedModeSet_of_rejected ran ccSensorInvalid_ne_ok trace) ?_
      intro info found
      rw [missing] at found
      cases found
    | unset found failed =>
      refine iff_of_true (reportedModeSet_of_rejected ran ccUnspecifiedError_ne_ok trace) ?_
      intro info _ _ hidden
      exact absurd (toByte_eq_zero_iff.mpr hidden) failed
    | automatic found set auto =>
      rw [reported_iff_status ran (.inl rfl) mode]
      constructor
      · intro written info _ _ _
        exact written
      · intro seen
        exact seen _ found (.inl auto) (toByte_eq_zero_iff.mp set)
    | forbidden found set manual unable =>
      refine iff_of_true (reportedModeSet_of_rejected ran ccIllegalCommand_ne_ok trace) ?_
      intro info same reaches
      rw [found] at same
      cases same
      rcases reaches with auto | able
      · exact absurd auto manual
      · exact absurd able unable
    | handed found set manual able =>
      have touched : after.trace ≠ world.trace := by
        rw [trace]
        exact fun same => absurd (List.append_right_eq_self.mp same) (List.cons_ne_nil _ _)
      rw [reported_iff_status ran (.inr touched) mode]
      constructor
      · intro written info _ _ _
        exact written
      · intro seen
        exact seen _ found (.inr able) (toByte_eq_zero_iff.mp set)
  · have misfit : ¬ FanRequestFits request (world.receive length).dataLen := fits
    refine iff_of_true ?_ fun acts => absurd acts fits
    exact reportedModeSet_of_rejected (run_ipmiSetFan_misfit misfit) ccIllegalCommand_ne_ok rfl

/-- Every shell failure that ends in an exit code has a low byte of zero. -/
theorem reportedModeSet_lost_by_exit_code :
    ¬ ReportedModeSet (fun _ => some SensorInfo.pwm) ⟨256, id, []⟩ (fun _ => 1) 2 World.boot := by
  intro reported
  have written := (reported (.returned ccOk) _ rfl (.inl rfl)).1
  exact absurd written (by decide)

/-!
## Failure
-/

/-- An error leaves the mode as it was, and no sensor is touched except through
its own function. -/
def FanCommandAtomic (sensors : SensorTable) (calls : SetFanCalls) (request : Buffer)
    (length : ℕ) (world : World) : Prop :=
  ∀ code after,
    (ipmiSetFan sensors calls request).run (world.receive length) = (.returned code, after) →
      code ≠ ccOk →
        after.fanMode = world.fanMode ∧
          (after.trace = world.trace ∨
            after.trace = world.trace ++ [.sensorUpdate (request 0) (request 2)])

/-- The shell leaves the mode file as it finds it. -/
def SetFanCalls.Leaves (calls : SetFanCalls) (mode : UInt8) (file : Option (List UInt8)) : Prop :=
  calls.status = 0 ∧ file = some (modeText mode) ∨ calls.status ≠ 0 ∧ calls.failed file = file

/-- The status byte lets the request go on, and nothing after it answers with an
error. -/
def CarriedThrough (calls : SetFanCalls) (request : Buffer) (info : SensorInfo) : Prop :=
  calls.status % 256 = 0 ∧
    (request 1 = autoMode ∨
      info.Controllable calls.strayInterface ∧
        (info.updateFunc (request 0) (request 2) = .ok ccOk ∨
          info.updateFunc (request 0) (request 2) = .error .other))

/-- A request for a known sensor is carried through, or meets a shell that leaves
the mode file alone. -/
def CarriedOrLeft (sensors : SensorTable) (calls : SetFanCalls) (request : Buffer) (length : ℕ)
    (world : World) : Prop :=
  FanRequestFits request length → ∀ info, sensors (request 0) = some info →
    CarriedThrough calls request info ∨ calls.Leaves (request 1) world.fanMode

theorem SetFanCalls.modeFile_eq_iff {calls : SetFanCalls} {mode : UInt8}
    {file : Option (List UInt8)} : calls.modeFile mode file = file ↔ calls.Leaves mode file := by
  unfold SetFanCalls.modeFile SetFanCalls.Leaves
  by_cases written : calls.status = 0
  · simp only [written, if_true, true_and, ne_eq, not_true_eq_false, false_and, or_false]
    exact eq_comm
  · simp only [written, if_false, false_and, ne_eq, not_false_eq_true, true_and, false_or]

/-- A command is atomic when it stops before the echo, or succeeds after it. -/
theorem fanCommandAtomic_of_mode {outcome : Outcome Exception CompletionCode} {after : World}
    (ran : (ipmiSetFan sensors calls request).run (world.receive length) = (outcome, after))
    (kept : after.fanMode = world.fanMode)
    (touched : after.trace = world.trace ∨
      after.trace = world.trace ++ [.sensorUpdate (request 0) (request 2)]) :
    FanCommandAtomic sensors calls request length world := by
  intro code final ranOther _
  rw [ran] at ranOther
  cases ranOther
  exact ⟨kept, touched⟩

theorem fanCommandAtomic_iff_kept {code : CompletionCode} {after : World}
    (ran : (ipmiSetFan sensors calls request).run (world.receive length) = (.returned code, after))
    (error : code ≠ ccOk)
    (touched : after.trace = world.trace ∨
      after.trace = world.trace ++ [.sensorUpdate (request 0) (request 2)]) :
    FanCommandAtomic sensors calls request length world ↔ after.fanMode = world.fanMode := by
  constructor
  · intro atomic
    exact (atomic code after ran error).1
  · intro kept
    exact fanCommandAtomic_of_mode ran kept touched

/-- What the condition comes to once the request is known not to be carried through. -/
theorem carriedOrLeft_iff_echoed {info : SensorInfo} (fits : FanRequestFits request length)
    (found : sensors (request 0) = some info) (refused : ¬ CarriedThrough calls request info) :
    CarriedOrLeft sensors calls request length world ↔
      (world.echoed calls (request 1)).fanMode = world.fanMode := by
  change _ ↔ calls.modeFile (request 1) world.fanMode = world.fanMode
  rw [SetFanCalls.modeFile_eq_iff]
  constructor
  · intro kept
    exact (kept fits info found).resolve_left refused
  · intro left _ other same
    exact .inr left

theorem carriedOrLeft_of_carried {info : SensorInfo} (found : sensors (request 0) = some info)
    (carried : CarriedThrough calls request info) :
    CarriedOrLeft sensors calls request length world := by
  intro _ other same
  rw [found] at same
  cases same
  exact .inl carried

theorem updateOutcome_of_carried {result : Except Exception CompletionCode} {code : CompletionCode}
    (carried : result = .ok ccOk ∨ result = .error .other)
    (answered : updateOutcome result = .returned code) : code = ccOk := by
  rcases carried with rfl | rfl
  · exact (Outcome.returned.inj answered).symm
  · cases answered

theorem updateOutcome_of_not_carried {result : Except Exception CompletionCode}
    (failed : ¬ (result = .ok ccOk ∨ result = .error .other)) :
    ∃ code, code ≠ ccOk ∧ updateOutcome result = .returned code := by
  cases result with
  | ok code => exact ⟨code, fun success => failed (.inl (congrArg Except.ok success)), rfl⟩
  | error error =>
    cases error with
    | internalFailure => exact ⟨ccUnspecifiedError, ccUnspecifiedError_ne_ok, rfl⟩
    | runtimeError => exact ⟨ccUnspecifiedError, ccUnspecifiedError_ne_ok, rfl⟩
    | other => exact absurd (.inr rfl) failed

/-- A failing fan command is without effect exactly when the shell, once asked, leaves
the mode file as it was. -/
theorem fanCommandAtomic_iff :
    FanCommandAtomic sensors calls request length world ↔
      CarriedOrLeft sensors calls request length world := by
  by_cases fits : FanRequestFits request length
  · obtain ⟨after, ran, mode, trace⟩ := run_ipmiSetFan_fits fits sensors calls world
    have decided := fanVerdict_decided sensors calls request
    generalize fanVerdict sensors calls request = verdict at decided ran mode trace
    cases decided with
    | unknown missing =>
      refine iff_of_true (fanCommandAtomic_of_mode ran mode (.inl trace)) ?_
      intro _ info found
      rw [missing] at found
      cases found
    | unset found failed =>
      rw [fanCommandAtomic_iff_kept ran ccUnspecifiedError_ne_ok (.inl trace), mode]
      refine (carriedOrLeft_iff_echoed fits found ?_).symm
      intro carried
      exact failed (toByte_eq_zero_iff.mpr carried.1)
    | automatic found set auto =>
      refine iff_of_true ?_ (carriedOrLeft_of_carried found ⟨toByte_eq_zero_iff.mp set, .inl auto⟩)
      intro code final ranOther error
      rw [ran] at ranOther
      cases ranOther
      exact absurd rfl error
    | forbidden found set manual unable =>
      rw [fanCommandAtomic_iff_kept ran ccIllegalCommand_ne_ok (.inl trace), mode]
      refine (carriedOrLeft_iff_echoed fits found ?_).symm
      rintro ⟨_, auto | ⟨able, _⟩⟩
      · exact manual auto
      · exact unable able
    | @handed info found set manual able =>
      by_cases carried : info.updateFunc (request 0) (request 2) = .ok ccOk ∨
          info.updateFunc (request 0) (request 2) = .error .other
      · have through : CarriedThrough calls request info :=
          ⟨toByte_eq_zero_iff.mp set, .inr ⟨able, carried⟩⟩
        refine iff_of_true ?_ (carriedOrLeft_of_carried found through)
        intro code final ranOther error
        rw [ran] at ranOther
        exact absurd (updateOutcome_of_carried carried (congrArg Prod.fst ranOther)) error
      · obtain ⟨code, error, answered⟩ := updateOutcome_of_not_carried carried
        rw [FanVerdict.outcome, answered] at ran
        rw [fanCommandAtomic_iff_kept ran error (.inr trace), mode]
        refine (carriedOrLeft_iff_echoed fits found ?_).symm
        rintro ⟨_, auto | ⟨_, taken⟩⟩
        · exact manual auto
        · exact carried taken
  · have misfit : ¬ FanRequestFits request (world.receive length).dataLen := fits
    refine iff_of_true ?_ fun acts => absurd acts fits
    exact fanCommandAtomic_of_mode (run_ipmiSetFan_misfit misfit) rfl (.inl rfl)

def World.automatic : World := { World.boot with fanMode := some (modeText autoMode) }

/-- A refused request for manual mode turns automatic control off. -/
theorem fanCommandAtomic_lost_by_readonly_sensor :
    ¬ FanCommandAtomic (fun _ => some { SensorInfo.pwm with writable := false }) ⟨0, id, []⟩
      (fun _ => 0) 3 World.automatic := by
  intro atomic
  have kept := (atomic ccIllegalCommand _ rfl ccIllegalCommand_ne_ok).1
  exact absurd kept (by decide)

end InspurIpmi

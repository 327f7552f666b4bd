import InspurIpmi.ReceivedBytes

/-!
# What the fan commands do

Every outcome of the two handlers, with the state it leaves.
-/

set_option autoImplicit false

namespace InspurIpmi

open Foundation

/-!
## Setting
-/

/-- The sensor takes a value: it is a writable fan, behind another interface than
that of a plain reading. -/
def SensorInfo.Controllable (info : SensorInfo) (strayInterface : CString) : Prop :=
  info.writable = true ∧ info.sensorType = fanType ∧
    info.propertyInterfaces.headD strayInterface ≠ ipmiValueInf

instance SensorInfo.decidableControllable (info : SensorInfo) (strayInterface : CString) :
    Decidable (info.Controllable strayInterface) :=
  inferInstanceAs (Decidable (_ ∧ _))

/-- Where `setFan` stops. -/
inductive FanVerdict where
  | unknown
  | unset
  | automatic
  | forbidden
  | handed (info : SensorInfo)

def fanVerdict (sensors : SensorTable) (calls : SetFanCalls) (request : Buffer) : FanVerdict :=
  match sensors (request 0) with
  | none => .unknown
  | some info =>
    if toByte calls.status ≠ 0 then .unset
    else if request 1 = autoMode then .automatic
    else if info.Controllable calls.strayInterface then .handed info
    else .forbidden

def World.echoed (world : World) (calls : SetFanCalls) (mode : UInt8) : World :=
  { world with fanMode := calls.modeFile mode world.fanMode }

def World.sensorUpdated (world : World) (number reading : UInt8) : World :=
  { world with trace := world.trace ++ [.sensorUpdate number reading] }

def updateOutcome : Except Exception CompletionCode → Outcome Exception CompletionCode
  | .ok rc => .returned rc
  | .error .internalFailure => .returned ccUnspecifiedError
  | .error .runtimeError => .returned ccUnspecifiedError
  | .error .other => .thrown .other

def FanVerdict.outcome (number reading : UInt8) : FanVerdict → Outcome Exception CompletionCode
  | .unknown => .returned ccSensorInvalid
  | .unset => .returned ccUnspecifiedError
  | .automatic => .returned ccOk
  | .forbidden => .returned ccIllegalCommand
  | .handed info => updateOutcome (info.updateFunc number reading)

def FanVerdict.after (calls : SetFanCalls) (request : Buffer) (world : World) :
    FanVerdict → World
  | .unknown => world
  | .unset => world.echoed calls (request 1)
  | .automatic => world.echoed calls (request 1)
  | .forbidden => world.echoed calls (request 1)
  | .handed _ => (world.echoed calls (request 1)).sensorUpdated (request 0) (request 2)

theorem run_setFanMode (calls : SetFanCalls) (mode : UInt8) (world : World) :
    (setFanMode calls mode).run world =
      (.returned (toByte calls.status), world.echoed calls mode) := rfl

/-- What must hold of the table and the request where `setFan` stops. -/
inductive FanDecided (sensors : SensorTable) (calls : SetFanCalls) (request : Buffer) :
    FanVerdict → Prop
  | unknown (missing : sensors (request 0) = none) : FanDecided sensors calls request .unknown
  | unset {info : SensorInfo} (found : sensors (request 0) = some info)
      (failed : toByte calls.status ≠ 0) : FanDecided sensors calls request .unset
  | automatic {info : SensorInfo} (found : sensors (request 0) = some info)
      (set : toByte calls.status = 0) (mode : request 1 = autoMode) :
      FanDecided sensors calls request .automatic
  | forbidden {info : SensorInfo} (found : sensors (request 0) = some info)
      (set : toByte calls.status = 0) (mode : request 1 ≠ autoMode)
      (unable : ¬ info.Controllable calls.strayInterface) :
      FanDecided sensors calls request .forbidden
  | handed {info : SensorInfo} (found : sensors (request 0) = some info)
      (set : toByte calls.status = 0) (mode : request 1 ≠ autoMode)
      (able : info.Controllable calls.strayInterface) :
      FanDecided sensors calls request (.handed info)

theorem fanVerdict_decided (sensors : SensorTable) (calls : SetFanCalls) (request : Buffer) :
    FanDecided sensors calls request (fanVerdict sensors calls request) := by
  unfold fanVerdict
  cases found : sensors (request 0) with
  | none => exact .unknown found
  | some info =>
    dsimp only
    by_cases failed : toByte calls.status ≠ 0
    · rw [if_pos failed]
      exact .unset found failed
    · rw [if_neg failed]
      by_cases mode : request 1 = autoMode
      · rw [if_pos mode]
        exact .automatic found (not_not.mp failed) mode
      · rw [if_neg mode]
        by_cases able : info.Controllable calls.strayInterface
        · rw [if_pos able]
          exact .handed found (not_not.mp failed) mode able
        · rw [if_neg able]
          exact .forbidden found (not_not.mp failed) mode able

theorem run_callUpdateFunc_caught (info : SensorInfo) (number reading : UInt8) (world : World) :
    (Process.tryCatch (callUpdateFunc info number reading) catchSetFan).run world =
      (updateOutcome (info.updateFunc number reading), world.sensorUpdated number reading) := by
  rw [Process.run_tryCatch]
  unfold callUpdateFunc
  rw [run_record_bind]
  cases info.updateFunc number reading with
  | ok rc => rfl
  | error error => cases error <;> rfl

theorem run_setFan (sensors : SensorTable) (calls : SetFanCalls) (request : Buffer)
    (world : World) :
    (setFan sensors calls request).run world =
      ((fanVerdict sensors calls request).outcome (request 0) (request 2),
        (fanVerdict sensors calls request).after calls request world) := by
  unfold setFan fanVerdict
  dsimp only
  cases found : sensors (request 0) with
  | none => rfl
  | some info =>
    dsimp only
    rw [Process.run_tryCatch_bind (run_setFanMode calls (request 1) world)]
    by_cases unset : toByte calls.status ≠ 0
    · rw [if_pos unset, if_pos unset]
      rfl
    · rw [if_neg unset, if_neg unset]
      by_cases automatic : request 1 = autoMode
      · rw [if_neg (not_not_intro automatic), if_pos automatic]
        rfl
      · rw [if_pos automatic, if_neg automatic]
        cases writable : info.writable with
        | false =>
          have refused : ¬ info.Controllable calls.strayInterface := fun able => by
            rw [able.1] at writable
            cases writable
          rw [if_neg refused]
          rfl
        | true =>
          by_cases able : info.Controllable calls.strayInterface
          · rw [if_pos able, if_pos able.2]
            exact run_callUpdateFunc_caught info (request 0) (request 2) _
          · have refused := fun suitable => able ⟨writable, suitable⟩
            rw [if_neg able, if_neg refused]
            rfl

theorem run_ipmiSetFan_misfit {sensors : SensorTable} {calls : SetFanCalls} {request : Buffer}
    {world : World} (misfit : ¬ FanRequestFits request world.dataLen) :
    (ipmiSetFan sensors calls request).run world =
      (.returned ccIllegalCommand, { world with dataLen := 0 }) := by
  rw [run_ipmiSetFan, if_neg misfit]

theorem run_ipmiSetFan_answers {sensors : SensorTable} {calls : SetFanCalls} {request : Buffer}
    {world : World} {code : CompletionCode} (fits : FanRequestFits request world.dataLen)
    (answers : (fanVerdict sensors calls request).outcome (request 0) (request 2) =
      .returned code) :
    (ipmiSetFan sensors calls request).run world =
      (.returned code,
        { (fanVerdict sensors calls request).after calls request world with dataLen := 0 }) := by
  have ran := run_setFan sensors calls request world
  rw [answers] at ran
  rw [run_ipmiSetFan, if_pos fits, Process.run_bind_returned ran]
  rfl

theorem run_ipmiSetFan_throws {sensors : SensorTable} {calls : SetFanCalls} {request : Buffer}
    {world : World} {error : Exception} (fits : FanRequestFits request world.dataLen)
    (throws : (fanVerdict sensors calls request).outcome (request 0) (request 2) = .thrown error) :
    (ipmiSetFan sensors calls request).run world =
      (.thrown error, (fanVerdict sensors calls request).after calls request world) := by
  have ran := run_setFan sensors calls request world
  rw [throws] at ran
  rw [run_ipmiSetFan, if_pos fits, Process.run_bind, ran]

theorem updateOutcome_cases (result : Except Exception CompletionCode) :
    (∃ code, updateOutcome result = .returned code) ∨
      (result = .error .other ∧ updateOutcome result = .thrown .other) := by
  cases result with
  | ok rc => exact .inl ⟨rc, rfl⟩
  | error error =>
    cases error with
    | internalFailure => exact .inl ⟨ccUnspecifiedError, rfl⟩
    | runtimeError => exact .inl ⟨ccUnspecifiedError, rfl⟩
    | other => exact .inr ⟨rfl, rfl⟩

/-- Only the function of a sensor can keep the handler from returning. -/
theorem FanVerdict.outcome_cases (verdict : FanVerdict) (number reading : UInt8) :
    (∃ code, verdict.outcome number reading = .returned code) ∨
      verdict.outcome number reading = .thrown .other := by
  cases verdict with
  | unknown => exact .inl ⟨_, rfl⟩
  | unset => exact .inl ⟨_, rfl⟩
  | automatic => exact .inl ⟨_, rfl⟩
  | forbidden => exact .inl ⟨_, rfl⟩
  | handed info =>
    rcases updateOutcome_cases (info.updateFunc number reading) with answered | ⟨_, thrown⟩
    · exact .inl answered
    · exact .inr thrown

theorem run_ipmiSetFan_fits {request : Buffer} {length : ℕ} (fits : FanRequestFits request length)
    (sensors : SensorTable) (calls : SetFanCalls) (world : World) :
    ∃ after, (ipmiSetFan sensors calls request).run (world.receive length) =
        ((fanVerdict sensors calls request).outcome (request 0) (request 2), after) ∧
      after.fanMode = ((fanVerdict sensors calls request).after calls request world).fanMode ∧
      after.trace = ((fanVerdict sensors calls request).after calls request world).trace := by
  have fitsReceived : FanRequestFits request (world.receive length).dataLen := fits
  have same : ∀ verdict : FanVerdict,
      (verdict.after calls request (world.receive length)).fanMode =
          (verdict.after calls request world).fanMode ∧
        (verdict.after calls request (world.receive length)).trace =
          (verdict.after calls request world).trace := by
    intro verdict
    cases verdict <;> exact ⟨rfl, rfl⟩
  rcases (fanVerdict sensors calls request).outcome_cases (request 0) (request 2) with
    ⟨code, answers⟩ | throws
  · rw [answers]
    exact ⟨_, run_ipmiSetFan_answers fitsReceived answers, same _⟩
  · rw [throws]
    exact ⟨_, run_ipmiSetFan_throws fitsReceived throws, same _⟩

/-!
## Getting
-/

/-- The value a sensor that may be read and is a fan delivers. -/
def fanValue? (sensors : SensorTable) (request : Buffer) : Option UInt8 :=
  match sensors (request 0) with
  | none => none
  | some info =>
    if info.readable ∧ info.sensorType = fanType then info.getFunc.toOption else none

/-- What `getFanMode` makes of the mode file. -/
def modeRead (reads : Bool) (text : Option (List UInt8)) : UInt8 :=
  (if reads then text.getD [] else []).headD 0 - 0x30

def World.fanSent (world : World) (mode value : UInt8) : World :=
  { world with
    response := overlay (overlay world.response 0 1 fun _ => mode) 1 1 fun _ => value
    dataLen := 2 }

theorem fanValue?_eq_some {sensors : SensorTable} {request : Buffer} {value : UInt8}
    (found : fanValue? sensors request = some value) :
    ∃ info, sensors (request 0) = some info ∧ info.readable = true ∧
      info.sensorType = fanType ∧ info.getFunc = .ok value := by
  unfold fanValue? at found
  cases present : sensors (request 0) with
  | none =>
    rw [present] at found
    cases found
  | some info =>
    simp only [present] at found
    by_cases suitable : info.readable = true ∧ info.sensorType = fanType
    · rw [if_pos suitable] at found
      cases got : info.getFunc with
      | error error =>
        rw [got] at found
        cases found
      | ok read =>
        rw [got] at found
        cases found
        exact ⟨info, rfl, suitable.1, suitable.2, got⟩
    · rw [if_neg suitable] at found
      cases found

theorem run_getFan_some {sensors : SensorTable} {reads : Bool} {request : Buffer} {value : UInt8}
    (found : fanValue? sensors request = some value) (world : World) :
    (getFan sensors reads request).run world =
      (.returned ccOk,
        { world with
          response := overlay (overlay world.response 0 1 fun _ => modeRead reads world.fanMode)
            1 1 fun _ => value }) := by
  obtain ⟨info, present, readable, fan, got⟩ := fanValue?_eq_some found
  unfold getFan
  simp only [present, readable, fan, got, Bool.not_true, Bool.false_eq_true, ne_eq,
    not_true_eq_false, if_false]
  rfl

theorem run_getFan_none {sensors : SensorTable} {reads : Bool} {request : Buffer}
    (missing : fanValue? sensors request = none) (world : World) :
    ∃ code, code ≠ ccOk ∧ (getFan sensors reads request).run world = (.returned code, world) := by
  unfold fanValue? at missing
  unfold getFan
  cases present : sensors (request 0) with
  | none => exact ⟨ccSensorInvalid, ccSensorInvalid_ne_ok, rfl⟩
  | some info =>
    simp only [present] at missing
    dsimp only
    cases readable : info.readable with
    | false => exact ⟨ccIllegalCommand, ccIllegalCommand_ne_ok, rfl⟩
    | true =>
      rw [if_neg (by simp)]
      by_cases fan : info.sensorType = fanType
      · rw [if_neg (not_not_intro fan)]
        rw [if_pos ⟨readable, fan⟩] at missing
        cases got : info.getFunc with
        | ok value =>
          rw [got] at missing
          cases missing
        | error error => exact ⟨ccUnspecifiedError, ccUnspecifiedError_ne_ok, rfl⟩
      · rw [if_pos fan]
        exact ⟨ccSensorInvalid, ccSensorInvalid_ne_ok, rfl⟩

theorem run_ipmiGetFan_ok {sensors : SensorTable} {reads : Bool} {request : Buffer} {value : UInt8}
    {world : World} (right : world.dataLen = 1) (found : fanValue? sensors request = some value) :
    (ipmiGetFan sensors reads request).run world =
      (.returned ccOk, world.fanSent (modeRead reads world.fanMode) value) := by
  unfold ipmiGetFan
  rw [run_getDataLen_bind, if_neg (not_not_intro right),
    Process.run_bind_returned (run_getFan_some found world), if_pos rfl]
  rfl

theorem run_ipmiGetFan_error {sensors : SensorTable} {reads : Bool} {request : Buffer}
    {world : World} (failed : world.dataLen = 1 → fanValue? sensors request = none) :
    ∃ code, code ≠ ccOk ∧
      (ipmiGetFan sensors reads request).run world = (.returned code, { world with dataLen := 0 }) := by
  unfold ipmiGetFan
  rw [run_getDataLen_bind]
  by_cases right : world.dataLen = 1
  · obtain ⟨code, error, ran⟩ := @run_getFan_none sensors reads request (failed right) world
    refine ⟨code, error, ?_⟩
    rw [if_neg (not_not_intro right), Process.run_bind_returned ran, if_neg error]
    rfl
  · rw [if_pos right]
    exact ⟨ccReqDataLenInvalid, ccReqDataLenInvalid_ne_ok, rfl⟩

end InspurIpmi

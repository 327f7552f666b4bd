import InspurIpmi.Sfp

/-!
# What the SFP commands do

The closed form of every function of the SFP commands, by what the files behind
it answer.
-/

set_option autoImplicit false

namespace InspurIpmi

open Foundation

/-!
## Reading a GPIO line
-/

inductive GpioOutcome where
  | unopened
  | failed
  | delivered (text : List UInt8)
  deriving DecidableEq, Repr

def GpioRead.outcome (calls : GpioRead) (file : Option (List UInt8)) : GpioOutcome :=
  if calls.opened && file.isSome then
    match calls.delivers with
    | none => .failed
    | some count => .delivered ((file.getD []).take (min count 3))
  else .unopened

namespace GpioOutcome

def value (locals : Locals) : GpioOutcome → Int
  | unopened | failed => -1
  | delivered text => atoi (locals.text text)

def fdsAfter (fds : Finset ℕ) : GpioOutcome → Finset ℕ
  | failed => insert (lowestFree fds) fds
  | unopened | delivered _ => fds

end GpioOutcome

theorem lowestFree_not_neg (fds : Finset ℕ) : ¬ (lowestFree fds : Int) < 0 :=
  not_lt_of_ge (Int.natCast_nonneg _)

theorem run_getSFPGPIOValue (calls : GpioRead) (locals : Locals) (gpio : ℤ) (world : World) :
    (getSFPGPIOValue calls locals gpio).run world =
      (.returned ((calls.outcome (world.gpio gpio)).value locals),
        { world with fds := (calls.outcome (world.gpio gpio)).fdsAfter world.fds }) := by
  unfold getSFPGPIOValue GpioRead.outcome
  rw [Process.run_gets_bind, Process.run_bind, run_openFile]
  cases opens : calls.opened && (world.gpio gpio).isSome with
  | false => rfl
  | true =>
      simp only [if_true, lowestFree_not_neg, if_false]
      cases calls.delivers with
      | none => rfl
      | some count =>
          simp only
          rw [run_closeFile_opened_bind _ _ _ rfl]
          rfl

/-!
## Writing a GPIO line
-/

def CharWrite.succeeds (calls : CharWrite) (present : Bool) : Bool :=
  calls.opened && present && calls.written

def CharWrite.fdsAfter (calls : CharWrite) (present : Bool) (fds : Finset ℕ) : Finset ℕ :=
  if calls.opened && present && !calls.written then insert (lowestFree fds) fds else fds

theorem run_setSFPGPIOValue (calls : CharWrite) (gpio : ℤ) (value : Int) (world : World) :
    (setSFPGPIOValue calls gpio value).run world =
      (.returned (if calls.succeeds (world.gpio gpio).isSome then 0 else -1),
        { world with
          fds := calls.fdsAfter (world.gpio gpio).isSome world.fds
          gpio := if calls.succeeds (world.gpio gpio).isSome then
              Function.update world.gpio gpio (some (gpioText value))
            else world.gpio
          trace := world.trace ++ [.gpioWriteAttempt gpio] }) := by
  unfold setSFPGPIOValue CharWrite.succeeds CharWrite.fdsAfter
  rw [run_record_bind, Process.run_gets_bind, Process.run_bind, run_openFile]
  simp only
  cases opens : calls.opened && (world.gpio gpio).isSome with
  | false => rfl
  | true =>
      simp only [if_true, lowestFree_not_neg, if_false]
      cases calls.written with
      | false => rfl
      | true =>
          simp only [Bool.not_true, Bool.false_eq_true, if_false, Process.run_modify_bind]
          rw [run_closeFile_opened_bind _ _ _ rfl]
          rfl

theorem run_sfpRest (calls : CharWrite) (sfpIndex : ℕ) (world : World) :
    (sfpRest calls sfpIndex).run world =
      (.returned (if calls.succeeds true then 0 else -1),
        { world with
          fds := calls.fdsAfter true world.fds
          trace := world.trace ++ [.moduleReset (sfpIndex + 1)] }) := by
  unfold sfpRest CharWrite.succeeds CharWrite.fdsAfter
  rw [run_record_bind, Process.run_bind, run_openFile]
  cases calls.opened with
  | false => rfl
  | true =>
      simp only [if_true, lowestFree_not_neg, if_false]
      cases calls.written with
      | false => rfl
      | true =>
          simp only [Bool.not_true, Bool.false_eq_true, if_false]
          rw [run_closeFile_opened_bind _ _ _ rfl]
          rfl

/-!
## Reading the EEPROM of a module
-/

/-- The file of a module and the number of bytes it delivers, or the negative
result of the step that failed. -/
def SffCalls.outcome (calls : SffCalls) (file : Option Buffer) : Except Int (Buffer × ℕ) :=
  match file with
  | none => .error (-3)
  | some content =>
      if calls.opened then
        if calls.seeks then
          match calls.delivers with
          | .error errno => .error (-errno.val)
          | .ok count => .ok (content, count)
        else .error (-2)
      else .error (-3)

theorem SffCalls.outcome_error_neg {calls : SffCalls} {file : Option Buffer} {status : Int}
    (failed : calls.outcome file = .error status) : status < 0 := by
  unfold SffCalls.outcome at failed
  split at failed
  · cases failed
    decide
  · split at failed
    · split at failed
      · cases answer : calls.delivers with
        | error errno =>
            rw [answer] at failed
            cases failed
            have positive := errno.property
            omega
        | ok count =>
            rw [answer] at failed
            cases failed
      · cases failed
        decide
    · cases failed
      decide

theorem run_oomGetMemorySff (calls : SffCalls) (portnum page offset len : UInt8) (world : World) :
    (oomGetMemorySff calls portnum page offset len).run world =
      match calls.outcome (world.files (sffFile portnum.toNat)) with
      | .error status =>
          (.returned status, { world with trace := world.trace ++ [.lookup .path portnum.toNat] })
      | .ok (file, count) =>
          (.returned ((min count len.toNat : ℕ) : Int),
            { world with
              response := overlay world.response 0 (min count len.toNat) fun index =>
                file (offset.toNat + page.toNat * 128 + index)
              trace := world.trace ++ [.lookup .path portnum.toNat] }) := by
  unfold oomGetMemorySff SffCalls.outcome
  have unmoved : World.files { world with trace := world.trace ++ [.lookup .path portnum.toNat] } =
      world.files := rfl
  rw [run_record_bind, Process.run_gets_bind, unmoved, Process.run_bind, run_openFile]
  cases world.files (sffFile portnum.toNat) with
  | none =>
      simp only [Option.isSome_none, Bool.and_false, Bool.false_eq_true, if_false, if_true]
      rfl
  | some file =>
      cases calls.opened with
      | false => rfl
      | true =>
          have opened : ¬ (lowestFree world.fds : Int) = -1 := by omega
          simp only [Option.isSome_some, Bool.and_self, if_true, opened, if_false]
          cases calls.seeks with
          | false =>
              simp only [Bool.not_false, Bool.false_eq_true, if_true, if_false]
              rw [run_closeFile_opened_bind _ _ _ rfl]
              rfl
          | true =>
              simp only [Bool.not_true, Bool.false_eq_true, if_true, if_false]
              cases calls.delivers with
              | error errno =>
                  simp only
                  rw [run_closeFile_opened_bind _ _ _ rfl]
                  rfl
              | ok count =>
                  simp only [Option.getD_some]
                  rw [run_writeResponse_bind, run_closeFile_opened_bind _ _ _ rfl]
                  rfl

theorem run_oomGetMemorySff_error {calls : SffCalls} {portnum : UInt8} {status : Int}
    {world : World} (failed : calls.outcome (world.files (sffFile portnum.toNat)) = .error status)
    (page offset len : UInt8) :
    (oomGetMemorySff calls portnum page offset len).run world =
      (.returned status, { world with trace := world.trace ++ [.lookup .path portnum.toNat] }) := by
  rw [run_oomGetMemorySff, failed]

theorem run_oomGetMemorySff_ok {calls : SffCalls} {portnum : UInt8} {count : ℕ} {file : Buffer}
    {world : World}
    (answered : calls.outcome (world.files (sffFile portnum.toNat)) = .ok (file, count))
    (page offset len : UInt8) :
    (oomGetMemorySff calls portnum page offset len).run world =
      (.returned ((min count len.toNat : ℕ) : Int),
        { world with
          response := overlay world.response 0 (min count len.toNat) fun index =>
            file (offset.toNat + page.toNat * 128 + index)
          trace := world.trace ++ [.lookup .path portnum.toNat] }) := by
  rw [run_oomGetMemorySff, answered]

/-!
## The handlers
-/

section Status

variable {base : ℤ} {status : Int → UInt8} {calls : GpioRead} {locals : Locals} {request : Buffer}
  {world : World}

theorem run_sfpStatus_length (wrong : world.dataLen ≠ 1) :
    (sfpStatus base status calls locals request).run world =
      (.returned ccReqDataLenInvalid, { world with dataLen := 0 }) := by
  unfold sfpStatus
  rw [run_getDataLen_bind, if_pos wrong]
  rfl

theorem run_sfpStatus_range (right : world.dataLen = 1) (outside : getSFPSum ≤ (request 0).toNat) :
    (sfpStatus base status calls locals request).run world =
      (.returned ccParmOutOfRange, { world with dataLen := 0 }) := by
  unfold sfpStatus
  rw [run_getDataLen_bind, if_neg (not_not_intro right), run_setDataLen_bind,
    if_pos outside]
  rfl

theorem run_sfpStatus_read {outcome : GpioOutcome} (right : world.dataLen = 1)
    (inside : (request 0).toNat < getSFPSum)
    (answered : calls.outcome (world.gpio (gpioLine base (request 0))) = outcome) :
    (sfpStatus base status calls locals request).run world =
      if outcome.value locals = -1 then
        (.returned ccInvalidFieldRequest,
          { world with dataLen := 1, fds := outcome.fdsAfter world.fds })
      else
        (.returned ccOk,
          { world with
            dataLen := 1
            fds := outcome.fdsAfter world.fds
            response := overlay world.response 0 1 fun _ => status (outcome.value locals) }) := by
  subst answered
  unfold sfpStatus
  rw [run_getDataLen_bind, if_neg (not_not_intro right), run_setDataLen_bind,
    if_neg (not_le_of_gt inside), run_setDataLen_bind,
    Process.run_bind, run_getSFPGPIOValue]
  simp only
  split <;> rfl

end Status

theorem run_ipmiGetSFPSum_length {world : World} (wrong : world.dataLen ≠ 0) :
    ipmiGetSFPSum.run world = (.returned ccReqDataLenInvalid, world) := by
  unfold ipmiGetSFPSum
  rw [run_getDataLen_bind, if_pos wrong]
  rfl

theorem run_ipmiGetSFPSum_ok {world : World} (right : world.dataLen = 0) :
    ipmiGetSFPSum.run world =
      (.returned ccOk,
        { world with dataLen := 1, response := overlay world.response 0 1 fun _ => 32 }) := by
  unfold ipmiGetSFPSum
  rw [run_getDataLen_bind, if_neg (not_not_intro right)]
  rfl

theorem run_ipmiSFPReset_length {calls : CharWrite} {request : Buffer} {world : World}
    (wrong : world.dataLen ≠ 1) :
    (ipmiSFPReset calls request).run world = (.returned ccReqDataLenInvalid, world) := by
  unfold ipmiSFPReset
  rw [run_getDataLen_bind, if_pos wrong]
  rfl

theorem run_ipmiSFPReset_reset {calls : CharWrite} {request : Buffer} {world : World}
    (right : world.dataLen = 1) :
    (ipmiSFPReset calls request).run world =
      (.returned (if calls.succeeds true then ccOk else ccInvalidFieldRequest),
        { world with
          dataLen := 1
          fds := calls.fdsAfter true world.fds
          response := if calls.succeeds true then overlay world.response 0 1 fun _ => completeCode
            else world.response
          trace := world.trace ++ [.moduleReset ((request 0).toNat + 1)] }) := by
  unfold ipmiSFPReset
  rw [run_getDataLen_bind, if_neg (not_not_intro right), run_setDataLen_bind, Process.run_bind,
    run_sfpRest]
  cases calls.succeeds true <;> rfl

theorem run_ipmiSetSFPLowPowerMode_length {calls : CharWrite} {request : Buffer} {world : World}
    (wrong : world.dataLen ≠ 2) :
    (ipmiSetSFPLowPowerMode calls request).run world = (.returned ccReqDataLenInvalid, world) := by
  unfold ipmiSetSFPLowPowerMode
  rw [run_getDataLen_bind, if_pos wrong]
  rfl

def lowPowerLine (request : Buffer) : ℤ := gpioLine lpmodeIndex (request 0)

def lowPowerValue (request : Buffer) : Int := if request 1 = 0x01 then 0 else 1

theorem run_ipmiSetSFPLowPowerMode_write {calls : CharWrite} {request : Buffer} {world : World}
    {succeeds : Bool} (right : world.dataLen = 2)
    (answered : calls.succeeds (world.gpio (lowPowerLine request)).isSome = succeeds) :
    (ipmiSetSFPLowPowerMode calls request).run world =
      (.returned (if succeeds then ccOk else ccInvalidFieldRequest),
        { world with
          dataLen := 1
          fds := calls.fdsAfter (world.gpio (lowPowerLine request)).isSome world.fds
          response := if succeeds then overlay world.response 0 1 fun _ => completeCode
            else world.response
          gpio := if succeeds then
              Function.update world.gpio (lowPowerLine request)
                (some (gpioText (lowPowerValue request)))
            else world.gpio
          trace := world.trace ++ [.gpioWriteAttempt (lowPowerLine request)] }) := by
  unfold ipmiSetSFPLowPowerMode
  rw [run_getDataLen_bind, if_neg (not_not_intro right), run_setDataLen_bind, Process.run_bind,
    run_setSFPGPIOValue]
  simp only [lowPowerLine, lowPowerValue] at answered ⊢
  simp only [answered]
  cases succeeds <;> rfl

theorem run_ipmigetSFPEEPROM_length {calls : SffCalls} {request : Buffer} {world : World}
    (wrong : world.dataLen ≠ 4) :
    (ipmigetSFPEEPROM calls request).run world = (.returned ccReqDataLenInvalid, world) := by
  unfold ipmigetSFPEEPROM
  rw [run_getDataLen_bind, if_pos wrong]
  rfl

theorem run_ipmigetSFPEEPROM_range {calls : SffCalls} {request : Buffer} {world : World}
    (right : world.dataLen = 4) (outside : getSFPSum ≤ (request 0).toNat) :
    (ipmigetSFPEEPROM calls request).run world =
      (.returned ccParmOutOfRange, { world with dataLen := 0 }) := by
  unfold ipmigetSFPEEPROM
  rw [run_getDataLen_bind, if_neg (not_not_intro right), run_setDataLen_bind,
    if_pos outside]
  rfl

theorem run_ipmigetSFPEEPROM_error {calls : SffCalls} {request : Buffer} {world : World}
    {status : Int} (right : world.dataLen = 4) (inside : (request 0).toNat < getSFPSum)
    (failed : calls.outcome (world.files (sffFile (request 0).toNat)) = .error status) :
    (ipmigetSFPEEPROM calls request).run world =
      (.returned ccInvalidFieldRequest,
        { world with
          dataLen := 0
          trace := world.trace ++ [.lookup .path (request 0).toNat] }) := by
  have unanswered : calls.outcome (World.files { world with dataLen := 0 } _) = .error status :=
    failed
  unfold ipmigetSFPEEPROM
  rw [run_getDataLen_bind, if_neg (not_not_intro right), run_setDataLen_bind,
    if_neg (not_le_of_gt inside),
    Process.run_bind_returned (run_oomGetMemorySff_error unanswered _ _ _),
    if_pos (SffCalls.outcome_error_neg failed)]
  rfl

theorem run_ipmigetSFPEEPROM_ok {calls : SffCalls} {request : Buffer} {world : World}
    {file : Buffer} {count : ℕ} (right : world.dataLen = 4) (inside : (request 0).toNat < getSFPSum)
    (answered : calls.outcome (world.files (sffFile (request 0).toNat)) = .ok (file, count)) :
    (ipmigetSFPEEPROM calls request).run world =
      (.returned ccOk,
        { world with
          dataLen := (request 3).toNat
          response := overlay world.response 0 (min count (request 3).toNat) fun index =>
            file ((request 2).toNat + (request 1).toNat * 128 + index)
          trace := world.trace ++ [.lookup .path (request 0).toNat] }) := by
  have delivered : calls.outcome (World.files { world with dataLen := 0 } _) = .ok (file, count) :=
    answered
  unfold ipmigetSFPEEPROM
  rw [run_getDataLen_bind, if_neg (not_not_intro right), run_setDataLen_bind,
    if_neg (not_le_of_gt inside),
    Process.run_bind_returned (run_oomGetMemorySff_ok delivered _ _ _),
    if_neg (not_lt_of_ge (Int.natCast_nonneg _))]
  rfl

end InspurIpmi

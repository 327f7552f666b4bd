import InspurIpmi.Foundation.Runs
import InspurIpmi.Foundation.Triples
import InspurIpmi.OemCommands.SettingStore

/-!
# Settings are read as they were set

Whatever commands come in between, and whichever of their calls fail.
-/

set_option autoImplicit false

namespace InspurIpmi

open Foundation

/-!
## Words and their bytes
-/

theorem joined_toNat (high low : UInt8) :
    ((high.toUInt16 <<< 8) ||| low.toUInt16).toNat = 256 * high.toNat + low.toNat := by
  have first := high.toNat_lt
  have second := low.toNat_lt
  have joined := Nat.shiftLeft_add_eq_or_of_lt second high.toNat
  have fits : high.toNat <<< 8 < 2 ^ 16 := by
    rw [Nat.shiftLeft_eq]
    omega
  rw [UInt16.toNat_or, UInt16.toNat_shiftLeft, UInt8.toNat_toUInt16, UInt8.toNat_toUInt16]
  change high.toNat <<< 8 % 2 ^ 16 ||| low.toNat = _
  rw [Nat.mod_eq_of_lt fits, ← joined, Nat.shiftLeft_eq]
  omega

theorem cfmOf_toNat (request : Buffer) :
    (cfmOf request).toNat = (request 1).toNat + 256 * (request 2).toNat := by
  rw [cfmOf, UInt16.or_comm, joined_toNat, Nat.add_comm]

theorem toUInt8_toNat (word : UInt16) : word.toUInt8.toNat = word.toNat % 256 :=
  UInt16.toNat_toUInt8 word

theorem shifted_toNat (word : UInt16) : (word >>> 8).toUInt8.toNat = word.toNat / 256 := by
  have bound := word.toNat_lt
  rw [UInt16.toNat_toUInt8, UInt16.toNat_shiftRight]
  change word.toNat >>> 8 % 2 ^ 8 = _
  rw [Nat.shiftRight_eq_div_pow]
  omega

variable {δ : Type} {doubles : Doubles δ} {header : OemHeader} {calls : OemCalls}

/-!
## Running one call
-/

section Calls

variable {α : Type} (world : OemWorld δ)

@[simp] theorem run_dbusCall_bind (number : ℕ) (next : Unit → OemDaemon δ α) :
    (dbusCall calls number >>= next).run world =
      match calls.fails number with
      | some error => (.thrown error, world)
      | none => (next ()).run world := by
  rw [dbusCall]
  cases calls.fails number <;> rfl

@[simp] theorem run_getDbusProperty_bind (number : ℕ) (property : Property)
    (next : Variant δ → OemDaemon δ α) :
    (getDbusProperty calls number property >>= next).run world =
      match calls.fails number with
      | some error => (.thrown error, world)
      | none => (next (world.property property)).run world := by
  rw [getDbusProperty, dbusCall]
  cases calls.fails number <;> rfl

@[simp] theorem run_oemDataLen_bind (next : ℕ → OemDaemon δ α) :
    (oemDataLen >>= next).run world = (next world.dataLen).run world := rfl

@[simp] theorem run_setOemDataLen_bind (length : ℕ) (next : Unit → OemDaemon δ α) :
    (setOemDataLen length >>= next).run world =
      (next ()).run { world with dataLen := length } := rfl

@[simp] theorem run_setByte_bind (index : ℕ) (byte : UInt8) (next : Unit → OemDaemon δ α) :
    (setByte index byte >>= next).run world =
      (next ()).run { world with response := Function.update world.response index byte } := rfl

@[simp] theorem run_setBytes_bind (start : ℕ) (list : List UInt8) (next : Unit → OemDaemon δ α) :
    (setBytes start list >>= next).run world =
      (next ()).run { world with
        response := overlay world.response start list.length fun index => list.getD index 0 } := rfl

theorem run_unlessSdbus {body : OemDaemon δ α} {value : α} {after : OemWorld δ}
    (ran : body.run world = (.returned value, after)) :
    (unlessSdbus body).run world = (.returned (some value), after) := by
  rw [unlessSdbus, Process.run_tryCatch, Process.run_bind_returned ran]
  rfl

end Calls

/-!
## Setting
-/

/-- A setting changes together with the answer of success. Only the command that sets two
properties may leave the first one set without that answer. -/
theorem commits_setting (doubles : Doubles δ) {setting : Setting} {message : OemMessage}
    (asks : setting.Asks header message) :
    Process.Commits (fun world => setting.keptAt.content world)
      (message.calls.Inert ∧ setting.keptAt ≠ .property .resetCfg) (· = ccOk)
      (fun _ => setting.stored doubles (setting.requested header message.request))
      (message.handler doubles header) := by
  rcases message with ⟨command, calls, request, length, response⟩
  cases setting with
  | powerRestoreDelay =>
      cases asks
      rw [Setting.stored, Setting.requested, ← joined_toNat, UInt16.ofNat_toNat]
      exact (commits_setPowerRestoreDelay request).mono And.left
  | resetCfg =>
      cases asks
      rw [Setting.stored, Setting.requested, UInt8.ofNat_toNat]
      exact (commits_setProcessorErrConfig request).mono fun harmless => harmless.2 rfl
  | shutdownPolicy =>
      cases asks
      rw [Setting.stored, Setting.requested, UInt8.ofNat_toNat]
      exact (commits_setShutdownPolicy request).mono And.left
  | fanProfile =>
      obtain ⟨isSet, selects⟩ := asks
      cases isSet
      have mode : Setting.fanProfile.stored doubles (Setting.fanProfile.requested header request) =
          .variant (.string (selectedMode header (request header.setFanFlags))) := by
        rw [Setting.stored, Setting.requested, selectedMode]
        split <;> rfl
      rw [mode]
      exact (commits_setFanConfig selects).mono And.left
  | cfmLimit =>
      obtain ⟨isSet, selects⟩ := asks
      cases isSet
      rw [Setting.stored, Setting.requested, ← cfmOf_toNat]
      exact (commits_setFscParameter_cfm selects).mono And.left
  | setPoint path =>
      obtain ⟨isSet, selects, asked, found⟩ := asks
      cases isSet
      exact (commits_setFscParameter_setPoint selects asked found).mono And.left
  | hostSerial =>
      obtain ⟨isSet, sets⟩ := asks
      cases isSet
      exact (commits_cfgHostSerialPortSpeed sets).mono And.left

def codeOf : Outcome OemException CompletionCode → Option CompletionCode
  | .returned code => some code
  | _ => none

theorem done_iff_codeOf {outcome : Outcome OemException CompletionCode} :
    Outcome.Done (· = ccOk) outcome ↔ codeOf outcome = some ccOk := by
  cases outcome with
  | returned code => simp [Outcome.done_returned, codeOf]
  | thrown error => simp [Outcome.not_done_thrown, codeOf]
  | exited status => simp [Outcome.not_done_exited, codeOf]

/-- The path that is gone on with, which is empty when the mapper cannot be asked. -/
def OemCalls.foundPath (calls : OemCalls) : CString :=
  if calls.fails 0 = none then exitAirConfigPath calls else []

namespace Setting

/-- The message gets the setting. When there is no object for the set point, a default is
got in its place. -/
def Reads (header : OemHeader) (message : OemMessage) : Setting → Prop
  | powerRestoreDelay => message.command = .getPowerRestoreDelay
  | resetCfg => message.command = .getProcessorErrConfig
  | shutdownPolicy => message.command = .getShutdownPolicy
  | fanProfile => message.command = .getFanConfig
  | cfmLimit => message.command = .getFscParameter ∧ message.request 0 = header.cfm
  | setPoint path =>
      message.command = .getFscParameter ∧ message.request 0 = header.tcontrol ∧
        (message.calls.foundPath = path ∨ message.calls.foundPath = [])
  | hostSerial =>
      message.command = .cfgHostSerialPortSpeed ∧
        message.request header.hostSerialCommand = header.getHostSerialCfgCmd

/-- What an answer of success shows of a value. The flag of the performance profile is only
ever set in the response, an object that is not found has a default, and so has a variable
that cannot be printed. -/
def shown (header : OemHeader) (get : OemMessage) (value : ℕ) : Setting → ℕ
  | fanProfile => if (get.response header.getFanFlags).toNat.testBit 2 then 1 else value
  | setPoint _ => if get.calls.foundPath = [] then legacyDefaultExitAirLimit.toNat else value
  | hostSerial => if get.calls.getEnvFails then 0 else value
  | powerRestoreDelay | resetCfg | shutdownPolicy | cfmLimit => value

/-- The value that a response shows. -/
def reported (header : OemHeader) (response : Buffer) : Setting → ℕ
  | powerRestoreDelay =>
      256 * (response header.getDelayRes.msb).toNat + (response header.getDelayRes.lsb).toNat
  | resetCfg => (response header.getResetCfg).toNat
  | shutdownPolicy => (response header.getPolicy).toNat
  | fanProfile => if (response header.getFanFlags).toNat.testBit 2 then 1 else 0
  | cfmLimit => (response 0).toNat + 256 * (response 1).toNat
  | setPoint _ => (response 0).toNat
  | hostSerial => (response 0).toNat

/-- The values that a request can ask for. -/
def Fits (value : ℕ) : Setting → Prop
  | powerRestoreDelay | cfmLimit => value < 2 ^ 16
  | resetCfg | shutdownPolicy | setPoint _ | hostSerial => value < 2 ^ 8
  | fanProfile => value < 2

theorem requested_fits (header : OemHeader) (setting : Setting) (request : Buffer) :
    setting.Fits (setting.requested header request) := by
  cases setting with
  | powerRestoreDelay =>
      have high := (request header.setDelayReq.msb).toNat_lt
      have low := (request header.setDelayReq.lsb).toNat_lt
      simp only [Fits, requested]
      omega
  | cfmLimit =>
      have low := (request 1).toNat_lt
      have high := (request 2).toNat_lt
      simp only [Fits, requested]
      omega
  | resetCfg => exact (request header.setResetCfg).toNat_lt
  | shutdownPolicy => exact (request 0).toNat_lt
  | setPoint path => exact (request 2).toNat_lt
  | hostSerial => exact (request header.hostSerialParameter).toNat_lt
  | fanProfile =>
      simp only [Fits, requested]
      split <;> decide

end Setting

section Answers

open Process

variable {α : Type} {pre : OemWorld δ → Prop}

theorem ensures_dbusCall (number : ℕ) :
    Ensures pre (dbusCall calls number : OemDaemon δ Unit) fun _ => pre := by
  rw [dbusCall]
  split
  · exact ensures_throw _
  · exact ensures_pure fun world met => met

theorem ensures_getDbusProperty (number : ℕ) (property : Property) :
    Ensures pre (getDbusProperty calls number property) fun value world =>
      pre world ∧ value = world.property property :=
  (ensures_dbusCall number).bind fun _ => ensures_gets _

theorem ensures_variantByte (value : Variant δ) :
    Ensures pre (variantByte value) fun byte world => pre world ∧ value = .byte byte := by
  cases value with
  | byte value => exact ensures_pure fun world met => ⟨met, rfl⟩
  | _ => exact ensures_throw _

theorem ensures_variantUInt16 (value : Variant δ) :
    Ensures pre (variantUInt16 value) fun word world => pre world ∧ value = .uint16 word := by
  cases value with
  | uint16 value => exact ensures_pure fun world met => ⟨met, rfl⟩
  | _ => exact ensures_throw _

theorem ensures_variantDouble (value : Variant δ) :
    Ensures pre (variantDouble value) fun number world => pre world ∧ value = .double number := by
  cases value with
  | double value => exact ensures_pure fun world met => ⟨met, rfl⟩
  | _ => exact ensures_throw _

/-- What an answer of success says of the state behind it. -/
abbrev Answers (pre : OemWorld δ → Prop) (handler : OemDaemon δ CompletionCode)
    (post : OemWorld δ → Prop) : Prop :=
  Ensures pre handler fun code world => code = ccOk → post world

variable {post : OemWorld δ → Prop}

theorem answers_error {code : CompletionCode} (error : code ≠ ccOk) :
    Answers pre (return code : OemDaemon δ CompletionCode) post :=
  ensures_pure fun _ _ accepted => absurd accepted error

theorem answers_refusal (length : ℕ) {code : CompletionCode} (error : code ≠ ccOk) :
    Answers pre (do setOemDataLen length; return code : OemDaemon δ CompletionCode) post :=
  (ensures_modify _).bind fun _ => answers_error error

theorem answers_catchSdbus {body : OemDaemon δ CompletionCode} (answers : Answers pre body post) :
    Answers pre (catchSdbus body) post := by
  refine Ensures.tryCatch answers fun error => ?_
  cases error with
  | sdbus => exact answers_error ccUnspecifiedError_ne_ok
  | badVariantAccess => exact ensures_throw _
  | other => exact ensures_throw _

theorem answers_getPowerRestoreDelay (delay : UInt16) :
    Answers (fun world => world.property .powerRestoreDelay = .uint16 delay)
      (ipmiOEMGetPowerRestoreDelay header calls : OemDaemon δ CompletionCode) fun world =>
        world.response header.getDelayRes.lsb = delay.toUInt8 ∧
          world.response header.getDelayRes.msb = (delay >>> 8).toUInt8 := by
  refine (ensures_gets _).bind fun length => Ensures.ite
    (fun _ => answers_refusal 0 ccReqDataLenInvalid_ne_ok) fun _ => ?_
  refine (ensures_dbusCall 0).bind fun _ => (ensures_getDbusProperty 1 _).bind fun value => ?_
  refine (ensures_variantUInt16 value).bind fun word => (ensures_modify _).bind fun _ => ?_
  refine (ensures_modify _).bind fun _ => (ensures_modify _).bind fun _ => ensures_pure ?_
  rintro after ⟨second, ⟨first, ⟨start, ⟨⟨⟨kept, _⟩, read⟩, same⟩, rfl⟩, rfl⟩, rfl⟩ _
  rw [same, kept] at read
  cases read
  exact ⟨(Function.update_of_ne header.getDelayRes.apart _ _).trans (Function.update_self _ _ _),
    Function.update_self _ _ _⟩

theorem answers_getProcessorErrConfig (byte : UInt8) :
    Answers (fun world => world.property .resetCfg = .byte byte)
      (ipmiOEMGetProcessorErrConfig header calls : OemDaemon δ CompletionCode) fun world =>
        world.response header.getResetCfg = byte := by
  refine (ensures_gets _).bind fun length => Ensures.ite
    (fun _ => answers_refusal 0 ccReqDataLenInvalid_ne_ok) fun _ => ?_
  refine (ensures_dbusCall 0).bind fun _ => (ensures_getDbusProperty 1 _).bind fun value => ?_
  refine (ensures_variantByte value).bind fun resetCfg => (ensures_modify _).bind fun _ => ?_
  refine (ensures_dbusCall 2).bind fun _ => answers_catchSdbus ?_
  refine (ensures_getDbusProperty 3 _).bind fun value => (ensures_modify _).bind fun _ => ?_
  refine (ensures_modify _).bind fun _ => ensures_pure ?_
  rintro after ⟨second, ⟨first, ⟨⟨start, ⟨⟨⟨kept, _⟩, read⟩, same⟩, rfl⟩, _⟩, rfl⟩, rfl⟩ _
  rw [same, kept] at read
  cases read
  -- The array of the other property is shorter than its place in the response.
  have short : (value.byteList.take header.maxCPUNum).length ≤ header.maxCPUNum :=
    List.length_take_le ..
  have outside : header.getResetCfg < header.getCaterrStatus ∨
      header.getCaterrStatus + (value.byteList.take header.maxCPUNum).length ≤ header.getResetCfg := by
    rcases header.resetCfgApart with before | behind
    · exact .inl before
    · exact .inr (Nat.le_trans (Nat.add_le_add_left short _) behind)
  dsimp only
  rw [overlay_outside _ _ outside, Function.update_self]

theorem answers_getShutdownPolicy (byte : UInt8) :
    Answers (fun world => world.property .shutdownPolicy = .byte byte)
      (ipmiOEMGetShutdownPolicy header calls : OemDaemon δ CompletionCode) fun world =>
        world.response header.getPolicy = byte := by
  refine (ensures_gets _).bind fun length => Ensures.ite
    (fun _ => answers_refusal 0 ccReqDataLenInvalid_ne_ok) fun _ => ?_
  refine (ensures_modify _).bind fun _ => answers_catchSdbus ?_
  refine (ensures_dbusCall 0).bind fun _ => (ensures_getDbusProperty 1 _).bind fun value => ?_
  refine (ensures_variantByte value).bind fun policy => (ensures_modify _).bind fun _ => ?_
  refine (ensures_modify _).bind fun _ => (ensures_modify _).bind fun _ => ensures_pure ?_
  rintro after ⟨third, ⟨second, ⟨first, ⟨⟨⟨start, ⟨kept, _⟩, rfl⟩, read⟩, same⟩, rfl⟩, rfl⟩, rfl⟩ _
  rw [same] at read
  have shown := kept.symm.trans read.symm
  cases shown
  exact (Function.update_of_ne header.policyApart _ _).trans (Function.update_self _ _ _)

theorem ensures_unlessSdbus {body : OemDaemon δ α} {post : α → OemWorld δ → Prop}
    (ensures : Ensures pre body post) :
    Ensures pre (unlessSdbus body) fun result? world => ∀ result ∈ result?, post result world := by
  refine Ensures.tryCatch (ensures.bind fun value => ensures_pure ?_) fun error => ?_
  · intro world met result member
    cases member
    exact met
  · cases error with
    | sdbus => exact ensures_pure fun world _ result member => absurd member (by simp)
    | badVariantAccess => exact ensures_throw _
    | other => exact ensures_throw _

theorem ensures_getFanProfile (property : Property) :
    Ensures pre (getFanProfile calls property) fun profile? world =>
      ∀ profile ∈ profile?, pre world ∧ profile = world.property property :=
  ensures_unlessSdbus ((ensures_dbusCall 0).bind fun _ => ensures_getDbusProperty 1 property)

theorem testBit_setFlag (flags : UInt8) :
    (UInt8.ofNat (flags.toNat ||| 2 ^ 2)).toNat.testBit 2 = true := by
  have fits : flags.toNat ||| 2 ^ 2 < 2 ^ 8 := Nat.or_lt_two_pow flags.toNat_lt (by decide)
  have bit : (2 ^ 2).testBit 2 = true := by decide
  rw [UInt8.toNat_ofNat_of_lt' fits, Nat.testBit_or, bit, Bool.or_true]

/-- The answer shows the bit of the performance profile, or the one that was there. -/
theorem answers_getFanConfig (text : List UInt8) (flags : UInt8) :
    Answers (fun world => world.property .thermalCurrent = .string text ∧
        world.response header.getFanFlags = flags)
      (ipmiOEMGetFanConfig header calls : OemDaemon δ CompletionCode) fun world =>
        (world.response header.getFanFlags).toNat.testBit 2 =
          (decide (text = performance) || flags.toNat.testBit 2) := by
  refine (ensures_gets _).bind fun length => Ensures.ite
    (fun _ => answers_refusal 0 ccReqDataLenInvalid_ne_ok) fun _ => ?_
  refine (ensures_modify _).bind fun _ => (ensures_getFanProfile _).bind fun profile? => ?_
  rw [answerProfile]
  split
  · exact answers_error ccUnspecifiedError_ne_ok
  · rename_i current found
    obtain ⟨profile, member, isText⟩ := Option.bind_eq_some_iff.mp found
    have named : ∀ world : OemWorld δ, world.property .thermalCurrent = .string text →
        profile = world.property .thermalCurrent → current = text := by
      intro world kept same
      rw [same, kept] at isText
      exact (Option.some.inj isText).symm
    refine Ensures.ite (fun fast => ?_) fun slow => ?_
    · refine (ensures_modify _).bind fun _ => ensures_pure ?_
      rintro after ⟨between, known, rfl⟩ _
      obtain ⟨⟨start, ⟨⟨kept, _⟩, _⟩, rfl⟩, same⟩ := known profile member
      have isPerformance : text = performance := (named start kept same).symm.trans fast
      rw [decide_eq_true isPerformance, Bool.true_or]
      refine Eq.trans ?_ (testBit_setFlag (start.response header.getFanFlags))
      exact congrArg (fun byte : UInt8 => byte.toNat.testBit 2) (Function.update_self ..)
    · refine ensures_pure ?_
      rintro after known _
      obtain ⟨⟨start, ⟨⟨kept, held⟩, _⟩, rfl⟩, same⟩ := known profile member
      have isOther : text ≠ performance := fun isPerformance =>
        slow ((named start kept same).trans isPerformance)
      rw [decide_eq_false isOther, Bool.false_or, ← held]

theorem ensures_getLimits :
    Ensures pre (getLimits calls) fun limits? world =>
      ∀ limits ∈ limits?, pre world ∧ limits.1 = world.property .cfmLimit := by
  refine ensures_unlessSdbus ((ensures_getDbusProperty 0 _).bind fun limit => ?_)
  exact (ensures_getDbusProperty 1 _).bind fun maximum => ensures_pure fun world met => met.1

theorem ensures_setUInt16 (start : ℕ) (word : UInt16) :
    Ensures pre (setUInt16 start word : OemDaemon δ Unit) fun _ after =>
      ∃ world, pre world ∧ after = { world with
        response := Function.update (Function.update world.response start word.toUInt8) (start + 1)
          (word >>> 8).toUInt8 } := by
  refine Ensures.imp ((ensures_modify _).bind fun _ => ensures_modify _) ?_
  rintro _ after ⟨middle, ⟨world, known, rfl⟩, rfl⟩
  exact ⟨world, known, rfl⟩

theorem limit?_ofNat (word : UInt16) :
    (Variant.double (doubles.ofNat word.toNat)).limit? doubles = some word := by
  simp only [Variant.limit?, doubles.inRange, Bool.false_eq_true, if_false, doubles.uint16_exact]

theorem answers_getFscParameter_cfm {request : Buffer} (selects : request 0 = header.cfm)
    (word : UInt16) :
    Answers (fun world => world.property .cfmLimit = .double (doubles.ofNat word.toNat))
      (ipmiOEMGetFscParameter doubles header calls request) fun world =>
        world.response 0 = word.toUInt8 ∧ world.response 1 = (word >>> 8).toUInt8 := by
  have other : request 0 ≠ header.tcontrol := fun same => header.fscApart (same.symm.trans selects)
  refine (ensures_gets _).bind fun length => Ensures.ite
    (fun _ => answers_refusal 0 ccReqDataLenInvalid_ne_ok) fun _ => ?_
  rw [if_neg other, if_pos selects]
  refine ensures_getLimits.bind fun limits? => ?_
  rw [answerLimits]
  split
  · rename_i limit maximum found _
    obtain ⟨limits, member, isLimit⟩ := Option.bind_eq_some_iff.mp found
    refine (ensures_setUInt16 0 limit).bind fun _ => (ensures_setUInt16 2 maximum).bind fun _ => ?_
    refine (ensures_modify _).bind fun _ => ensures_pure ?_
    rintro after ⟨third, ⟨second, ⟨first, known, rfl⟩, rfl⟩, rfl⟩ _
    obtain ⟨⟨kept, _⟩, same⟩ := known limits member
    rw [same, kept, limit?_ofNat] at isLimit
    cases isLimit
    constructor <;> simp
  · exact answers_refusal 0 ccUnspecifiedError_ne_ok

theorem ensures_getExitAirConfigPath :
    Ensures pre (getExitAirConfigPath calls) fun path world => pre world ∧ path = calls.foundPath := by
  rw [getExitAirConfigPath, OemCalls.foundPath]
  cases failed : calls.fails 0 with
  | none =>
      rw [if_pos rfl]
      exact ensures_pure fun world met => ⟨met, rfl⟩
  | some error =>
      rw [if_neg (Option.some_ne_none error)]
      cases error with
      | sdbus => exact ensures_pure fun world met => ⟨met, rfl⟩
      | badVariantAccess => exact ensures_throw _
      | other => exact ensures_throw _

theorem ensures_getSetPoint {path : CString} (byte : UInt8)
    (kept : ∀ world, pre world → path ≠ [] →
      world.property (.setPoint path) = .double (doubles.ofNat byte.toNat)) :
    Ensures pre (getSetPoint doubles calls path) fun setpoint _ =>
      setpoint = if path = [] then legacyDefaultExitAirLimit else byte := by
  rw [getSetPoint]
  refine Ensures.ite (fun missing => ?_) fun nonempty => ?_
  · rw [if_pos missing]
    exact ensures_pure fun _ _ => rfl
  · rw [if_neg nonempty]
    refine (ensures_getDbusProperty 1 _).bind fun value =>
      (ensures_variantDouble value).bind fun _ => ensures_pure ?_
    rintro world ⟨⟨met, same⟩, isDouble⟩
    rw [same, kept world met nonempty] at isDouble
    cases isDouble
    exact doubles.byte_exact byte

theorem answers_getFscParameter_setPoint {request : Buffer} {path : CString}
    (selects : request 0 = header.tcontrol)
    (found : calls.foundPath = path ∨ calls.foundPath = []) (byte : UInt8) :
    Answers (fun world => world.property (.setPoint path) = .double (doubles.ofNat byte.toNat))
      (ipmiOEMGetFscParameter doubles header calls request) fun world =>
        world.response 0 = if calls.foundPath = [] then legacyDefaultExitAirLimit else byte := by
  refine (ensures_gets _).bind fun length => Ensures.ite
    (fun _ => answers_refusal 0 ccReqDataLenInvalid_ne_ok) fun _ => ?_
  rw [if_pos selects]
  refine Ensures.ite (fun _ => answers_refusal 0 ccReqDataLenInvalid_ne_ok) fun _ =>
    Ensures.ite (fun _ => answers_error ccParmOutOfRange_ne_ok) fun _ => ?_
  refine ensures_getExitAirConfigPath.bind fun other => ensures_known fun _ known => ?_
  obtain ⟨_, rfl⟩ := known
  have kept : ∀ world : OemWorld δ,
      ((world.property (.setPoint path) = .double (doubles.ofNat byte.toNat) ∧
        length = world.dataLen) ∧ calls.foundPath = calls.foundPath) →
      calls.foundPath ≠ [] →
      world.property (.setPoint calls.foundPath) = .double (doubles.ofNat byte.toNat) := by
    intro world met nonempty
    rw [found.resolve_right nonempty]
    exact met.1.1
  refine (ensures_getSetPoint byte kept).bind fun setpoint => ?_
  refine (ensures_modify _).bind fun _ => (ensures_modify _).bind fun _ => ?_
  refine (ensures_modify _).bind fun _ => ensures_pure ?_
  rintro after ⟨third, ⟨second, ⟨first, same, rfl⟩, rfl⟩, rfl⟩ _
  simpa using same

theorem stoul_toDigits {number : ℕ} (fits : number < 2 ^ 32) :
    stoul (Nat.toDigits 10 number) = some number := by
  obtain ⟨digit, others, shape, below, _⟩ := toDigits_head (by decide : 1 < 10) number
  have whole := takeDigits_toDigits (by decide) (by decide) number (endsNumber_nil 10)
  rw [List.append_nil, shape] at whole
  have unblanked : (digit.digitChar :: others).dropWhile isBlank = digit.digitChar :: others :=
    List.dropWhile_cons_of_neg (by simp [isBlank_digitChar below])
  rw [shape, stoul, unblanked]
  simp only [takeSign_digitChar below, List.head?_cons, Option.bind_some,
    digitValue?_digitChar (by decide : (10 : ℕ) ≤ 16) below, Option.isSome_some, if_true, whole,
    Nat.not_le.mpr fits, if_false, Bool.false_eq_true]

theorem ensures_answerByte (byte : UInt8) :
    Ensures pre (answerByte byte : OemDaemon δ CompletionCode) fun _ world =>
      world.response 0 = byte := by
  refine (ensures_modify _).bind fun _ => (ensures_modify _).bind fun _ => ensures_pure ?_
  rintro after ⟨second, ⟨first, _, rfl⟩, rfl⟩
  exact Function.update_self 0 byte first.response

theorem answers_getHostSerial {request : Buffer}
    (reads : request header.hostSerialCommand = header.getHostSerialCfgCmd) (byte : UInt8) :
    Answers (fun world => world.hostSerial = some (Nat.toDigits 10 byte.toNat))
      (ipmiOEMCfgHostSerialPortSpeed header calls request : OemDaemon δ CompletionCode) fun world =>
        world.response 0 = if calls.getEnvFails then 0 else byte := by
  refine (ensures_gets _).bind fun length => Ensures.ite
    (fun _ => answers_error ccReqDataLenInvalid_ne_ok) fun _ => (ensures_modify _).bind fun _ => ?_
  rw [if_pos reads]
  refine Ensures.ite (fun _ => answers_error ccReqDataLenInvalid_ne_ok) fun _ => ?_
  refine (ensures_gets _).bind fun value? => ensures_known fun world known => ?_
  obtain ⟨⟨start, ⟨kept, _⟩, rfl⟩, same⟩ := known
  have printed : value? = some (Nat.toDigits 10 byte.toNat) := same.trans kept
  have parsed := stoul_toDigits (Nat.lt_trans byte.toNat_lt (by decide : 2 ^ 8 < 2 ^ 32))
  have small : ¬ 255 < byte.toNat := Nat.not_lt.mpr (Nat.le_of_lt_succ byte.toNat_lt)
  rw [printed]
  refine Ensures.ite (fun failed => ?_) fun works => ?_
  · rw [if_pos failed]
    exact (ensures_answerByte 0).imp fun _ _ answered _ => answered
  · rw [if_neg works, printedLines]
    split
    · exact answers_error ccUnspecifiedError_ne_ok
    · simp only [answerLines, parsed, small, if_false, UInt8.ofNat_toNat]
      exact (ensures_answerByte byte).imp fun _ _ answered _ => answered

/-- A message that gets a setting answers with what is shown of the value that is stored. -/
theorem answers_reported (doubles : Doubles δ) {setting : Setting} {message : OemMessage}
    (reads : setting.Reads header message) {value : ℕ} (fits : setting.Fits value) :
    Answers
      (fun world => setting.keptAt.content world = setting.stored doubles value ∧
        world.response = message.response)
      (message.handler doubles header)
      fun world => setting.reported header world.response = setting.shown header message value := by
  rcases message with ⟨command, calls, request, length, response⟩
  cases setting with
  | powerRestoreDelay =>
      cases reads
      refine ((answers_getPowerRestoreDelay (UInt16.ofNat value)).of_pre ?_).imp ?_
      · rintro world ⟨kept, _⟩
        exact Content.variant.inj kept
      · intro code world answers accepted
        obtain ⟨low, high⟩ := answers accepted
        simp only [Setting.Fits] at fits
        rw [Setting.reported, Setting.shown, low, high, shifted_toNat, toUInt8_toNat,
          UInt16.toNat_ofNat_of_lt' fits]
        omega
  | resetCfg =>
      cases reads
      refine ((answers_getProcessorErrConfig (UInt8.ofNat value)).of_pre ?_).imp ?_
      · rintro world ⟨kept, _⟩
        exact Content.variant.inj kept
      · intro code world answers accepted
        rw [Setting.reported, Setting.shown, answers accepted, UInt8.toNat_ofNat_of_lt' fits]
  | shutdownPolicy =>
      cases reads
      refine ((answers_getShutdownPolicy (UInt8.ofNat value)).of_pre ?_).imp ?_
      · rintro world ⟨kept, _⟩
        exact Content.variant.inj kept
      · intro code world answers accepted
        rw [Setting.reported, Setting.shown, answers accepted, UInt8.toNat_ofNat_of_lt' fits]
  | fanProfile =>
      cases reads
      refine ((answers_getFanConfig (if value = 1 then performance else acoustic)
        (response header.getFanFlags)).of_pre ?_).imp ?_
      · rintro world ⟨kept, fresh⟩
        exact ⟨Content.variant.inj kept, congrFun fresh header.getFanFlags⟩
      · intro code world answers accepted
        rw [Setting.reported, Setting.shown, answers accepted]
        simp only [Setting.Fits] at fits
        have values : value = 0 ∨ value = 1 := by omega
        cases stale : (response header.getFanFlags).toNat.testBit 2 with
        | true => rw [Bool.or_true, if_pos rfl, if_pos rfl]
        | false => rcases values with rfl | rfl <;> rfl
  | cfmLimit =>
      obtain ⟨isGet, selects⟩ := reads
      cases isGet
      simp only [Setting.Fits] at fits
      refine ((answers_getFscParameter_cfm selects (UInt16.ofNat value)).of_pre ?_).imp ?_
      · rintro world ⟨kept, _⟩
        rw [UInt16.toNat_ofNat_of_lt' fits]
        exact Content.variant.inj kept
      · intro code world answers accepted
        obtain ⟨low, high⟩ := answers accepted
        rw [Setting.reported, Setting.shown, low, high, shifted_toNat, toUInt8_toNat,
          UInt16.toNat_ofNat_of_lt' fits]
        omega
  | setPoint path =>
      obtain ⟨isGet, selects, found⟩ := reads
      cases isGet
      refine ((answers_getFscParameter_setPoint selects found (UInt8.ofNat value)).of_pre ?_).imp ?_
      · rintro world ⟨kept, _⟩
        rw [UInt8.toNat_ofNat_of_lt' fits]
        exact Content.variant.inj kept
      · intro code world answers accepted
        rw [Setting.reported, Setting.shown, answers accepted, apply_ite UInt8.toNat,
          UInt8.toNat_ofNat_of_lt' fits]
  | hostSerial =>
      obtain ⟨isGet, gets⟩ := reads
      cases isGet
      refine ((answers_getHostSerial gets (UInt8.ofNat value)).of_pre ?_).imp ?_
      · rintro world ⟨kept, _⟩
        rw [UInt8.toNat_ofNat_of_lt' fits]
        exact Content.text.inj kept
      · intro code world answers accepted
        rw [Setting.reported, Setting.shown, answers accepted, apply_ite UInt8.toNat,
          UInt8.toNat_ofNat_of_lt' fits]
        rfl

end Answers

/-!
## Runs
-/

section Runs

/-- The state behind a message, which goes on whatever the answer is. -/
def OemMessage.step (doubles : Doubles δ) (header : OemHeader) (world : OemWorld δ)
    (message : OemMessage) : Option (OemWorld δ) :=
  some (message.transmit doubles header world).2

def OemMessage.run (doubles : Doubles δ) (header : OemHeader) (world : OemWorld δ)
    (messages : List OemMessage) : OemWorld δ :=
  messages.foldl (fun before message => (message.transmit doubles header before).2) world

/-- The completion code of the answer, if there is one. -/
def OemMessage.answer (doubles : Doubles δ) (header : OemHeader) (world : OemWorld δ)
    (message : OemMessage) : Option CompletionCode :=
  (message.transmit doubles header world).1.map Reply.code

variable {world : OemWorld δ} {message : OemMessage}

def OemMessage.received (message : OemMessage) (world : OemWorld δ) : OemWorld δ :=
  { world with response := message.response, dataLen := message.length }

theorem content_received (message : OemMessage) (place : Place) :
    place.content (message.received world) = place.content world :=
  content_response world message.response message.length

theorem answer_eq :
    message.answer doubles header world =
      codeOf ((message.handler doubles header).run (message.received world)).1 := by
  rw [OemMessage.answer, OemMessage.transmit, OemMessage.received]
  rcases (message.handler doubles header).run
    { world with response := message.response, dataLen := message.length } with ⟨outcome, after⟩
  cases outcome <;> rfl

theorem transmit_state :
    (message.transmit doubles header world).2 =
      ((message.handler doubles header).run (message.received world)).2 := by
  rw [OemMessage.transmit, OemMessage.received]
  rcases (message.handler doubles header).run
    { world with response := message.response, dataLen := message.length } with ⟨outcome, after⟩
  cases outcome <;> rfl

/-- Natural numbers in the place of floating-point numbers. -/
def naturals : Doubles ℕ where
  ofNat := id
  outOfRange number := decide (2 ^ 16 ≤ number)
  roundToByte := UInt8.ofNat
  roundToUInt16 := UInt16.ofNat
  inRange word := decide_eq_false (Nat.not_le.mpr word.toNat_lt)
  byte_exact _ := UInt8.ofNat_toNat
  uint16_exact _ := UInt16.ofNat_toNat

def packedHeader : OemHeader where
  setDelayReq := ⟨2, 1, 0, by decide⟩
  getDelayRes := ⟨2, 1, 0, by decide⟩
  setErrConfigReqSize := 2
  setResetCfg := 0
  setResetCounts := 1
  getErrConfigResSize := 5
  getResetCfg := 0
  getCaterrStatus := 1
  maxCPUNum := 4
  resetCfgApart := by decide
  getPolicyResSize := 2
  getPolicy := 0
  getPolicySupport := 1
  policyApart := by decide
  noShutdownOnOCOT := 0
  shutdownOnOCOT := 1
  shutdownPolicySupported := 1
  setFanFlags := 0
  setPerfAcousMode := 0
  performAcousSelect := 1
  getFanConfigResSize := 7
  getFanFlags := 1
  tcontrol := 1
  cfm := 4
  fscApart := by decide
  getHostSerialCfgCmd := 0
  setHostSerialCfgCmd := 1
  hostSerialApart := by decide
  cfgHostSerialReqSize := 2
  hostSerialCommand := 0
  hostSerialParameter := 1
  hostSerialCfgParamMax := 4
  guidField := Fin.rev
  guidFieldApart := Fin.rev_injective
  entityType := ⟨0, 1, 2, by decide⟩
  convertAction text := if text = bytesOf "On" then some .on else none

def emptyWorld : OemWorld ℕ where
  response _ := 0
  dataLen := 0
  property _ := .bytes []
  hostSerial := none

def plainMessage (command : OemCommand) (error : Option OemException) (request : List UInt8) :
    OemMessage where
  command := command
  calls :=
    { fails := fun _ => error
      carriedOut := fun _ => false
      pidPaths := []
      fruObjects := []
      setEnvFails := false
      setEnvCarriedOut := false
      getEnvFails := false
      linesRead := 1 }
  request index := request.getD index 0
  length := request.length
  response _ := 0

theorem plainMessage_inert (command : OemCommand) (error : Option OemException)
    (request : List UInt8) : (plainMessage command error request).calls.Inert :=
  ⟨fun _ _ => rfl, fun failed => absurd failed Bool.false_ne_true⟩

end Runs

end InspurIpmi

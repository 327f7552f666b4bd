import InspurIpmi.OemCommands.SettingRuns

/-!
# Only valid values are stored, and valid values are answered
-/

set_option autoImplicit false

namespace InspurIpmi

open Foundation Process

variable {δ : Type} {doubles : Doubles δ} {header : OemHeader}

namespace Setting

/-- The values that the handlers let through. A limit below `50` is none but `0`. -/
def Valid (header : OemHeader) (value : ℕ) : Setting → Prop
  | powerRestoreDelay => value < 2 ^ 16
  | resetCfg | setPoint _ => value < 2 ^ 8
  | shutdownPolicy => value = header.noShutdownOnOCOT.toNat ∨ value = header.shutdownOnOCOT.toNat
  | fanProfile => value < 2
  | cfmLimit => value < 2 ^ 16 ∧ (value = 0 ∨ 50 ≤ value)
  | hostSerial => value ≤ header.hostSerialCfgParamMax.toNat

theorem Valid.fits {setting : Setting} {value : ℕ} (valid : setting.Valid header value) :
    setting.Fits value := by
  cases setting with
  | shutdownPolicy =>
      rcases valid with rfl | rfl
      · exact header.noShutdownOnOCOT.toNat_lt
      · exact header.shutdownOnOCOT.toNat_lt
  | cfmLimit => exact valid.1
  | hostSerial => exact Nat.lt_of_le_of_lt valid header.hostSerialCfgParamMax.toNat_lt
  | _ => exact valid

/-- The setting has a valid value. -/
def IsValid (doubles : Doubles δ) (header : OemHeader) (setting : Setting) (world : OemWorld δ) :
    Prop :=
  ∃ value, setting.Valid header value ∧
    setting.keptAt.content world = setting.stored doubles value

end Setting

/-!
## What is let through
-/

section Setters

variable {calls : OemCalls} {request : Buffer} {place : Place}

theorem keeps_invalid_policy
    (invalid : request 0 ≠ header.noShutdownOnOCOT ∧ request 0 ≠ header.shutdownOnOCOT) :
    KeepsPlace place (ipmiOEMSetShutdownPolicy header calls request : OemDaemon δ CompletionCode) := by
  refine keeps_oemDataLen.bind fun length => Keeps.ite (keeps_refusal _ _) ?_
  refine (keeps_setOemDataLen 0).bind fun _ => ?_
  rw [if_pos invalid]
  exact keeps_pure _

theorem keeps_invalid_cfm (selects : request 0 = header.cfm)
    (invalid : cfmOf request < 50 ∧ cfmOf request ≠ 0) :
    KeepsPlace place (ipmiOEMSetFscParameter doubles header calls request) := by
  have other : request 0 ≠ header.tcontrol := fun same => header.fscApart (same.symm.trans selects)
  refine keeps_oemDataLen.bind fun length => (keeps_setOemDataLen 0).bind fun _ =>
    Keeps.ite (keeps_pure _) ?_
  rw [if_neg other, if_pos selects]
  refine Keeps.ite (keeps_pure _) ?_
  rw [cfmOf] at invalid
  rw [if_pos invalid]
  exact keeps_pure _

theorem keeps_invalid_parameter
    (sets : request header.hostSerialCommand = header.setHostSerialCfgCmd)
    (invalid : header.hostSerialCfgParamMax < request header.hostSerialParameter) :
    KeepsPlace place
      (ipmiOEMCfgHostSerialPortSpeed header calls request : OemDaemon δ CompletionCode) := by
  have other : request header.hostSerialCommand ≠ header.getHostSerialCfgCmd :=
    fun same => header.hostSerialApart (same.symm.trans sets)
  refine keeps_oemDataLen.bind fun length => Keeps.ite (keeps_pure _) ?_
  refine (keeps_setOemDataLen 0).bind fun _ => ?_
  rw [if_neg other, if_pos sets]
  refine Keeps.ite (keeps_pure _) ?_
  rw [if_pos invalid]
  exact keeps_pure _

end Setters

/-- A request for a value that is not valid changes nothing, whatever its calls would do. -/
theorem keeps_invalid (doubles : Doubles δ) {setting : Setting} {message : OemMessage}
    (asks : setting.Asks header message)
    (invalid : ¬ setting.Valid header (setting.requested header message.request)) :
    KeepsPlace setting.keptAt (message.handler doubles header) := by
  have fits := Setting.requested_fits header setting message.request
  rcases message with ⟨command, calls, request, length, response⟩
  cases setting with
  | powerRestoreDelay => exact absurd fits invalid
  | resetCfg => exact absurd fits invalid
  | setPoint path => exact absurd fits invalid
  | fanProfile => exact absurd fits invalid
  | shutdownPolicy =>
      cases asks
      obtain ⟨first, second⟩ := not_or.mp invalid
      exact keeps_invalid_policy
        ⟨fun same => first (congrArg UInt8.toNat same),
          fun same => second (congrArg UInt8.toNat same)⟩
  | cfmLimit =>
      obtain ⟨isSet, selects⟩ := asks
      cases isSet
      refine keeps_invalid_cfm selects ?_
      have limit : ¬ ((cfmOf request).toNat = 0 ∨ 50 ≤ (cfmOf request).toNat) := by
        rw [cfmOf_toNat]
        exact fun allowed => invalid ⟨fits, allowed⟩
      obtain ⟨nonzero, below⟩ := not_or.mp limit
      exact ⟨UInt16.lt_iff_toNat_lt.mpr (Nat.not_le.mp below), fun same =>
        nonzero (congrArg UInt16.toNat same)⟩
  | hostSerial =>
      obtain ⟨isSet, sets⟩ := asks
      cases isSet
      exact keeps_invalid_parameter sets (UInt8.lt_iff_toNat_lt.mpr (Nat.not_le.mp invalid))

/-!
## What a message leaves behind
-/

/-- Even an exception in the middle of a change leaves the old value or the new one. -/
theorem content_cases (doubles : Doubles δ) {setting : Setting} {message : OemMessage}
    (asks : setting.Asks header message) (world : OemWorld δ) :
    let ran := (message.handler doubles header).run world
    setting.keptAt.content ran.2 = setting.keptAt.content world ∨
      setting.keptAt.content ran.2 =
          setting.stored doubles (setting.requested header message.request) ∧
        setting.Valid header (setting.requested header message.request) := by
  intro ran
  by_cases valid : setting.Valid header (setting.requested header message.request)
  · exact ((commits_setting doubles asks).bounded world).imp_right fun stored => ⟨stored, valid⟩
  · exact .inl (keeps_invalid doubles asks valid world)

theorem isValid_transmit {setting : Setting} {world : OemWorld δ}
    (valid : setting.IsValid doubles header world) (message : OemMessage) :
    setting.IsValid doubles header (message.transmit doubles header world).2 := by
  obtain ⟨value, allowed, kept⟩ := valid
  rw [← content_received message] at kept
  rw [Setting.IsValid, transmit_state]
  by_cases asks : setting.Asks header message
  · rcases content_cases doubles asks (message.received world) with same | ⟨stored, requested⟩
    · exact ⟨value, allowed, same.trans kept⟩
    · exact ⟨_, requested, stored⟩
  · exact ⟨value, allowed, (keeps_unasked doubles asks _).trans kept⟩

theorem isValid_run {setting : Setting} {world : OemWorld δ}
    (valid : setting.IsValid doubles header world) (messages : List OemMessage) :
    setting.IsValid doubles header (OemMessage.run doubles header world messages) := by
  induction messages generalizing world with
  | nil => exact valid
  | cons message rest ih => exact ih (isValid_transmit valid message)

/-!
## What is answered
-/

/-- A request of the right length, for which every call works and finds what it asks for.
The largest limit belongs to another service, and is to be a number in range; the response
does not have the flag of a profile yet; and the line with the variable arrives before the
child process has ended. -/
def Setting.Answerable (doubles : Doubles δ) (header : OemHeader) (message : OemMessage)
    (world : OemWorld δ) : Setting → Prop
  | powerRestoreDelay | resetCfg | shutdownPolicy => message.length = 0
  | fanProfile =>
      message.length ≤ 1 ∧ (message.response header.getFanFlags).toNat.testBit 2 = false
  | cfmLimit => 1 ≤ message.length ∧ ∃ maximum, (world.property .maxCfm).limit? doubles = some maximum
  | setPoint path =>
      message.length = 2 ∧ message.request 1 = legacyExitAirSensorNumber ∧
        exitAirConfigPath message.calls = path
  | hostSerial =>
      message.length = 1 ∧ message.calls.getEnvFails = false ∧ message.calls.linesRead ≠ 0

section Getters

variable {calls : OemCalls} {request : Buffer} {world : OemWorld δ}

theorem ok_getPowerRestoreDelay (working : ∀ number, calls.fails number = none)
    (empty : world.dataLen = 0) {delay : UInt16}
    (kept : world.property .powerRestoreDelay = .uint16 delay) :
    ((ipmiOEMGetPowerRestoreDelay header calls).run world).1 = .returned ccOk := by
  simp [ipmiOEMGetPowerRestoreDelay, empty, working, kept, variantUInt16]

theorem ok_getProcessorErrConfig (working : ∀ number, calls.fails number = none)
    (empty : world.dataLen = 0) {byte : UInt8} (kept : world.property .resetCfg = .byte byte) :
    ((ipmiOEMGetProcessorErrConfig header calls).run world).1 = .returned ccOk := by
  simp [ipmiOEMGetProcessorErrConfig, empty, working, kept, variantByte, catchSdbus,
    Process.run_tryCatch]

theorem ok_getShutdownPolicy (working : ∀ number, calls.fails number = none)
    (empty : world.dataLen = 0) {byte : UInt8} (kept : world.property .shutdownPolicy = .byte byte) :
    ((ipmiOEMGetShutdownPolicy header calls).run world).1 = .returned ccOk := by
  simp [ipmiOEMGetShutdownPolicy, empty, working, kept, variantByte, catchSdbus,
    Process.run_tryCatch]

theorem run_getFanProfile_bind {α : Type} (working : ∀ number, calls.fails number = none)
    (property : Property) (next : Option (Variant δ) → OemDaemon δ α) :
    (getFanProfile calls property >>= next).run world =
      (next (some (world.property property))).run world := by
  refine run_bind_returned (run_unlessSdbus world ?_) next
  simp [getDbusProperty, dbusCall, working]

theorem ok_getFanConfig (working : ∀ number, calls.fails number = none)
    (short : world.dataLen ≤ 1) {text : List UInt8}
    (kept : world.property .thermalCurrent = .string text) :
    ((ipmiOEMGetFanConfig header calls).run world).1 = .returned ccOk := by
  have fits : ¬ 1 < world.dataLen := Nat.not_lt.mpr short
  simp only [ipmiOEMGetFanConfig, run_oemDataLen_bind, Process.run_ite, fits, if_false,
    run_setOemDataLen_bind, run_getFanProfile_bind working, kept, answerProfile, Option.bind_some,
    Variant.text?]
  split <;> rfl

theorem run_getLimits_bind {α : Type} (working : ∀ number, calls.fails number = none)
    (next : Option (Variant δ × Variant δ) → OemDaemon δ α) :
    (getLimits calls >>= next).run world =
      (next (some (world.property .cfmLimit, world.property .maxCfm))).run world := by
  refine run_bind_returned (run_unlessSdbus world ?_) next
  simp [working]

theorem ok_getFscParameter_cfm (selects : request 0 = header.cfm)
    (working : ∀ number, calls.fails number = none) (nonempty : 1 ≤ world.dataLen) {limit : UInt16}
    (kept : world.property .cfmLimit = .double (doubles.ofNat limit.toNat)) {maximum : UInt16}
    (inRange : (world.property .maxCfm).limit? doubles = some maximum) :
    ((ipmiOEMGetFscParameter doubles header calls request).run world).1 = .returned ccOk := by
  have other : header.cfm ≠ header.tcontrol := header.fscApart.symm
  have long : ¬ world.dataLen < 1 := Nat.not_lt.mpr nonempty
  simp only [ipmiOEMGetFscParameter, run_oemDataLen_bind, long, selects, other, if_false, if_true,
    run_getLimits_bind working, answerLimits, Option.bind_some, kept, limit?_ofNat,
    inRange]
  rfl

theorem run_getSetPoint_bind {α : Type} (working : ∀ number, calls.fails number = none)
    {path : CString} (nonempty : path ≠ []) {byte : UInt8}
    (kept : world.property (.setPoint path) = .double (doubles.ofNat byte.toNat))
    (next : UInt8 → OemDaemon δ α) :
    (getSetPoint doubles calls path >>= next).run world = (next byte).run world := by
  refine run_bind_returned ?_ next
  simp [getSetPoint, nonempty, working, kept, variantDouble, doubles.byte_exact]

theorem ok_getFscParameter_setPoint (selects : request 0 = header.tcontrol)
    (sensor : request 1 = legacyExitAirSensorNumber)
    (working : ∀ number, calls.fails number = none) (two : world.dataLen = 2) {byte : UInt8}
    (nonempty : exitAirConfigPath calls ≠ [])
    (kept : world.property (.setPoint (exitAirConfigPath calls)) =
      .double (doubles.ofNat byte.toNat)) :
    ((ipmiOEMGetFscParameter doubles header calls request).run world).1 = .returned ccOk := by
  have long : ¬ world.dataLen < 1 := by omega
  have exact : ¬ world.dataLen ≠ 2 := not_not.mpr two
  simp only [ipmiOEMGetFscParameter, run_oemDataLen_bind, long, exact, selects, sensor, ne_eq,
    not_true, if_false, if_true, getExitAirConfigPath, working 0, Process.run_pure_bind,
    run_getSetPoint_bind working nonempty kept]
  rfl

theorem ok_getHostSerial (reads : request header.hostSerialCommand = header.getHostSerialCfgCmd)
    (printable : calls.getEnvFails = false) (arrives : calls.linesRead ≠ 0)
    (one : world.dataLen = 1) {byte : UInt8}
    (kept : world.hostSerial = some (Nat.toDigits 10 byte.toNat)) :
    ((ipmiOEMCfgHostSerialPortSpeed header calls request).run world).1 = .returned ccOk := by
  have parsed := stoul_toDigits (Nat.lt_trans byte.toNat_lt (by decide : 2 ^ 8 < 2 ^ 32))
  have small : ¬ 255 < byte.toNat := Nat.not_lt.mpr (Nat.le_of_lt_succ byte.toNat_lt)
  simp [ipmiOEMCfgHostSerialPortSpeed, one, reads, getHostSerial, kept, printable, printedLines,
    arrives, Nat.toDigits_ne_nil, answerLines, parsed, small, answerByte]

end Getters

theorem ok_of_valid {setting : Setting} {message : OemMessage} {world : OemWorld δ} {value : ℕ}
    (reads : setting.Reads header message)
    (answerable : setting.Answerable doubles header message world)
    (working : ∀ number, message.calls.fails number = none) (fits : setting.Fits value)
    (kept : setting.keptAt.content world = setting.stored doubles value)
    (length : world.dataLen = message.length) :
    ((message.handler doubles header).run world).1 = .returned ccOk := by
  rcases message with ⟨command, calls, request, dataLen, response⟩
  cases setting with
  | powerRestoreDelay =>
      cases reads
      exact ok_getPowerRestoreDelay working (length.trans answerable) (Content.variant.inj kept)
  | resetCfg =>
      cases reads
      exact ok_getProcessorErrConfig working (length.trans answerable) (Content.variant.inj kept)
  | shutdownPolicy =>
      cases reads
      exact ok_getShutdownPolicy working (length.trans answerable) (Content.variant.inj kept)
  | fanProfile =>
      cases reads
      exact ok_getFanConfig working (length.trans_le answerable.1) (Content.variant.inj kept)
  | cfmLimit =>
      obtain ⟨isGet, selects⟩ := reads
      obtain ⟨nonempty, maximum, inRange⟩ := answerable
      cases isGet
      have limit := Content.variant.inj kept
      rw [← UInt16.toNat_ofNat_of_lt' fits] at limit
      exact ok_getFscParameter_cfm selects working (length.symm ▸ nonempty) limit inRange
  | setPoint path =>
      obtain ⟨isGet, selects, _⟩ := reads
      obtain ⟨two, sensor, found⟩ := answerable
      cases isGet
      have point := Content.variant.inj kept
      rw [← UInt8.toNat_ofNat_of_lt' fits, ← found] at point
      exact ok_getFscParameter_setPoint selects sensor working (length.trans two)
        (found.symm ▸ path.property) point
  | hostSerial =>
      obtain ⟨isGet, gets⟩ := reads
      obtain ⟨one, printable, arrives⟩ := answerable
      cases isGet
      have text := Content.text.inj kept
      rw [← UInt8.toNat_ofNat_of_lt' fits] at text
      exact ok_getHostSerial gets printable arrives (length.trans one) text

/-- Such a request is shown the value as it is. -/
theorem shown_of_answerable {setting : Setting} {message : OemMessage} {world : OemWorld δ}
    (answerable : setting.Answerable doubles header message world)
    (working : ∀ number, message.calls.fails number = none) (value : ℕ) :
    setting.shown header message value = value := by
  cases setting with
  | fanProfile =>
      rw [Setting.shown, answerable.2]
      rfl
  | setPoint path =>
      have found : message.calls.foundPath = path := by
        rw [OemCalls.foundPath, if_pos (working 0)]
        exact answerable.2.2
      rw [Setting.shown, found, if_neg path.property]
  | hostSerial =>
      rw [Setting.shown, answerable.2.1]
      rfl
  | _ => rfl

/-- No run of commands, whatever becomes of their calls, stores a value that a handler does
not let through; and a setting with a valid value is answered, with that value. -/
theorem valid_setting_is_answered {setting : Setting} {world : OemWorld δ}
    (valid : setting.IsValid doubles header world) (messages : List OemMessage) :
    let last := OemMessage.run doubles header world messages
    setting.IsValid doubles header last ∧
      ∀ get : OemMessage, setting.Reads header get → setting.Answerable doubles header get last →
        (∀ number, get.calls.fails number = none) →
        ∃ reply, (get.transmit doubles header last).1 = some reply ∧
          reply.code = ccOk ∧ setting.Valid header (setting.reported header reply.data) ∧
          setting.keptAt.content last =
            setting.stored doubles (setting.reported header reply.data) := by
  refine ⟨isValid_run valid messages, fun get reads answerable working => ?_⟩
  obtain ⟨value, allowed, kept⟩ := isValid_run valid messages
  generalize OemMessage.run doubles header world messages = last at *
  have stored := (content_received get setting.keptAt).trans kept
  have received : setting.Answerable doubles header get (get.received last) := by
    cases setting <;> exact answerable
  have accepted := ok_of_valid reads received working allowed.fits stored rfl
  rcases ran : (get.handler doubles header).run (get.received last) with ⟨outcome, after⟩
  rw [ran] at accepted
  cases accepted
  have reported := answers_reported doubles reads allowed.fits _ ⟨stored, rfl⟩ _ _ ran rfl
  rw [shown_of_answerable received working] at reported
  refine ⟨⟨ccOk, after.dataLen, after.response⟩, ?_, rfl, ?_, ?_⟩
  · rw [OemMessage.transmit]
    have same : ({ last with response := get.response, dataLen := get.length } : OemWorld δ) =
        get.received last := rfl
    rw [same, ran]
  · exact reported.symm ▸ allowed
  · exact reported.symm ▸ kept

/-- The limit is `60`, and was to be `1`. -/
def limitedWorld : OemWorld ℕ :=
  OemMessage.run naturals packedHeader { emptyWorld with property := fun _ => .double (60 : ℕ) }
    [plainMessage .setFscParameter none [4, 1, 0]]

theorem valid_setting_is_answered_limit :
    ∃ reply, ((plainMessage .getFscParameter none [4]).transmit naturals packedHeader
        limitedWorld).1 = some reply ∧
      reply.code = ccOk ∧
      Setting.Valid packedHeader (Setting.reported packedHeader reply.data .cfmLimit) .cfmLimit ∧
      Setting.cfmLimit.keptAt.content limitedWorld =
        Setting.cfmLimit.stored naturals (Setting.reported packedHeader reply.data .cfmLimit) :=
  (@valid_setting_is_answered _ naturals packedHeader .cfmLimit _ ⟨60, ⟨by decide, by decide⟩, rfl⟩
    [plainMessage .setFscParameter none [4, 1, 0]]).2 _ ⟨rfl, rfl⟩ ⟨by decide, 60, rfl⟩ fun _ => rfl

end InspurIpmi

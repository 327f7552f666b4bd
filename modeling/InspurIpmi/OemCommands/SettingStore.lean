import InspurIpmi.Foundation.Atomicity
import InspurIpmi.OemCommands.Settings

/-!
# What the settings commands keep

A command leaves every place alone but the one it sets, and sets that one if and only if
it answers with success.
-/

set_option autoImplicit false

namespace InspurIpmi

open Foundation

/-- Where a setting is kept. -/
inductive Place where
  | property (name : Property)
  | environment
  deriving DecidableEq

inductive Content (δ : Type) where
  | variant (value : Variant δ)
  | text (value : Option CString)

variable {δ : Type}

def Place.content (place : Place) (world : OemWorld δ) : Content δ :=
  match place with
  | property name => .variant (world.property name)
  | environment => .text world.hostSerial

abbrev KeepsPlace {α : Type} (place : Place) (process : OemDaemon δ α) : Prop :=
  Process.Keeps (fun world => place.content world) process

/-- The place gets `content` together with the answer of success. -/
abbrev CommitsTo (calls : OemCalls) (place : Place) (content : Content δ)
    (process : OemDaemon δ CompletionCode) : Prop :=
  Process.Commits (fun world => place.content world) calls.Inert (· = ccOk) (fun _ => content)
    process

variable {place : Place} {content : Content δ} {calls : OemCalls} {header : OemHeader}

/-!
## Calls
-/

section Looking

variable {τ : Type} {view : OemWorld δ → τ}

theorem keeps_dbusCall (number : ℕ) :
    Process.Keeps view (dbusCall calls number : OemDaemon δ Unit) := by
  rw [dbusCall]
  split
  · exact Process.keeps_throw _
  · exact Process.keeps_pure _

theorem keeps_getDbusProperty (number : ℕ) (property : Property) :
    Process.Keeps view (getDbusProperty calls number property : OemDaemon δ (Variant δ)) :=
  (keeps_dbusCall number).bind fun _ => Process.keeps_gets _

theorem keeps_variantByte (value : Variant δ) : Process.Keeps view (variantByte value) := by
  cases value <;> first | exact Process.keeps_pure _ | exact Process.keeps_throw _

theorem keeps_variantString (value : Variant δ) : Process.Keeps view (variantString value) := by
  cases value <;> first | exact Process.keeps_pure _ | exact Process.keeps_throw _

theorem keeps_variantUInt16 (value : Variant δ) : Process.Keeps view (variantUInt16 value) := by
  cases value <;> first | exact Process.keeps_pure _ | exact Process.keeps_throw _

theorem keeps_variantDouble (value : Variant δ) : Process.Keeps view (variantDouble value) := by
  cases value <;> first | exact Process.keeps_pure _ | exact Process.keeps_throw _

theorem keeps_unlessSdbus {α : Type} {body : OemDaemon δ α} (kept : Process.Keeps view body) :
    Process.Keeps view (unlessSdbus body) := by
  refine Process.Keeps.tryCatch (kept.bind fun _ => Process.keeps_pure _) fun error => ?_
  cases error with
  | sdbus => exact Process.keeps_pure _
  | badVariantAccess => exact Process.keeps_throw _
  | other => exact Process.keeps_throw _

/-- The handler of such a `try` block only answers or throws again. -/
theorem keeps_catchSdbus {body : OemDaemon δ CompletionCode} (kept : Process.Keeps view body) :
    Process.Keeps view (catchSdbus body) := by
  refine kept.tryCatch fun error => ?_
  cases error with
  | sdbus => exact Process.keeps_pure _
  | badVariantAccess => exact Process.keeps_throw _
  | other => exact Process.keeps_throw _

theorem commits_catchSdbus {inert : Prop} {update : τ → τ} {body : OemDaemon δ CompletionCode}
    (committed : Process.Commits view inert (· = ccOk) update body) :
    Process.Commits view inert (· = ccOk) update (catchSdbus body) := by
  refine committed.tryCatch (fun error => ?_) fun error state => ?_
  · cases error with
    | sdbus => exact Process.keeps_pure _
    | badVariantAccess => exact Process.keeps_throw _
    | other => exact Process.keeps_throw _
  · cases error with
    | sdbus => exact fun done => absurd (Outcome.done_returned.mp done) ccUnspecifiedError_ne_ok
    | badVariantAccess => exact Outcome.not_done_thrown
    | other => exact Outcome.not_done_thrown

theorem keeps_getFanProfile (property : Property) :
    Process.Keeps view (getFanProfile calls property : OemDaemon δ (Option (Variant δ))) :=
  keeps_unlessSdbus ((keeps_dbusCall 0).bind fun _ => keeps_getDbusProperty 1 property)

theorem keeps_getLimits :
    Process.Keeps view (getLimits calls : OemDaemon δ (Option (Variant δ × Variant δ))) := by
  refine keeps_unlessSdbus ((keeps_getDbusProperty 0 _).bind fun _ => ?_)
  exact (keeps_getDbusProperty 1 _).bind fun _ => Process.keeps_pure _

theorem keeps_getExitAirConfigPath :
    Process.Keeps view (getExitAirConfigPath calls : OemDaemon δ CString) := by
  rw [getExitAirConfigPath]
  split
  · exact Process.keeps_pure _
  · exact Process.keeps_pure _
  · exact Process.keeps_throw _

theorem keeps_getSetPoint (doubles : Doubles δ) (path : CString) :
    Process.Keeps view (getSetPoint doubles calls path) := by
  refine Process.Keeps.ite (Process.keeps_pure _) ?_
  exact (keeps_getDbusProperty 1 _).bind fun value => (keeps_variantDouble value).bind fun _ =>
    Process.keeps_pure _

theorem keeps_getLEDState (number : ℕ) (led : Led) :
    Process.Keeps view (getLEDState header calls number led : OemDaemon δ (Option UInt8)) := by
  refine keeps_unlessSdbus ((keeps_dbusCall _).bind fun _ => ?_)
  refine (keeps_getDbusProperty _ _).bind fun value => (keeps_variantString value).bind fun text => ?_
  refine Process.Keeps.bind ?_ fun action => Process.keeps_pure _
  rw [convertActionFromString]
  split
  · exact Process.keeps_pure _
  · exact Process.keeps_throw _

end Looking

theorem content_update {property : Property} (elsewhere : place ≠ .property property)
    (value : Variant δ) (world : OemWorld δ) :
    place.content { world with property := Function.update world.property property value } =
      place.content world := by
  cases place with
  | property other =>
      have different : other ≠ property := fun same => elsewhere (same ▸ rfl)
      have kept := Function.update_of_ne different value world.property
      exact congrArg Content.variant kept
  | environment => rfl

theorem keeps_storeProperty {property : Property} (elsewhere : place ≠ .property property)
    (value : Variant δ) : KeepsPlace place (storeProperty property value : OemDaemon δ Unit) :=
  Process.keeps_modify (content_update elsewhere value)

/-- A failing call sets the property or not, and does nothing else. -/
theorem keeps_setDbusProperty_of_store {τ : Type} {view : OemWorld δ → τ} {property : Property}
    {value : Variant δ} (kept : Process.Keeps view (storeProperty property value)) (number : ℕ) :
    Process.Keeps view (setDbusProperty calls number property value : OemDaemon δ Unit) := by
  rw [setDbusProperty]
  split
  · exact kept
  · exact Process.Keeps.ite (kept.bind fun _ => Process.keeps_throw _) (Process.keeps_throw _)

theorem keeps_setDbusProperty {property : Property} (elsewhere : place ≠ .property property)
    (number : ℕ) (value : Variant δ) :
    KeepsPlace place (setDbusProperty calls number property value : OemDaemon δ Unit) :=
  keeps_setDbusProperty_of_store (keeps_storeProperty elsewhere value) number

theorem content_response (world : OemWorld δ) (response : Buffer) (dataLen : ℕ) :
    place.content { world with response := response, dataLen := dataLen } = place.content world := by
  cases place <;> rfl

theorem keeps_oemDataLen : KeepsPlace place (oemDataLen : OemDaemon δ ℕ) := Process.keeps_gets _

theorem keeps_setOemDataLen (length : ℕ) :
    KeepsPlace place (setOemDataLen length : OemDaemon δ Unit) :=
  Process.keeps_modify fun world => content_response world world.response length

theorem keeps_setByte (index : ℕ) (byte : UInt8) :
    KeepsPlace place (setByte index byte : OemDaemon δ Unit) :=
  Process.keeps_modify fun world => content_response world _ world.dataLen

theorem keeps_setBytes (start : ℕ) (list : List UInt8) :
    KeepsPlace place (setBytes start list : OemDaemon δ Unit) :=
  Process.keeps_modify fun world => content_response world _ world.dataLen

theorem keeps_setFlag (index bit : ℕ) : KeepsPlace place (setFlag index bit : OemDaemon δ Unit) :=
  Process.keeps_modify fun world => content_response world _ world.dataLen

theorem keeps_setUInt16 (start : ℕ) (word : UInt16) :
    KeepsPlace place (setUInt16 start word : OemDaemon δ Unit) :=
  (keeps_setByte _ _).bind fun _ => keeps_setByte _ _

/-- An error answer behind a new length. -/
theorem keeps_refusal (length : ℕ) (code : CompletionCode) :
    KeepsPlace place (do setOemDataLen length; return code : OemDaemon δ CompletionCode) :=
  (keeps_setOemDataLen length).bind fun _ => Process.keeps_pure code

theorem commits_refusal {inert : Prop} (length : ℕ) {code : CompletionCode} (error : code ≠ ccOk) :
    Process.Commits (fun world => place.content world) inert (· = ccOk) (fun _ => content)
      (do setOemDataLen length; return code : OemDaemon δ CompletionCode) :=
  Process.Commits.after (keeps_setOemDataLen length) fun _ => Process.commits_pure error

/-!
## Getters
-/

theorem keeps_getPowerRestoreDelay :
    KeepsPlace place (ipmiOEMGetPowerRestoreDelay header calls : OemDaemon δ CompletionCode) := by
  refine keeps_oemDataLen.bind fun length => Process.Keeps.ite (keeps_refusal _ _) ?_
  refine (keeps_dbusCall 0).bind fun _ => (keeps_getDbusProperty 1 _).bind fun value => ?_
  refine (keeps_variantUInt16 value).bind fun delay => (keeps_setByte _ _).bind fun _ => ?_
  exact (keeps_setByte _ _).bind fun _ => keeps_refusal _ _

theorem keeps_getProcessorErrConfig :
    KeepsPlace place (ipmiOEMGetProcessorErrConfig header calls : OemDaemon δ CompletionCode) := by
  refine keeps_oemDataLen.bind fun length => Process.Keeps.ite (keeps_refusal _ _) ?_
  refine (keeps_dbusCall 0).bind fun _ => (keeps_getDbusProperty 1 _).bind fun value => ?_
  refine (keeps_variantByte value).bind fun resetCfg => (keeps_setByte _ _).bind fun _ => ?_
  refine (keeps_dbusCall 2).bind fun _ => keeps_catchSdbus ?_
  exact (keeps_getDbusProperty 3 _).bind fun _ => (keeps_setBytes _ _).bind fun _ => keeps_refusal _ _

theorem keeps_getShutdownPolicy :
    KeepsPlace place (ipmiOEMGetShutdownPolicy header calls : OemDaemon δ CompletionCode) := by
  refine keeps_oemDataLen.bind fun length => Process.Keeps.ite (keeps_refusal _ _) ?_
  refine (keeps_setOemDataLen 0).bind fun _ => keeps_catchSdbus ?_
  refine (keeps_dbusCall 0).bind fun _ => (keeps_getDbusProperty 1 _).bind fun value => ?_
  refine (keeps_variantByte value).bind fun policy => (keeps_setByte _ _).bind fun _ => ?_
  exact (keeps_setByte _ _).bind fun _ => keeps_refusal _ _

theorem keeps_getFanConfig :
    KeepsPlace place (ipmiOEMGetFanConfig header calls : OemDaemon δ CompletionCode) := by
  refine keeps_oemDataLen.bind fun length => Process.Keeps.ite (keeps_refusal _ _) ?_
  refine (keeps_setOemDataLen _).bind fun _ => (keeps_getFanProfile _).bind fun profile => ?_
  rw [answerProfile]
  split
  · exact Process.keeps_pure _
  · exact Process.Keeps.ite ((keeps_setFlag _ _).bind fun _ => Process.keeps_pure _)
      (Process.keeps_pure _)

theorem keeps_getFscParameter (doubles : Doubles δ) (request : Buffer) :
    KeepsPlace place (ipmiOEMGetFscParameter doubles header calls request) := by
  refine keeps_oemDataLen.bind fun length => Process.Keeps.ite (keeps_refusal _ _) ?_
  refine Process.Keeps.ite ?_ (Process.Keeps.ite ?_ (keeps_refusal _ _))
  · refine Process.Keeps.ite (keeps_refusal _ _) (Process.Keeps.ite (Process.keeps_pure _) ?_)
    refine keeps_getExitAirConfigPath.bind fun path => ?_
    refine (keeps_getSetPoint doubles path).bind fun setpoint => (keeps_setByte _ _).bind fun _ => ?_
    exact (keeps_setByte _ _).bind fun _ => keeps_refusal _ _
  · refine keeps_getLimits.bind fun limits => ?_
    rw [answerLimits]
    split
    · exact (keeps_setUInt16 _ _).bind fun _ => (keeps_setUInt16 _ _).bind fun _ =>
        keeps_refusal _ _
    · exact keeps_refusal _ _

theorem keeps_answerByte (byte : UInt8) :
    KeepsPlace place (answerByte byte : OemDaemon δ CompletionCode) :=
  (keeps_setByte _ _).bind fun _ => keeps_refusal _ _

theorem keeps_answerLines (lines : List CString) :
    KeepsPlace place (answerLines lines : OemDaemon δ CompletionCode) := by
  unfold answerLines
  split
  · split
    · exact Process.keeps_pure _
    · exact Process.Keeps.ite (Process.keeps_pure _) (keeps_answerByte _)
  · exact Process.keeps_pure _

theorem keeps_getHostSerial :
    KeepsPlace place (getHostSerial calls : OemDaemon δ CompletionCode) := by
  refine (Process.keeps_gets _).bind fun value? => ?_
  cases value? with
  | none => exact keeps_answerByte 0
  | some value => exact Process.Keeps.ite (keeps_answerByte 0) (keeps_answerLines _)

theorem keeps_getChassisIdentifier :
    KeepsPlace place (ipmiOEMGetChassisIdentifier calls : OemDaemon δ CompletionCode) := by
  refine keeps_oemDataLen.bind fun length => Process.Keeps.ite (keeps_refusal _ _) ?_
  refine Process.Keeps.bind ?_ fun serial? => ?_
  · exact (keeps_dbusCall 0).bind fun _ => (keeps_dbusCall 1).bind fun _ => Process.keeps_pure _
  · cases serial? with
    | none => exact keeps_refusal _ _
    | some serial => exact (keeps_setBytes 0 serial).bind fun _ => keeps_refusal _ _

theorem run_onRequest (inner : OemWorld δ → Daemon CompletionCode) (world : OemWorld δ) :
    (onRequest inner).run world =
      let (outcome, after) := (inner world).run
        { World.boot with response := world.response, dataLen := world.dataLen }
      let handed := { world with response := after.response, dataLen := after.dataLen }
      match outcome with
      | .returned code => (.returned code, handed)
      | .thrown _ => (.thrown .other, handed)
      | .exited status => (.exited status, handed) := rfl

/-- Nothing but the response and its length is written. -/
theorem keeps_onRequest (inner : OemWorld δ → Daemon CompletionCode) :
    KeepsPlace place (onRequest inner) := by
  intro world
  rw [run_onRequest]
  rcases (inner world).run { World.boot with response := world.response, dataLen := world.dataLen }
    with ⟨outcome, after⟩
  cases outcome <;> exact content_response world _ _

theorem keeps_getDeviceInfo (request : Buffer) :
    KeepsPlace place (getDeviceInfo header calls request : OemDaemon δ CompletionCode) :=
  keeps_onRequest _

theorem keeps_getAICFRU : KeepsPlace place (ipmiOEMGetAICFRU : OemDaemon δ CompletionCode) :=
  keeps_oemDataLen.bind fun _ => Process.Keeps.ite (keeps_refusal _ _) (keeps_answerByte 0)

theorem keeps_collectLEDs (number : ℕ) (leds : List (ℕ × Led)) :
    KeepsPlace place (collectLEDs header calls number leds : OemDaemon δ CompletionCode) := by
  induction leds generalizing number with
  | nil => exact keeps_refusal _ _
  | cons entry rest ih =>
      refine (keeps_getLEDState _ _).bind fun state? => ?_
      cases state? with
      | none => exact Process.keeps_pure _
      | some state =>
          refine (Process.keeps_modify fun world => ?_).bind fun _ => ih _
          exact content_response world _ world.dataLen

theorem keeps_getLEDStatus :
    KeepsPlace place (ipmiOEMGetLEDStatus header calls : OemDaemon δ CompletionCode) := by
  refine keeps_oemDataLen.bind fun length => Process.Keeps.ite (keeps_refusal _ _) ?_
  exact (keeps_setByte _ _).bind fun _ => (keeps_setOemDataLen 0).bind fun _ =>
    keeps_collectLEDs _ _

/-!
## Setters
-/

theorem commits_setDbusProperty (number : ℕ) (property : Property) (value : Variant δ) :
    Process.Commits (fun world => Place.content (.property property) world) calls.Inert
      (fun _ => True) (fun _ => .variant value) (setDbusProperty calls number property value) := by
  have changed : ∀ world : OemWorld δ, Place.content (.property property)
      { world with property := Function.update world.property property value } = .variant value :=
    fun world => congrArg Content.variant (Function.update_self property value world.property)
  rw [setDbusProperty]
  split
  · exact Process.commits_modify changed
  · rename_i error failed
    cases carried : calls.carriedOut number with
    | false =>
        exact Process.commits_of_keeps (Process.keeps_throw _) fun _ => Outcome.not_done_thrown
    | true =>
        refine Process.commits_modify_throw (fun inert => ?_) changed error
        have lost := inert.dbus number (by rw [failed]; exact Option.some_ne_none error)
        rw [carried] at lost
        cases lost

theorem commits_setPowerRestoreDelay (request : Buffer) :
    CommitsTo calls (.property .powerRestoreDelay)
      (.variant (.uint16 (((request header.setDelayReq.msb).toUInt16 <<< 8) |||
        (request header.setDelayReq.lsb).toUInt16)))
      (ipmiOEMSetPowerRestoreDelay header calls request : OemDaemon δ CompletionCode) := by
  refine Process.Commits.after keeps_oemDataLen fun length =>
    Process.Commits.ite (commits_refusal _ ccReqDataLenInvalid_ne_ok) ?_
  refine Process.Commits.after (keeps_dbusCall 0) fun _ => ?_
  exact (commits_setDbusProperty 1 _ _).andThen (fun _ => keeps_refusal _ _)
    fun _ _ => ⟨ccOk, rfl, rfl⟩

/-- The second property may fail with the first one set. -/
theorem commits_setProcessorErrConfig (request : Buffer) :
    Process.Commits (fun world => Place.content (.property .resetCfg) world) False (· = ccOk)
      (fun _ => .variant (.byte (request header.setResetCfg)))
      (ipmiOEMSetProcessorErrConfig header calls request : OemDaemon δ CompletionCode) := by
  refine Process.Commits.after keeps_oemDataLen fun length =>
    Process.Commits.ite (commits_refusal _ ccReqDataLenInvalid_ne_ok) ?_
  refine Process.Commits.after (keeps_dbusCall 0) fun _ => ?_
  refine (commits_setDbusProperty 1 _ _).followed fun _ => ?_
  exact (keeps_setDbusProperty (by decide) 2 _).bind fun _ => keeps_refusal _ _

theorem commits_setShutdownPolicy (request : Buffer) :
    CommitsTo calls (.property .shutdownPolicy) (.variant (.byte (request 0)))
      (ipmiOEMSetShutdownPolicy header calls request : OemDaemon δ CompletionCode) := by
  refine Process.Commits.after keeps_oemDataLen fun length =>
    Process.Commits.ite (commits_refusal _ ccReqDataLenInvalid_ne_ok) ?_
  refine Process.Commits.after (keeps_setOemDataLen 0) fun _ =>
    Process.Commits.ite (Process.commits_pure ccInvalidFieldRequest_ne_ok) ?_
  refine commits_catchSdbus (Process.Commits.after (keeps_dbusCall 0) fun _ => ?_)
  exact (commits_setDbusProperty 1 _ _).andThen (fun _ => Process.keeps_pure _)
    fun _ _ => ⟨ccOk, rfl, rfl⟩

def selectedMode (header : OemHeader) (flags : UInt8) : List UInt8 :=
  if flags.toNat.testBit header.performAcousSelect then performance else acoustic

theorem commits_setFanConfig {request : Buffer}
    (selects : (request header.setFanFlags).toNat.testBit header.setPerfAcousMode = true) :
    CommitsTo calls (.property .thermalCurrent)
      (.variant (.string (selectedMode header (request header.setFanFlags))))
      (ipmiOEMSetFanConfig header calls request : OemDaemon δ CompletionCode) := by
  refine Process.Commits.after keeps_oemDataLen fun length =>
    Process.Commits.ite (commits_refusal _ ccReqDataLenInvalid_ne_ok) ?_
  refine Process.Commits.after (keeps_getFanProfile _) fun profile? => ?_
  cases profile? with
  | none => exact Process.commits_pure ccUnspecifiedError_ne_ok
  | some profile =>
      rw [setProfile]
      split
      · exact Process.commits_pure ccInvalidFieldRequest_ne_ok
      · rename_i supported _
        rw [if_pos selects, profileMode]
        by_cases listed : selectedMode header (request header.setFanFlags) ∈ supported
        · simp only [selectedMode] at listed ⊢
          rw [if_pos listed]
          exact (commits_setDbusProperty 2 _ _).andThen (fun _ => Process.keeps_pure _)
            fun _ _ => ⟨ccOk, rfl, rfl⟩
        · simp only [selectedMode] at listed ⊢
          rw [if_neg listed]
          exact Process.commits_pure ccInvalidFieldRequest_ne_ok

theorem keeps_setProfile (elsewhere : place ≠ .property .thermalCurrent) (flags : UInt8)
    (profile? : Option (Variant δ)) :
    KeepsPlace place (setProfile header calls flags profile?) := by
  cases profile? with
  | none => exact Process.keeps_pure _
  | some profile =>
      rw [setProfile]
      split
      · exact Process.keeps_pure _
      · refine Process.Keeps.ite ?_ (Process.keeps_pure _)
        split
        · exact Process.keeps_pure _
        · exact (keeps_setDbusProperty elsewhere 2 _).bind fun _ => Process.keeps_pure _

theorem keeps_setFanConfig (elsewhere : place ≠ .property .thermalCurrent) (request : Buffer) :
    KeepsPlace place (ipmiOEMSetFanConfig header calls request : OemDaemon δ CompletionCode) := by
  refine keeps_oemDataLen.bind fun length => Process.Keeps.ite (keeps_refusal _ _) ?_
  exact (keeps_getFanProfile _).bind fun profile? => keeps_setProfile elsewhere _ profile?

/-- Flags that do not select a profile set none. -/
theorem keeps_setFanConfig_unselected {request : Buffer}
    (unselected : (request header.setFanFlags).toNat.testBit header.setPerfAcousMode = false) :
    KeepsPlace place (ipmiOEMSetFanConfig header calls request : OemDaemon δ CompletionCode) := by
  refine keeps_oemDataLen.bind fun length => Process.Keeps.ite (keeps_refusal _ _) ?_
  refine (keeps_getFanProfile _).bind fun profile? => ?_
  cases profile? with
  | none => exact Process.keeps_pure _
  | some profile =>
      rw [setProfile]
      split
      · exact Process.keeps_pure _
      · rw [unselected]
        exact Process.keeps_pure _

theorem keeps_setPowerRestoreDelay (elsewhere : place ≠ .property .powerRestoreDelay)
    (request : Buffer) :
    KeepsPlace place (ipmiOEMSetPowerRestoreDelay header calls request : OemDaemon δ CompletionCode) := by
  refine keeps_oemDataLen.bind fun length => Process.Keeps.ite (keeps_refusal _ _) ?_
  refine (keeps_dbusCall 0).bind fun _ => (keeps_setDbusProperty elsewhere 1 _).bind fun _ => ?_
  exact keeps_refusal _ _

theorem keeps_setShutdownPolicy (elsewhere : place ≠ .property .shutdownPolicy) (request : Buffer) :
    KeepsPlace place (ipmiOEMSetShutdownPolicy header calls request : OemDaemon δ CompletionCode) := by
  refine keeps_oemDataLen.bind fun length => Process.Keeps.ite (keeps_refusal _ _) ?_
  refine (keeps_setOemDataLen 0).bind fun _ => Process.Keeps.ite (Process.keeps_pure _) ?_
  refine keeps_catchSdbus ((keeps_dbusCall 0).bind fun _ => ?_)
  exact (keeps_setDbusProperty elsewhere 1 _).bind fun _ => Process.keeps_pure _

theorem keeps_setProcessorErrConfig (elsewhere : place ≠ .property .resetCfg)
    (counted : place ≠ .property .resetErrorOccurrenceCounts) (request : Buffer) :
    KeepsPlace place
      (ipmiOEMSetProcessorErrConfig header calls request : OemDaemon δ CompletionCode) := by
  refine keeps_oemDataLen.bind fun length => Process.Keeps.ite (keeps_refusal _ _) ?_
  refine (keeps_dbusCall 0).bind fun _ => (keeps_setDbusProperty elsewhere 1 _).bind fun _ => ?_
  exact (keeps_setDbusProperty counted 2 _).bind fun _ => keeps_refusal _ _

theorem keeps_setBIOSID (elsewhere : place ≠ .property .biosId) (request : Buffer) :
    KeepsPlace place (ipmiOEMSetBIOSID calls request : OemDaemon δ CompletionCode) := by
  refine keeps_oemDataLen.bind fun length => Process.Keeps.ite (keeps_refusal _ _) ?_
  refine (keeps_dbusCall 0).bind fun _ => (keeps_setDbusProperty elsewhere 1 _).bind fun _ => ?_
  exact keeps_answerByte _

theorem keeps_setSystemGUID (elsewhere : place ≠ .property .uuid) (request : Buffer) :
    KeepsPlace place (ipmiOEMSetSystemGUID header calls request : OemDaemon δ CompletionCode) := by
  refine keeps_oemDataLen.bind fun length => Process.Keeps.ite (keeps_refusal _ _) ?_
  refine (keeps_setOemDataLen 0).bind fun _ => (keeps_dbusCall 0).bind fun _ => ?_
  exact (keeps_setDbusProperty elsewhere 1 _).bind fun _ => Process.keeps_pure _

/-!
### Fan speed control
-/

def cfmOf (request : Buffer) : UInt16 := (request 1).toUInt16 ||| ((request 2).toUInt16 <<< 8)

theorem commits_setFscParameter_cfm {doubles : Doubles δ} {request : Buffer}
    (selects : request 0 = header.cfm) :
    CommitsTo calls (.property .cfmLimit) (.variant (.double (doubles.ofNat (cfmOf request).toNat)))
      (ipmiOEMSetFscParameter doubles header calls request) := by
  have other : request 0 ≠ header.tcontrol := fun same => header.fscApart (same.symm.trans selects)
  refine Process.Commits.after keeps_oemDataLen fun length =>
    Process.Commits.after (keeps_setOemDataLen 0) fun _ =>
      Process.Commits.ite (Process.commits_pure ccReqDataLenInvalid_ne_ok) ?_
  rw [if_neg other, if_pos selects]
  refine Process.Commits.ite (Process.commits_pure ccReqDataLenInvalid_ne_ok)
    (Process.Commits.ite (Process.commits_pure ccParmOutOfRange_ne_ok) (commits_catchSdbus ?_))
  exact (commits_setDbusProperty 0 _ _).andThen (fun _ => Process.keeps_pure _)
    fun _ _ => ⟨ccOk, rfl, rfl⟩

theorem commits_setFscParameter_setPoint {doubles : Doubles δ} {request : Buffer} {path : CString}
    (selects : request 0 = header.tcontrol) (asked : calls.fails 0 = none)
    (found : exitAirConfigPath calls = path) :
    CommitsTo calls (.property (.setPoint path)) (.variant (.double (doubles.ofNat (request 2).toNat)))
      (ipmiOEMSetFscParameter doubles header calls request) := by
  refine Process.Commits.after keeps_oemDataLen fun length =>
    Process.Commits.after (keeps_setOemDataLen 0) fun _ =>
      Process.Commits.ite (Process.commits_pure ccReqDataLenInvalid_ne_ok) ?_
  have located : (getExitAirConfigPath calls : OemDaemon δ CString) = pure path := by
    rw [getExitAirConfigPath, asked]
    exact congrArg pure found
  rw [if_pos selects, located]
  refine Process.Commits.ite ?_ (Process.Commits.ite (Process.commits_pure ccInvalidFieldRequest_ne_ok)
    (Process.commits_pure ccReqDataLenInvalid_ne_ok))
  exact (commits_setDbusProperty 1 _ _).andThen (fun _ => Process.keeps_pure _)
    fun _ _ => ⟨ccOk, rfl, rfl⟩

/-- What the control of the fan speed sets: the set point of the path that is found, or the
limit. -/
theorem keeps_setFscParameter {doubles : Doubles δ} {request : Buffer}
    (elsewhere : request 0 = header.cfm → place ≠ .property .cfmLimit)
    (asked : request 0 = header.tcontrol → calls.fails 0 = none →
      place ≠ .property (.setPoint (exitAirConfigPath calls)))
    (unasked : request 0 = header.tcontrol → calls.fails 0 = some .sdbus →
      place ≠ .property (.setPoint [])) :
    KeepsPlace place (ipmiOEMSetFscParameter doubles header calls request) := by
  refine keeps_oemDataLen.bind fun length => (keeps_setOemDataLen 0).bind fun _ =>
    Process.Keeps.ite (Process.keeps_pure _) ?_
  by_cases control : request 0 = header.tcontrol
  · rw [if_pos control]
    refine Process.Keeps.ite ?_ (Process.Keeps.ite (Process.keeps_pure _) (Process.keeps_pure _))
    rw [getExitAirConfigPath]
    split
    · exact (keeps_setDbusProperty (asked control ‹_›) 1 _).bind fun _ => Process.keeps_pure _
    · exact (keeps_setDbusProperty (unasked control ‹_›) 1 _).bind fun _ => Process.keeps_pure _
    · exact Process.keeps_throw_bind _ _
  · rw [if_neg control]
    by_cases limit : request 0 = header.cfm
    · rw [if_pos limit]
      refine Process.Keeps.ite (Process.keeps_pure _) (Process.Keeps.ite (Process.keeps_pure _) ?_)
      refine keeps_catchSdbus ?_
      exact (keeps_setDbusProperty (elsewhere limit) 0 _).bind fun _ => Process.keeps_pure _
    · rw [if_neg limit]
      exact Process.keeps_pure _

/-!
### Host serial port
-/

theorem keeps_setHostSerial (elsewhere : place ≠ .environment) (value : CString) :
    KeepsPlace place (setHostSerial calls value : OemDaemon δ CompletionCode) := by
  have kept : KeepsPlace place (Process.modify fun world : OemWorld δ =>
      { world with hostSerial := some value } : OemDaemon δ Unit) := by
    refine Process.keeps_modify fun world => ?_
    cases place with
    | property name => rfl
    | environment => exact absurd rfl elsewhere
  refine Process.Keeps.ite ?_ (kept.bind fun _ => Process.keeps_pure _)
  exact Process.Keeps.ite (kept.bind fun _ => Process.keeps_pure _) (Process.keeps_pure _)

theorem commits_setHostSerial (value : CString) :
    CommitsTo calls .environment (.text (some value))
      (setHostSerial calls value : OemDaemon δ CompletionCode) := by
  rw [setHostSerial]
  cases failed : calls.setEnvFails with
  | false =>
      exact Process.Commits.andThen (Process.commits_modify fun _ => rfl)
        (fun _ => Process.keeps_pure _) fun _ _ => ⟨ccOk, rfl, rfl⟩
  | true =>
      cases carried : calls.setEnvCarriedOut with
      | false => exact Process.commits_pure ccUnspecifiedError_ne_ok
      | true =>
          refine ⟨fun world done => ?_, fun world _ => .inr ⟨fun inert => ?_, rfl⟩⟩
          · exact absurd (Outcome.done_returned.mp done) ccUnspecifiedError_ne_ok
          · have lost := inert.setEnv failed
            rw [carried] at lost
            cases lost

theorem keeps_cfgHostSerialPortSpeed {request : Buffer}
    (elsewhere : request header.hostSerialCommand = header.setHostSerialCfgCmd →
      place ≠ .environment) :
    KeepsPlace place
      (ipmiOEMCfgHostSerialPortSpeed header calls request : OemDaemon δ CompletionCode) := by
  refine keeps_oemDataLen.bind fun length => Process.Keeps.ite (Process.keeps_pure _) ?_
  refine (keeps_setOemDataLen 0).bind fun _ => ?_
  by_cases gets : request header.hostSerialCommand = header.getHostSerialCfgCmd
  · rw [if_pos gets]
    exact Process.Keeps.ite (Process.keeps_pure _) keeps_getHostSerial
  · rw [if_neg gets]
    by_cases sets : request header.hostSerialCommand = header.setHostSerialCfgCmd
    · rw [if_pos sets]
      exact Process.Keeps.ite (Process.keeps_pure _) (Process.Keeps.ite (Process.keeps_pure _)
        (keeps_setHostSerial (elsewhere sets) _))
    · rw [if_neg sets]
      exact Process.keeps_pure _

theorem commits_cfgHostSerialPortSpeed {request : Buffer}
    (sets : request header.hostSerialCommand = header.setHostSerialCfgCmd) :
    CommitsTo calls .environment
      (.text (some (Nat.toDigits 10 (request header.hostSerialParameter).toNat)))
      (ipmiOEMCfgHostSerialPortSpeed header calls request : OemDaemon δ CompletionCode) := by
  have other : request header.hostSerialCommand ≠ header.getHostSerialCfgCmd :=
    fun same => header.hostSerialApart (same.symm.trans sets)
  refine Process.Commits.after keeps_oemDataLen fun length =>
    Process.Commits.ite (Process.commits_pure ccReqDataLenInvalid_ne_ok) ?_
  refine Process.Commits.after (keeps_setOemDataLen 0) fun _ => ?_
  rw [if_neg other, if_pos sets]
  exact Process.Commits.ite (Process.commits_pure ccReqDataLenInvalid_ne_ok)
    (Process.Commits.ite (Process.commits_pure ccInvalidFieldRequest_ne_ok)
      (commits_setHostSerial _))

/-!
## Messages
-/

/-- The commands whose handlers are given the raw request. The status of a firmware update
and the activation of the default user are registered with decoded arguments, and set
nothing that is kept here. -/
inductive OemCommand where
  | setPowerRestoreDelay
  | getPowerRestoreDelay
  | setProcessorErrConfig
  | getProcessorErrConfig
  | setShutdownPolicy
  | getShutdownPolicy
  | setFanConfig
  | getFanConfig
  | setFscParameter
  | getFscParameter
  | cfgHostSerialPortSpeed
  | setBIOSID
  | getDeviceInfo
  | setSystemGUID
  | getChassisIdentifier
  | getAICFRU
  | getLEDStatus
  | wildcard
  deriving DecidableEq, Repr

/-- A request, with what its calls meet and the response buffer that it is given. -/
structure OemMessage where
  command : OemCommand
  calls : OemCalls
  request : Buffer
  length : ℕ
  response : Buffer

namespace OemMessage

def handler (doubles : Doubles δ) (header : OemHeader) (message : OemMessage) :
    OemDaemon δ CompletionCode :=
  match message.command with
  | .setPowerRestoreDelay => ipmiOEMSetPowerRestoreDelay header message.calls message.request
  | .getPowerRestoreDelay => ipmiOEMGetPowerRestoreDelay header message.calls
  | .setProcessorErrConfig => ipmiOEMSetProcessorErrConfig header message.calls message.request
  | .getProcessorErrConfig => ipmiOEMGetProcessorErrConfig header message.calls
  | .setShutdownPolicy => ipmiOEMSetShutdownPolicy header message.calls message.request
  | .getShutdownPolicy => ipmiOEMGetShutdownPolicy header message.calls
  | .setFanConfig => ipmiOEMSetFanConfig header message.calls message.request
  | .getFanConfig => ipmiOEMGetFanConfig header message.calls
  | .setFscParameter => ipmiOEMSetFscParameter doubles header message.calls message.request
  | .getFscParameter => ipmiOEMGetFscParameter doubles header message.calls message.request
  | .cfgHostSerialPortSpeed => ipmiOEMCfgHostSerialPortSpeed header message.calls message.request
  | .setBIOSID => ipmiOEMSetBIOSID message.calls message.request
  | .getDeviceInfo => getDeviceInfo header message.calls message.request
  | .setSystemGUID => ipmiOEMSetSystemGUID header message.calls message.request
  | .getChassisIdentifier => ipmiOEMGetChassisIdentifier message.calls
  | .getAICFRU => ipmiOEMGetAICFRU
  | .getLEDStatus => ipmiOEMGetLEDStatus header message.calls
  | .wildcard => ipmiOEMWildcard

/-- The reply, if no exception leaves the handler, and the state behind it. -/
def transmit (doubles : Doubles δ) (header : OemHeader) (world : OemWorld δ) (message : OemMessage) :
    Option Reply × OemWorld δ :=
  match (message.handler doubles header).run
      { world with response := message.response, dataLen := message.length } with
  | (.returned code, after) => (some ⟨code, after.dataLen, after.response⟩, after)
  | (_, after) => (none, after)

end OemMessage

/-!
## Settings
-/

/-- What a command sets and another gets. A set point belongs to the object of the
configuration that is found. -/
inductive Setting where
  | powerRestoreDelay
  | resetCfg
  | shutdownPolicy
  | fanProfile
  | cfmLimit
  | setPoint (path : { path : CString // path ≠ [] })
  | hostSerial

namespace Setting

def keptAt : Setting → Place
  | powerRestoreDelay => .property .powerRestoreDelay
  | resetCfg => .property .resetCfg
  | shutdownPolicy => .property .shutdownPolicy
  | fanProfile => .property .thermalCurrent
  | cfmLimit => .property .cfmLimit
  | setPoint path => .property (.setPoint path)
  | hostSerial => .environment

/-- The message asks to change the setting. -/
def Asks (header : OemHeader) (message : OemMessage) : Setting → Prop
  | powerRestoreDelay => message.command = .setPowerRestoreDelay
  | resetCfg => message.command = .setProcessorErrConfig
  | shutdownPolicy => message.command = .setShutdownPolicy
  | fanProfile =>
      message.command = .setFanConfig ∧
        (message.request header.setFanFlags).toNat.testBit header.setPerfAcousMode = true
  | cfmLimit => message.command = .setFscParameter ∧ message.request 0 = header.cfm
  | setPoint path =>
      message.command = .setFscParameter ∧ message.request 0 = header.tcontrol ∧
        message.calls.fails 0 = none ∧ exitAirConfigPath message.calls = path
  | hostSerial =>
      message.command = .cfgHostSerialPortSpeed ∧
        message.request header.hostSerialCommand = header.setHostSerialCfgCmd

/-- The value that a request asks for. -/
def requested (header : OemHeader) (request : Buffer) : Setting → ℕ
  | powerRestoreDelay =>
      256 * (request header.setDelayReq.msb).toNat + (request header.setDelayReq.lsb).toNat
  | resetCfg => (request header.setResetCfg).toNat
  | shutdownPolicy => (request 0).toNat
  | fanProfile =>
      if (request header.setFanFlags).toNat.testBit header.performAcousSelect then 1 else 0
  | cfmLimit => (request 1).toNat + 256 * (request 2).toNat
  | setPoint _ => (request 2).toNat
  | hostSerial => (request header.hostSerialParameter).toNat

/-- How a value is kept. -/
def stored (doubles : Doubles δ) (value : ℕ) : Setting → Content δ
  | powerRestoreDelay => .variant (.uint16 (UInt16.ofNat value))
  | resetCfg => .variant (.byte (UInt8.ofNat value))
  | shutdownPolicy => .variant (.byte (UInt8.ofNat value))
  | fanProfile => .variant (.string (if value = 1 then performance else acoustic))
  | cfmLimit => .variant (.double (doubles.ofNat value))
  | setPoint _ => .variant (.double (doubles.ofNat value))
  | hostSerial => .text (some (Nat.toDigits 10 value))

end Setting

/-- A message leaves alone what it does not ask to change. -/
theorem keeps_unasked (doubles : Doubles δ) {setting : Setting} {message : OemMessage}
    (unasked : ¬ setting.Asks header message) :
    KeepsPlace setting.keptAt (message.handler doubles header) := by
  rcases message with ⟨command, calls, request, length, response⟩
  cases command with
  | setPowerRestoreDelay =>
      refine keeps_setPowerRestoreDelay ?_ request
      rintro same
      cases setting <;> simp [Setting.keptAt, Setting.Asks] at same unasked
  | getPowerRestoreDelay => exact keeps_getPowerRestoreDelay
  | setProcessorErrConfig =>
      refine keeps_setProcessorErrConfig ?_ ?_ request
      all_goals
        intro same
        cases setting <;> simp [Setting.keptAt, Setting.Asks] at same unasked
  | getProcessorErrConfig => exact keeps_getProcessorErrConfig
  | setShutdownPolicy =>
      refine keeps_setShutdownPolicy ?_ request
      intro same
      cases setting <;> simp [Setting.keptAt, Setting.Asks] at same unasked
  | getShutdownPolicy => exact keeps_getShutdownPolicy
  | setFanConfig =>
      cases selects : (request header.setFanFlags).toNat.testBit header.setPerfAcousMode with
      | false => exact keeps_setFanConfig_unselected selects
      | true =>
          refine keeps_setFanConfig ?_ request
          intro same
          cases setting <;> simp [Setting.keptAt, Setting.Asks, selects] at same unasked
  | getFanConfig => exact keeps_getFanConfig
  | setFscParameter =>
      refine keeps_setFscParameter ?_ ?_ ?_
      · intro limit same
        change request 0 = header.cfm at limit
        cases setting <;> simp [Setting.keptAt, Setting.Asks, limit] at same unasked
      · intro control asked same
        change request 0 = header.tcontrol at control
        change calls.fails 0 = none at asked
        cases setting <;> simp [Setting.keptAt, Setting.Asks, control, asked] at same unasked
        exact unasked same.symm
      · intro control failed same
        cases setting with
        | setPoint path => exact absurd (by simpa [Setting.keptAt] using same) path.property
        | _ => simp [Setting.keptAt] at same
  | getFscParameter => exact keeps_getFscParameter doubles request
  | cfgHostSerialPortSpeed =>
      refine keeps_cfgHostSerialPortSpeed ?_
      intro sets same
      change request header.hostSerialCommand = header.setHostSerialCfgCmd at sets
      cases setting <;> simp [Setting.keptAt, Setting.Asks, sets] at same unasked
  | setBIOSID =>
      refine keeps_setBIOSID ?_ request
      intro same
      cases setting <;> simp [Setting.keptAt] at same
  | getDeviceInfo => exact keeps_getDeviceInfo request
  | setSystemGUID =>
      refine keeps_setSystemGUID ?_ request
      intro same
      cases setting <;> simp [Setting.keptAt] at same
  | getChassisIdentifier => exact keeps_getChassisIdentifier
  | getAICFRU => exact keeps_getAICFRU
  | getLEDStatus => exact keeps_getLEDStatus
  | wildcard => exact keeps_refusal _ _

end InspurIpmi

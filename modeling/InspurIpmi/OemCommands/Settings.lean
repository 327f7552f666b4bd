import InspurIpmi.Foundation.DigitText
import InspurIpmi.OemCommands

/-!
# The settings commands

The handlers of `oemcommands.cpp` that set and get what is kept behind them: in
properties of D-Bus objects, and in the environment of the boot loader. The handlers for
LEDs and identities are here too.
-/

set_option autoImplicit false

namespace InspurIpmi

open Foundation

/-- What a property holds. -/
inductive Variant (δ : Type) where
  | byte (value : UInt8)
  | uint16 (value : UInt16)
  | double (value : δ)
  | string (text : List UInt8)
  | strings (texts : List (List UInt8))
  | bytes (list : List UInt8)

/-- Floating-point numbers, as far as the handlers convert and compare them. Integers of
16 bits are exact. -/
structure Doubles (δ : Type) where
  ofNat : ℕ → δ
  /-- Below `0`, or above the largest number of 16 bits. -/
  outOfRange : δ → Bool
  /-- `std::floor(value + 0.5)`, converted. -/
  roundToByte : δ → UInt8
  roundToUInt16 : δ → UInt16
  inRange : ∀ word : UInt16, outOfRange (ofNat word.toNat) = false
  byte_exact : ∀ byte : UInt8, roundToByte (ofNat byte.toNat) = byte
  uint16_exact : ∀ word : UInt16, roundToUInt16 (ofNat word.toNat) = word

inductive Led where
  | amber
  | green
  | identify
  deriving DecidableEq, Repr

/-- What an LED does. -/
inductive LedAction where
  | off
  | on
  | blink
  deriving DecidableEq, Repr

inductive Property where
  | powerRestoreDelay
  | resetCfg
  | resetErrorOccurrenceCounts
  | caterrStatus
  | shutdownPolicy
  | biosId
  | uuid
  | ledState (led : Led)
  | thermalSupported
  | thermalCurrent
  | cfmLimit
  | maxCfm
  | setPoint (path : CString)
  deriving DecidableEq

/-- Where a 16-bit delay has its two bytes. -/
structure DelayBytes where
  size : ℕ
  lsb : ℕ
  msb : ℕ
  apart : lsb ≠ msb

/-- The constants and the layouts of requests and responses, which the source takes from
a header of another project. -/
structure OemHeader where
  setDelayReq : DelayBytes
  getDelayRes : DelayBytes
  setErrConfigReqSize : ℕ
  setResetCfg : ℕ
  setResetCounts : ℕ
  getErrConfigResSize : ℕ
  getResetCfg : ℕ
  getCaterrStatus : ℕ
  maxCPUNum : ℕ
  resetCfgApart : getResetCfg < getCaterrStatus ∨ getCaterrStatus + maxCPUNum ≤ getResetCfg
  getPolicyResSize : ℕ
  getPolicy : ℕ
  getPolicySupport : ℕ
  policyApart : getPolicy ≠ getPolicySupport
  noShutdownOnOCOT : UInt8
  shutdownOnOCOT : UInt8
  shutdownPolicySupported : UInt8
  setFanFlags : ℕ
  setPerfAcousMode : ℕ
  performAcousSelect : ℕ
  getFanConfigResSize : ℕ
  getFanFlags : ℕ
  tcontrol : UInt8
  cfm : UInt8
  fscApart : tcontrol ≠ cfm
  getHostSerialCfgCmd : UInt8
  setHostSerialCfgCmd : UInt8
  hostSerialApart : getHostSerialCfgCmd ≠ setHostSerialCfgCmd
  cfgHostSerialReqSize : ℕ
  hostSerialCommand : ℕ
  hostSerialParameter : ℕ
  hostSerialCfgParamMax : UInt8
  /-- Where `GUIDData` has the members, in the order in which they are printed. -/
  guidField : Fin 16 → Fin 16
  guidFieldApart : Function.Injective guidField
  entityType : OEMDevEntityType
  /-- `Physical::convertActionFromString`, which throws for any other text. -/
  convertAction : List UInt8 → Option LedAction

/-- The request in progress, and what the commands set. -/
structure OemWorld (δ : Type) where
  response : Buffer
  dataLen : ℕ
  property : Property → Variant δ
  /-- The variable of the boot loader's environment, when it is defined. -/
  hostSerial : Option CString

/-- The FRU interface of an object, if it has one, and the serial number of the chassis
there. -/
abbrev FruObject := Option (Option DbusValue)

/-- What the calls of one request meet. -/
structure OemCalls where
  /-- How the D-Bus call with this number ends, if it fails. -/
  fails : ℕ → Option OemException
  /-- The service has done what it was called for, when the call with this number fails. A
  reply that comes too late is such a failure. -/
  carriedOut : ℕ → Bool
  /-- The objects with a `Pid` interface. -/
  pidPaths : List CString
  /-- The managed objects, in the order of their paths. -/
  fruObjects : List FruObject
  setEnvFails : Bool
  /-- `fw_setenv` has changed the environment before it fails. -/
  setEnvCarriedOut : Bool
  getEnvFails : Bool
  /-- How many lines arrive before the child process is seen to have ended. -/
  linesRead : ℕ

/-- No call that fails has been carried out. -/
structure OemCalls.Inert (calls : OemCalls) : Prop where
  dbus : ∀ number, calls.fails number ≠ none → calls.carriedOut number = false
  setEnv : calls.setEnvFails = true → calls.setEnvCarriedOut = false

abbrev OemDaemon (δ α : Type) := Process (OemWorld δ) OemException α

def ccInvalid : CompletionCode := 0xC1
def ccResponseError : CompletionCode := 0xCE

section Handlers

variable {δ : Type}

/-!
## Calls
-/

def dbusCall (calls : OemCalls) (number : ℕ) : OemDaemon δ Unit :=
  match calls.fails number with
  | some error => Process.throw error
  | none => pure ()

/-- The service is asked for with one call, and the property with the next. -/
def getDbusProperty (calls : OemCalls) (number : ℕ) (property : Property) :
    OemDaemon δ (Variant δ) := do
  dbusCall calls number
  Process.gets fun world => world.property property

def storeProperty (property : Property) (value : Variant δ) : OemDaemon δ Unit :=
  Process.modify fun world =>
    { world with property := Function.update world.property property value }

/-- A call that fails may have set the property. -/
def setDbusProperty (calls : OemCalls) (number : ℕ) (property : Property) (value : Variant δ) :
    OemDaemon δ Unit :=
  match calls.fails number with
  | none => storeProperty property value
  | some error => do
      if calls.carriedOut number then
        storeProperty property value
      Process.throw error

def oemDataLen : OemDaemon δ ℕ := Process.gets OemWorld.dataLen

def setOemDataLen (length : ℕ) : OemDaemon δ Unit :=
  Process.modify fun world => { world with dataLen := length }

def setByte (index : ℕ) (byte : UInt8) : OemDaemon δ Unit :=
  Process.modify fun world => { world with response := Function.update world.response index byte }

def variantByte : Variant δ → OemDaemon δ UInt8
  | .byte value => pure value
  | _ => Process.throw .badVariantAccess

def variantUInt16 : Variant δ → OemDaemon δ UInt16
  | .uint16 value => pure value
  | _ => Process.throw .badVariantAccess

def variantString : Variant δ → OemDaemon δ (List UInt8)
  | .string text => pure text
  | _ => Process.throw .badVariantAccess

def variantDouble : Variant δ → OemDaemon δ δ
  | .double value => pure value
  | _ => Process.throw .badVariantAccess

/-- A `try` block whose handler is for the exceptions of D-Bus only. -/
def catchSdbus (body : OemDaemon δ CompletionCode) : OemDaemon δ CompletionCode :=
  Process.tryCatch body fun error =>
    match error with
    | .sdbus => return ccUnspecifiedError
    | .badVariantAccess => Process.throw .badVariantAccess
    | .other => Process.throw .other

/-- A `try` block that has a result unless D-Bus fails. -/
def unlessSdbus {α : Type} (body : OemDaemon δ α) : OemDaemon δ (Option α) :=
  Process.tryCatch (do return some (← body)) fun error =>
    match error with
    | .sdbus => return none
    | .badVariantAccess => Process.throw .badVariantAccess
    | .other => Process.throw .other

/-!
## Power restore delay
-/

def ipmiOEMSetPowerRestoreDelay (header : OemHeader) (calls : OemCalls) (request : Buffer) :
    OemDaemon δ CompletionCode := do
  if (← oemDataLen) ≠ header.setDelayReq.size then
    setOemDataLen 0
    return ccReqDataLenInvalid
  let delay := (request header.setDelayReq.msb).toUInt16
  let delay := (delay <<< 8) ||| (request header.setDelayReq.lsb).toUInt16
  dbusCall calls 0
  setDbusProperty calls 1 .powerRestoreDelay (.uint16 delay)
  setOemDataLen 0
  return ccOk

def ipmiOEMGetPowerRestoreDelay (header : OemHeader) (calls : OemCalls) :
    OemDaemon δ CompletionCode := do
  if (← oemDataLen) ≠ 0 then
    setOemDataLen 0
    return ccReqDataLenInvalid
  dbusCall calls 0
  let delay ← variantUInt16 (← getDbusProperty calls 1 .powerRestoreDelay)
  setByte header.getDelayRes.lsb delay.toUInt8
  setByte header.getDelayRes.msb (delay >>> 8).toUInt8
  setOemDataLen header.getDelayRes.size
  return ccOk

/-!
## Processor errors
-/

def ipmiOEMSetProcessorErrConfig (header : OemHeader) (calls : OemCalls) (request : Buffer) :
    OemDaemon δ CompletionCode := do
  if (← oemDataLen) ≠ header.setErrConfigReqSize then
    setOemDataLen 0
    return ccReqDataLenInvalid
  dbusCall calls 0
  setDbusProperty calls 1 .resetCfg (.byte (request header.setResetCfg))
  setDbusProperty calls 2 .resetErrorOccurrenceCounts (.byte (request header.setResetCounts))
  setOemDataLen 0
  return ccOk

/-- A property of another type is read as an empty vector. -/
def Variant.byteList : Variant δ → List UInt8
  | .bytes list => list
  | _ => []

/-- The rest of the array keeps what the response held. -/
def setBytes (start : ℕ) (list : List UInt8) : OemDaemon δ Unit :=
  Process.modify fun world =>
    { world with response := overlay world.response start list.length fun index => list.getD index 0 }

def ipmiOEMGetProcessorErrConfig (header : OemHeader) (calls : OemCalls) :
    OemDaemon δ CompletionCode := do
  if (← oemDataLen) ≠ 0 then
    setOemDataLen 0
    return ccReqDataLenInvalid
  dbusCall calls 0
  let resetCfg ← variantByte (← getDbusProperty calls 1 .resetCfg)
  setByte header.getResetCfg resetCfg
  dbusCall calls 2
  catchSdbus do
    let caterrStatus := (← getDbusProperty calls 3 .caterrStatus).byteList
    setBytes header.getCaterrStatus (caterrStatus.take header.maxCPUNum)
    setOemDataLen header.getErrConfigResSize
    return ccOk

/-!
## Shutdown policy
-/

def ipmiOEMSetShutdownPolicy (header : OemHeader) (calls : OemCalls) (request : Buffer) :
    OemDaemon δ CompletionCode := do
  if (← oemDataLen) ≠ 1 then
    setOemDataLen 0
    return ccReqDataLenInvalid
  setOemDataLen 0
  if request 0 ≠ header.noShutdownOnOCOT ∧ request 0 ≠ header.shutdownOnOCOT then
    return ccInvalidFieldRequest
  catchSdbus do
    dbusCall calls 0
    setDbusProperty calls 1 .shutdownPolicy (.byte (request 0))
    return ccOk

def ipmiOEMGetShutdownPolicy (header : OemHeader) (calls : OemCalls) :
    OemDaemon δ CompletionCode := do
  if (← oemDataLen) ≠ 0 then
    setOemDataLen 0
    return ccReqDataLenInvalid
  setOemDataLen 0
  catchSdbus do
    dbusCall calls 0
    let policy ← variantByte (← getDbusProperty calls 1 .shutdownPolicy)
    setByte header.getPolicy policy
    setByte header.getPolicySupport header.shutdownPolicySupported
    setOemDataLen header.getPolicyResSize
    return ccOk

/-!
## Fan profile
-/

def performance : List UInt8 := bytesOf "Performance"
def acoustic : List UInt8 := bytesOf "Acoustic"

/-- `std::get_if` on an entry of the map. One that is absent or of another type is there
as an empty vector. -/
def Variant.texts? : Variant δ → Option (List (List UInt8))
  | .string _ => none
  | .strings texts => some texts
  | _ => some []

def Variant.text? : Variant δ → Option (List UInt8)
  | .string text => some text
  | _ => none

/-- The property is in one map with the current profile, which two calls read. -/
def getFanProfile (calls : OemCalls) (property : Property) : OemDaemon δ (Option (Variant δ)) :=
  unlessSdbus do
    dbusCall calls 0
    getDbusProperty calls 1 property

/-- The profile that the flags ask for, when it is supported. -/
def profileMode (header : OemHeader) (supported : List (List UInt8)) (flags : UInt8) :
    Option (List UInt8) :=
  let mode := if flags.toNat.testBit header.performAcousSelect then performance else acoustic
  if mode ∈ supported then some mode else none

/-- The handler behind the reading of the map. -/
def setProfile (header : OemHeader) (calls : OemCalls) (flags : UInt8) :
    Option (Variant δ) → OemDaemon δ CompletionCode
  | none => return ccUnspecifiedError
  | some profile =>
      match profile.texts? with
      | none => return ccInvalidFieldRequest
      | some supported =>
          if flags.toNat.testBit header.setPerfAcousMode then
            match profileMode header supported flags with
            | none => return ccInvalidFieldRequest
            | some mode => do
                setDbusProperty calls 2 .thermalCurrent (.string mode)
                return ccOk
          else return ccOk

def ipmiOEMSetFanConfig (header : OemHeader) (calls : OemCalls) (request : Buffer) :
    OemDaemon δ CompletionCode := do
  let length ← oemDataLen
  if length < 2 ∨ 7 < length then
    setOemDataLen 0
    return ccReqDataLenInvalid
  setProfile header calls (request header.setFanFlags) (← getFanProfile calls .thermalSupported)

/-- No other bit of the flags is written. -/
def setFlag (index bit : ℕ) : OemDaemon δ Unit :=
  Process.modify fun world =>
    { world with response :=
        Function.update world.response index (UInt8.ofNat ((world.response index).toNat ||| 2 ^ bit)) }

def answerProfile (header : OemHeader) (profile : Option (Variant δ)) : OemDaemon δ CompletionCode :=
  match profile.bind Variant.text? with
  | none => return ccUnspecifiedError
  | some current => do
      if current = performance then
        setFlag header.getFanFlags 2
      return ccOk

def ipmiOEMGetFanConfig (header : OemHeader) (calls : OemCalls) : OemDaemon δ CompletionCode := do
  if 1 < (← oemDataLen) then
    setOemDataLen 0
    return ccReqDataLenInvalid
  setOemDataLen header.getFanConfigResSize
  answerProfile header (← getFanProfile calls .thermalCurrent)

/-!
## Fan speed control
-/

def legacyExitAirSensorNumber : UInt8 := 0x2E
def legacyDefaultExitAirLimit : UInt8 := 0x80

/-- The text occurs somewhere in the path. -/
def occursIn (text : CString) : CString → Bool
  | [] => text.isEmpty
  | char :: rest => text.isPrefixOf (char :: rest) || occursIn text rest

/-- Empty when there is no such object, or the mapper cannot be asked. -/
def exitAirConfigPath (calls : OemCalls) : CString :=
  (calls.pidPaths.find? (occursIn "Exit_Air".toList)).getD []

def getExitAirConfigPath (calls : OemCalls) : OemDaemon δ CString :=
  match calls.fails 0 with
  | none => return exitAirConfigPath calls
  | some .sdbus => return []
  | some error => Process.throw error

def ipmiOEMSetFscParameter (doubles : Doubles δ) (header : OemHeader) (calls : OemCalls)
    (request : Buffer) : OemDaemon δ CompletionCode := do
  let length ← oemDataLen
  setOemDataLen 0
  if length < 2 then
    return ccReqDataLenInvalid
  if request 0 = header.tcontrol then
    if length = 3 ∧ request 1 = legacyExitAirSensorNumber then
      let path ← getExitAirConfigPath calls
      setDbusProperty calls 1 (.setPoint path) (.double (doubles.ofNat (request 2).toNat))
      return ccOk
    if length = 3 then
      return ccInvalidFieldRequest
    return ccReqDataLenInvalid
  if request 0 = header.cfm then
    if length ≠ 3 then
      return ccReqDataLenInvalid
    let cfm := (request 1).toUInt16 ||| ((request 2).toUInt16 <<< 8)
    if cfm < 50 ∧ cfm ≠ 0 then
      return ccParmOutOfRange
    catchSdbus do
      setDbusProperty calls 0 .cfmLimit (.double (doubles.ofNat cfm.toNat))
      return ccOk
  else
    return ccParmOutOfRange

/-- A variant that is no number, or out of range, is an error. -/
def Variant.limit? (doubles : Doubles δ) : Variant δ → Option UInt16
  | .double value => if doubles.outOfRange value then none else some (doubles.roundToUInt16 value)
  | _ => none

/-- A 16-bit number in the byte order of the machine. -/
def setUInt16 (start : ℕ) (word : UInt16) : OemDaemon δ Unit := do
  setByte start word.toUInt8
  setByte (start + 1) (word >>> 8).toUInt8

/-- The block that reads both limits, with nothing when D-Bus fails. -/
def getLimits (calls : OemCalls) : OemDaemon δ (Option (Variant δ × Variant δ)) :=
  unlessSdbus do
    let cfmLimit ← getDbusProperty calls 0 .cfmLimit
    let cfmMaximum ← getDbusProperty calls 1 .maxCfm
    return (cfmLimit, cfmMaximum)

def getSetPoint (doubles : Doubles δ) (calls : OemCalls) (path : CString) : OemDaemon δ UInt8 :=
  if path = [] then return legacyDefaultExitAirLimit
  else do
    let value ← variantDouble (← getDbusProperty calls 1 (.setPoint path))
    return doubles.roundToByte value

def answerLimits (doubles : Doubles δ) (limits : Option (Variant δ × Variant δ)) :
    OemDaemon δ CompletionCode :=
  match limits.bind fun both => both.1.limit? doubles, limits.bind fun both => both.2.limit? doubles with
  | some limit, some maximum => do
      setUInt16 0 limit
      setUInt16 2 maximum
      setOemDataLen 4
      return ccOk
  | _, _ => do
      setOemDataLen 0
      return ccUnspecifiedError

def ipmiOEMGetFscParameter (doubles : Doubles δ) (header : OemHeader) (calls : OemCalls)
    (request : Buffer) : OemDaemon δ CompletionCode := do
  let length ← oemDataLen
  if length < 1 then
    setOemDataLen 0
    return ccReqDataLenInvalid
  if request 0 = header.tcontrol then
    if length ≠ 2 then
      setOemDataLen 0
      return ccReqDataLenInvalid
    if request 1 ≠ legacyExitAirSensorNumber then
      return ccParmOutOfRange
    let setpoint ← getSetPoint doubles calls (← getExitAirConfigPath calls)
    setByte 0 setpoint
    setByte 1 setpoint
    setOemDataLen 2
    return ccOk
  if request 0 = header.cfm then
    answerLimits doubles (← getLimits calls)
  else
    setOemDataLen 0
    return ccParmOutOfRange

/-!
## Host serial port
-/

/-- `std::stoul`, which throws when there is no number or it does not fit. -/
def stoul (text : CString) : Option ℕ :=
  let (negative, unsigned) := takeSign (text.dropWhile isBlank)
  if (unsigned.head?.bind (digitValue? 10)).isSome then
    let magnitude := (takeDigits 10 0 unsigned).1
    if 2 ^ 32 ≤ magnitude then none
    else if negative then some ((2 ^ 32 - magnitude) % 2 ^ 32)
    else some magnitude
  else none

/-- The lines that are read of what `fw_printenv` prints: the value is one line, and an
empty line ends the reading. -/
def printedLines (calls : OemCalls) (value : CString) : List CString :=
  if calls.linesRead = 0 ∨ value = [] then [] else [value]

def answerByte (byte : UInt8) : OemDaemon δ CompletionCode := do
  setByte 0 byte
  setOemDataLen 1
  return ccOk

/-- The value is parsed when exactly one line was read. -/
def answerLines : List CString → OemDaemon δ CompletionCode
  | [line] =>
      match stoul line with
      | none => return ccUnspecifiedError
      | some number => if 255 < number then return ccUnspecifiedError else answerByte (UInt8.ofNat number)
  | _ => return ccUnspecifiedError

/-- `fw_printenv` fails for a variable that is not defined, and a failure counts as `0`. -/
def getHostSerial (calls : OemCalls) : OemDaemon δ CompletionCode := do
  match ← Process.gets OemWorld.hostSerial with
  | none => answerByte 0
  | some value =>
    if calls.getEnvFails then answerByte 0
    else answerLines (printedLines calls value)

/-- `fw_setenv`, which may fail with the variable set. -/
def setHostSerial (calls : OemCalls) (value : CString) : OemDaemon δ CompletionCode := do
  if calls.setEnvFails then
    if calls.setEnvCarriedOut then
      Process.modify fun world => { world with hostSerial := some value }
    return ccUnspecifiedError
  Process.modify fun world => { world with hostSerial := some value }
  return ccOk

def ipmiOEMCfgHostSerialPortSpeed (header : OemHeader) (calls : OemCalls) (request : Buffer) :
    OemDaemon δ CompletionCode := do
  let length ← oemDataLen
  if length = 0 then
    return ccReqDataLenInvalid
  setOemDataLen 0
  if request header.hostSerialCommand = header.getHostSerialCfgCmd then
    if length ≠ 1 then
      return ccReqDataLenInvalid
    getHostSerial calls
  else if request header.hostSerialCommand = header.setHostSerialCfgCmd then
    if length ≠ header.cfgHostSerialReqSize then
      return ccReqDataLenInvalid
    if header.hostSerialCfgParamMax < request header.hostSerialParameter then
      return ccInvalidFieldRequest
    setHostSerial calls (Nat.toDigits 10 (request header.hostSerialParameter).toNat)
  else
    return ccInvalidFieldRequest

/-!
## Identities
-/

/-- The length byte of the request is compared as a number. -/
def ipmiOEMSetBIOSID (calls : OemCalls) (request : Buffer) : OemDaemon δ CompletionCode := do
  let length ← oemDataLen
  if length < 2 ∨ length ≠ 1 + (request 0).toNat then
    setOemDataLen 0
    return ccReqDataLenInvalid
  let idString := (List.range (request 0).toNat).map fun index => request (1 + index)
  dbusCall calls 0
  setDbusProperty calls 1 .biosId (.string idString)
  setByte 0 (request 0)
  setOemDataLen 1
  return ccOk

/-- A property is only told from a text. -/
def Variant.toDbusValue : Variant δ → DbusValue
  | .string text => .string text
  | _ => .other

/-- The service is asked for outside the `try` block and the property inside. There an
access to a variant of another type is caught, wherever it comes from. -/
def OemCalls.deviceInfo (calls : OemCalls) (world : OemWorld δ) : DeviceInfoCalls where
  service :=
    match calls.fails 0 with
    | some _ => .error .other
    | none => .ok ()
  property :=
    match calls.fails 1 with
    | some .badVariantAccess => .ok .other
    | some _ => .error .other
    | none => .ok (world.property .biosId).toDbusValue

/-- A handler that has to do with the request in progress only. -/
def onRequest (handler : OemWorld δ → Daemon CompletionCode) : OemDaemon δ CompletionCode :=
  fun world =>
    let (outcome, after) := (handler world).run
      { World.boot with response := world.response, dataLen := world.dataLen }
    let handed := { world with response := after.response, dataLen := after.dataLen }
    match outcome with
    | .returned code => (.returned code, handed)
    | .thrown _ => (.thrown .other, handed)
    | .exited status => (.exited status, handed)

/-- `ipmiOEMGetDeviceInfo`, which asks for the property that is set above. -/
def getDeviceInfo (header : OemHeader) (calls : OemCalls) (request : Buffer) :
    OemDaemon δ CompletionCode :=
  onRequest fun world => ipmiOEMGetDeviceInfo header.entityType (calls.deviceInfo world) request

def lowerHexDigit (digit : ℕ) : UInt8 := UInt8.ofNat (if digit < 10 then 0x30 + digit else 0x57 + digit)

/-- The conversion `%02x`. -/
def hexByte (byte : UInt8) : List UInt8 :=
  [lowerHexDigit (byte.toNat / 16), lowerHexDigit (byte.toNat % 16)]

def dash : UInt8 := 0x2D

/-- One group of the format. -/
def hexGroup (fields : ℕ → UInt8) (start count : ℕ) : List UInt8 :=
  (List.range count).flatMap fun index => hexByte (fields (start + index))

def guidText (fields : ℕ → UInt8) : List UInt8 :=
  hexGroup fields 0 4 ++ dash :: hexGroup fields 4 2 ++ dash :: hexGroup fields 6 2 ++
    dash :: hexGroup fields 8 2 ++ dash :: hexGroup fields 10 6

def safeBufferLength : ℕ := 50

/-- `snprintf` keeps the last byte of the buffer for the end of the text. -/
def snprintf (size : ℕ) (text : List UInt8) : List UInt8 := text.take (size - 1)

def guidFields (header : OemHeader) (request : Buffer) (index : ℕ) : UInt8 :=
  if inside : index < 16 then request (header.guidField ⟨index, inside⟩) else 0

def ipmiOEMSetSystemGUID (header : OemHeader) (calls : OemCalls) (request : Buffer) :
    OemDaemon δ CompletionCode := do
  if (← oemDataLen) ≠ 16 then
    setOemDataLen 0
    return ccReqDataLenInvalid
  setOemDataLen 0
  let guid := snprintf safeBufferLength (guidText (guidFields header request))
  dbusCall calls 0
  setDbusProperty calls 1 .uuid (.string guid)
  return ccOk

def maxFRUStringLength : ℕ := 0x3F

/-- The first object with a serial number decides, whatever it holds. -/
def chassisSerialNumber : List FruObject → Option (List UInt8)
  | [] => none
  | none :: rest => chassisSerialNumber rest
  | some none :: rest => chassisSerialNumber rest
  | some (some (.string result)) :: _ =>
      if maxFRUStringLength < result.length then none else some result
  | some (some .other) :: _ => none

def getChassisSerialNumber (calls : OemCalls) : OemDaemon δ (Option (List UInt8)) := do
  dbusCall calls 0
  dbusCall calls 1
  return chassisSerialNumber calls.fruObjects

def ipmiOEMGetChassisIdentifier (calls : OemCalls) : OemDaemon δ CompletionCode := do
  if (← oemDataLen) ≠ 0 then
    setOemDataLen 0
    return ccReqDataLenInvalid
  match ← getChassisSerialNumber calls with
  | some serial =>
      setBytes 0 serial
      setOemDataLen serial.length
      return ccOk
  | none =>
      setOemDataLen 0
      return ccResponseError

def ipmiOEMGetAICFRU : OemDaemon δ CompletionCode := do
  if (← oemDataLen) ≠ 0 then
    setOemDataLen 0
    return ccReqDataLenInvalid
  answerByte 0

def ipmiOEMWildcard : OemDaemon δ CompletionCode := do
  setOemDataLen 0
  return ccInvalid

/-!
## LEDs
-/

def actionDbusToIpmi : LedAction → UInt8
  | .off => 0x00
  | .on => 0x10
  | .blink => 0x01

def offsetObjPath : List (ℕ × Led) := [(2, .amber), (4, .green), (6, .identify)]

/-- A text that names no action ends in an exception of another kind. -/
def convertActionFromString (header : OemHeader) (text : List UInt8) : OemDaemon δ LedAction :=
  match header.convertAction text with
  | some action => pure action
  | none => Process.throw .other

def getLEDState (header : OemHeader) (calls : OemCalls) (number : ℕ) (led : Led) :
    OemDaemon δ (Option UInt8) :=
  unlessSdbus do
    dbusCall calls number
    let strState ← variantString (← getDbusProperty calls (number + 1) (.ledState led))
    return actionDbusToIpmi (← convertActionFromString header strState)

/-- `*resp |= state << offset`, where what is shifted out of the byte is lost. -/
def orShifted (state : UInt8) (offset : ℕ) : OemDaemon δ Unit :=
  Process.modify fun world =>
    let shifted := UInt8.ofNat (state.toNat <<< offset)
    { world with response := Function.update world.response 0 (world.response 0 ||| shifted) }

/-- The loop over the map, and the answer behind it. -/
def collectLEDs (header : OemHeader) (calls : OemCalls) :
    ℕ → List (ℕ × Led) → OemDaemon δ CompletionCode
  | _, [] => do
      setOemDataLen 1
      return ccOk
  | number, (offset, led) :: rest => do
      match ← getLEDState header calls number led with
      | none => return ccUnspecifiedError
      | some state => do
          orShifted state offset
          collectLEDs header calls (number + 2) rest

def ipmiOEMGetLEDStatus (header : OemHeader) (calls : OemCalls) : OemDaemon δ CompletionCode := do
  if (← oemDataLen) ≠ 0 then
    setOemDataLen 0
    return ccReqDataLenInvalid
  setByte 0 0
  setOemDataLen 0
  collectLEDs header calls 0 offsetObjPath

end Handlers

end InspurIpmi

import InspurIpmi.BmcInfo

/-!
# OEM commands

`oemcommands.cpp`: the device information command, which delivers the BIOS ID in
chunks, and the activation of the default user.
-/

set_option autoImplicit false

namespace InspurIpmi

open Foundation

/-- A property of a D-Bus object, as far as a text is told from everything else. -/
inductive DbusValue where
  | string (text : List UInt8)
  | other
  deriving DecidableEq, Repr

/-!
## Device information
-/

/-- The enumerators, of which the guard takes `sdrVer` for the largest. -/
structure OEMDevEntityType where
  biosId : UInt8
  devVer : UInt8
  sdrVer : UInt8
  biosIdGuarded : biosId ≤ sdrVer

structure DeviceInfoCalls where
  service : Except Exception Unit
  property : Except Exception DbusValue

def getOemDeviceInfoReqSize : ℕ := 3

/-- The part of the `try` block behind the reading of the property. -/
def sendDeviceInfo (idString : List UInt8) (countToRead offset : UInt8) : Daemon CompletionCode := do
  if idString.length ≤ offset.toNat then
    return ccParmOutOfRange
  let length :=
    if idString.length - offset.toNat < countToRead.toNat then idString.length - offset.toNat
    else countToRead.toNat
  -- The copy goes on to the end of the string.
  writeResponse 1 (idString.length - offset.toNat) fun index => idString.getD (offset.toNat + index) 0
  let resDatalen := UInt8.ofNat length
  writeResponse 0 1 fun _ => resDatalen
  setDataLen (resDatalen.toNat + 1)
  return ccOk

def ipmiOEMGetDeviceInfo (types : OEMDevEntityType) (calls : DeviceInfoCalls) (request : Buffer) :
    Daemon CompletionCode := do
  let entityType := request 0
  let reqDataLen ← getDataLen
  if reqDataLen = 0 then
    setDataLen 0
    return ccReqDataLenInvalid
  setDataLen 0
  if types.sdrVer < entityType then
    return ccInvalidFieldRequest
  if entityType = types.biosId then
    if getOemDeviceInfoReqSize ≠ reqDataLen then
      return ccReqDataLenInvalid
    match calls.service, calls.property with
    | .error error, _ => Process.throw error
    | .ok (), .error error => Process.throw error
    | .ok (), .ok .other => return ccUnspecifiedError
    | .ok (), .ok (.string idString) => sendDeviceInfo idString (request 1) (request 2)
  else if entityType = types.devVer ∨ entityType = types.sdrVer then
    return ccIllegalCommand
  else
    return ccInvalidFieldRequest

/-!
## The network layer
-/

/-- Exceptions, as far as the user commands tell them apart. -/
inductive OemException where
  | sdbus
  | badVariantAccess
  | other
  deriving DecidableEq, Repr

/-- The medium type is the one in `chInfo` after the call. An object is found with
its path and its service; a property that is absent from a map is one that is no
text. -/
structure NetworkLayer where
  getChannelInfo : UInt8 → Except OemException UInt8
  getChannelName : UInt8 → Except OemException CString
  getDbusObject : CString → Except OemException (CString × CString)
  getDbusProperty : CString → CString → Except OemException DbusValue
  getAllDbusProperties : CString → CString → Except OemException (CString → DbusValue)

def dhcpOrigin : List UInt8 := bytesOf "xyz.openbmc_project.Network.IP.AddressOrigin.DHCP"

/-- An error of D-Bus counts as DHCP. -/
def originIsDHCP (network : NetworkLayer) (suffix : CString)
    (origin : CString × CString → Except OemException DbusValue) (channel : UInt8) :
    Except OemException Bool :=
  let answer : Except OemException Bool := do
    let ethdevice ← network.getChannelName channel
    if ethdevice = [] then
      return false
    match ← origin (← network.getDbusObject (ethdevice ++ suffix)) with
    | .string value => return value = dhcpOrigin
    | .other => throw .badVariantAccess
  match answer with
  | .error .sdbus => .ok true
  | other => other

def isDHCPEnabled (network : NetworkLayer) : UInt8 → Except OemException Bool :=
  originIsDHCP network "/ipv4".toList fun ethernetObj =>
    network.getDbusProperty ethernetObj.1 "Origin".toList

def isDHCPIPv6Enabled (network : NetworkLayer) : UInt8 → Except OemException Bool :=
  originIsDHCP network "/ipv6".toList fun objectInfo => do
    let properties ← network.getAllDbusProperties objectInfo.2 objectInfo.1
    return properties "Origin".toList

/-!
## The user layer
-/

def ccSuccess : CompletionCode := 0x00
def ccCommandNotAvailable : CompletionCode := 0xD5

@[simp] theorem ccUnspecifiedError_ne_success : ccUnspecifiedError ≠ ccSuccess := by decide
@[simp] theorem ccCommandNotAvailable_ne_success : ccCommandNotAvailable ≠ ccSuccess := by decide

/-- Constants of the channel and user layers. -/
structure ChannelConstants where
  maxIpmiChannels : UInt8
  systemInterface : UInt8
  lan8032 : UInt8
  chanLan1 : UInt8
  ipmiDefaultUserId : UInt8
  privilegeAdmin : UInt8

structure PrivAccess where
  privilege : UInt8
  ipmiEnabled : Bool
  linkAuthEnabled : Bool
  accessCallback : Bool
  reserved : UInt8
  deriving DecidableEq, Repr

/-- The privilege is kept for each channel. -/
structure UserRecord where
  name : List UInt8
  password : List UInt8
  enabled : Bool
  privilege : UInt8 → PrivAccess

abbrev UserStore := UInt8 → UserRecord

abbrev UserLayer (α : Type) := Process UserStore OemException α

/-- What the calls of the user layer return, the setters in the order in which
they are called. -/
structure UserCalls where
  getAllCounts : CompletionCode
  enabledUsers : UInt8
  checkEnabled : CompletionCode
  setUserName : CompletionCode
  setUserPassword : CompletionCode
  setPrivilegeAccess : CompletionCode
  clearUserName : CompletionCode

/-- A setter applies fully or changes nothing. -/
def setUser (code : CompletionCode) (userId : UInt8) (update : UserRecord → UserRecord) :
    UserLayer CompletionCode := do
  if code = ccSuccess then
    Process.modify fun store => Function.update store userId (update (store userId))
  return code

/-- The name is a C string, which ends with the array at the latest. -/
def ipmiUserSetUserName (code : CompletionCode) (userId : UInt8) (userName : List UInt8) :
    UserLayer CompletionCode :=
  setUser code userId fun user => { user with name := cString userName }

def ipmiUserSetUserPassword (code : CompletionCode) (userId : UInt8) (userPassword : List UInt8) :
    UserLayer CompletionCode :=
  setUser code userId fun user => { user with password := cString userPassword }

def ipmiUserSetPrivilegeAccess (code : CompletionCode) (userId chNum : UInt8)
    (privAccess : PrivAccess) : UserLayer CompletionCode :=
  setUser code userId fun user =>
    { user with privilege := Function.update user.privilege chNum privAccess }

/-- The flag keeps its initial value where the call fails. -/
def ipmiUserCheckEnabled (code : CompletionCode) (userId : UInt8) : UserLayer Bool :=
  Process.gets fun store => decide (code = ccSuccess) && (store userId).enabled

/-!
## Activation
-/

/-- One pass of the loop over the channels. -/
def checkChannel (constants : ChannelConstants) (network : NetworkLayer) (channel : UInt8) :
    Except OemException (Option CompletionCode) :=
  match network.getChannelInfo channel with
  | .error .sdbus => .ok (some ccUnspecifiedError)
  | .error error => .error error
  | .ok mediumType =>
    if mediumType = constants.systemInterface then .ok (some ccCommandNotAvailable)
    else if mediumType = constants.lan8032 then do
      if ← isDHCPIPv6Enabled network channel then
        return some ccCommandNotAvailable
      if ← isDHCPEnabled network channel then
        return some ccCommandNotAvailable
      return none
    else .ok none

def checkUsers (constants : ChannelConstants) (calls : UserCalls) :
    UserLayer (Option CompletionCode) := do
  if calls.getAllCounts = ccSuccess then
    if 1 < calls.enabledUsers then
      return some ccCommandNotAvailable
    let userState ← ipmiUserCheckEnabled calls.checkEnabled constants.ipmiDefaultUserId
    if userState then
      return some ccCommandNotAvailable
    return none
  else
    return some ccUnspecifiedError

/-- The setters, and the one call that is to undo them. -/
def createUser (constants : ChannelConstants) (calls : UserCalls)
    (userName userPassword : List UInt8) : UserLayer CompletionCode := do
  let userId := constants.ipmiDefaultUserId
  let privAccess : PrivAccess := ⟨constants.privilegeAdmin, true, true, true, 0⟩
  if (← ipmiUserSetUserName calls.setUserName userId userName) = ccSuccess then
    if (← ipmiUserSetUserPassword calls.setUserPassword userId userPassword) = ccSuccess then
      if (← ipmiUserSetPrivilegeAccess calls.setPrivilegeAccess userId constants.chanLan1
          privAccess) = ccSuccess then
        return ccSuccess
    let _ ← ipmiUserSetUserName calls.clearUserName userId []
  return ccCommandNotAvailable

def liftNetwork {α : Type} : Except OemException α → UserLayer α
  | .ok value => pure value
  | .error error => Process.throw error

def ipmiOEMSetUser2Activation (constants : ChannelConstants) (network : NetworkLayer)
    (calls : UserCalls) (userName userPassword : List UInt8) : UserLayer CompletionCode := do
  let refused ← Process.forLoop
    (fun channel => liftNetwork (checkChannel constants network (UInt8.ofNat channel)))
    constants.maxIpmiChannels.toNat
  match refused with
  | some rc => return rc
  | none =>
    match ← checkUsers constants calls with
    | some rc => return rc
    | none => createUser constants calls userName userPassword

end InspurIpmi

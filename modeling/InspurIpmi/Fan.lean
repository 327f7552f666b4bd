import InspurIpmi.Platform

/-!
# The fan commands

`inspur_cmds.cpp`: the mode file, the sensor table, and the set and get fan
commands.
-/

set_option autoImplicit false

namespace InspurIpmi

open Foundation

def fanType : UInt8 := 0x04
def autoMode : UInt8 := 0x01
def ipmiValueInf : CString := "xyz.openbmc_project.Sensor.Value".toList

/-- An entry of the table of sensors. The interfaces are in the order of the map;
the two functions are those of the sensor, on number and reading. -/
structure SensorInfo where
  readable : Bool
  writable : Bool
  sensorType : UInt8
  propertyInterfaces : List CString
  updateFunc : UInt8 → UInt8 → Except Exception CompletionCode
  getFunc : Except Exception UInt8

/-- A fan whose reading is set through the interface of its controller. -/
def SensorInfo.pwm : SensorInfo where
  readable := true
  writable := true
  sensorType := fanType
  propertyInterfaces := ["xyz.openbmc_project.Control.FanPwm".toList]
  updateFunc := fun _ _ => .ok ccOk
  getFunc := .ok 0

abbrev SensorTable := UInt8 → Option SensorInfo

/-- The wait status of `system`, what a shell that fails makes of the mode file (the
redirection truncates it before `echo` writes), and the string at which `begin` of
an empty map points. -/
structure SetFanCalls where
  status : Int
  failed : Option (List UInt8) → Option (List UInt8)
  strayInterface : CString

def modeText (mode : UInt8) : List UInt8 :=
  (Nat.toDigits 10 mode.toNat).map (fun digit => UInt8.ofNat digit.toNat) ++ [0x0A]

def SetFanCalls.modeFile (calls : SetFanCalls) (mode : UInt8) (file : Option (List UInt8)) :
    Option (List UInt8) :=
  if calls.status = 0 then some (modeText mode) else calls.failed file

/-- `reads` tells whether `popen` starts a `cat` that reads the file. -/
def getFanMode (reads : Bool) : Daemon UInt8 :=
  Process.gets fun world =>
    let buffer := if reads then world.fanMode.getD [] else []
    buffer.headD 0 - 0x30

/-- The wait status is narrowed to a byte. -/
def setFanMode (calls : SetFanCalls) (mode : UInt8) : Daemon UInt8 := do
  Process.modify fun world => { world with fanMode := calls.modeFile mode world.fanMode }
  return toByte calls.status

def callUpdateFunc (info : SensorInfo) (number reading : UInt8) : Daemon CompletionCode := do
  record (.sensorUpdate number reading)
  match info.updateFunc number reading with
  | .ok rc => return rc
  | .error error => Process.throw error

/-- The clauses of `setFan` that catch an exception; one that is neither an
internal failure nor a runtime error passes through. -/
def catchSetFan : Exception → Daemon CompletionCode
  | .internalFailure => return ccUnspecifiedError
  | .runtimeError => return ccUnspecifiedError
  | .other => Process.throw .other

def setFan (sensors : SensorTable) (calls : SetFanCalls) (request : Buffer) :
    Daemon CompletionCode := do
  let number := request 0
  let mode := request 1
  let reading := request 2
  match sensors number with
  | none => return ccSensorInvalid
  | some _ =>
    Process.tryCatch (do
        let rc ← setFanMode calls mode
        if rc ≠ 0 then
          return ccUnspecifiedError
        if mode ≠ autoMode then
          match sensors number with
          | none => return ccSensorInvalid
          | some info =>
            if !info.writable then
              return ccIllegalCommand
            if info.sensorType = fanType ∧
                info.propertyInterfaces.headD calls.strayInterface ≠ ipmiValueInf then
              callUpdateFunc info number reading
            else
              return ccIllegalCommand
        else
          return ccOk)
      catchSetFan

/-- The mode is read before the length is known to include it. -/
def ipmiSetFan (sensors : SensorTable) (calls : SetFanCalls) (request : Buffer) :
    Daemon CompletionCode := do
  let mode := request 1
  if mode >>> 1 ≠ 0 then
    setDataLen 0
    return ccIllegalCommand
  if mode = autoMode then
    if (← getDataLen) ≠ 2 then
      setDataLen 0
      return ccIllegalCommand
  else
    if (← getDataLen) ≠ 3 then
      setDataLen 0
      return ccIllegalCommand
  let rc ← setFan sensors calls request
  setDataLen 0
  return rc

def getFan (sensors : SensorTable) (reads : Bool) (request : Buffer) : Daemon CompletionCode := do
  match sensors (request 0) with
  | none => return ccSensorInvalid
  | some info =>
    if !info.readable then
      return ccIllegalCommand
    if info.sensorType ≠ fanType then
      return ccSensorInvalid
    match info.getFunc with
    | .error _ => return ccUnspecifiedError
    | .ok value =>
      let mode ← getFanMode reads
      writeResponse 0 1 fun _ => mode
      writeResponse 1 1 fun _ => value
      return ccOk

def ipmiGetFan (sensors : SensorTable) (reads : Bool) (request : Buffer) :
    Daemon CompletionCode := do
  if (← getDataLen) ≠ 1 then
    setDataLen 0
    return ccReqDataLenInvalid
  let rc ← getFan sensors reads request
  if rc = ccOk then
    setDataLen 2
  else
    setDataLen 0
  return rc

end InspurIpmi

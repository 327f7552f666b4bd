import InspurIpmi.Bios
import InspurIpmi.Fan
import InspurIpmi.I2c.Cpld
import InspurIpmi.I2c.MacAddress
import InspurIpmi.I2c.VoltageRegulator
import InspurIpmi.Sfp

/-!
# The commands

The handlers of `bios.cpp`, `i2c.cpp`, `sfpcommands.cpp` and `inspur_cmds.cpp`, each
with the answers that the system gives it. Not among them are the handler for the BMC
version, which may never return or overrun its reply (`BmcInfo`), that for the number of
PSUs, whose reply is a constant, and those of `oemcommands.cpp`, which work on another
state (`OemCommands`).
-/

set_option autoImplicit false

namespace InspurIpmi

open Foundation

inductive DeviceCommand where
  | setSystemInfo (calls : BusCalls)
  | getSystemInfo (calls : BusCalls)
  | readEEPROM (calls : BusCalls)
  | writeEEPROM (calls : BusCalls)
  | getSFPPresent (calls : GpioRead) (locals : Locals)
  | getSFPInterruptInfo (calls : GpioRead) (locals : Locals)
  | getSFPLowPowerMode (calls : GpioRead) (locals : Locals)
  | setSFPLowPowerMode (calls : CharWrite)
  | sfpReset (calls : CharWrite)
  | getSFPEEPROM (calls : SffCalls)

def DeviceCommand.handler : DeviceCommand → Buffer → Daemon CompletionCode
  | setSystemInfo calls => ipmiSetSystemInfo calls
  | getSystemInfo calls => ipmiGetSystemInfo calls
  | readEEPROM calls => ipmiReadEEPROM calls
  | writeEEPROM calls => ipmiWriteEEPROM calls
  | getSFPPresent calls locals => ipmiGetSFPPresent calls locals
  | getSFPInterruptInfo calls locals => ipmiGetSFPInterruptInfo calls locals
  | getSFPLowPowerMode calls locals => ipmiGetSFPLowPowerMode calls locals
  | setSFPLowPowerMode calls => ipmiSetSFPLowPowerMode calls
  | sfpReset calls => ipmiSFPReset calls
  | getSFPEEPROM calls => ipmigetSFPEEPROM calls

inductive Command where
  | device (command : DeviceCommand)
  | readCPLDEEPROM (calls : CpldCalls) (temp : Buffer)
  | readVRINFO (calls : VrCalls)
  | setMACToEEPROM (calls : MacCalls)
  | getSFPSum
  | setFan (sensors : SensorTable) (calls : SetFanCalls)
  | getFan (sensors : SensorTable) (reads : Bool)

def Command.handler : Command → Buffer → Daemon CompletionCode
  | device command => command.handler
  | readCPLDEEPROM calls temp => ipmiReadCPLDEEPROM calls temp
  | readVRINFO calls => ipmiReadVRINFO calls
  | setMACToEEPROM calls => ipmiSetMACToEEPROM calls
  | getSFPSum => fun _ => ipmiGetSFPSum
  | setFan sensors calls => ipmiSetFan sensors calls
  | getFan sensors reads => ipmiGetFan sensors reads

structure DeviceMessage where
  command : DeviceCommand
  request : Request

def DeviceMessage.step (world : World) (message : DeviceMessage) : Option World :=
  successor (message.command.handler message.request.bytes) message.request.length world

end InspurIpmi

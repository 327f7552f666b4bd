import InspurIpmi.Foundation.Process
import InspurIpmi.Foundation.ByteMemory
import InspurIpmi.Foundation.Descriptors
import InspurIpmi.Foundation.Noninterference
import InspurIpmi.Foundation.Runs
import InspurIpmi.Foundation.Registers
import InspurIpmi.Foundation.Atomicity
import InspurIpmi.Foundation.Triples
import InspurIpmi.Foundation.DecimalScan
import InspurIpmi.Foundation.IntegerLiteral
import InspurIpmi.Foundation.SmbusEeprom
import InspurIpmi.Foundation.SerialMemory
import InspurIpmi.Foundation.StructLayout
import InspurIpmi.Foundation.While
import InspurIpmi.Foundation.LineStream
import InspurIpmi.Foundation.DigitText
import InspurIpmi.Foundation.LabelledText
import InspurIpmi.Foundation.TerminatedTable
import InspurIpmi.Foundation.TextFields
import InspurIpmi.Platform
import InspurIpmi.Eeprom24cXX
import InspurIpmi.Eeprom24cXX.Wire
import InspurIpmi.I2c.Cpld
import InspurIpmi.I2c.CpldVersion
import InspurIpmi.I2c.MacAddress
import InspurIpmi.I2c.RawEeprom
import InspurIpmi.I2c.RawEepromArray
import InspurIpmi.I2c.RawEepromFaults
import InspurIpmi.I2c.VoltageRegulator
import InspurIpmi.I2c.Adapters
import InspurIpmi.I2c.AdapterTable
import InspurIpmi.I2c.AdapterLookup
import InspurIpmi.Bios
import InspurIpmi.Bios.Coherence
import InspurIpmi.Bios.Effects
import InspurIpmi.Bios.Payload
import InspurIpmi.Bios.Persistence
import InspurIpmi.Bios.Records
import InspurIpmi.Sfp
import InspurIpmi.Sfp.Effects
import InspurIpmi.Sfp.LowPower
import InspurIpmi.Sfp.ModuleMemory
import InspurIpmi.Fan
import InspurIpmi.Fan.Effects
import InspurIpmi.Fan.ModeFile
import InspurIpmi.Fan.Replies
import InspurIpmi.BmcInfo
import InspurIpmi.BmcInfo.LineLoop
import InspurIpmi.BmcInfo.Lengths
import InspurIpmi.BmcInfo.OsRelease
import InspurIpmi.OemCommands
import InspurIpmi.OemCommands.Activation
import InspurIpmi.OemCommands.ActivationRuns
import InspurIpmi.OemCommands.Chunks
import InspurIpmi.OemCommands.Settings
import InspurIpmi.OemCommands.SettingStore
import InspurIpmi.OemCommands.SettingRuns
import InspurIpmi.OemCommands.SettingValues
import InspurIpmi.OemCommands.Identities
import InspurIpmi.OemCommands.BiosId
import InspurIpmi.OemCommands.Leds
import InspurIpmi.OemCommands.ReplyLengths
import InspurIpmi.OemCommands.FirmwareStatus
import InspurIpmi.ReceivedBytes
import InspurIpmi.Commands
import InspurIpmi.Commands.Footprint
import InspurIpmi.Commands.Exposure
import InspurIpmi.Commands.Isolation
import InspurIpmi.Commands.Neutrality
import InspurIpmi.Commands.ReplyData
import InspurIpmi.Commands.ErrorReplies
import InspurIpmi.Commands.Survival
import InspurIpmi.Commands.Lookups
import InspurIpmi.Commands.Modules

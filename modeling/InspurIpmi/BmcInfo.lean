import InspurIpmi.Foundation.LineStream
import InspurIpmi.Foundation.While
import InspurIpmi.Platform

/-!
# The version of the BMC

`bmcinfo.cpp`: the loop over the lines of the version file, and the command that
replies with two values it found there.
-/

set_option autoImplicit false

namespace InspurIpmi

open Foundation

/-!
## Strings
-/

/-- The value of `string::npos`. -/
def npos : ℕ := 2 ^ 32 - 1

def position (text : List UInt8) : List UInt8 → Option ℕ
  | [] => if text = [] then some 0 else none
  | first :: rest =>
      if text.isPrefixOf (first :: rest) then some 0 else (position text rest).map (· + 1)

def find (text line : List UInt8) : ℕ := (position text line).getD npos

/-- The exception for a position behind the end is not among those that are told
apart. -/
def substr (line : List UInt8) (pos count : Int) : Except Exception (List UInt8) :=
  if line.length < toSizeT pos then .error .other
  else .ok ((line.drop (toSizeT pos).toNat).take (toSizeT count).toNat)

/-- A string made of a buffer ends before its first zero byte. -/
def cString (buffer : List UInt8) : List UInt8 := buffer.takeWhile (· ≠ 0)

def bytesOf (text : String) : List UInt8 := text.toList.map fun char => UInt8.ofNat char.toNat

/-!
## The line loop
-/

def newline : UInt8 := 0x0A
def quote : UInt8 := 0x22

def buildtimeKey : List UInt8 := bytesOf "BUILDTIME="
def versionKey : List UInt8 := bytesOf "VERSION="

def bufferSize : ℕ := 256

structure VersionStrings where
  buildtime : List UInt8
  version : List UInt8
  deriving DecidableEq, Repr

/-- The value of a line: both bounds go through `int`. -/
def valueOf (line : List UInt8) : Except Exception (List UInt8) :=
  let start := toInt (toSizeT (find [quote] line + 1))
  let count := toInt (toSizeT (line.length - start - 1))
  substr line start count

def noteLine (strings : VersionStrings) (line : List UInt8) : Except Exception VersionStrings := do
  let buildtime ← if find buildtimeKey line ≠ npos then valueOf line else pure strings.buildtime
  let version ← if find versionKey line ≠ npos then valueOf line else pure strings.version
  return ⟨buildtime, version⟩

structure VersionScan where
  stream : LineStream UInt8
  strings : VersionStrings

def VersionScan.notAtEnd (scan : VersionScan) : Bool := !scan.stream.eofbit

def readLine (scan : VersionScan) : Except Exception VersionScan := do
  let (buffer, stream) := scan.stream.getline newline bufferSize
  let strings ← noteLine scan.strings (cString buffer)
  return ⟨stream, strings⟩

/-- There is no file when it cannot be opened; the loop is entered all the same. -/
def startScan (file : Option (List UInt8)) : VersionScan where
  stream := match file with
    | some content => .opened content
    | none => .unopened
  strings := ⟨[], []⟩

/-- Without a result the loop is still running when the fuel is used up. -/
def readVersionFile (fuel : ℕ) (file : Option (List UInt8)) :
    Option (Except Exception VersionScan) :=
  whileLoop VersionScan.notAtEnd readLine fuel (startScan file)

/-!
## The command
-/

def bmcVersionLength : ℕ := 40
def bmcBuildtimeLength : ℕ := 20
def getBMCVersionResSize : ℕ := bmcVersionLength + bmcBuildtimeLength

/-- `memcpy` into one of the arrays of the reply. A text that does not fit is
undefined behaviour: `overrun` stands for whatever it does. -/
def copyField (overrun : Daemon Unit) (start length : ℕ) (text : List UInt8)
    (versionInfo : Buffer) : Daemon Buffer := do
  if length < text.length then
    overrun
  return overlay versionInfo start text.length fun index => text.getD index 0

/-- The result is missing while the line loop runs. -/
def getBmcVersionInfo (overrun : Daemon Unit) (fuel : ℕ) (file : Option (List UInt8)) :
    Daemon (Option Unit) := do
  match readVersionFile fuel file with
  | none => return none
  | some (.error error) => Process.throw error
  | some (.ok scan) =>
    let versionInfo ← copyField overrun 0 bmcVersionLength scan.strings.version fun _ => 0
    let versionInfo ← copyField overrun bmcVersionLength bmcBuildtimeLength scan.strings.buildtime
      versionInfo
    writeResponse 0 getBMCVersionResSize versionInfo
    return some ()

/-- The clause that catches any exception of the standard library; the reply keeps
the length the request had. -/
def catchVersionInfo (_ : Exception) : Daemon (Option CompletionCode) := return some ccUnspecifiedError

def ipmiGetBmcVersionInfo (overrun : Daemon Unit) (fuel : ℕ) (file : Option (List UInt8)) :
    Daemon (Option CompletionCode) := do
  if (← getDataLen) ≠ 0 then
    setDataLen 0
    return some ccReqDataLenInvalid
  Process.tryCatch (do
      match ← getBmcVersionInfo overrun fuel file with
      | none => return none
      | some () =>
        setDataLen getBMCVersionResSize
        return some ccOk)
    catchVersionInfo

end InspurIpmi

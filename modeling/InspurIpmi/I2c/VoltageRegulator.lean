import InspurIpmi.Foundation.IntegerLiteral
import InspurIpmi.I2c.Cpld
import InspurIpmi.I2c.RawEeprom

/-!
# The voltage regulator versions

`read_vr_info`, the functions it takes from the I2C tools, and its handler, all
from `i2c.cpp`.
-/

set_option autoImplicit false

namespace InspurIpmi

open Foundation

structure InputVRVerRes where
  bus : CString
  addr : CString
  registerAddr : CString
  deriving DecidableEq, Repr

def inputverinfo : List InputVRVerRes :=
  [⟨"19".toList, "0x75".toList, "0x75".toList⟩,
    ⟨"18".toList, "0x50".toList, "0x89".toList⟩,
    ⟨"18".toList, "0x51".toList, "0x89".toList⟩]

structure I2cAdap where
  nr : Int
  name : CString

/-- What the system answers to one request: the adapters that
`gather_i2c_busses` finds, unless it runs out of memory; the error of opening a
device file, if any; the capability mask; the error of selecting an address, if
any; and the registers of the regulator that can be read. -/
structure VrCalls where
  adapters : Option (List I2cAdap)
  nodes : CString → Option Errno
  funcs : Option ℕ
  slave : Int → Option Errno
  register : UInt8 → Option UInt8
  /-- What the stack holds behind the table. -/
  strayRow : ℕ → InputVRVerRes

def eNoEnt : ℕ := 2
def eNotDir : ℕ := 20

def i2cSmbusByte : ℕ := 1
def i2cSmbusByteData : ℕ := 2
def i2cSmbusWordData : ℕ := 3

def matchAdapter (busName : CString) : Int → List I2cAdap → Int
  | i2cbus, [] => i2cbus
  | i2cbus, adapter :: rest =>
      if adapter.name = busName then
        if 0 ≤ i2cbus then -4 else matchAdapter busName adapter.nr rest
      else matchAdapter busName i2cbus rest

def lookupI2cBusByName (adapters : Option (List I2cAdap)) (busName : CString) : Int :=
  match adapters with
  | none => -3
  | some adapters => matchAdapter busName (-1) adapters

def lookupI2cBus (adapters : Option (List I2cAdap)) (i2cbusArg : CString) : Int :=
  let (i2cbus, rest) := strtoul i2cbusArg
  if rest ≠ [] ∨ i2cbusArg = [] then lookupI2cBusByName adapters i2cbusArg
  else if 0xFFFFF < i2cbus then -2
  else i2cbus

def parseI2cAddress (addressArg : CString) (allAddrs : Bool) : Int :=
  let (address, rest) := strtol addressArg
  if rest ≠ [] ∨ addressArg = [] then -1
  else if address < (if allAddrs then 0x00 else 0x03) ∨ (if allAddrs then 0x7F else 0x77) < address then
    -2
  else address

def decimalText (number : Int) : CString := (toString number).toList

/-- The first name is cut to the size of the buffer, the second is not. -/
def openI2cDev (calls : VrCalls) (i2cbus : Int) (size : ℕ) : Daemon Int := do
  let filename := ("/dev/i2c/".toList ++ decimalText i2cbus).take (size - 1)
  match calls.nodes filename with
  | none => openFile true
  | some errno =>
    if errno.val = eNoEnt ∨ errno.val = eNotDir then
      openFile (calls.nodes ("/dev/i2c-".toList ++ decimalText i2cbus)).isNone
    else
      return -1

def checkFuncs (funcs : Option ℕ) (size : ℕ) (daddress : Int) : Int :=
  match funcs with
  | none => -1
  | some funcs =>
      if size = i2cSmbusByte ∧ funcs &&& i2cFuncSmbusReadByte = 0 then -1
      else if size = i2cSmbusByte ∧ 0 ≤ daddress ∧ funcs &&& i2cFuncSmbusWriteByte = 0 then -1
      else if size = i2cSmbusByteData ∧ funcs &&& i2cFuncSmbusReadByteData = 0 then -1
      else if size = i2cSmbusWordData ∧ funcs &&& i2cFuncSmbusReadWordData = 0 then -1
      else 0

def setSlaveAddr (calls : VrCalls) (address : Int) : Int :=
  match calls.slave address with
  | some errno => -errno.val
  | none => 0

def confirm (address : Int) (pec : Bool) : Bool :=
  !(decide (0x50 ≤ address ∧ address ≤ 0x57) && pec)

def vrReadByte (calls : VrCalls) (memAddr : Int) : Int :=
  match calls.register (toByte memAddr) with
  | some byte => byte.toNat
  | none => -1

def readVrInfo (calls : VrCalls) (inputversion : InputVRVerRes) : Daemon Int := do
  let i2cbus := lookupI2cBus calls.adapters inputversion.bus
  let address := parseI2cAddress inputversion.addr false
  let daddress := (strtol inputversion.registerAddr).1
  let file ← openI2cDev calls i2cbus 20
  if file < 0 then
    return -1
  if checkFuncs calls.funcs i2cSmbusByteData daddress ≠ 0 ∨ setSlaveAddr calls address ≠ 0 then
    Process.exit 1
  if !confirm address false then
    Process.exit 0
  let result := vrReadByte calls daddress
  if result < 0 then
    Process.exit 0
  let ver1 := toByte (result / 4 + 0x30)
  let ver2 := toByte (result / 2 % 2 + 0x30)
  let ver3 := toByte (result % 2 + 0x30)
  writeResponse 0 cpldVersionLength (versionRecord ver1 ver2 ver3)
  closeFile file
  return 0

/-- The index is not compared with the length of the table. -/
def ipmiReadVRINFO (calls : VrCalls) (request : Buffer) : Daemon CompletionCode := do
  if (← getDataLen) ≠ 2 then
    setDataLen 0
    return ccReqDataLenInvalid
  let offset := (request 0).toNat
  record (.lookup .inputverinfo offset)
  let ret ← readVrInfo calls (inputverinfo.getD offset (calls.strayRow offset))
  if ret ≠ 0 then
    return ccInvalidFieldRequest
  setDataLen (request 1).toNat
  return ccOk

/-!
## What the handler answers
-/

def VrCalls.row (calls : VrCalls) (request : Buffer) : InputVRVerRes :=
  inputverinfo.getD (request 0).toNat (calls.strayRow (request 0).toNat)

def VrCalls.opens (calls : VrCalls) (row : InputVRVerRes) : Bool :=
  let i2cbus := decimalText (lookupI2cBus calls.adapters row.bus)
  match calls.nodes (("/dev/i2c/".toList ++ i2cbus).take 19) with
  | none => true
  | some errno =>
      (errno.val = eNoEnt ∨ errno.val = eNotDir) && (calls.nodes ("/dev/i2c-".toList ++ i2cbus)).isNone

def VrCalls.Selects (calls : VrCalls) (row : InputVRVerRes) : Prop :=
  (∃ funcs, calls.funcs = some funcs ∧ funcs &&& i2cFuncSmbusReadByteData ≠ 0) ∧
    calls.slave (parseI2cAddress row.addr false) = none

def VrCalls.byte? (calls : VrCalls) (row : InputVRVerRes) : Option UInt8 :=
  calls.register (toByte (strtol row.registerAddr).1)

def vrRecord (byte : UInt8) : Buffer :=
  versionRecord (toByte ((byte.toNat : Int) / 4 + 0x30)) (toByte ((byte.toNat : Int) / 2 % 2 + 0x30))
    (toByte ((byte.toNat : Int) % 2 + 0x30))

theorem run_openI2cDev (calls : VrCalls) (row : InputVRVerRes) (world : World) :
    (openI2cDev calls (lookupI2cBus calls.adapters row.bus) 20).run world =
      (openFile (calls.opens row)).run world := by
  unfold openI2cDev VrCalls.opens
  simp only [Nat.add_one_sub_one]
  cases calls.nodes (("/dev/i2c/".toList ++
      decimalText (lookupI2cBus calls.adapters row.bus)).take 19) with
  | none => rfl
  | some errno =>
      simp only
      by_cases absent : errno.val = eNoEnt ∨ errno.val = eNotDir
      · simp only [absent, if_true, decide_true, Bool.true_and]
      · simp only [absent, if_false, decide_false, Bool.false_and]
        rfl

theorem selects_iff {calls : VrCalls} {row : InputVRVerRes} :
    calls.Selects row ↔
      ¬ (checkFuncs calls.funcs i2cSmbusByteData (strtol row.registerAddr).1 ≠ 0 ∨
        setSlaveAddr calls (parseI2cAddress row.addr false) ≠ 0) := by
  rw [not_or, not_not, not_not]
  refine and_congr ?_ ?_
  · unfold checkFuncs
    cases calls.funcs with
    | none => simp
    | some funcs =>
        simp only [Option.some.injEq, exists_eq_left', i2cSmbusByteData, i2cSmbusByte,
          i2cSmbusWordData, OfNat.ofNat_ne_one, Nat.reduceEqDiff, false_and, if_false, true_and]
        split <;> simp_all
  · unfold setSlaveAddr
    cases calls.slave (parseI2cAddress row.addr false) with
    | none => simp
    | some errno =>
        have positive := errno.property
        simp only [reduceCtorEq, false_iff]
        omega

theorem confirm_without_pec (address : Int) : confirm address false = true := by
  simp [confirm]

theorem run_readVrInfo_unopened {calls : VrCalls} {row : InputVRVerRes}
    (unopened : calls.opens row = false) (world : World) :
    (readVrInfo calls row).run world = (.returned (-1), world) := by
  unfold readVrInfo
  rw [Process.run_bind, run_openI2cDev, run_openFile, unopened]
  rfl

theorem run_readVrInfo_unselected {calls : VrCalls} {row : InputVRVerRes}
    (opened : calls.opens row = true) (unselected : ¬ calls.Selects row) (world : World) :
    (readVrInfo calls row).run world =
      (.exited 1, { world with fds := insert (lowestFree world.fds) world.fds }) := by
  rw [selects_iff, not_not] at unselected
  have valid : ¬ (lowestFree world.fds : Int) < 0 := not_lt_of_ge (Int.natCast_nonneg _)
  unfold readVrInfo
  rw [Process.run_bind, run_openI2cDev, run_openFile, opened]
  simp only [if_true, valid, if_false, unselected, Process.run_exit_bind]

theorem run_readVrInfo_unread {calls : VrCalls} {row : InputVRVerRes}
    (opened : calls.opens row = true) (selected : calls.Selects row)
    (unread : calls.byte? row = none) (world : World) :
    (readVrInfo calls row).run world =
      (.exited 0, { world with fds := insert (lowestFree world.fds) world.fds }) := by
  rw [selects_iff] at selected
  have valid : ¬ (lowestFree world.fds : Int) < 0 := not_lt_of_ge (Int.natCast_nonneg _)
  have failed : vrReadByte calls (strtol row.registerAddr).1 = -1 := by
    have answer : calls.register (toByte (strtol row.registerAddr).1) = none := unread
    rw [vrReadByte, answer]
  unfold readVrInfo
  rw [Process.run_bind, run_openI2cDev, run_openFile, opened]
  simp only [if_true, valid, if_false, selected, confirm_without_pec, Bool.not_true,
    Bool.false_eq_true, failed]
  rfl

theorem run_readVrInfo_read {calls : VrCalls} {row : InputVRVerRes} {byte : UInt8}
    (opened : calls.opens row = true) (selected : calls.Selects row)
    (read : calls.byte? row = some byte) (world : World) :
    (readVrInfo calls row).run world =
      (.returned 0, { world with response := overlay world.response 0 10 (vrRecord byte) }) := by
  rw [selects_iff] at selected
  have valid : ¬ (lowestFree world.fds : Int) < 0 := not_lt_of_ge (Int.natCast_nonneg _)
  have delivered : vrReadByte calls (strtol row.registerAddr).1 = byte.toNat := by
    have answer : calls.register (toByte (strtol row.registerAddr).1) = some byte := read
    rw [vrReadByte, answer]
  have nonnegative : ¬ (byte.toNat : Int) < 0 := not_lt_of_ge (Int.natCast_nonneg _)
  unfold readVrInfo
  rw [Process.run_bind, run_openI2cDev, run_openFile, opened]
  simp only [if_true, valid, if_false, selected, confirm_without_pec, Bool.not_true,
    Bool.false_eq_true, delivered, nonnegative]
  rw [run_writeResponse_bind, run_closeFile_opened_bind _ _ _ rfl]
  rfl

def World.lookedUp (request : Buffer) (world : World) : World :=
  { world with trace := world.trace ++ [.lookup .inputverinfo (request 0).toNat] }

/-- How far the handler gets with the regulator of a row. -/
inductive VrCalls.Reach (calls : VrCalls) (row : InputVRVerRes) : Prop
  | unopened (unopened : calls.opens row = false)
  | unselected (opened : calls.opens row = true) (unselected : ¬ calls.Selects row)
  | unread (opened : calls.opens row = true) (selected : calls.Selects row)
      (unread : calls.byte? row = none)
  | read {byte : UInt8} (opened : calls.opens row = true) (selected : calls.Selects row)
      (read : calls.byte? row = some byte)

theorem VrCalls.reach (calls : VrCalls) (row : InputVRVerRes) : calls.Reach row := by
  cases opened : calls.opens row with
  | false => exact .unopened opened
  | true =>
    by_cases selected : calls.Selects row
    · cases byte : calls.byte? row with
      | none => exact .unread opened selected byte
      | some value => exact .read opened selected byte
    · exact .unselected opened selected

theorem run_ipmiReadVRINFO_length {calls : VrCalls} {request : Buffer} {world : World}
    (wrong : world.dataLen ≠ 2) :
    (ipmiReadVRINFO calls request).run world =
      (.returned ccReqDataLenInvalid, { world with dataLen := 0 }) := by
  unfold ipmiReadVRINFO
  rw [run_getDataLen_bind, if_pos wrong]
  rfl

theorem run_ipmiReadVRINFO_unopened {calls : VrCalls} {request : Buffer} {world : World}
    (right : world.dataLen = 2) (unopened : calls.opens (calls.row request) = false) :
    (ipmiReadVRINFO calls request).run world =
      (.returned ccInvalidFieldRequest, world.lookedUp request) := by
  unfold ipmiReadVRINFO
  rw [run_getDataLen_bind, if_neg (not_not_intro right), run_record_bind]
  exact (Process.run_bind_returned (run_readVrInfo_unopened unopened _) _).trans rfl

theorem run_ipmiReadVRINFO_unselected {calls : VrCalls} {request : Buffer} {world : World}
    (right : world.dataLen = 2) (opened : calls.opens (calls.row request) = true)
    (unselected : ¬ calls.Selects (calls.row request)) :
    (ipmiReadVRINFO calls request).run world =
      (.exited 1, { world.lookedUp request with fds := insert (lowestFree world.fds) world.fds }) := by
  unfold ipmiReadVRINFO
  rw [run_getDataLen_bind, if_neg (not_not_intro right), run_record_bind]
  exact Process.run_bind_exited (run_readVrInfo_unselected opened unselected _) _

theorem run_ipmiReadVRINFO_unread {calls : VrCalls} {request : Buffer} {world : World}
    (right : world.dataLen = 2) (opened : calls.opens (calls.row request) = true)
    (selected : calls.Selects (calls.row request)) (unread : calls.byte? (calls.row request) = none) :
    (ipmiReadVRINFO calls request).run world =
      (.exited 0, { world.lookedUp request with fds := insert (lowestFree world.fds) world.fds }) := by
  unfold ipmiReadVRINFO
  rw [run_getDataLen_bind, if_neg (not_not_intro right), run_record_bind]
  exact Process.run_bind_exited (run_readVrInfo_unread opened selected unread _) _

theorem run_ipmiReadVRINFO_read {calls : VrCalls} {request : Buffer} {world : World} {byte : UInt8}
    (right : world.dataLen = 2) (opened : calls.opens (calls.row request) = true)
    (selected : calls.Selects (calls.row request))
    (read : calls.byte? (calls.row request) = some byte) :
    (ipmiReadVRINFO calls request).run world =
      (.returned ccOk,
        { world.lookedUp request with
          dataLen := (request 1).toNat
          response := overlay world.response 0 10 (vrRecord byte) }) := by
  unfold ipmiReadVRINFO
  rw [run_getDataLen_bind, if_neg (not_not_intro right), run_record_bind]
  exact (Process.run_bind_returned (run_readVrInfo_read opened selected read _) _).trans rfl

end InspurIpmi

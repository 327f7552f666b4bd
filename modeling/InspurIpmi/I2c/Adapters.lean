import InspurIpmi.Foundation.DigitText
import InspurIpmi.Foundation.TerminatedTable
import InspurIpmi.Foundation.TextFields
import InspurIpmi.I2c.VoltageRegulator

/-!
# Gathering the I2C adapters

`gather_i2c_busses` of `i2c.cpp` with all it calls: the two places in which adapters
are listed, the table that grows on the heap, and what is freed and closed on each
way out.
-/

set_option autoImplicit false

namespace InspurIpmi

open Foundation

inductive Adt where
  | dummy
  | isa
  | i2c
  | smbus
  | unknown
  deriving DecidableEq, Repr

structure AdapType where
  funcs : CString
  algo : CString

def adapTypes : Adt → AdapType
  | .dummy => ⟨"dummy".toList, "Dummy bus".toList⟩
  | .isa => ⟨"isa".toList, "ISA bus".toList⟩
  | .i2c => ⟨"i2c".toList, "I2C adapter".toList⟩
  | .smbus => ⟨"smbus".toList, "SMBus adapter".toList⟩
  | .unknown => ⟨"unknown".toList, "N/A".toList⟩

structure Adapter extends I2cAdap where
  funcs : CString
  algo : CString

/-- What the system answers while the adapters are gathered. -/
structure AdapterCalls where
  /-- The text of a file that can be opened. -/
  file : CString → Option CString
  /-- The names in a directory that can be opened. -/
  directory : CString → Option (List CString)
  /-- The error of opening a device file, if any. -/
  nodes : CString → Option Errno
  /-- The capability mask of a bus that tells it. -/
  funcs : Int → Option ℕ
  /-- Whether the heap grants a request, by its number. -/
  grants : ℕ → Bool
  /-- What `realloc` leaves behind the old table. -/
  strayAdapter : ℕ → Option Adapter
  /-- What the bus number of a slot is when nothing was read into it. -/
  strayNumber : ℕ → Int
  /-- What `sysfs` and `fstype` hold before a line is read into them. -/
  strayMount : CString × CString

/-!
## The capabilities of a bus
-/

def i2cFuncI2c : ℕ := 0x00000001
def i2cFuncSmbusByte : ℕ := i2cFuncSmbusReadByte ||| i2cFuncSmbusWriteByte
def i2cFuncSmbusByteData : ℕ := i2cFuncSmbusReadByteData ||| i2cFuncSmbusWriteByteData
def i2cFuncSmbusWordData : ℕ := i2cFuncSmbusReadWordData ||| i2cFuncSmbusWriteWordData

/-- Whether `open_i2c_dev` with a buffer of `size` characters opens a file. -/
def i2cDevOpens (nodes : CString → Option Errno) (i2cbus : Int) (size : ℕ) : Bool :=
  match nodes (("/dev/i2c/".toList ++ decimalText i2cbus).take (size - 1)) with
  | none => true
  | some errno =>
      (errno.val = eNoEnt ∨ errno.val = eNotDir) &&
        (nodes ("/dev/i2c-".toList ++ decimalText i2cbus)).isNone

/-- The file is closed again on every way out. -/
def i2cGetFuncs (calls : AdapterCalls) (i2cbus : Int) : Adt :=
  if i2cDevOpens calls.nodes i2cbus 20 then
    match calls.funcs i2cbus with
    | none => .unknown
    | some funcs =>
        if funcs &&& i2cFuncI2c ≠ 0 then .i2c
        else if funcs &&& (i2cFuncSmbusByte ||| i2cFuncSmbusByteData ||| i2cFuncSmbusWordData) ≠ 0 then
          .smbus
        else .dummy
  else .unknown

theorem run_openI2cDev_opens (calls : VrCalls) (i2cbus : Int) (size : ℕ) (world : World) :
    (openI2cDev calls i2cbus size).run world =
      (openFile (i2cDevOpens calls.nodes i2cbus size)).run world := by
  unfold openI2cDev i2cDevOpens
  dsimp only
  cases calls.nodes (("/dev/i2c/".toList ++ decimalText i2cbus).take (size - 1)) with
  | none => rfl
  | some errno =>
      by_cases absent : errno.val = eNoEnt ∨ errno.val = eNotDir
      · simp only [absent, if_true, decide_true, Bool.true_and]
      · simp only [absent, if_false, decide_false, Bool.false_and]
        rfl

/-!
## The table
-/

def bunch : ℕ := 8

inductive GatherFault where
  /-- A write through a pointer that `strrchr` left null. -/
  | nullPointer
  /-- A path written past its buffer. -/
  | pathOverflow
  /-- An access outside the table. -/
  | outsideTable
  deriving DecidableEq, Repr

/-- The table, the count of its adapters, the heap requests made so far, and the
heap blocks and streams in use. -/
structure Gathering where
  adapters : TerminatedTable Adapter
  count : ℕ
  requests : ℕ
  blocks : Int
  streams : Int

/-- How gathering ends without a table: a null pointer is returned, with the blocks
and streams still in use, or the process crashes. -/
inductive GatherEnd where
  | outOfMemory (blocks streams : Int)
  | crashed (fault : GatherFault)
  deriving DecidableEq, Repr

/-- The blocks that are left: the walk frees a name for each adapter, and then the
table. -/
def freeAdapters (adapters : TerminatedTable Adapter) (blocks : Int) : Except GatherEnd Int :=
  match adapters.walk with
  | some entries => .ok (blocks - entries.length - 1)
  | none => .error (.crashed .outsideTable)

def giveUp (gathering : Gathering) : Except GatherEnd Gathering := do
  let blocks ← freeAdapters gathering.adapters gathering.blocks
  throw (.outOfMemory blocks gathering.streams)

/-- `n` must match the size of the table. -/
def moreAdapters (calls : AdapterCalls) (n : ℕ) (gathering : Gathering) :
    Except GatherEnd Gathering :=
  if calls.grants gathering.requests then
    .ok { gathering with
      adapters := gathering.adapters.enlarge calls.strayAdapter bunch n
      requests := gathering.requests + 1 }
  else giveUp gathering

/-- More space, if this adapter would take the last slot. -/
def makeRoom (calls : AdapterCalls) (gathering : Gathering) : Except GatherEnd Gathering :=
  if (gathering.count + 1) % bunch = 0 then moreAdapters calls (gathering.count + 1) gathering
  else .ok gathering

/-- The end of both loop bodies: the one request behind the growth is that of the
adapter's name, which `malloc` or `strdup` makes. -/
def storeAdapter (calls : AdapterCalls) (adapter : Adapter) (gathering : Gathering) :
    Except GatherEnd Gathering := do
  let gathering ← makeRoom calls gathering
  if calls.grants gathering.requests then
    match gathering.adapters.put gathering.count adapter with
    | some adapters =>
        return { gathering with
          adapters := adapters
          count := gathering.count + 1
          requests := gathering.requests + 1
          blocks := gathering.blocks + 1 }
    | none => throw (.crashed .outsideTable)
  else giveUp gathering

/-!
## The lines of `/proc/bus/i2c`
-/

def rtrim (text : CString) : CString := text.rdropWhile fun char => char = ' ' || char = '\n'

/-- The last three fields of a line, and what stands before them. There is none when
a tab is missing. -/
def procFields (line : CString) : Option (CString × CString × CString × CString) := do
  let (line, algo) ← cutLast '\t' line
  let (line, name) ← cutLast '\t' line
  let (line, type) ← cutLast '\t' line
  return (line, rtrim type, rtrim name, rtrim algo)

def procAdapter (calls : AdapterCalls) (slot : ℕ) (line : CString) : Option Adapter := do
  let (bus, type, name, algo) ← procFields line
  let i2cbus := (scanDecimalAfter "i2c-".toList bus).value?.getD (calls.strayNumber slot)
  return { nr := i2cbus, name := name, funcs := type, algo := algo }

def procStep (calls : AdapterCalls) (gathering : Gathering) (line : CString) :
    Except GatherEnd Gathering :=
  match procAdapter calls gathering.count line with
  | some adapter => storeAdapter calls adapter gathering
  | none => throw (.crashed .nullPointer)

/-!
## The directories of `sysfs`
-/

def nameMax : ℕ := 255

/-- `"%*[^ ] %[^ ] %[^ ]"`: an array into which nothing is read keeps its text. -/
def scanMount (line : CString) (before : CString × CString) : CString × CString :=
  let mount := (line.dropWhile (· ≠ ' ')).dropWhile isBlank
  let type := (mount.dropWhile (· ≠ ' ')).dropWhile isBlank
  if (line.takeWhile (· ≠ ' ')).isEmpty || mount.isEmpty then before
  else if type.isEmpty then (mount.takeWhile (· ≠ ' '), before.2)
  else (mount.takeWhile (· ≠ ' '), type.takeWhile (· ≠ ' '))

def findSysfs : CString × CString → List CString → Option CString
  | _, [] => none
  | before, line :: rest =>
      let (sysfs, fstype) := scanMount line before
      if fstype.map Char.toLower = "sysfs".toList then some sysfs
      else findSysfs (sysfs, fstype) rest

def isDot (entry : CString) : Bool := entry = ".".toList || entry = "..".toList

/-- The first file with a bus name below the directory of the device. -/
def deviceName (calls : AdapterCalls) (device : CString) (names : List CString) : Option CString :=
  names.findSome? fun name =>
    let path := device ++ '/' :: name ++ "/name".toList
    if isDot name then none
    else if !"i2c-".toList.isPrefixOf name then none
    else if nameMax ≤ path.length then none
    else calls.file path

/-- The text of the file with the bus name, and whether the directory of the device
was opened for it. Nothing closes that directory. -/
def findName (calls : AdapterCalls) (sysfs entry : CString) : Option CString × Bool :=
  let bus := sysfs ++ '/' :: entry
  if nameMax ≤ (bus ++ "/name".toList).length then (none, false)
  else
    match calls.file (bus ++ "/name".toList) with
    | some text => (some text, false)
    | none =>
        if nameMax ≤ (bus ++ "/device/name".toList).length then (none, false)
        else
          match calls.file (bus ++ "/device/name".toList) with
          | some text => (some text, false)
          | none =>
              if nameMax ≤ (bus ++ "/device".toList).length then (none, false)
              else
                match calls.directory (bus ++ "/device".toList) with
                | some names => (deviceName calls (bus ++ "/device".toList) names, true)
                | none => (none, false)

/-- Only a text that contradicts the format ends the scan of the number with `0`. -/
def sysfsAdapter (calls : AdapterCalls) (slot : ℕ) (entry text : CString) : Option Adapter :=
  let s := (text.take 119).takeWhile (· ≠ '\n')
  let scan := scanDecimalAfter "i2c-".toList entry
  if text = [] ∨ scan = .mismatch then none
  else
    let i2cbus := scan.value?.getD (calls.strayNumber slot)
    let type := if "ISA ".toList.isPrefixOf s then .isa else i2cGetFuncs calls i2cbus
    some { nr := i2cbus, name := s, funcs := (adapTypes type).funcs, algo := (adapTypes type).algo }

def sysfsStep (calls : AdapterCalls) (sysfs : CString) (gathering : Gathering) (entry : CString) :
    Except GatherEnd Gathering :=
  if isDot entry then .ok gathering
  else
    let (text, opened) := findName calls sysfs entry
    let gathering :=
      { gathering with streams := if opened then gathering.streams + 1 else gathering.streams }
    match text.bind (sysfsAdapter calls gathering.count entry) with
    | some adapter => storeAdapter calls adapter gathering
    | none => .ok gathering

/-!
## Gathering and looking up
-/

def closeStream (gathering : Gathering) : Gathering :=
  { gathering with streams := gathering.streams - 1 }

def gatherI2cBusses (calls : AdapterCalls) : Except GatherEnd Gathering :=
  let start : Gathering := ⟨.cleared bunch, 0, 1, 1, 0⟩
  if !calls.grants 0 then throw (.outOfMemory 0 0)
  else
    match calls.file "/proc/bus/i2c".toList with
    | some text => do
        let gathering ←
          (fgetsLines '\n' 119 [] text).foldlM (procStep calls) { start with streams := 1 }
        return closeStream gathering
    | none =>
        match (calls.file "/proc/mounts".toList).bind fun text =>
            findSysfs calls.strayMount (fgetsLines '\n' (nameMax - 1) [] text) with
        | none => return start
        | some mount =>
            let sysfs := mount ++ "/class/i2c-dev".toList
            if nameMax ≤ sysfs.length then throw (.crashed .pathOverflow)
            else
              match calls.directory sysfs with
              | none => return start
              | some entries => do
                  let gathering ← entries.foldlM (sysfsStep calls sysfs) { start with streams := 1 }
                  return closeStream gathering

/-- The bus number, and the heap blocks and streams that stay in use. -/
def lookupGathered (calls : AdapterCalls) (busName : CString) : Except GatherFault (Int × Int × Int) :=
  match gatherI2cBusses calls with
  | .error (.crashed fault) => .error fault
  | .error (.outOfMemory blocks streams) => .ok (-3, blocks, streams)
  | .ok gathering =>
      match gathering.adapters.walk with
      | none => .error .outsideTable
      | some adapters =>
          match freeAdapters gathering.adapters gathering.blocks with
          | .ok blocks =>
              .ok (matchAdapter busName (-1) (adapters.map Adapter.toI2cAdap), blocks,
                gathering.streams)
          | .error _ => .error .outsideTable

/-- A number is not looked for among the adapters. -/
def lookupBus (calls : AdapterCalls) (i2cbusArg : CString) : Except GatherFault (Int × Int × Int) :=
  let (i2cbus, rest) := strtoul i2cbusArg
  if rest ≠ [] ∨ i2cbusArg = [] then lookupGathered calls i2cbusArg
  else if 0xFFFFF < i2cbus then .ok (-2, 0, 0)
  else .ok (i2cbus, 0, 0)

end InspurIpmi

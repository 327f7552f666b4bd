import Mathlib.Data.List.Nodup
import InspurIpmi.I2c.MacAddress
import InspurIpmi.Sfp.Effects

/-!
# The EEPROMs of the modules as memories

`oom_set_memory_sff` and `oom_get_memory_sff` address a byte by a page and an
offset. What one call of each does to the file of a module, and which file it is.
-/

set_option autoImplicit false

namespace InspurIpmi

open Foundation

/-- The numbers of the ports, which are the indices of `path`. -/
abbrev Port := Fin getSFPSum

/-- What `open`, `lseek` and `write` answer, and what `errno` holds where they fail. -/
structure SffWrite where
  opened : Bool
  openErrno : Errno
  seeks : Bool
  seekErrno : Errno
  written : Option ℕ
  writeErrno : Errno

/-- `lseek` fails for a position below zero. -/
def SffWrite.loc (calls : SffWrite) (offs : Int32) : Int32 :=
  if calls.seeks && decide (0 ≤ offs) then offs else -1

/-- `write` fails for a length that is below zero before it becomes a `size_t`. -/
def SffWrite.retval (calls : SffWrite) (len : Int32) : Option ℕ :=
  if len < 0 then none else calls.written.map fun count => min count len.toNatClampNeg

/-- Arithmetic on `int` wraps. A failing `lseek` leaves the descriptor at the front of
the file, and its result is the position asked for where that is `-1`. -/
def oomSetMemorySff (calls : SffWrite) (portnum : ℕ) (page offset len : Int32) (data : Buffer) :
    Daemon Int := do
  record (.lookup .path portnum)
  let file ← Process.gets fun world => world.files (sffFile portnum)
  let fd ← openFile (calls.opened && file.isSome)
  if fd = -1 then
    return -calls.openErrno.val
  let offs := offset + page * 128
  if calls.loc offs ≠ offs then
    closeFile fd
    return -calls.seekErrno.val
  match calls.retval len with
  | none =>
    closeFile fd
    return -calls.writeErrno.val
  | some retval =>
    Process.modify fun world =>
      world.overwrite (sffFile portnum) offs.toNatClampNeg retval data
    closeFile fd
    return retval

/-!
## The files
-/

/-- The modules are the devices at address `0x50` of the buses from 22 on. -/
theorem sffFile_eq {portnum : ℕ} (inside : portnum < getSFPSum) :
    sffFile portnum = kernelEepromFile (UInt8.ofNat (portnum + 22)) 0x50 := by
  have table : ∀ port < getSFPSum,
      sffFile port = kernelEepromFile (UInt8.ofNat (port + 22)) 0x50 := by decide +kernel
  exact table portnum inside

theorem sffFile_ne_chipFile {portnum : ℕ} (inside : portnum < getSFPSum) :
    sffFile portnum ≠ chipFile := by
  have table : ∀ port < getSFPSum,
      kernelEepromFile (UInt8.ofNat (port + 22)) 0x50 ≠ kernelEepromFile 1 0x50 := by
    decide +kernel
  rw [sffFile_eq inside, chipFile_eq]
  exact table portnum inside

/-!
## What a write does
-/

/-- How many bytes a write moves into a file that is there. -/
def SffWrite.moved (calls : SffWrite) (offs len : Int32) : ℕ :=
  if calls.opened ∧ calls.loc offs = offs then (calls.retval len).getD 0 else 0

end InspurIpmi

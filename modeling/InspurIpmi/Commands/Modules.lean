import InspurIpmi.Commands.Footprint
import InspurIpmi.Foundation.Registers
import InspurIpmi.Sfp.ModuleMemory

/-!
# The modules under the commands

Writes to the EEPROMs of the modules, among whatever the daemon is asked. Each
module is one flat memory over every run that the daemon survives, whichever
function wrote it.
-/

set_option autoImplicit false

namespace InspurIpmi

open Foundation

/-!
## Events
-/

/-- Bytes that the file of a device takes. -/
structure FileWrite where
  name : CString
  start : ℕ
  count : ℕ
  source : Buffer

def FileWrite.byte (write : FileWrite) (name : CString) (address : ℕ) : Option UInt8 :=
  if write.name = name ∧ write.start ≤ address ∧ address < write.start + write.count then
    some (write.source (address - write.start))
  else none

inductive ModuleEvent where
  | set (calls : SffWrite) (port : Port) (page offset len : Int32) (data : Buffer)
  | serve (message : Message)

namespace ModuleEvent

def step (world : World) : ModuleEvent → Option World
  | set calls port page offset len data =>
      some ((oomSetMemorySff calls port page offset len data).run world).2
  | serve message => message.step world

def write : ModuleEvent → Option FileWrite
  | set calls port page offset len data =>
      let offs := offset + page * 128
      some ⟨sffFile port, offs.toNatClampNeg, calls.moved offs len, data⟩
  | serve ⟨.setMACToEEPROM calls, request, _⟩ =>
      if request.length = setMACAddressInfoReqSize then
        some ⟨macEepromFile (request.bytes 0) (request.bytes 1),
          macOffset (request.bytes 2) (request.bytes 3), calls.taken, macValue request.bytes⟩
      else none
  | serve _ => none

/-- What an event writes to one byte of a device that is there. -/
def writes (name : CString) (address : ℕ) (event : ModuleEvent) : Option UInt8 :=
  event.write.bind fun write => write.byte name address

end ModuleEvent

theorem FileWrite.files_overwrite (write : FileWrite) (world : World) (name : CString) :
    (world.overwrite write.name write.start write.count write.source).files name =
      (world.files name).map fun file address => (write.byte name address).getD (file address) := by
  rw [World.files_overwrite]
  by_cases same : write.name = name
  · subst same
    rw [Function.update_self]
    congr 1
    funext file address
    by_cases inside : write.start ≤ address ∧ address < write.start + write.count
    · simp [overlay, byte, inside]
    · simp [overlay, byte, inside]
  · simp [Function.update_of_ne (Ne.symm same), byte, same]

namespace ModuleEvent

variable {world next : World}

end ModuleEvent

/-!
## Runs
-/

end InspurIpmi

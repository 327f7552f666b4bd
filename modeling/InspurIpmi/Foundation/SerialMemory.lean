import InspurIpmi.Foundation.SmbusEeprom

/-! Serial memories on a two-wire bus. A device takes the address bytes first, the most
significant one in front, and stores the bytes that follow one after another; what is read
is delivered from where the cursor stands. -/

set_option autoImplicit false

namespace InspurIpmi.Foundation

/-- What tells one device from another: how many bytes an address has, and where the
cursor goes behind a store, which need not leave the page. -/
structure SerialDevice (size : ℕ) where
  width : ℕ
  positive : 0 < width
  nextStored : Fin size → Fin size

@[ext] structure SerialMemory (size : ℕ) where
  cells : Fin size → UInt8
  cursor : Fin size

namespace SerialMemory

variable {size : ℕ}

/-!
## What an access is to do
-/

def seek (address : Fin size) (memory : SerialMemory size) : SerialMemory size :=
  { memory with cursor := address }

def put (device : SerialDevice size) (address : Fin size) (byte : UInt8)
    (memory : SerialMemory size) : SerialMemory size where
  cells := Function.update memory.cells address byte
  cursor := device.nextStored address

def current (memory : SerialMemory size) : UInt8 := memory.cells memory.cursor

@[simp] theorem seek_cells (address : Fin size) (memory : SerialMemory size) :
    (memory.seek address).cells = memory.cells := rfl

@[simp] theorem put_cells (device : SerialDevice size) (address : Fin size) (byte : UInt8)
    (memory : SerialMemory size) :
    (memory.put device address byte).cells = Function.update memory.cells address byte := rfl

variable [NeZero size]

/-- Behind a byte that is read. -/
def advance (memory : SerialMemory size) : SerialMemory size :=
  { memory with cursor := memory.cursor + 1 }

/-!
## What goes over the wire
-/

def sentAddress (bytes : List UInt8) : ℕ := bytes.foldl (fun address byte => 256 * address + byte.toNat) 0

def storeHere (device : SerialDevice size) (memory : SerialMemory size) (byte : UInt8) :
    SerialMemory size :=
  memory.put device memory.cursor byte

/-- A device without its whole address does nothing. -/
def accept (device : SerialDevice size) (bytes : List UInt8) (memory : SerialMemory size) :
    SerialMemory size :=
  if bytes.length < device.width then memory
  else
    let address := Fin.ofNat size (sentAddress (bytes.take device.width))
    (bytes.drop device.width).foldl (storeHere device) (memory.seek address)

/-- So many bytes from the cursor on. -/
def deliver : ℕ → SerialMemory size → List UInt8 × SerialMemory size
  | 0, memory => ([], memory)
  | count + 1, memory =>
      let (rest, after) := deliver count memory.advance
      (memory.current :: rest, after)

/-!
## One access
-/

variable {device : SerialDevice size} {memory : SerialMemory size}

theorem accept_short {bytes : List UInt8} (short : bytes.length < device.width) :
    memory.accept device bytes = memory := if_pos short

theorem accept_address {bytes : List UInt8} (whole : bytes.length = device.width) :
    memory.accept device bytes = memory.seek (Fin.ofNat size (sentAddress bytes)) := by
  rw [accept, if_neg (Nat.not_lt.mpr (Nat.le_of_eq whole.symm)), List.take_of_length_le (Nat.le_of_eq whole),
    List.drop_of_length_le (Nat.le_of_eq whole)]
  rfl

theorem accept_store {bytes : List UInt8} (whole : bytes.length = device.width) (byte : UInt8) :
    memory.accept device (bytes ++ [byte]) =
      memory.put device (Fin.ofNat size (sentAddress bytes)) byte := by
  have long : ¬ (bytes ++ [byte]).length < device.width := by
    rw [List.length_append, whole]
    exact Nat.not_lt.mpr (Nat.le_add_right _ _)
  rw [accept, if_neg long, List.take_append_of_le_length (Nat.le_of_eq whole.symm),
    List.take_of_length_le (Nat.le_of_eq whole), ← whole, List.drop_left]
  rfl

theorem deliver_one : memory.deliver 1 = ([memory.current], memory.advance) := rfl

/-- Only the bytes behind the address are stored. -/
theorem accept_cells_of_le {bytes : List UInt8} (short : bytes.length ≤ device.width) :
    (memory.accept device bytes).cells = memory.cells := by
  rcases Nat.lt_or_eq_of_le short with less | whole
  · rw [accept_short less]
  · rw [accept_address whole, seek_cells]

theorem sentAddress_two (high low : UInt8) : sentAddress [high, low] = Chip.address high low := by
  simp [sentAddress, Chip.address, Nat.mul_comm]

end SerialMemory

end InspurIpmi.Foundation

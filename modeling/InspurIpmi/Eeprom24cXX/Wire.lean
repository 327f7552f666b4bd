import InspurIpmi.Eeprom24cXX
import InspurIpmi.Foundation.SerialMemory

/-!
# The EEPROM access library on the wire

The SMBus transfers of `i2c-dev.h`, as the bytes that go over the bus, and the accesses of
`24cXX.c` over them. A library call is told the type of the device, and does not ask it.
-/

set_option autoImplicit false

namespace InspurIpmi.Wire

open Foundation

variable {size : ℕ} [NeZero size]

/-- The state is that of the addressed device. -/
abbrev Bus (size : ℕ) (α : Type) := Process (SerialMemory size) Exception α

/-!
## Transfers
-/

/-- One `ioctl(I2C_SMBUS)`: the bytes that are sent, and the bytes that the device then
delivers. A transfer that fails is taken to leave the device as it was, although it may have
taken bytes before one is refused. -/
def i2cSmbusAccess (device : SerialDevice size) (succeeds : Bool) (sent : List UInt8) (count : ℕ) :
    Bus size (Option (List UInt8)) := do
  if succeeds then
    Process.modify (SerialMemory.accept device sent)
    let bytes ← Process.gets fun memory => (memory.deliver count).1
    Process.modify fun memory => (memory.deliver count).2
    return some bytes
  else
    return none

def i2cSmbusReadByte (device : SerialDevice size) (succeeds : Bool) : Bus size Int := do
  match ← i2cSmbusAccess device succeeds [] 1 with
  | some bytes => return (bytes.getD 0 0).toNat
  | none => return -1

def i2cSmbusSend (device : SerialDevice size) (succeeds : Bool) (sent : List UInt8) : Bus size Int := do
  match ← i2cSmbusAccess device succeeds sent 0 with
  | some _ => return 0
  | none => return -1

def i2cSmbusWriteByte (device : SerialDevice size) (succeeds : Bool) (value : UInt8) :
    Bus size Int :=
  i2cSmbusSend device succeeds [value]

def i2cSmbusWriteByteData (device : SerialDevice size) (succeeds : Bool) (command value : UInt8) :
    Bus size Int :=
  i2cSmbusSend device succeeds [command, value]

/-- The low byte of the word is sent first. -/
def i2cSmbusWriteWordData (device : SerialDevice size) (succeeds : Bool) (command : UInt8)
    (value : UInt16) : Bus size Int :=
  i2cSmbusSend device succeeds [command, value.toUInt8, (value >>> 8).toUInt8]

/-!
## The library
-/

def i2cWrite1b (device : SerialDevice size) (succeeds : Bool) (buf0 : UInt8) : Bus size Int :=
  i2cSmbusWriteByte device succeeds buf0

def i2cWrite2b (device : SerialDevice size) (succeeds : Bool) (buf0 buf1 : UInt8) : Bus size Int :=
  i2cSmbusWriteByteData device succeeds buf0 buf1

def i2cWrite3b (device : SerialDevice size) (succeeds : Bool) (buf0 buf1 buf2 : UInt8) :
    Bus size Int :=
  i2cSmbusWriteWordData device succeeds buf0 (packWord buf2 buf1)

def eepromReadCurrentByte (device : SerialDevice size) (received : Bool) : Bus size Int :=
  i2cSmbusReadByte device received

def eepromReadByte (device : SerialDevice size) (written received : Bool) (type : EepromType)
    (memAddr : UInt16) : Bus size Int := do
  let r ← match type with
    | .addr8Bit => i2cWrite1b device written (lowByte memAddr)
    | .addr16Bit => i2cWrite2b device written (highByte memAddr) (lowByte memAddr)
    | .unknown => return -1
  if r < 0 then
    return r
  i2cSmbusReadByte device received

def eepromWriteByte (device : SerialDevice size) (written : Bool) (type : EepromType)
    (memAddr : UInt16) (data : UInt8) : Bus size Int :=
  match type with
  | .addr8Bit => i2cWrite2b device written (lowByte memAddr) data
  | .addr16Bit => i2cWrite3b device written (highByte memAddr) (lowByte memAddr) data
  | .unknown => return -1

/-- A call, with the success of the transfer that sends and of the one that receives. -/
inductive Access where
  | readByte (memAddr : UInt16) (written received : Bool)
  | readCurrentByte (received : Bool)
  | writeByte (memAddr : UInt16) (data : UInt8) (written : Bool)
  deriving DecidableEq, Repr

def Access.perform (device : SerialDevice size) (type : EepromType) : Access → Bus size Int
  | .readByte memAddr written received => eepromReadByte device written received type memAddr
  | .readCurrentByte received => eepromReadCurrentByte device received
  | .writeByte memAddr data written => eepromWriteByte device written type memAddr data

/-!
## What the calls mean
-/

/-- The address bytes that a call sends for a type. -/
def addressBytes : EepromType → UInt16 → List UInt8
  | .addr8Bit, memAddr => [lowByte memAddr]
  | .addr16Bit, memAddr => [highByte memAddr, lowByte memAddr]
  | .unknown, _ => []

/-- The number in `bytes` of an access that went well, and `-1`. -/
def Access.meaning (device : SerialDevice size) (memory : SerialMemory size) :
    Access → Int × SerialMemory size
  | .readByte memAddr written received =>
      if written = false then (-1, memory)
      else
        let found := memory.seek (Fin.ofNat size memAddr.toNat)
        if received = false then (-1, found) else (found.current.toNat, found.advance)
  | .readCurrentByte received =>
      if received = false then (-1, memory) else (memory.current.toNat, memory.advance)
  | .writeByte memAddr data written =>
      if written = false then (-1, memory)
      else (0, memory.put device (Fin.ofNat size memAddr.toNat) data)

/-- The type says how many address bytes the device has, and these reach each of its cells. -/
structure Matches (device : SerialDevice size) (type : EepromType) : Prop where
  width : device.width = (addressBytes type 0).length
  known : type ≠ .unknown
  covered : size ∣ 256 ^ device.width

section Calls

variable {device : SerialDevice size} {memory : SerialMemory size}

theorem run_i2cSmbusSend (succeeds : Bool) (sent : List UInt8) :
    (i2cSmbusSend device succeeds sent).run memory =
      if succeeds then (.returned 0, memory.accept device sent) else (.returned (-1), memory) := by
  cases succeeds <;> rfl

theorem run_i2cSmbusReadByte (succeeds : Bool) :
    (i2cSmbusReadByte device succeeds).run memory =
      if succeeds then (.returned (memory.current.toNat : Int), memory.advance)
      else (.returned (-1), memory) := by
  cases succeeds with
  | false => rfl
  | true =>
      have idle : memory.accept device [] = memory := SerialMemory.accept_short device.positive
      have accessed : (i2cSmbusAccess device true [] 1).run memory =
          (.returned (some [memory.current]), memory.advance) := by
        have ran : (i2cSmbusAccess device true [] 1).run memory =
            (.returned (some ((memory.accept device []).deliver 1).1),
              ((memory.accept device []).deliver 1).2) := rfl
        rw [ran, idle, SerialMemory.deliver_one]
      exact Process.run_bind_returned accessed _

/-- Sending the address goes on to the byte, whichever the type. -/
theorem run_eepromReadByte (written received : Bool) {type : EepromType} (known : type ≠ .unknown)
    (memAddr : UInt16) :
    (eepromReadByte device written received type memAddr).run memory =
      if written then
        (i2cSmbusReadByte device received).run (memory.accept device (addressBytes type memAddr))
      else (.returned (-1), memory) := by
  cases type with
  | unknown => exact absurd rfl known
  | _ =>
      cases written <;>
        simp [eepromReadByte, i2cWrite1b, i2cWrite2b, i2cSmbusWriteByte, i2cSmbusWriteByteData,
          Process.run_bind, run_i2cSmbusSend, addressBytes]

theorem run_eepromWriteByte (written : Bool) {type : EepromType} (known : type ≠ .unknown)
    (memAddr : UInt16) (data : UInt8) :
    (eepromWriteByte device written type memAddr data).run memory =
      if written then (.returned 0, memory.accept device (addressBytes type memAddr ++ [data]))
      else (.returned (-1), memory) := by
  cases type with
  | unknown => exact absurd rfl known
  | addr8Bit => exact run_i2cSmbusSend _ _
  | addr16Bit =>
      have sent : eepromWriteByte device written .addr16Bit memAddr data =
          i2cSmbusSend device written [highByte memAddr, lowByte memAddr, data] := by
        rw [eepromWriteByte, i2cWrite3b, i2cSmbusWriteWordData, packWord_first, packWord_second]
      rw [sent]
      exact run_i2cSmbusSend _ _

theorem addressBytes_length (type : EepromType) (memAddr other : UInt16) :
    (addressBytes type memAddr).length = (addressBytes type other).length := by
  cases type <;> rfl

/-- A device ignores the bits of an address that it has no cells for. -/
theorem sentAddress_addressBytes {type : EepromType} (matched : Matches device type)
    (memAddr : UInt16) :
    Fin.ofNat size (SerialMemory.sentAddress (addressBytes type memAddr)) =
      Fin.ofNat size memAddr.toNat := by
  have covered := matched.covered
  rw [matched.width] at covered
  cases type with
  | unknown => exact absurd rfl matched.known
  | addr8Bit =>
      have sent : SerialMemory.sentAddress (addressBytes .addr8Bit memAddr) =
          memAddr.toNat % 256 := by
        simp [SerialMemory.sentAddress, addressBytes, toNat_lowByte]
      apply Fin.ext
      rw [sent, Fin.val_ofNat, Fin.val_ofNat]
      exact Nat.mod_mod_of_dvd _ covered
  | addr16Bit => rw [addressBytes, SerialMemory.sentAddress_two, Chip.address_split]

theorem perform_meaning {type : EepromType} (matched : Matches device type) (access : Access) :
    (access.perform device type).run memory =
      (.returned (access.meaning device memory).1, (access.meaning device memory).2) := by
  have whole : ∀ memAddr, (addressBytes type memAddr).length = device.width := fun memAddr =>
    (addressBytes_length type memAddr 0).trans matched.width.symm
  cases access with
  | readByte memAddr written received =>
      rw [Access.perform, run_eepromReadByte written received matched.known,
        SerialMemory.accept_address (whole memAddr), sentAddress_addressBytes matched,
        run_i2cSmbusReadByte, Access.meaning]
      cases written <;> cases received <;> rfl
  | readCurrentByte received =>
      rw [Access.perform, eepromReadCurrentByte, run_i2cSmbusReadByte, Access.meaning]
      cases received <;> rfl
  | writeByte memAddr data written =>
      rw [Access.perform, run_eepromWriteByte written matched.known,
        SerialMemory.accept_store (whole memAddr), sentAddress_addressBytes matched, Access.meaning]
      cases written <;> rfl

end Calls

/-!
## Runs
-/

/-- The results of the calls, one after another, and the memory behind them. -/
def runCalls (device : SerialDevice size) (type : EepromType) :
    SerialMemory size → List Access → List (Outcome Exception Int) × SerialMemory size
  | memory, [] => ([], memory)
  | memory, access :: rest =>
      let (outcome, after) := (access.perform device type).run memory
      let (outcomes, last) := runCalls device type after rest
      (outcome :: outcomes, last)

def meaningOf (device : SerialDevice size) :
    SerialMemory size → List Access → List Int × SerialMemory size
  | memory, [] => ([], memory)
  | memory, access :: rest =>
      let (result, after) := access.meaning device memory
      let (results, last) := meaningOf device after rest
      (result :: results, last)

/-- With the type of the device, the library is a memory of bytes with a cursor, for every
run of calls and whichever of their transfers fail, as far as these leave the device
alone. -/
theorem calls_are_memory (device : SerialDevice size) {type : EepromType}
    (matched : Matches device type) (memory : SerialMemory size) (accesses : List Access) :
    runCalls device type memory accesses =
      ((meaningOf device memory accesses).1.map .returned, (meaningOf device memory accesses).2) := by
  induction accesses generalizing memory with
  | nil => rfl
  | cons access rest ih =>
      rw [runCalls, perform_meaning matched]
      dsimp only
      rw [ih]
      rfl

/-- Every cell holds the same byte. -/
def blank (byte : UInt8) : SerialMemory size where
  cells _ := byte
  cursor := Fin.ofNat size 0

/-- A device of 4096 bytes, as far as the library goes. -/
def chip24C32 : SerialDevice 4096 where
  width := 2
  positive := by decide
  nextStored address := address + 1

theorem calls_are_memory_24C32 :
    (runCalls chip24C32 .addr16Bit (blank 0xFF)
      [.writeByte 0x0102 0x5A true, .readByte 0x0102 true true]).1 = [.returned 0, .returned 0x5A] := by
  have calls := @calls_are_memory 4096 _ chip24C32 .addr16Bit ⟨rfl, by decide, by decide⟩ (blank 0xFF)
    [.writeByte 0x0102 0x5A true, .readByte 0x0102 true true]
  rw [calls]
  simp [meaningOf, Access.meaning, SerialMemory.current, SerialMemory.seek, SerialMemory.put]

/-!
## The wrong type
-/

/-- A write that is reported as done stores its byte, and nothing else. -/
def StoresAsReported (device : SerialDevice size) (type : EepromType) : Prop :=
  ∀ (memory : SerialMemory size) (memAddr : UInt16) (data : UInt8) (written : Bool) after,
    (eepromWriteByte device written type memAddr data).run memory = (.returned 0, after) →
      after.cells = Function.update memory.cells (Fin.ofNat size memAddr.toNat) data

section WrongType

variable {device : SerialDevice size} {memory : SerialMemory size}

/-- With one address byte too few, the data becomes a part of the address. -/
theorem narrow_write_lost (wide : device.width = 2) (written : Bool) (memAddr : UInt16) (data : UInt8) :
    ((eepromWriteByte device written .addr8Bit memAddr data).run memory).2.cells = memory.cells := by
  rw [run_eepromWriteByte written (by decide)]
  cases written with
  | false => rfl
  | true => exact SerialMemory.accept_cells_of_le (Nat.le_of_eq wide.symm)

/-- With one address byte too many, a part of the address is stored. -/
theorem wide_write_corrupts (narrow : device.width = 1) (memAddr : UInt16) (data : UInt8) :
    (eepromWriteByte device true .addr16Bit memAddr data).run memory =
      (.returned 0, SerialMemory.storeHere device
        (memory.put device (Fin.ofNat size (highByte memAddr).toNat) (lowByte memAddr)) data) := by
  have bytes : memory.accept device [highByte memAddr, lowByte memAddr, data] =
      SerialMemory.storeHere device (memory.put device
        (Fin.ofNat size (SerialMemory.sentAddress [highByte memAddr])) (lowByte memAddr)) data := by
    rw [SerialMemory.accept, narrow]
    rfl
  have address : SerialMemory.sentAddress [highByte memAddr] = (highByte memAddr).toNat := by
    simp [SerialMemory.sentAddress]
  rw [run_eepromWriteByte true (by decide), addressBytes, ← address, ← bytes]
  rfl

theorem storesAsReported_of_matches {type : EepromType} (matched : Matches device type) :
    StoresAsReported device type := by
  intro memory memAddr data written after ran
  have meant := @perform_meaning size _ device memory type matched (.writeByte memAddr data written)
  rw [Access.perform] at meant
  rw [meant, Access.meaning] at ran
  cases written with
  | false => cases ran
  | true =>
      obtain ⟨_, rfl⟩ := Prod.mk.inj ran
      rfl

theorem not_storesAsReported_narrow (wide : device.width = 2) :
    ¬ StoresAsReported device .addr8Bit := by
  intro stores
  have unstored : ((eepromWriteByte device true .addr8Bit 0 1).run (blank 0)).2.cells =
      fun _ => 0 := narrow_write_lost wide true 0 1
  have stored := stores (blank 0) 0 1 true _ (run_eepromWriteByte true (by decide) 0 1)
  have cell := congrFun (unstored.symm.trans stored) (Fin.ofNat size 0)
  rw [UInt16.toNat_zero, Function.update_self] at cell
  exact absurd cell (by decide)

theorem not_storesAsReported_wide (narrow : device.width = 1) (several : 1 < size) :
    ¬ StoresAsReported device .addr16Bit := by
  intro stores
  have apart : Fin.ofNat size 0 ≠ Fin.ofNat size 1 := by
    intro same
    have values := congrArg Fin.val same
    rw [Fin.val_ofNat, Fin.val_ofNat, Nat.zero_mod, Nat.mod_eq_of_lt several] at values
    exact Nat.zero_ne_one values
  have stored := stores (blank 5) 1 7 true _ (wide_write_corrupts narrow 1 7)
  have cell := congrFun stored (Fin.ofNat size 0)
  have kept : Function.update (blank 5 : SerialMemory size).cells
      (Fin.ofNat size (1 : UInt16).toNat) 7 (Fin.ofNat size 0) = 5 :=
    Function.update_of_ne apart 7 _
  rw [kept, SerialMemory.storeHere, SerialMemory.put_cells, SerialMemory.put_cells] at cell
  have high : Fin.ofNat size (highByte 1).toNat = Fin.ofNat size 0 := rfl
  rw [high] at cell
  -- The cell has a byte of the address, or the data when the cursor comes back to it.
  by_cases back : device.nextStored (Fin.ofNat size 0) = Fin.ofNat size 0
  · rw [SerialMemory.put, back, Function.update_self] at cell
    exact absurd cell (by decide)
  · rw [SerialMemory.put, Function.update_of_ne (Ne.symm back), Function.update_self] at cell
    exact absurd cell (by decide)

/-- A write that is reported as done is done exactly when the library was told the type of
the device. -/
theorem storesAsReported_iff {device : SerialDevice size} {type : EepromType}
    (known : type ≠ .unknown) (several : 1 < size) (width : device.width = 1 ∨ device.width = 2)
    (covered : size ∣ 256 ^ device.width) :
    StoresAsReported device type ↔ device.width = (addressBytes type 0).length := by
  constructor
  · intro stores
    cases type with
    | unknown => exact absurd rfl known
    | addr8Bit =>
        cases width with
        | inl one => exact one
        | inr two => exact absurd stores (not_storesAsReported_narrow two)
    | addr16Bit =>
        cases width with
        | inl one => exact absurd stores (not_storesAsReported_wide one several)
        | inr two => exact two
  · intro same
    exact storesAsReported_of_matches ⟨same, known, covered⟩

end WrongType

/-- A device of 256 bytes, which takes one byte for an address. -/
def chip24C02 : SerialDevice 256 where
  width := 1
  positive := by decide
  nextStored address := address + 1

theorem storesAsReported_iff_24C02 : ¬ StoresAsReported chip24C02 .addr16Bit := by
  have exact := @storesAsReported_iff 256 _ chip24C02 .addr16Bit (by decide) (by decide) (.inl rfl)
    (by decide)
  rw [exact]
  decide

/-!
## The chip of the daemon
-/

/-- The chip behind the daemon has the bytes of the memory on the wire. -/
def Agrees (world : World) (memory : SerialMemory 65536) : Prop :=
  ∀ address : Fin 65536, memory.cells address = world.eeprom.cells address

section Daemon

variable {device : SerialDevice 65536} {world : World} {memory : SerialMemory 65536} {e : Eeprom}

theorem matches_wide (wide : device.width = 2) : Matches device .addr16Bit where
  width := wide
  known := by decide
  covered := by
    rw [wide]
    decide

theorem agrees_writeByte (wide : device.width = 2) (type : e.type = .addr16Bit)
    (agrees : Agrees world memory) (written : Bool) (memAddr : UInt16) (data : UInt8) :
    let daemon := (InspurIpmi.eepromWriteByte written e memAddr data).run world
    let wire := (Wire.eepromWriteByte device written .addr16Bit memAddr data).run memory
    daemon.1 = wire.1 ∧ Agrees daemon.2 wire.2 := by
  have meant := @perform_meaning 65536 _ device memory .addr16Bit (matches_wide wide)
    (.writeByte memAddr data written)
  rw [Access.perform, Access.meaning] at meant
  rw [meant, InspurIpmi.run_eepromWriteByte written type]
  cases written with
  | false => exact ⟨rfl, agrees⟩
  | true =>
      refine ⟨rfl, fun address => ?_⟩
      have place : address = Fin.ofNat 65536 memAddr.toNat ↔ (address : ℕ) = memAddr.toNat := by
        rw [Fin.ext_iff, Fin.val_ofNat, Nat.mod_eq_of_lt memAddr.toNat_lt]
      have stored : Function.update memory.cells (Fin.ofNat 65536 memAddr.toNat) data address =
          Function.update world.eeprom.cells memAddr.toNat data address := by
        simp only [Function.update_apply, place, agrees address]
      exact stored

theorem agrees_readByte (wide : device.width = 2) (type : e.type = .addr16Bit)
    (agrees : Agrees world memory) (written received : Bool) (memAddr : UInt16) :
    let daemon := (InspurIpmi.eepromReadByte written received e memAddr).run world
    let wire := (Wire.eepromReadByte device written received .addr16Bit memAddr).run memory
    daemon.1 = wire.1 ∧ Agrees daemon.2 wire.2 := by
  have meant := @perform_meaning 65536 _ device memory .addr16Bit (matches_wide wide)
    (.readByte memAddr written received)
  rw [Access.perform, Access.meaning] at meant
  obtain ⟨pointer, ran⟩ := InspurIpmi.run_eepromReadByte written received type memAddr world
  have byte : memory.cells (Fin.ofNat 65536 memAddr.toNat) = world.eeprom.cells memAddr.toNat := by
    rw [agrees, Fin.val_ofNat, Nat.mod_eq_of_lt memAddr.toNat_lt]
  rw [meant, ran]
  cases written with
  | false => exact ⟨rfl, agrees⟩
  | true =>
      cases received with
      | false => exact ⟨rfl, agrees⟩
      | true =>
          refine ⟨?_, agrees⟩
          have same := congrArg (fun byte : UInt8 => (Outcome.returned (byte.toNat : Int) :
            Outcome Exception Int)) byte
          exact same.symm

end Daemon

end InspurIpmi.Wire

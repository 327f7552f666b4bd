import InspurIpmi.Foundation.ByteMemory
import Mathlib.Data.UInt
import Mathlib.Tactic.Common

/-! A serial EEPROM with 16-bit addresses behind SMBus transfers. The bus knows
bytes and words only; the chip takes the first two data bytes of a transfer as
the address, the more significant one first. -/

set_option autoImplicit false

namespace InspurIpmi.Foundation

structure Chip where
  cells : ℕ → UInt8
  pointer : ℕ

namespace Chip

def address (high low : UInt8) : ℕ := high.toNat * 256 + low.toNat

def store (address : ℕ) (data : UInt8) (chip : Chip) : Chip :=
  { chip with cells := Function.update chip.cells address data }

def seek (address : ℕ) (chip : Chip) : Chip := { chip with pointer := address }

/-- SMBus sends the command, then the low byte of the word, then the high one.
The chip stores the third byte at the address the first two spell. -/
def writeWordData (command : UInt8) (word : UInt16) (chip : Chip) : Chip :=
  chip.store (address command word.toUInt8) (word >>> 8).toUInt8

/-- A byte-data write is too short for a store and sets the read pointer. -/
def writeByteData (command value : UInt8) (chip : Chip) : Chip :=
  chip.seek (address command value)

def receiveByte (chip : Chip) : UInt8 := chip.cells chip.pointer

@[simp] theorem store_cells (address : ℕ) (data : UInt8) (chip : Chip) :
    (chip.store address data).cells = Function.update chip.cells address data := rfl

@[simp] theorem seek_cells (address : ℕ) (chip : Chip) : (chip.seek address).cells = chip.cells := rfl

@[simp] theorem receiveByte_seek (address : ℕ) (chip : Chip) :
    (chip.seek address).receiveByte = chip.cells address := rfl

@[simp] theorem seek_seek (first second : ℕ) (chip : Chip) :
    (chip.seek first).seek second = chip.seek second := rfl

theorem seek_pointer (chip : Chip) : chip.seek chip.pointer = chip := rfl

/-- The first `count` bytes of `source` stored one after another from `address`
on, except those whose transfer failed. -/
def storeAll (succeeds : ℕ → Bool) (address : ℕ) (source : ℕ → UInt8) (chip : Chip) : ℕ → Chip
  | 0 => chip
  | count + 1 =>
      let before := chip.storeAll succeeds address source count
      if succeeds count then before.store (address + count) (source count) else before

theorem storeAll_overlay {succeeds : ℕ → Bool} {count : ℕ}
    (all : ∀ index < count, succeeds index = true) (address : ℕ) (source : ℕ → UInt8)
    (chip : Chip) :
    chip.storeAll succeeds address source count =
      { chip with cells := overlay chip.cells address count source } := by
  induction count with
  | zero => simp only [storeAll, overlay_zero_length]
  | succ count ih =>
      have earlier := ih fun index below => all index (Nat.lt_succ_of_lt below)
      simp only [storeAll, earlier, all count (Nat.lt_succ_self count), if_true, store,
        update_overlay]

theorem storeAll_outside (succeeds : ℕ → Bool) {address place count : ℕ} (source : ℕ → UInt8)
    (chip : Chip) (outside : place < address ∨ address + count ≤ place) :
    (chip.storeAll succeeds address source count).cells place = chip.cells place := by
  induction count with
  | zero => rfl
  | succ count ih =>
      have earlier := ih (by omega)
      simp only [storeAll]
      split
      · rw [store_cells, Function.update_of_ne (by omega), earlier]
      · exact earlier

end Chip

def highByte (word : UInt16) : UInt8 := ((word >>> 8) &&& 0xFF).toUInt8

def lowByte (word : UInt16) : UInt8 := (word &&& 0xFF).toUInt8

theorem toNat_highByte (word : UInt16) : (highByte word).toNat = word.toNat / 256 := by
  have bound := word.toNat_lt
  have masked : (word.toNat / 256) &&& 255 = word.toNat / 256 % 256 :=
    Nat.and_two_pow_sub_one_eq_mod _ 8
  simp only [highByte, UInt16.toNat_toUInt8, UInt16.toNat_and, UInt16.toNat_shiftRight,
    UInt16.toNat_ofNat, Nat.shiftRight_eq_div_pow, Nat.reduceMod, Nat.reducePow, masked]
  omega

theorem toNat_lowByte (word : UInt16) : (lowByte word).toNat = word.toNat % 256 := by
  have masked : word.toNat &&& 255 = word.toNat % 256 := Nat.and_two_pow_sub_one_eq_mod _ 8
  simp only [lowByte, UInt16.toNat_toUInt8, UInt16.toNat_and, UInt16.toNat_ofNat, Nat.reduceMod,
    Nat.reducePow, masked, Nat.mod_mod]

theorem Chip.address_split (word : UInt16) :
    Chip.address (highByte word) (lowByte word) = word.toNat := by
  rw [Chip.address, toNat_highByte, toNat_lowByte]
  omega

/-- Two bytes packed into one SMBus word, the first to be sent in the low half. -/
def packWord (second first : UInt8) : UInt16 := (second.toUInt16 <<< 8) ||| first.toUInt16

theorem toNat_packWord (second first : UInt8) :
    (packWord second first).toNat = second.toNat * 256 + first.toNat := by
  have bound := second.toNat_lt
  have fits : second.toNat <<< 8 < 65536 := by rw [Nat.shiftLeft_eq]; omega
  simp only [packWord, UInt16.toNat_or, UInt16.toNat_shiftLeft, UInt8.toNat_toUInt16,
    UInt16.toNat_ofNat, Nat.reduceMod, Nat.reducePow, Nat.mod_eq_of_lt fits]
  rw [← Nat.shiftLeft_add_eq_or_of_lt first.toNat_lt, Nat.shiftLeft_eq]

theorem packWord_first (second first : UInt8) : (packWord second first).toUInt8 = first := by
  apply UInt8.toNat.inj
  have small := first.toNat_lt
  rw [UInt16.toNat_toUInt8, toNat_packWord]
  omega

theorem packWord_second (second first : UInt8) : (packWord second first >>> 8).toUInt8 = second := by
  apply UInt8.toNat.inj
  have small := first.toNat_lt
  have bound := second.toNat_lt
  simp only [UInt16.toNat_toUInt8, UInt16.toNat_shiftRight, toNat_packWord, UInt16.toNat_ofNat,
    Nat.shiftRight_eq_div_pow, Nat.reduceMod, Nat.reducePow]
  omega

theorem Chip.writeWordData_split (chip : Chip) (word : UInt16) (data : UInt8) :
    chip.writeWordData (highByte word) (packWord data (lowByte word)) =
      chip.store word.toNat data := by
  rw [Chip.writeWordData, packWord_first, packWord_second, Chip.address_split]

theorem Chip.writeByteData_split (chip : Chip) (word : UInt16) :
    chip.writeByteData (highByte word) (lowByte word) = chip.seek word.toNat := by
  rw [Chip.writeByteData, Chip.address_split]

end InspurIpmi.Foundation

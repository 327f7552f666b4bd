import Mathlib.Tactic.Common

/-! Layout of C structures: every member at the next multiple of its alignment,
and the size a multiple of the largest one. Beside it the packed layout of a
wire format, and what a raw copy from one to the other keeps. -/

set_option autoImplicit false

namespace InspurIpmi.Foundation

structure CField where
  name : String
  align : ℕ
  size : ℕ
  deriving Repr

/-- An array of `count` bytes, or a single byte. -/
def CField.bytes (name : String) (count : ℕ) : CField := ⟨name, 1, count⟩

def CField.uint16 (name : String) : CField := ⟨name, 2, 2⟩

def roundUp (offset align : ℕ) : ℕ := (offset + align - 1) / align * align

def endOfFields (fields : List CField) : ℕ :=
  fields.foldl (fun offset field => roundUp offset field.align + field.size) 0

def structAlign (fields : List CField) : ℕ := fields.foldl (fun align field => max align field.align) 1

def sizeOfStruct (fields : List CField) : ℕ := roundUp (endOfFields fields) (structAlign fields)

/-!
## Members of a packed record
-/

def packedSize (fields : List CField) : ℕ := fields.foldl (fun size field => size + field.size) 0

/-- A member, with its offset in the structure and in the packed record. -/
structure PlacedField where
  field : CField
  inMemory : ℕ
  onWire : ℕ
  deriving Repr

def placedFrom (inMemory onWire : ℕ) : List CField → List PlacedField
  | [] => []
  | field :: rest =>
      ⟨field, roundUp inMemory field.align, onWire⟩ ::
        placedFrom (roundUp inMemory field.align + field.size) (onWire + field.size) rest

def placed (fields : List CField) : List PlacedField := placedFrom 0 0 fields

theorem le_roundUp (offset : ℕ) {align : ℕ} (positive : 0 < align) : offset ≤ roundUp offset align := by
  have division := Nat.div_add_mod (offset + align - 1) align
  have remainder := Nat.mod_lt (offset + align - 1) positive
  rw [roundUp, Nat.mul_comm]
  omega

theorem structAlign_positive (fields : List CField) : 0 < structAlign fields := by
  have grows : ∀ align, 0 < align →
      0 < fields.foldl (fun align field => max align field.align) align := by
    induction fields with
    | nil => exact fun align positive => positive
    | cons field rest ih =>
      intro align positive
      exact ih _ (Nat.lt_of_lt_of_le positive (Nat.le_max_left align field.align))
  exact grows 1 Nat.one_pos

theorem le_endOfFields (fields : List CField) (aligned : ∀ field ∈ fields, 0 < field.align)
    (start : ℕ) :
    start ≤ fields.foldl (fun offset field => roundUp offset field.align + field.size) start := by
  induction fields generalizing start with
  | nil => exact Nat.le_refl start
  | cons field rest ih =>
    have own := le_roundUp start (aligned field List.mem_cons_self)
    have later := ih (fun other member => aligned other (List.mem_cons_of_mem field member))
      (roundUp start field.align + field.size)
    exact Nat.le_trans (Nat.le_add_right_of_le own) later

theorem placedFrom_inside {fields : List CField} (aligned : ∀ field ∈ fields, 0 < field.align)
    {inMemory onWire : ℕ} {member : PlacedField} (among : member ∈ placedFrom inMemory onWire fields) :
    member.inMemory + member.field.size ≤
      fields.foldl (fun offset field => roundUp offset field.align + field.size) inMemory := by
  induction fields generalizing inMemory onWire with
  | nil => exact absurd among List.not_mem_nil
  | cons field rest ih =>
    have alignedRest : ∀ other ∈ rest, 0 < other.align :=
      fun other inRest => aligned other (List.mem_cons_of_mem field inRest)
    rcases List.mem_cons.mp among with rfl | later
    · exact le_endOfFields rest alignedRest _
    · exact ih alignedRest later

theorem placed_inside {fields : List CField} (aligned : ∀ field ∈ fields, 0 < field.align)
    {member : PlacedField} (among : member ∈ placed fields) :
    member.inMemory + member.field.size ≤ sizeOfStruct fields :=
  Nat.le_trans (placedFrom_inside aligned among) (le_roundUp _ (structAlign_positive fields))

/-!
## Copying a packed record into a structure
-/

variable {α : Type}

/-- Every member of each of the structures holds the bytes it has in the record. -/
def Decoded (fields : List CField) (count : ℕ) (memory wire : ℕ → α) : Prop :=
  ∀ record < count, ∀ member ∈ placed fields, ∀ byte < member.field.size,
    memory (record * sizeOfStruct fields + member.inMemory + byte) =
      wire (record * packedSize fields + member.onWire + byte)

/-- After a raw copy the structures are as right as if they had been overlaid on
the records themselves. -/
theorem decoded_copy_iff {fields : List CField} (aligned : ∀ field ∈ fields, 0 < field.align)
    {count : ℕ} {memory wire : ℕ → α}
    (copied : ∀ index < count * sizeOfStruct fields, memory index = wire index) :
    Decoded fields count memory wire ↔ Decoded fields count wire wire := by
  refine forall₂_congr fun record within => forall₂_congr fun member among =>
    forall₂_congr fun byte below => ?_
  have inside := placed_inside aligned among
  have whole : (record + 1) * sizeOfStruct fields ≤ count * sizeOfStruct fields :=
    Nat.mul_le_mul_right _ within
  rw [Nat.succ_mul] at whole
  rw [copied _ (by omega)]

/-- Without padding a raw copy is exact. -/
theorem decoded_of_unpadded {fields : List CField} (sizes : sizeOfStruct fields = packedSize fields)
    (offsets : ∀ member ∈ placed fields, member.inMemory = member.onWire) (count : ℕ)
    (wire : ℕ → α) : Decoded fields count wire wire := by
  intro record _ member among byte _
  rw [sizes, offsets member among]

/-- A stretch of bytes that occurs once more, some places behind. -/
def Repeats (wire : ℕ → α) (shift start length : ℕ) : Prop :=
  ∀ index < length, wire (start + shift + index) = wire (start + index)

theorem repeats_append {wire : ℕ → α} {shift start first second : ℕ} :
    Repeats wire shift start (first + second) ↔
      Repeats wire shift start first ∧ Repeats wire shift (start + first) second := by
  constructor
  · intro whole
    constructor
    · intro index below
      exact whole index (Nat.lt_add_right second below)
    · intro index below
      have byte := whole (first + index) (Nat.add_lt_add_left below first)
      rwa [← Nat.add_assoc, ← Nat.add_assoc, Nat.add_right_comm start shift first] at byte
  · rintro ⟨front, back⟩ index below
    rcases Nat.lt_or_ge index first with inFront | inBack
    · exact front index inFront
    · obtain ⟨rest, rfl⟩ := Nat.exists_eq_add_of_le inBack
      have byte := back rest (Nat.lt_of_add_lt_add_left below)
      rwa [← Nat.add_assoc, ← Nat.add_assoc, Nat.add_right_comm start shift first]

end InspurIpmi.Foundation

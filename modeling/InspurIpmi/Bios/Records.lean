import InspurIpmi.Bios.Effects

/-!
# The fields of a record

The sender lays a record out without gaps, the memory copy has the layout of the
compiler. A copy byte by byte keeps what stands in front of the first number.
-/

set_option autoImplicit false

namespace InspurIpmi

open Foundation

namespace AssetType

def fields : AssetType → List CField
  | cpu => cpuInfoData
  | mem => memInfoData
  | fwRevision => revisionInfoData

def count : AssetType → ℕ
  | cpu => 1
  | mem => 2
  | fwRevision => 2

theorem size_eq (type : AssetType) : type.size = type.count * sizeOfStruct type.fields := by
  cases type <;> decide

theorem fields_aligned (type : AssetType) : ∀ field ∈ type.fields, 0 < field.align := by
  cases type <;> simp [fields, cpuInfoData, memInfoData, revisionInfoData, CField.bytes,
    CField.uint16]

end AssetType

/-- The records are in memory, and each of their fields is that of the payload. -/
def FieldsDecoded (type : AssetType) (request : Buffer) (world : World) : Prop :=
  ∃ after, (updateAssetInfoShareMemory request).run world = (.returned ccOk, after) ∧
    Decoded type.fields type.count (after.records type.object) (payload request)

/-- Where a number moves everything behind it, the payload has to look the same
from there. -/
def PayloadUnmoved (wire : Buffer) : AssetType → Prop
  | .cpu => Repeats wire 1 81 8
  | .mem => Repeats wire 1 21 25 ∧ Repeats wire 2 46 4
  | .fwRevision => True

theorem fieldsDecoded_iff_wire {type : AssetType} {request : Buffer} (world : World)
    (supported : AssetType.ofDeviceType? (request 0) = some type) :
    FieldsDecoded type request world ↔
      Decoded type.fields type.count (payload request) (payload request) := by
  have ran := run_updateAssetInfoShareMemory_supported supported world
  have copied : ∀ index < type.count * sizeOfStruct type.fields,
      ((world.setRecord type type.size (payload request)).markGot type).records type.object index =
        payload request index := by
    intro index below
    rw [← type.size_eq] at below
    exact World.setRecord_same type below (payload request) world
  rw [← decoded_copy_iff type.fields_aligned copied]
  constructor
  · rintro ⟨after, ranAfter, decoded⟩
    rw [ran] at ranAfter
    cases ranAfter
    exact decoded
  · intro decoded
    exact ⟨_, ran, decoded⟩

/-!
## The three layouts
-/

theorem placed_cpuInfoData : placed cpuInfoData =
    [⟨.bytes "Present" 1, 0, 0⟩, ⟨.bytes "ProcessorName" 50, 1, 1⟩, ⟨.bytes "Signature" 8, 51, 51⟩,
      ⟨.bytes "MicroCode" 10, 59, 59⟩, ⟨.bytes "Maxspeed" 10, 69, 69⟩, ⟨.bytes "Core" 1, 79, 79⟩,
      ⟨.bytes "UsedCore" 1, 80, 80⟩, ⟨.uint16 "L1_Data", 82, 81⟩, ⟨.uint16 "L2_Cache", 84, 83⟩,
      ⟨.uint16 "L3_Cache", 86, 85⟩, ⟨.uint16 "CPUTDP", 88, 87⟩] := rfl

theorem placed_memInfoData : placed memInfoData =
    [⟨.bytes "Status" 1, 0, 0⟩, ⟨.bytes "Manufacture" 10, 1, 1⟩, ⟨.bytes "SN_Number" 10, 11, 11⟩,
      ⟨.uint16 "Capacity", 22, 21⟩, ⟨.uint16 "Speed", 24, 23⟩] := rfl

-- The sizes that the header gives for the records.
example : packedSize cpuInfoData = 89 ∧ packedSize memInfoData = 25 ∧
    packedSize revisionInfoData = 50 := by decide

/-- The four numbers at the end stand one byte behind their place in the payload. -/
theorem decoded_cpu_iff {wire : Buffer} :
    Decoded cpuInfoData 1 wire wire ↔ Repeats wire 1 81 8 := by
  have numbers : Repeats wire 1 81 (2 + 2 + 2 + 2) ↔
      ((Repeats wire 1 81 2 ∧ Repeats wire 1 83 2) ∧ Repeats wire 1 85 2) ∧ Repeats wire 1 87 2 := by
    rw [repeats_append, repeats_append, repeats_append]
  refine Iff.trans ?_ numbers.symm
  unfold Decoded
  simp only [placed_cpuInfoData, Nat.lt_one_iff, forall_eq, List.forall_mem_cons]
  constructor
  · rintro ⟨_, _, _, _, _, _, _, l1, l2, l3, tdp, _⟩
    exact ⟨⟨⟨l1, l2⟩, l3⟩, tdp⟩
  · rintro ⟨⟨⟨l1, l2⟩, l3⟩, tdp⟩
    exact ⟨fun _ _ => rfl, fun _ _ => rfl, fun _ _ => rfl, fun _ _ => rfl, fun _ _ => rfl,
      fun _ _ => rfl, fun _ _ => rfl, l1, l2, l3, tdp, fun _ none => absurd none List.not_mem_nil⟩

/-- The numbers of the first record move by one byte, and with them all of the
second record, whose own numbers then move by two. -/
theorem decoded_mem_iff {wire : Buffer} :
    Decoded memInfoData 2 wire wire ↔ Repeats wire 1 21 25 ∧ Repeats wire 2 46 4 := by
  have moved : Repeats wire 1 21 (2 + 2 + 1 + 10 + 10) ↔
      (((Repeats wire 1 21 2 ∧ Repeats wire 1 23 2) ∧ Repeats wire 1 25 1) ∧
        Repeats wire 1 26 10) ∧ Repeats wire 1 36 10 := by
    rw [repeats_append, repeats_append, repeats_append, repeats_append]
  have movedTwice : Repeats wire 2 46 (2 + 2) ↔ Repeats wire 2 46 2 ∧ Repeats wire 2 48 2 :=
    repeats_append
  refine Iff.trans ?_ (and_congr moved movedTwice).symm
  unfold Decoded
  rw [Nat.forall_lt_succ_right]
  simp only [placed_memInfoData, Nat.lt_one_iff, forall_eq, List.forall_mem_cons]
  constructor
  · rintro ⟨⟨_, _, _, capacity, speed, _⟩, status, manufacture, sn, capacity', speed', _⟩
    exact ⟨⟨⟨⟨⟨capacity, speed⟩, status⟩, manufacture⟩, sn⟩, capacity', speed'⟩
  · rintro ⟨⟨⟨⟨⟨capacity, speed⟩, status⟩, manufacture⟩, sn⟩, capacity', speed'⟩
    exact ⟨⟨fun _ _ => rfl, fun _ _ => rfl, fun _ _ => rfl, capacity, speed,
        fun _ none => absurd none List.not_mem_nil⟩,
      status, manufacture, sn, capacity', speed', fun _ none => absurd none List.not_mem_nil⟩

theorem decoded_fwRevision (wire : Buffer) : Decoded revisionInfoData 2 wire wire :=
  decoded_of_unpadded rfl (by decide) 2 wire

/-- A packed payload is decoded field by field exactly when moving it by the
padding changes nothing. -/
theorem fieldsDecoded_iff {type : AssetType} {request : Buffer} (world : World)
    (supported : AssetType.ofDeviceType? (request 0) = some type) :
    FieldsDecoded type request world ↔ PayloadUnmoved (payload request) type := by
  rw [fieldsDecoded_iff_wire world supported]
  cases type with
  | cpu => exact decoded_cpu_iff
  | mem => exact decoded_mem_iff
  | fwRevision => exact iff_of_true (decoded_fwRevision (payload request)) trivial

theorem fieldsDecoded_iff_uniform :
    FieldsDecoded .cpu (fun _ => deviceTypeCpu) World.boot ↔
      PayloadUnmoved (payload fun _ => deviceTypeCpu) .cpu :=
  fieldsDecoded_iff World.boot (by decide)

/-- A processor record whose first cache size is `1` in the low byte. -/
def cpuRequest : Buffer := fun index =>
  if index = 0 then deviceTypeCpu else if index = 14 + 81 then 1 else 0

theorem cpu_fields_moved : ¬ FieldsDecoded .cpu cpuRequest World.boot := by
  intro decoded
  have repeats := decoded_cpu_iff.mp ((fieldsDecoded_iff_wire World.boot (by decide)).mp decoded)
  exact absurd (repeats 0 (by decide)) (by decide)

end InspurIpmi

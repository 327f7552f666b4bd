import InspurIpmi.Platform
import Mathlib.Data.List.Basic

/-!
# Storing a MAC address

`ipmiSetMACToEEPROM` from `i2c.cpp`.
-/

set_option autoImplicit false

namespace InspurIpmi

open Foundation

def setMACAddressInfoReqSize : ℕ := 10

/-- What `fopen`, `fseek` and `fwrite` answer, and how many bytes the file takes from
the buffer of the stream when it is closed. -/
structure MacCalls where
  opened : Bool
  seeks : Bool
  written : Bool
  flushed : ℕ

def hexText (byte : UInt8) : CString := Nat.toDigits 16 byte.toNat

def macEepromFile (i2cId eepromId : UInt8) : CString :=
  "/sys/bus/i2c/devices/".toList ++ hexText i2cId ++ "-00".toList ++ hexText eepromId ++
    "/eeprom".toList

def macOffset (laddress saddress : UInt8) : ℕ := laddress.toNat * 256 + saddress.toNat

/-- The file that cannot be opened, and bytes that stay in the buffer, are not
reported. -/
def ipmiSetMACToEEPROM (calls : MacCalls) (request : Buffer) : Daemon CompletionCode := do
  if (← getDataLen) ≠ setMACAddressInfoReqSize then
    setDataLen 0
    return ccReqDataLenInvalid
  let eepromFileName := macEepromFile (request 0) (request 1)
  let offset := macOffset (request 2) (request 3)
  let file ← Process.gets fun world => world.files eepromFileName
  if !(calls.opened && file.isSome) then
    return ccOk
  if !calls.seeks then
    return ccUnspecifiedError
  if !calls.written then
    return ccUnspecifiedError
  Process.modify fun world =>
    world.overwrite eepromFileName offset (min calls.flushed 6) fun index => request (4 + index)
  return ccOk

/-!
## What the handler answers
-/

def MacCalls.fails (calls : MacCalls) (present : Bool) : Bool :=
  present && calls.opened && !(calls.seeks && calls.written)

theorem run_ipmiSetMACToEEPROM_length {calls : MacCalls} {request : Buffer} {world : World}
    (wrong : world.dataLen ≠ setMACAddressInfoReqSize) :
    (ipmiSetMACToEEPROM calls request).run world =
      (.returned ccReqDataLenInvalid, { world with dataLen := 0 }) := by
  unfold ipmiSetMACToEEPROM
  rw [run_getDataLen_bind, if_pos wrong]
  rfl

/-- The bytes that reach the file of the name that was formatted. -/
def MacCalls.stored (calls : MacCalls) (request : Buffer) (files : CString → Option Buffer) :
    CString → Option Buffer :=
  let name := macEepromFile (request 0) (request 1)
  match files name with
  | none => files
  | some file =>
      if calls.opened && calls.seeks && calls.written then
        Function.update files name
          (some (overlay file (macOffset (request 2) (request 3)) (min calls.flushed 6)
            fun index => request (4 + index)))
      else files

/-- How many bytes reach a file that is there. -/
def MacCalls.taken (calls : MacCalls) : ℕ :=
  if calls.opened && calls.seeks && calls.written then min calls.flushed 6 else 0

theorem MacCalls.taken_le (calls : MacCalls) : calls.taken ≤ 6 := by
  unfold MacCalls.taken
  split
  · exact Nat.min_le_right _ _
  · exact Nat.zero_le _

def World.macStored (world : World) (calls : MacCalls) (request : Buffer) : World :=
  world.overwrite (macEepromFile (request 0) (request 1)) (macOffset (request 2) (request 3))
    calls.taken fun index => request (4 + index)

theorem World.files_macStored (world : World) (calls : MacCalls) (request : Buffer) :
    (world.macStored calls request).files = calls.stored request world.files := by
  unfold World.macStored MacCalls.stored MacCalls.taken
  cases present : world.files (macEepromFile (request 0) (request 1)) with
  | none => simp only [World.overwrite_missing present, present]
  | some file =>
      simp only [present]
      split
      · rw [World.files_overwrite, present]
        rfl
      · rw [World.overwrite_zero]

theorem run_ipmiSetMACToEEPROM_store {calls : MacCalls} {request : Buffer} {world : World}
    (right : world.dataLen = setMACAddressInfoReqSize) :
    (ipmiSetMACToEEPROM calls request).run world =
      (.returned
        (if calls.fails (world.files (macEepromFile (request 0) (request 1))).isSome then
          ccUnspecifiedError else ccOk),
        world.macStored calls request) := by
  unfold ipmiSetMACToEEPROM World.macStored MacCalls.taken
  rw [run_getDataLen_bind, if_neg (not_not_intro right)]
  simp only [Process.run_gets_bind]
  obtain ⟨opened, seeks, written, flushed⟩ := calls
  cases present : world.files (macEepromFile (request 0) (request 1)) with
  | none =>
      rw [World.overwrite_missing present]
      cases opened <;> rfl
  | some file =>
      cases opened <;> cases seeks <;> cases written <;>
        first
        | rfl
        | exact congrArg (Prod.mk _) (World.overwrite_zero _ _ _ _).symm

/-!
## The name of the file
-/

/-- The kernel names a device by its bus in decimal and its address in four
hexadecimal digits. -/
def kernelEepromFile (i2cId eepromId : UInt8) : CString :=
  "/sys/bus/i2c/devices/".toList ++ Nat.toDigits 10 i2cId.toNat ++ "-".toList ++
    (Nat.toDigits 16 eepromId.toNat).leftpad 4 '0' ++ "/eeprom".toList

theorem hexText_eq_decimal_iff (i2cId : UInt8) :
    hexText i2cId = Nat.toDigits 10 i2cId.toNat ↔ i2cId.toNat < 10 := by
  have table : ∀ number < 256, Nat.toDigits 16 number = Nat.toDigits 10 number ↔ number < 10 := by
    decide +kernel
  exact table i2cId.toNat i2cId.toNat_lt

theorem padded_eq_hexText_iff (eepromId : UInt8) :
    "00".toList ++ hexText eepromId = (Nat.toDigits 16 eepromId.toNat).leftpad 4 '0' ↔
      16 ≤ eepromId.toNat := by
  have table : ∀ number < 256,
      "00".toList ++ Nat.toDigits 16 number = (Nat.toDigits 16 number).leftpad 4 '0' ↔
        16 ≤ number := by
    decide +kernel
  exact table eepromId.toNat eepromId.toNat_lt

theorem dash_not_mem_hexText (byte : UInt8) : '-' ∉ hexText byte := by
  have table : ∀ number < 256, '-' ∉ Nat.toDigits 16 number := by decide +kernel
  exact table byte.toNat byte.toNat_lt

/-- Both names have one dash, with the bus in front of it. -/
theorem names_eq_iff {front back bus device named kernel : CString} (noDash : '-' ∉ bus)
    (noDashBack : '-' ∉ device ++ back) :
    front ++ bus ++ '-' :: device ++ back = front ++ named ++ ['-'] ++ kernel ++ back ↔
      bus = named ∧ device = kernel := by
  simp only [List.append_assoc, List.cons_append, List.nil_append]
  rw [List.append_cancel_left_eq, List.append_cons_inj_of_notMem noDash noDashBack,
    List.append_cancel_right_eq]
  simp only [true_and]

/-- The name formatted for one device is the kernel's name of another exactly where
the digits are the same. -/
theorem macEepromFile_eq_kernel_iff (i2cId eepromId bus device : UInt8) :
    macEepromFile i2cId eepromId = kernelEepromFile bus device ↔
      hexText i2cId = Nat.toDigits 10 bus.toNat ∧
        "00".toList ++ hexText eepromId = (Nat.toDigits 16 device.toNat).leftpad 4 '0' := by
  have back : '-' ∉ "00".toList ++ hexText eepromId ++ "/eeprom".toList := by
    intro member
    rcases List.mem_append.mp member with inName | inSuffix
    · rcases List.mem_append.mp inName with inZeros | inDigits
      · exact absurd inZeros (by decide)
      · exact dash_not_mem_hexText eepromId inDigits
    · exact absurd inSuffix (by decide)
  have formatted : macEepromFile i2cId eepromId = "/sys/bus/i2c/devices/".toList ++
      hexText i2cId ++ '-' :: ("00".toList ++ hexText eepromId) ++ "/eeprom".toList := by
    have dash : "-00".toList = '-' :: "00".toList := by decide
    have joined := congrArg (fun text => "/sys/bus/i2c/devices/".toList ++ hexText i2cId ++ text ++
      hexText eepromId ++ "/eeprom".toList) dash
    refine joined.trans ?_
    simp only [List.append_assoc, List.cons_append]
  rw [formatted]
  exact names_eq_iff (dash_not_mem_hexText i2cId) back

/-- The name formatted is the kernel's name exactly for a bus with one digit and an
address with two. -/
theorem macEepromFile_eq_iff (i2cId eepromId : UInt8) :
    macEepromFile i2cId eepromId = kernelEepromFile i2cId eepromId ↔
      i2cId.toNat < 10 ∧ 16 ≤ eepromId.toNat := by
  rw [macEepromFile_eq_kernel_iff, hexText_eq_decimal_iff, padded_eq_hexText_iff]

theorem chipFile_eq : chipFile = kernelEepromFile 1 0x50 := by decide

/-!
## What is stored
-/

def macValue (request : Buffer) : Buffer := fun index => request (4 + index)

/-- The six bytes are in the EEPROM that is addressed, and nothing else changed. -/
def MacInPlace (request : Buffer) (before after : CString → Option Buffer) : Prop :=
  ∃ file, before (kernelEepromFile (request 0) (request 1)) = some file ∧
    after (kernelEepromFile (request 0) (request 1)) =
      some (overlay file (macOffset (request 2) (request 3)) 6 (macValue request)) ∧
    ∀ other, other ≠ kernelEepromFile (request 0) (request 1) → after other = before other

/-- Success is answered only with the address in place. -/
def MacStored (calls : MacCalls) (request : Request) (world : World) : Prop :=
  ∀ after, (ipmiSetMACToEEPROM calls request.bytes).run (world.receive request.length) =
      (.returned ccOk, after) →
    MacInPlace request.bytes world.files after.files

/-- The code gets the name right. -/
def NameFits (request : Buffer) : Prop := (request 0).toNat < 10 ∧ 16 ≤ (request 1).toNat

/-- The EEPROM exists, and each byte either leaves the buffer for it or is there
already. Under a wrong name nothing may be written that was not there. -/
def MacDelivered (calls : MacCalls) (request : Buffer) (files : CString → Option Buffer) : Prop :=
  ∃ file, files (kernelEepromFile (request 0) (request 1)) = some file ∧
    (∀ index < 6,
      (NameFits request ∧ calls.opened = true ∧ index < calls.flushed) ∨
        file (macOffset (request 2) (request 3) + index) = macValue request index) ∧
    (¬ NameFits request → calls.opened = true →
      ∀ other, files (macEepromFile (request 0) (request 1)) = some other →
        ∀ index < 6, index < calls.flushed →
          other (macOffset (request 2) (request 3) + index) = macValue request index)

variable {calls : MacCalls} {files : CString → Option Buffer}

/-- Nothing was written: the bytes must have been there. -/
theorem macInPlace_unchanged_iff {request : Buffer} :
    MacInPlace request files files ↔
      ∃ file, files (kernelEepromFile (request 0) (request 1)) = some file ∧
        Holds file (macOffset (request 2) (request 3)) 6 (macValue request) := by
  unfold MacInPlace
  refine exists_congr fun file => and_congr_right fun present => ?_
  rw [present, Option.some.injEq, eq_comm, overlay_eq_self_iff]
  exact and_iff_left fun _ _ => rfl

theorem MacCalls.stored_unchanged {request : Buffer}
    (unwritten : calls.opened = true → files (macEepromFile (request 0) (request 1)) = none) :
    calls.stored request files = files := by
  unfold MacCalls.stored
  dsimp only
  cases opened : calls.opened with
  | false => cases files (macEepromFile (request 0) (request 1)) <;> rfl
  | true =>
    rw [unwritten opened]

theorem MacCalls.stored_written {request file : Buffer}
    (present : files (macEepromFile (request 0) (request 1)) = some file)
    (succeeds : calls.opened = true ∧ calls.seeks = true ∧ calls.written = true) :
    calls.stored request files =
      Function.update files (macEepromFile (request 0) (request 1))
        (some (overlay file (macOffset (request 2) (request 3)) (min calls.flushed 6)
          (macValue request))) := by
  obtain ⟨opened, seeks, written⟩ := succeeds
  unfold MacCalls.stored
  simp only [present, opened, seeks, written, Bool.and_self, if_true]
  rfl

theorem macDelivered_iff_unwritten {request : Buffer}
    (unwritten : calls.opened = true → files (macEepromFile (request 0) (request 1)) = none) :
    MacDelivered calls request files ↔
      ∃ file, files (kernelEepromFile (request 0) (request 1)) = some file ∧
        Holds file (macOffset (request 2) (request 3)) 6 (macValue request) := by
  refine exists_congr fun file => and_congr_right fun present => ?_
  have noName : ¬ (NameFits request ∧ calls.opened = true) := by
    rintro ⟨fits, opened⟩
    have missing := unwritten opened
    rw [(macEepromFile_eq_iff (request 0) (request 1)).mpr fits, present] at missing
    cases missing
  constructor
  · rintro ⟨delivered, _⟩ index below
    exact (delivered index below).resolve_left fun flushed => noName ⟨flushed.1, flushed.2.1⟩
  · intro holds
    refine ⟨fun index below => .inr (holds index below), fun _ opened other found => ?_⟩
    rw [unwritten opened] at found
    cases found

theorem macInPlace_named_iff {request file : Buffer} (fits : NameFits request)
    (found : files (macEepromFile (request 0) (request 1)) = some file)
    (opened : calls.opened = true) :
    MacInPlace request files
        (Function.update files (macEepromFile (request 0) (request 1))
          (some (overlay file (macOffset (request 2) (request 3)) (min calls.flushed 6)
            (macValue request)))) ↔
      MacDelivered calls request files := by
  have same := (macEepromFile_eq_iff (request 0) (request 1)).mpr fits
  unfold MacInPlace MacDelivered
  rw [same] at found ⊢
  refine exists_congr fun before => and_congr_right fun present => ?_
  cases found.symm.trans present
  rw [Function.update_self, Option.some.injEq, overlay_shorter_iff (Nat.min_le_right _ _)]
  constructor
  · rintro ⟨delivered, _⟩
    refine ⟨fun index below => ?_, fun misfit => absurd fits misfit⟩
    refine (delivered index below).imp_left fun flushed => ⟨fits, opened, ?_⟩
    exact flushed.trans_le (Nat.min_le_left _ _)
  · rintro ⟨delivered, _⟩
    refine ⟨fun index below => ?_, fun other different => Function.update_of_ne different _ _⟩
    exact (delivered index below).imp_left fun flushed => lt_min flushed.2.2 below

theorem macInPlace_misnamed_iff {request file : Buffer} (misfit : ¬ NameFits request)
    (found : files (macEepromFile (request 0) (request 1)) = some file)
    (opened : calls.opened = true) :
    MacInPlace request files
        (Function.update files (macEepromFile (request 0) (request 1))
          (some (overlay file (macOffset (request 2) (request 3)) (min calls.flushed 6)
            (macValue request)))) ↔
      MacDelivered calls request files := by
  have different : macEepromFile (request 0) (request 1) ≠
      kernelEepromFile (request 0) (request 1) :=
    mt (macEepromFile_eq_iff (request 0) (request 1)).mp misfit
  unfold MacInPlace MacDelivered
  refine exists_congr fun before => and_congr_right fun present => ?_
  rw [Function.update_of_ne different.symm, present, Option.some.injEq, eq_comm,
    overlay_eq_self_iff]
  constructor
  · rintro ⟨holds, others⟩
    refine ⟨fun index below => .inr (holds index below), fun _ _ other present index below left => ?_⟩
    have kept := others _ different
    rw [Function.update_self, found, Option.some.injEq, overlay_eq_self_iff] at kept
    cases found.symm.trans present
    exact kept index (lt_min left below)
  · rintro ⟨delivered, harmless⟩
    refine ⟨fun index below => (delivered index below).resolve_left fun flushed => misfit flushed.1,
      fun other outside => ?_⟩
    by_cases misnamed : other = macEepromFile (request 0) (request 1)
    · subst misnamed
      rw [Function.update_self, found, Option.some.injEq, overlay_eq_self_iff]
      intro index below
      exact harmless misfit opened file found index (below.trans_le (Nat.min_le_right _ _))
        (below.trans_le (Nat.min_le_left _ _))
    · exact Function.update_of_ne misnamed _ _

/-- What reaches the files is what should exactly under the condition. -/
theorem macInPlace_stored_iff {request : Buffer}
    (succeeds : calls.fails (files (macEepromFile (request 0) (request 1))).isSome = false) :
    MacInPlace request files (calls.stored request files) ↔ MacDelivered calls request files := by
  by_cases unwritten : calls.opened = true → files (macEepromFile (request 0) (request 1)) = none
  · rw [MacCalls.stored_unchanged unwritten, macInPlace_unchanged_iff,
      macDelivered_iff_unwritten unwritten]
  · obtain ⟨opened, present⟩ := Classical.not_imp.mp unwritten
    obtain ⟨file, found⟩ := Option.ne_none_iff_exists'.mp present
    have good : calls.seeks = true ∧ calls.written = true := by
      simpa [MacCalls.fails, found, opened] using succeeds
    rw [MacCalls.stored_written found ⟨opened, good⟩]
    by_cases fits : NameFits request
    · exact macInPlace_named_iff fits found opened
    · exact macInPlace_misnamed_iff fits found opened

theorem macStored_iff_inPlace {request : Request} {world : World}
    (right : request.length = setMACAddressInfoReqSize) :
    MacStored calls request world ↔
      (calls.fails (world.files (macEepromFile (request.bytes 0) (request.bytes 1))).isSome =
          false →
        MacInPlace request.bytes world.files (calls.stored request.bytes world.files)) := by
  have ran : (ipmiSetMACToEEPROM calls request.bytes).run (world.receive request.length) = _ :=
    run_ipmiSetMACToEEPROM_store right
  have files := (world.receive request.length).files_macStored calls request.bytes
  unfold MacStored
  rw [ran]
  change (∀ after, (Outcome.returned (if calls.fails (world.files _).isSome then _ else _), _) =
    (Outcome.returned ccOk, after) → _) ↔ _
  cases calls.fails
    (world.files (macEepromFile (request.bytes 0) (request.bytes 1))).isSome with
  | true =>
    refine iff_of_true ?_ fun succeeds => absurd succeeds.symm Bool.false_ne_true
    rintro after answered
    cases answered
  | false =>
    constructor
    · intro stored _
      exact files ▸ stored _ rfl
    · rintro inPlace after ⟨⟩
      exact files ▸ inPlace rfl

/-- A MAC address reported as stored is stored exactly when the kernel's name has
the form the code expects and every byte leaves the buffer, or all is as asked
already. -/
theorem macStored_iff {request : Request} {world : World} :
    MacStored calls request world ↔
      (request.length = setMACAddressInfoReqSize →
        calls.fails (world.files (macEepromFile (request.bytes 0) (request.bytes 1))).isSome =
            false →
          MacDelivered calls request.bytes world.files) := by
  by_cases right : request.length = setMACAddressInfoReqSize
  · rw [macStored_iff_inPlace right]
    constructor
    · intro inPlace _ succeeds
      exact (macInPlace_stored_iff succeeds).mp (inPlace succeeds)
    · intro delivered succeeds
      exact (macInPlace_stored_iff succeeds).mpr (delivered right succeeds)
  · have ran : (ipmiSetMACToEEPROM calls request.bytes).run (world.receive request.length) = _ :=
      run_ipmiSetMACToEEPROM_length right
    refine iff_of_true ?_ fun ten => absurd ten right
    intro after answered
    rw [ran] at answered
    cases answered

def MacCalls.healthy : MacCalls := ⟨true, true, true, 6⟩

/-- A machine with one EEPROM besides that of `World.eeprom`, and no address stored yet. -/
def World.withEeprom (i2cId eepromId : UInt8) : World :=
  { World.boot with
    i2cFiles := fun name =>
      if name = kernelEepromFile i2cId eepromId then some fun _ => 0xFF else none }

theorem World.withEeprom_present (i2cId eepromId : UInt8) :
    (World.withEeprom i2cId eepromId).files (kernelEepromFile i2cId eepromId) =
      some fun _ => 0xFF := by
  unfold World.files
  by_cases chip : kernelEepromFile i2cId eepromId = chipFile
  · rw [chip, Function.update_self]
    rfl
  · rw [Function.update_of_ne chip]
    exact if_pos rfl

theorem World.withEeprom_missing {i2cId eepromId : UInt8}
    (misfit : ¬ (i2cId.toNat < 10 ∧ 16 ≤ eepromId.toNat)) :
    (World.withEeprom i2cId eepromId).files (macEepromFile i2cId eepromId) = none := by
  have one : ∀ number < 256, Nat.toDigits 16 number = Nat.toDigits 10 1 → number < 10 := by
    decide +kernel
  have padded : ∀ number < 256,
      "00".toList ++ Nat.toDigits 16 number = (Nat.toDigits 16 0x50).leftpad 4 '0' →
        16 ≤ number := by decide +kernel
  have elsewhere : macEepromFile i2cId eepromId ≠ chipFile := by
    rw [chipFile_eq]
    intro named
    obtain ⟨bus, device⟩ := (macEepromFile_eq_kernel_iff _ _ _ _).mp named
    exact misfit ⟨one _ i2cId.toNat_lt bus, padded _ eepromId.toNat_lt device⟩
  unfold World.files
  rw [Function.update_of_ne elsewhere]
  exact if_neg (mt (macEepromFile_eq_iff i2cId eepromId).mp misfit)

/-- The file that cannot be opened is taken for a success. -/
theorem not_macStored_of_misnamed {request : Request}
    (right : request.length = setMACAddressInfoReqSize) (misfit : ¬ NameFits request.bytes)
    (other : macValue request.bytes 0 ≠ 0xFF) :
    ¬ MacStored calls request (World.withEeprom (request.bytes 0) (request.bytes 1)) := by
  intro stored
  have missing := World.withEeprom_missing misfit
  have inPlace := (macStored_iff_inPlace right).mp stored (by rw [missing]; rfl)
  rw [MacCalls.stored_unchanged fun _ => missing, macInPlace_unchanged_iff] at inPlace
  obtain ⟨file, present, holds⟩ := inPlace
  cases (World.withEeprom_present _ _).symm.trans present
  exact other (holds 0 (by decide)).symm

def storeOnBus10 : Request := ⟨fun index => [10, 0x50].getD index 0, 10⟩

/-- The name for bus `10` begins with `a`. -/
theorem macStored_lost_by_bus_10 :
    ¬ MacStored .healthy storeOnBus10
      (World.withEeprom (storeOnBus10.bytes 0) (storeOnBus10.bytes 1)) :=
  not_macStored_of_misnamed rfl (fun fits => absurd fits.1 (by decide)) (by decide)

end InspurIpmi

import InspurIpmi.Foundation.LabelledText
import InspurIpmi.OemCommands

/-!
# The status of firmware updates

`ipmiOEMSendEmbeddedFwUpdStatus` of `oemcommands.cpp`: each report of a firmware update
becomes one line of the journal.
-/

set_option autoImplicit false

namespace InspurIpmi

open Foundation

inductive FirmwareKind where
  | bmc
  | bios
  | me
  | ews
  deriving DecidableEq, Repr

/-- The constants of `target`, which the source takes from a header of another project. -/
structure FirmwareHeader where
  selEvtTargetMask : UInt8
  selEvtTargetShift : ℕ
  targetInstanceMask : UInt8
  targetInstanceShift : ℕ
  targetBMC : UInt8
  targetBIOS : UInt8
  targetME : UInt8
  targetOEMEWS : UInt8

structure FwUpdStatus where
  status : UInt8
  target : UInt8
  majorRevision : UInt8
  minorRevision : UInt8
  auxInfo : UInt32
  deriving DecidableEq, Repr

/-!
## The line
-/

def bcdToDec (val : UInt8) : UInt8 := UInt8.ofNat (val.toNat / 16 * 10 + val.toNat % 16)

def stdToString (number : Int) : CString :=
  if number < 0 then '-' :: Nat.toDigits 10 number.natAbs else Nat.toDigits 10 number.natAbs

def auxByte (auxInfo : UInt32) (shift : ℕ) : UInt8 := UInt8.ofNat (auxInfo.toNat >>> shift)

/-- The target after the assignment to itself. -/
def maskedTarget (header : FirmwareHeader) (target : UInt8) : UInt8 :=
  UInt8.ofNat ((target &&& header.selEvtTargetMask).toNat >>> header.selEvtTargetShift)

def firmwareKind (header : FirmwareHeader) (target : UInt8) : Option FirmwareKind :=
  if target = header.targetBMC then some .bmc
  else if target = header.targetBIOS then some .bios
  else if target = header.targetME then some .me
  else if target = header.targetOEMEWS then some .ews
  else none

def firmwareName : Option FirmwareKind → CString
  | some .bmc => "BMC".toList
  | some .bios => "BIOS".toList
  | some .me => "ME".toList
  | some .ews => "EWS".toList
  | none => []

/-- Each byte is printed as its distance from `'0'`. -/
def releaseNumber (auxInfo : UInt32) : CString :=
  [0, 8, 16, 24].flatMap fun shift => stdToString ((auxByte auxInfo shift).toNat - 0x30)

def majorMinor (major minor : ℕ) : List (CString × ℕ) :=
  [(" major: ".toList, major), (" minor: ".toList, minor)]

def buildInfo (request : FwUpdStatus) : Option FirmwareKind → CString
  | some .bmc =>
      -- The number is appended once more behind the switch's own text.
      labelled (majorMinor request.majorRevision.toNat (bcdToDec request.minorRevision).toNat ++
          [(" BuildID: ".toList, request.auxInfo.toNat)]) ++
        Nat.toDigits 10 request.auxInfo.toNat
  | some .bios =>
      labelled (majorMinor (bcdToDec request.majorRevision).toNat
          (bcdToDec request.minorRevision).toNat) ++
        " ReleaseNumber: ".toList ++ releaseNumber request.auxInfo
  | some .me =>
      labelled [(" major: ".toList, request.majorRevision.toNat),
        (" minor1: ".toList, (bcdToDec request.minorRevision).toNat),
        (" minor2: ".toList, (bcdToDec (auxByte request.auxInfo 0)).toNat),
        (" build1: ".toList, (bcdToDec (auxByte request.auxInfo 8)).toNat),
        (" build2: ".toList, (bcdToDec (auxByte request.auxInfo 16)).toNat)]
  | some .ews =>
      labelled (majorMinor request.majorRevision.toNat (bcdToDec request.minorRevision).toNat ++
        [(" BuildID: ".toList, request.auxInfo.toNat)])
  | none => []

def updateAction (status : UInt8) : CString :=
  if status = 0 then "update started".toList
  else if status = 1 then "update completed successfully".toList
  else if status = 2 then "update failure".toList
  else "unknown".toList

/-- The instance is taken from the target that is masked and shifted already. -/
def targetInstance (header : FirmwareHeader) (target : UInt8) : ℕ :=
  (maskedTarget header target &&& header.targetInstanceMask).toNat >>> header.targetInstanceShift

def messageTag : CString := "[firmware update] ".toList

def updateMessage (header : FirmwareHeader) (request : FwUpdStatus) : CString :=
  let kind := firmwareKind header (maskedTarget header request.target)
  messageTag ++ firmwareName kind ++ " instance: ".toList ++
    Nat.toDigits 10 (targetInstance header request.target) ++
    " status: <".toList ++ updateAction request.status ++ ">".toList ++ buildInfo request kind

/-- The state is the journal. -/
abbrev Journal (α : Type) := Process (List CString) OemException α

/-- Whether the journal takes the line is not looked at. -/
def sdJournalSend (takes : Bool) (line : CString) : Journal Unit :=
  if takes then Process.modify fun journal => journal ++ [line] else pure ()

def ipmiOEMSendEmbeddedFwUpdStatus (header : FirmwareHeader) (takes : Bool) (request : FwUpdStatus) :
    Journal CompletionCode := do
  if 2 < request.status then
    return ccInvalidFieldRequest
  sdJournalSend takes (updateMessage header request)
  return ccSuccess

/-!
## What a line tells
-/

/-- What a request says of the firmware. Revisions that are coded in decimal count with the
number they stand for, and the release of the BIOS with its four bytes. -/
inductive FirmwareTold where
  | bmc (major minor build : ℕ)
  | bios (major minor : ℕ) (release : UInt32)
  | me (major minor1 minor2 build1 build2 : ℕ)
  | ews (major minor build : ℕ)
  | unknown
  deriving DecidableEq, Repr

structure Told where
  status : UInt8
  instanceNumber : ℕ
  firmware : FirmwareTold
  deriving DecidableEq, Repr

def told (header : FirmwareHeader) (request : FwUpdStatus) : Told where
  status := request.status
  instanceNumber := targetInstance header request.target
  firmware :=
    let minor := (bcdToDec request.minorRevision).toNat
    match firmwareKind header (maskedTarget header request.target) with
    | some .bmc => .bmc request.majorRevision.toNat minor request.auxInfo.toNat
    | some .bios => .bios (bcdToDec request.majorRevision).toNat minor request.auxInfo
    | some .me =>
        .me request.majorRevision.toNat minor (bcdToDec (auxByte request.auxInfo 0)).toNat
          (bcdToDec (auxByte request.auxInfo 8)).toNat (bcdToDec (auxByte request.auxInfo 16)).toNat
    | some .ews => .ews request.majorRevision.toNat minor request.auxInfo.toNat
    | none => .unknown

namespace FirmwareTold

def name : FirmwareTold → CString
  | bmc .. => "BMC".toList
  | bios .. => "BIOS".toList
  | me .. => "ME".toList
  | ews .. => "EWS".toList
  | unknown => []

def meFields (major minor1 minor2 build1 build2 : ℕ) : List (CString × ℕ) :=
  [(" major: ".toList, major), (" minor1: ".toList, minor1), (" minor2: ".toList, minor2),
    (" build1: ".toList, build1), (" build2: ".toList, build2)]

def buildId (major minor build : ℕ) : List (CString × ℕ) :=
  majorMinor major minor ++ [(" BuildID: ".toList, build)]

def info : FirmwareTold → CString
  | bmc major minor build => labelled (buildId major minor build) ++ Nat.toDigits 10 build
  | bios major minor release =>
      labelled (majorMinor major minor) ++ (" ReleaseNumber: ".toList ++ releaseNumber release)
  | me major minor1 minor2 build1 build2 => labelled (meFields major minor1 minor2 build1 build2)
  | ews major minor build => labelled (buildId major minor build)
  | unknown => []

end FirmwareTold

def Told.line (told : Told) : CString :=
  messageTag ++ told.firmware.name ++ " instance: ".toList ++
    Nat.toDigits 10 told.instanceNumber ++
    " status: <".toList ++ updateAction told.status ++ ">".toList ++ told.firmware.info

theorem told_name (header : FirmwareHeader) (request : FwUpdStatus) :
    (told header request).firmware.name =
      firmwareName (firmwareKind header (maskedTarget header request.target)) := by
  rw [told]
  cases firmwareKind header (maskedTarget header request.target) with
  | none => rfl
  | some kind => cases kind <;> rfl

theorem told_info (header : FirmwareHeader) (request : FwUpdStatus) :
    (told header request).firmware.info =
      buildInfo request (firmwareKind header (maskedTarget header request.target)) := by
  rw [told]
  cases firmwareKind header (maskedTarget header request.target) with
  | none => rfl
  | some kind =>
      cases kind with
      | bmc => rfl
      | bios => exact (List.append_assoc _ _ _).symm
      | me => rfl
      | ews => rfl

theorem updateMessage_eq (header : FirmwareHeader) (request : FwUpdStatus) :
    updateMessage header request = (told header request).line := by
  rw [Told.line, told_name, told_info]
  rfl

/-!
## A line tells the rest
-/

theorem name_spaceless (firmware : FirmwareTold) : ' ' ∉ firmware.name := by
  cases firmware <;> simp [FirmwareTold.name]

theorem updateAction_closed (status : UInt8) : '>' ∉ updateAction status := by
  unfold updateAction
  split_ifs <;> simp

theorem status_cases {status : UInt8} (valid : ¬ 2 < status) :
    status = 0 ∨ status = 1 ∨ status = 2 := by
  have bound : status.toNat ≤ 2 := UInt8.le_iff_toNat_le.mp (UInt8.not_lt.mp valid)
  have numbers : status.toNat = 0 ∨ status.toNat = 1 ∨ status.toNat = 2 := by omega
  rcases numbers with zero | one | two
  · exact .inl (UInt8.toNat_inj.mp zero)
  · exact .inr (.inl (UInt8.toNat_inj.mp one))
  · exact .inr (.inr (UInt8.toNat_inj.mp two))

theorem updateAction_injective {status other : UInt8} (valid : ¬ 2 < status)
    (otherValid : ¬ 2 < other) (same : updateAction status = updateAction other) : status = other := by
  rcases status_cases valid with rfl | rfl | rfl <;>
    rcases status_cases otherValid with rfl | rfl | rfl <;>
      first | rfl | simp [updateAction] at same

theorem separates_labels :
    ∀ label ∈ [" major: ", " minor: ", " BuildID: ", " minor1: ", " minor2: ", " build1: ",
      " build2: "].map String.toList, Separates label := by
  have separates : ∀ rest : CString, Separates (' ' :: rest) :=
    fun rest => ⟨' ', rest, rfl, by decide⟩
  intro label member
  simp only [List.map_cons, List.map_nil, List.mem_cons, List.not_mem_nil, or_false] at member
  rcases member with rfl | rfl | rfl | rfl | rfl | rfl | rfl <;> exact separates _

/-- The fields of two texts with the same labels can be told from them. -/
theorem fields_injective {first second : List (CString × ℕ)} {rest other : CString}
    (known : ∀ label ∈ first.map Prod.fst, label ∈ [" major: ", " minor: ", " BuildID: ", " minor1: ",
      " minor2: ", " build1: ", " build2: "].map String.toList)
    (labels : first.map Prod.fst = second.map Prod.fst) (ends : EndsNumber 10 rest)
    (otherEnds : EndsNumber 10 other) (same : labelled first ++ rest = labelled second ++ other) :
    first = second ∧ rest = other :=
  labelled_append_inj (fun label member => separates_labels label (known label member)) labels ends
    otherEnds same

theorem doubled_injective {first second : CString} (same : first ++ first = second ++ second) :
    first = second := by
  have lengths := congrArg List.length same
  rw [List.length_append, List.length_append] at lengths
  exact (List.append_inj same (by omega)).1

/-- The number of a build is printed twice in a row, which still tells it. -/
theorem bmc_info_injective {major minor build major' minor' build' : ℕ}
    (same : (FirmwareTold.bmc major minor build).info = (FirmwareTold.bmc major' minor' build').info) :
    FirmwareTold.bmc major minor build = .bmc major' minor' build' := by
  have parts : ∀ major minor build : ℕ, (FirmwareTold.bmc major minor build).info =
      labelled (majorMinor major minor) ++ (" BuildID: ".toList ++
        (Nat.toDigits 10 build ++ Nat.toDigits 10 build)) := by
    intro major minor build
    simp [FirmwareTold.info, FirmwareTold.buildId, labelled]
  rw [parts, parts] at same
  have ends : ∀ rest : CString, EndsNumber 10 (" BuildID: ".toList ++ rest) :=
    fun rest => endsNumber_cons (by decide) _
  obtain ⟨fields, behind⟩ := fields_injective (by simp [majorMinor]) (by rfl) (ends _) (ends _) same
  have digits := doubled_injective (List.append_cancel_left behind)
  have build_eq := (toDigits_append_inj (endsNumber_nil 10) (endsNumber_nil 10)
    (congrArg (· ++ []) digits)).1
  simp only [majorMinor, List.cons.injEq, Prod.mk.injEq, true_and, and_true] at fields
  rw [fields.1, fields.2, build_eq]

/-- The number of a release is sent as four digits. -/
def AsciiRelease (auxInfo : UInt32) : Prop :=
  ∀ shift ∈ [0, 8, 16, 24], 0x30 ≤ auxByte auxInfo shift ∧ auxByte auxInfo shift ≤ 0x39

instance (auxInfo : UInt32) : Decidable (AsciiRelease auxInfo) :=
  inferInstanceAs (Decidable (∀ shift ∈ [0, 8, 16, 24],
    0x30 ≤ auxByte auxInfo shift ∧ auxByte auxInfo shift ≤ 0x39))

theorem stdToString_digit {byte : UInt8} (digit : 0x30 ≤ byte ∧ byte ≤ 0x39) :
    stdToString (byte.toNat - 0x30) = [(byte.toNat - 0x30).digitChar] := by
  have low : 0x30 ≤ byte.toNat := UInt8.le_iff_toNat_le.mp digit.1
  have high : byte.toNat ≤ 0x39 := UInt8.le_iff_toNat_le.mp digit.2
  have positive : ¬ ((byte.toNat : Int) - 0x30 < 0) := by omega
  have distance : ((byte.toNat : Int) - 0x30).natAbs = byte.toNat - 0x30 := by omega
  rw [stdToString, if_neg positive, distance, Nat.toDigits_of_lt_base (by omega)]

theorem digit_injective {first second : UInt8} (digit : 0x30 ≤ first ∧ first ≤ 0x39)
    (otherDigit : 0x30 ≤ second ∧ second ≤ 0x39)
    (same : (first.toNat - 0x30).digitChar = (second.toNat - 0x30).digitChar) : first = second := by
  have values : ∀ number < 10, digitValue? 10 number.digitChar = some number := by decide
  have low : 0x30 ≤ first.toNat := UInt8.le_iff_toNat_le.mp digit.1
  have high : first.toNat ≤ 0x39 := UInt8.le_iff_toNat_le.mp digit.2
  have otherLow : 0x30 ≤ second.toNat := UInt8.le_iff_toNat_le.mp otherDigit.1
  have otherHigh : second.toNat ≤ 0x39 := UInt8.le_iff_toNat_le.mp otherDigit.2
  have read := values (first.toNat - 0x30) (by omega)
  rw [same, values (second.toNat - 0x30) (by omega)] at read
  have numbers := Option.some.inj read
  exact UInt8.toNat_inj.mp (by omega)

theorem auxByte_toNat (auxInfo : UInt32) (shift : ℕ) :
    (auxByte auxInfo shift).toNat = auxInfo.toNat / 2 ^ shift % 256 := by
  rw [auxByte, UInt8.toNat_ofNat', Nat.shiftRight_eq_div_pow]

theorem eq_of_auxBytes {first second : UInt32}
    (same : ∀ shift ∈ [0, 8, 16, 24], auxByte first shift = auxByte second shift) : first = second := by
  have bytes : ∀ shift ∈ [0, 8, 16, 24],
      first.toNat / 2 ^ shift % 256 = second.toNat / 2 ^ shift % 256 := by
    intro shift member
    rw [← auxByte_toNat, ← auxByte_toNat, same shift member]
  have bound := first.toNat_lt
  have otherBound := second.toNat_lt
  simp only [List.forall_mem_cons, List.not_mem_nil, false_implies, implies_true, and_true] at bytes
  exact UInt32.toNat_inj.mp (by omega)

/-- Numbers of one digit each need no separator. -/
theorem releaseNumber_injective {first second : UInt32} (digits : AsciiRelease first)
    (otherDigits : AsciiRelease second) (same : releaseNumber first = releaseNumber second) :
    first = second := by
  have printed : ∀ {auxInfo : UInt32}, AsciiRelease auxInfo → releaseNumber auxInfo =
      [0, 8, 16, 24].map fun shift => ((auxByte auxInfo shift).toNat - 0x30).digitChar := by
    intro auxInfo ascii
    rw [List.map_eq_flatMap, releaseNumber]
    exact List.flatMap_congr fun shift member => stdToString_digit (ascii shift member)
  rw [printed digits, printed otherDigits] at same
  refine eq_of_auxBytes fun shift member => ?_
  exact digit_injective (digits shift member) (otherDigits shift member)
    (List.map_inj_left.mp same shift member)

theorem bios_info_injective {major minor major' minor' : ℕ} {release release' : UInt32}
    (digits : AsciiRelease release) (otherDigits : AsciiRelease release')
    (same : (FirmwareTold.bios major minor release).info =
      (FirmwareTold.bios major' minor' release').info) :
    FirmwareTold.bios major minor release = .bios major' minor' release' := by
  have ends : ∀ rest : CString, EndsNumber 10 (" ReleaseNumber: ".toList ++ rest) :=
    fun rest => endsNumber_cons (by decide) _
  obtain ⟨fields, behind⟩ := fields_injective (by simp [majorMinor]) (by rfl) (ends _) (ends _) same
  have releases := releaseNumber_injective digits otherDigits (List.append_cancel_left behind)
  simp only [majorMinor, List.cons.injEq, Prod.mk.injEq, true_and, and_true] at fields
  rw [fields.1, fields.2, releases]

/-- Of the numbers in the line only that of a release may run together. -/
def FirmwareTold.Readable : FirmwareTold → Prop
  | bios _ _ release => AsciiRelease release
  | _ => True

instance : DecidablePred FirmwareTold.Readable := fun firmware =>
  match firmware with
  | .bmc .. => isTrue trivial
  | .bios _ _ release => inferInstanceAs (Decidable (AsciiRelease release))
  | .me .. => isTrue trivial
  | .ews .. => isTrue trivial
  | .unknown => isTrue trivial

theorem info_injective {firmware other : FirmwareTold} (readable : firmware.Readable)
    (otherReadable : other.Readable) (names : firmware.name = other.name)
    (same : firmware.info = other.info) : firmware = other := by
  have closed : ∀ {first second : List (CString × ℕ)}, labelled first = labelled second →
      labelled first ++ [] = labelled second ++ [] := fun same => congrArg (· ++ []) same
  cases firmware with
  | bmc major minor build =>
      cases other with
      | bmc => exact bmc_info_injective same
      | _ => simp [FirmwareTold.name] at names
  | bios major minor release =>
      cases other with
      | bios => exact bios_info_injective readable otherReadable same
      | _ => simp [FirmwareTold.name] at names
  | me major minor1 minor2 build1 build2 =>
      cases other with
      | me =>
          obtain ⟨fields, _⟩ := fields_injective (by simp [FirmwareTold.meFields]) (by rfl)
            (endsNumber_nil 10) (endsNumber_nil 10) (closed same)
          simpa [FirmwareTold.meFields] using fields
      | _ => simp [FirmwareTold.name] at names
  | ews major minor build =>
      cases other with
      | ews =>
          obtain ⟨fields, _⟩ := fields_injective
            (by simp [FirmwareTold.buildId, majorMinor]) (by rfl)
            (endsNumber_nil 10) (endsNumber_nil 10) (closed same)
          simpa [FirmwareTold.buildId, majorMinor] using fields
      | _ => simp [FirmwareTold.name] at names
  | unknown =>
      cases other with
      | unknown => rfl
      | _ => simp [FirmwareTold.name] at names

theorem line_injective {first second : Told} (valid : ¬ 2 < first.status)
    (otherValid : ¬ 2 < second.status) (readable : first.firmware.Readable)
    (otherReadable : second.firmware.Readable) (same : first.line = second.line) : first = second := by
  have parts : ∀ told : Told, told.line =
      messageTag ++ (told.firmware.name ++ ' ' :: ("instance: ".toList ++
        (Nat.toDigits 10 told.instanceNumber ++ (" status: <".toList ++ (updateAction told.status ++
          '>' :: told.firmware.info))))) := by
    intro told
    simp only [Told.line, List.append_assoc]
    rfl
  have ends : ∀ rest : CString, EndsNumber 10 (" status: <".toList ++ rest) :=
    fun rest => endsNumber_cons (by decide) _
  rw [parts, parts] at same
  obtain ⟨names, behindName⟩ := append_separator_inj (name_spaceless first.firmware)
    (name_spaceless second.firmware) (List.append_cancel_left same)
  obtain ⟨instances, behindInstance⟩ := toDigits_append_inj (ends _) (ends _)
    (List.append_cancel_left behindName)
  obtain ⟨actions, infos⟩ := append_separator_inj (updateAction_closed first.status)
    (updateAction_closed second.status) (List.append_cancel_left behindInstance)
  have statuses := updateAction_injective valid otherValid actions
  have firmwares := info_injective readable otherReadable names infos
  cases first
  cases second
  simp only at instances statuses firmwares
  rw [instances, statuses, firmwares]

/-!
## The journal of a run
-/

/-- A request, and whether the journal takes its line. -/
structure FwUpdMessage where
  request : FwUpdStatus
  takes : Bool
  deriving DecidableEq, Repr

def journalAfter (header : FirmwareHeader) (journal : List CString) (messages : List FwUpdMessage) :
    List CString :=
  messages.foldl (fun journal message =>
    ((ipmiOEMSendEmbeddedFwUpdStatus header message.takes message.request).run journal).2) journal

/-- The request is accepted, and its line gets into the journal. -/
def FwUpdMessage.recorded (message : FwUpdMessage) : Bool :=
  ¬ 2 < message.request.status ∧ message.takes

/-- What the recorded requests of a run tell, in their order. -/
def toldBy (header : FirmwareHeader) (messages : List FwUpdMessage) : List Told :=
  (messages.filter FwUpdMessage.recorded).map fun message => told header message.request

theorem toldBy_valid {header : FirmwareHeader} {messages : List FwUpdMessage} :
    ∀ told ∈ toldBy header messages, ¬ 2 < told.status := by
  intro told member
  obtain ⟨message, recorded, rfl⟩ := List.mem_map.mp member
  exact (of_decide_eq_true (List.mem_filter.mp recorded).2).1

theorem run_sendStatus (header : FirmwareHeader) (message : FwUpdMessage) (journal : List CString) :
    ((ipmiOEMSendEmbeddedFwUpdStatus header message.takes message.request).run journal).2 =
      if message.recorded then journal ++ [(told header message.request).line] else journal := by
  rw [← updateMessage_eq]
  by_cases refused : 2 < message.request.status
  · simp [ipmiOEMSendEmbeddedFwUpdStatus, FwUpdMessage.recorded, refused]
  · cases takes : message.takes <;>
      simp [ipmiOEMSendEmbeddedFwUpdStatus, FwUpdMessage.recorded, refused, sdJournalSend, takes]

theorem journalAfter_eq (header : FirmwareHeader) (journal : List CString)
    (messages : List FwUpdMessage) :
    journalAfter header journal messages = journal ++ (toldBy header messages).map Told.line := by
  induction messages generalizing journal with
  | nil => exact (List.append_nil _).symm
  | cons message rest ih =>
      rw [journalAfter, List.foldl_cons, ← journalAfter, ih, run_sendStatus]
      simp only [toldBy, List.filter_cons]
      split
      · rw [List.map_cons, List.map_cons, List.append_assoc]
        rfl
      · rfl

theorem lines_injective {first second : List Told} (valid : ∀ told ∈ first, ¬ 2 < told.status)
    (otherValid : ∀ told ∈ second, ¬ 2 < told.status)
    (readable : ∀ told ∈ first, told.firmware.Readable)
    (otherReadable : ∀ told ∈ second, told.firmware.Readable)
    (same : first.map Told.line = second.map Told.line) : first = second := by
  induction first generalizing second with
  | nil => exact (List.map_eq_nil_iff.mp same.symm).symm
  | cons told rest ih =>
      cases second with
      | nil => cases same
      | cons other others =>
          rw [List.forall_mem_cons] at valid otherValid readable otherReadable
          obtain ⟨head, tail⟩ := List.cons.inj same
          rw [line_injective valid.1 otherValid.1 readable.1 otherReadable.1 head,
            ih valid.2 otherValid.2 readable.2 otherReadable.2 tail]

/-- Two runs whose recorded requests tell the same, one after the other, leave the same
journal: which firmware is updated, the status, each revision as far as its decimal coding
does, and the release. As long as a release is four digits, they leave the same journal only
then. -/
theorem journal_tells_requests (header : FirmwareHeader) (journal : List CString)
    (first second : List FwUpdMessage) :
    (toldBy header first = toldBy header second →
        journalAfter header journal first = journalAfter header journal second) ∧
      ((∀ told ∈ toldBy header first, told.firmware.Readable) →
        (∀ told ∈ toldBy header second, told.firmware.Readable) →
        journalAfter header journal first = journalAfter header journal second →
        toldBy header first = toldBy header second) := by
  rw [journalAfter_eq, journalAfter_eq, List.append_cancel_left_eq]
  refine ⟨congrArg _, fun readable otherReadable same => ?_⟩
  exact lines_injective toldBy_valid toldBy_valid readable otherReadable same

def plainFirmwareHeader : FirmwareHeader where
  selEvtTargetMask := 0xF0
  selEvtTargetShift := 4
  targetInstanceMask := 0x0F
  targetInstanceShift := 0
  targetBMC := 0
  targetBIOS := 1
  targetME := 2
  targetOEMEWS := 4

/-- An update of the BIOS has started. -/
def biosStarted (release : UInt32) : FwUpdMessage := ⟨⟨0, 0x10, 1, 2, release⟩, true⟩

/-- Two releases that differ in one digit have different lines. -/
theorem journal_tells_requests_release :
    journalAfter plainFirmwareHeader [] [biosStarted 0x30313131] ≠
      journalAfter plainFirmwareHeader [] [biosStarted 0x30313132] := by
  intro same
  have told := (journal_tells_requests plainFirmwareHeader [] [biosStarted 0x30313131]
    [biosStarted 0x30313132]).2 (by decide) (by decide) same
  exact absurd told (by decide)

/-- Other releases run together. -/
example : releaseNumber 0x30303B31 = releaseNumber 0x3030313B := by decide

end InspurIpmi

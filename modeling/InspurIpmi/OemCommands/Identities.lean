import InspurIpmi.OemCommands.SettingRuns

/-!
# Identities

The BIOS ID and the GUID of the system are set as texts. The GUID is a text that follows
a standard, and says which sixteen bytes were sent.
-/

set_option autoImplicit false

namespace InspurIpmi

open Foundation

/-- A text that one command sets. -/
inductive Identity where
  | biosId
  | systemGuid
  deriving DecidableEq, Repr

/-- The text in a request to set the BIOS ID. -/
def requestedId (request : Buffer) : List UInt8 :=
  (List.range (request 0).toNat).map fun index => request (1 + index)

namespace Identity

def property : Identity → Property
  | biosId => .biosId
  | systemGuid => .uuid

def command : Identity → OemCommand
  | biosId => .setBIOSID
  | systemGuid => .setSystemGUID

def requested (header : OemHeader) (request : Buffer) : Identity → List UInt8
  | biosId => requestedId request
  | systemGuid => snprintf safeBufferLength (guidText (guidFields header request))

end Identity

/-!
## Between two changes
-/

section Store

variable {δ : Type} {doubles : Doubles δ} {header : OemHeader} {identity : Identity}

theorem commits_identity {message : OemMessage} (sets : message.command = identity.command) :
    CommitsTo message.calls (.property identity.property)
      (.variant (.string (identity.requested header message.request)))
      (message.handler doubles header) := by
  rcases message with ⟨command, calls, request, length, response⟩
  cases sets
  cases identity with
  | biosId =>
      refine Process.Commits.after keeps_oemDataLen fun length =>
        Process.Commits.ite (commits_refusal _ ccReqDataLenInvalid_ne_ok) ?_
      refine Process.Commits.after (keeps_dbusCall 0) fun _ => ?_
      exact (commits_setDbusProperty 1 _ _).andThen (fun _ => keeps_answerByte _)
        fun _ _ => ⟨ccOk, rfl, rfl⟩
  | systemGuid =>
      refine Process.Commits.after keeps_oemDataLen fun length =>
        Process.Commits.ite (commits_refusal _ ccReqDataLenInvalid_ne_ok) ?_
      refine Process.Commits.after (keeps_setOemDataLen 0) fun _ =>
        Process.Commits.after (keeps_dbusCall 0) fun _ => ?_
      exact (commits_setDbusProperty 1 _ _).andThen (fun _ => Process.keeps_pure _)
        fun _ _ => ⟨ccOk, rfl, rfl⟩

/-- No other command sets an identity. -/
theorem keeps_identity (doubles : Doubles δ) (header : OemHeader) {message : OemMessage}
    (other : message.command ≠ identity.command) :
    KeepsPlace (.property identity.property) (message.handler doubles header) := by
  rcases message with ⟨command, calls, request, length, response⟩
  cases command with
  | setPowerRestoreDelay =>
      apply keeps_setPowerRestoreDelay
      cases identity <;> simp [Identity.property]
  | getPowerRestoreDelay => exact keeps_getPowerRestoreDelay
  | setProcessorErrConfig =>
      apply keeps_setProcessorErrConfig
      all_goals cases identity <;> simp [Identity.property]
  | getProcessorErrConfig => exact keeps_getProcessorErrConfig
  | setShutdownPolicy =>
      apply keeps_setShutdownPolicy
      cases identity <;> simp [Identity.property]
  | getShutdownPolicy => exact keeps_getShutdownPolicy
  | setFanConfig =>
      apply keeps_setFanConfig
      cases identity <;> simp [Identity.property]
  | getFanConfig => exact keeps_getFanConfig
  | setFscParameter =>
      apply keeps_setFscParameter
      all_goals cases identity <;> simp [Identity.property]
  | getFscParameter => exact keeps_getFscParameter doubles request
  | cfgHostSerialPortSpeed => exact keeps_cfgHostSerialPortSpeed fun _ => by simp
  | setBIOSID =>
      apply keeps_setBIOSID
      cases identity with
      | biosId => exact absurd rfl other
      | systemGuid => simp [Identity.property]
  | getDeviceInfo => exact keeps_getDeviceInfo request
  | setSystemGUID =>
      apply keeps_setSystemGUID
      cases identity with
      | biosId => simp [Identity.property]
      | systemGuid => exact absurd rfl other
  | getChassisIdentifier => exact keeps_getChassisIdentifier
  | getAICFRU => exact keeps_getAICFRU
  | getLEDStatus => exact keeps_getLEDStatus
  | wildcard => exact keeps_refusal _ _

/-- The message does not set the identity: a change is refused, and no call of it that fails
has been carried out. -/
def Identity.Leaves (doubles : Doubles δ) (header : OemHeader) (identity : Identity)
    (world : OemWorld δ) (message : OemMessage) : Prop :=
  message.command = identity.command →
    message.answer doubles header world ≠ some ccOk ∧ message.calls.Inert

theorem identity_kept {message : OemMessage} {world : OemWorld δ} {value : Variant δ}
    (held : world.property identity.property = value)
    (leaves : identity.Leaves doubles header world message) :
    (message.transmit doubles header world).2.property identity.property = value := by
  have kept : Place.content (.property identity.property) (message.transmit doubles header world).2 =
      Place.content (.property identity.property) world := by
    rw [transmit_state, ← content_received message]
    by_cases sets : message.command = identity.command
    · obtain ⟨refused, inert⟩ := leaves sets
      rw [answer_eq] at refused
      exact (commits_identity sets).refused inert _ fun done => refused (done_iff_codeOf.mp done)
    · exact keeps_identity doubles header sets _
  exact (Content.variant.inj kept).trans held

theorem identity_set {message : OemMessage} {world : OemWorld δ}
    (sets : message.command = identity.command)
    (accepted : message.answer doubles header world = some ccOk) :
    (message.transmit doubles header world).2.property identity.property =
      .string (identity.requested header message.request) := by
  rw [answer_eq] at accepted
  have committed : CommitsTo _ _ _ (message.handler doubles header) := commits_identity sets
  have applied := committed.applied _ (done_iff_codeOf.mpr accepted)
  rw [transmit_state]
  exact Content.variant.inj applied

theorem identity_kept_by_run {messages : List OemMessage} {world : OemWorld δ} {value : Variant δ}
    (held : world.property identity.property = value)
    (leave : EachStep (OemMessage.step doubles header) (identity.Leaves doubles header) world messages) :
    (OemMessage.run doubles header world messages).property identity.property = value := by
  induction messages generalizing world with
  | nil => exact held
  | cons message rest ih =>
      obtain ⟨first, later⟩ := leave
      exact ih (identity_kept held first) (later _ rfl)

end Store

/-!
## The text of a GUID
-/

inductive GuidChar where
  | digit
  | dash
  | other
  deriving DecidableEq, Repr

/-- The value of a hexadecimal digit, which is not an upper-case one. -/
def lowerHexValue (byte : UInt8) : Option ℕ :=
  if 0x30 ≤ byte ∧ byte ≤ 0x39 then some (byte.toNat - 0x30)
  else if 0x61 ≤ byte ∧ byte ≤ 0x66 then some (byte.toNat - 0x57)
  else none

def guidChar (byte : UInt8) : GuidChar :=
  if byte = dash then .dash else if (lowerHexValue byte).isSome then .digit else .other

/-- Groups of eight, four, four, four and twelve digits. -/
def Rfc4122 (text : List UInt8) : Prop :=
  text.map guidChar =
    List.replicate 8 .digit ++ .dash :: List.replicate 4 .digit ++ .dash :: List.replicate 4 .digit ++
      .dash :: List.replicate 4 .digit ++ .dash :: List.replicate 12 .digit

/-- The bytes that the digits stand for, two each. -/
def readPairs : List ℕ → List UInt8
  | high :: low :: rest => UInt8.ofNat (16 * high + low) :: readPairs rest
  | _ => []

def readGuid (text : List UInt8) : List UInt8 := readPairs (text.filterMap lowerHexValue)

theorem lowerHexDigit_value {digit : ℕ} (below : digit < 16) :
    lowerHexValue (lowerHexDigit digit) = some digit := by
  have values : ∀ number < 16, lowerHexValue (lowerHexDigit number) = some number := by decide
  exact values digit below

theorem guidChar_lowerHexDigit {digit : ℕ} (below : digit < 16) :
    guidChar (lowerHexDigit digit) = .digit := by
  have kinds : ∀ number < 16, guidChar (lowerHexDigit number) = .digit := by decide
  exact kinds digit below

theorem nibbles (byte : UInt8) : byte.toNat / 16 < 16 ∧ byte.toNat % 16 < 16 := by
  have bound := byte.toNat_lt
  omega

section Groups

variable (fields : ℕ → UInt8) (start count : ℕ)

theorem hexGroup_succ :
    hexGroup fields start (count + 1) =
      hexGroup fields start count ++ hexByte (fields (start + count)) := by
  simp [hexGroup, List.range_succ]

theorem guidChar_hexGroup :
    (hexGroup fields start count).map guidChar = List.replicate (2 * count) .digit := by
  induction count with
  | zero => rfl
  | succ count ih =>
      obtain ⟨high, low⟩ := nibbles (fields (start + count))
      rw [hexGroup_succ, List.map_append, ih, Nat.mul_succ, List.replicate_add]
      simp only [hexByte, List.map_cons, List.map_nil, guidChar_lowerHexDigit high,
        guidChar_lowerHexDigit low]
      rfl

/-- The digits of the group, as numbers. -/
def groupDigits : List ℕ :=
  (List.range count).flatMap fun index =>
    [(fields (start + index)).toNat / 16, (fields (start + index)).toNat % 16]

theorem values_hexGroup :
    (hexGroup fields start count).filterMap lowerHexValue = groupDigits fields start count := by
  induction count with
  | zero => rfl
  | succ count ih =>
      obtain ⟨high, low⟩ := nibbles (fields (start + count))
      rw [hexGroup_succ, List.filterMap_append, ih]
      simp [groupDigits, List.range_succ, hexByte, lowerHexDigit_value high, lowerHexDigit_value low]

theorem readPairs_groupDigits (rest : List ℕ) :
    readPairs (groupDigits fields start count ++ rest) =
      (List.range count).map (fun index => fields (start + index)) ++ readPairs rest := by
  induction count generalizing rest with
  | zero => rfl
  | succ count ih =>
      have joined : UInt8.ofNat (16 * ((fields (start + count)).toNat / 16) +
          (fields (start + count)).toNat % 16) = fields (start + count) := by
        rw [Nat.div_add_mod, UInt8.ofNat_toNat]
      have split : groupDigits fields start (count + 1) = groupDigits fields start count ++
          [(fields (start + count)).toNat / 16, (fields (start + count)).toNat % 16] := by
        simp [groupDigits, List.range_succ]
      rw [split, List.append_assoc, ih]
      simp [List.range_succ, readPairs, joined]

end Groups

theorem rfc4122_guidText (fields : ℕ → UInt8) : Rfc4122 (guidText fields) := by
  have separator : guidChar dash = .dash := by decide
  simp only [Rfc4122, guidText, List.map_append, List.map_cons, guidChar_hexGroup, separator]

theorem guidText_length (fields : ℕ → UInt8) : (guidText fields).length = 36 := by
  have shape := congrArg List.length (rfc4122_guidText fields)
  rwa [List.length_map] at shape

/-- The buffer is large enough for the whole text. -/
theorem snprintf_guidText (fields : ℕ → UInt8) :
    snprintf safeBufferLength (guidText fields) = guidText fields := by
  apply List.take_of_length_le
  rw [guidText_length]
  decide

theorem readGuid_guidText (fields : ℕ → UInt8) :
    readGuid (guidText fields) = (List.range 16).map fields := by
  have separator : lowerHexValue dash = none := by decide
  have digits : (guidText fields).filterMap lowerHexValue =
      groupDigits fields 0 4 ++ (groupDigits fields 4 2 ++ (groupDigits fields 6 2 ++
        (groupDigits fields 8 2 ++ (groupDigits fields 10 6 ++ [])))) := by
    simp only [guidText, List.filterMap_append, List.filterMap_cons, separator, values_hexGroup,
      List.append_assoc, List.append_nil]
  rw [readGuid, digits]
  simp only [readPairs_groupDigits]
  rfl

/-- The GUID that was set last stays, as a text after the standard from which each byte of
the request can be read, whatever other commands come after it. -/
theorem guid_tells_request {δ : Type} {doubles : Doubles δ} {header : OemHeader}
    {world : OemWorld δ} {set : OemMessage} {messages : List OemMessage}
    (sets : set.command = .setSystemGUID) (accepted : set.answer doubles header world = some ccOk)
    (leave : EachStep (OemMessage.step doubles header) (Identity.systemGuid.Leaves doubles header)
      (set.transmit doubles header world).2 messages) :
    ∃ text, (OemMessage.run doubles header (set.transmit doubles header world).2 messages).property
        .uuid = .string text ∧
      Rfc4122 text ∧
      ∀ position : Fin 16, ∃ index : Fin 16, header.guidField index = position ∧
        (readGuid text).getD index 0 = set.request position := by
  have held := @identity_set _ _ _ .systemGuid _ _ sets accepted
  refine ⟨_, @identity_kept_by_run _ _ _ .systemGuid _ _ _ held leave, ?_⟩
  rw [Identity.requested, snprintf_guidText, readGuid_guidText]
  refine ⟨rfc4122_guidText _, fun position => ?_⟩
  obtain ⟨index, at_position⟩ := Finite.surjective_of_injective header.guidFieldApart position
  refine ⟨index, at_position, ?_⟩
  rw [List.getD_eq_getElem _ _ (by simp), List.getElem_map, List.getElem_range, guidFields,
    dif_pos index.isLt]
  exact congrArg (fun at' : Fin 16 => set.request at') at_position

theorem guid_tells_request_failed_change :
    ∃ text, (OemMessage.run naturals packedHeader
        ((plainMessage .setSystemGUID none (List.replicate 16 0x5A)).transmit naturals packedHeader
          emptyWorld).2
        [plainMessage .setSystemGUID (some .other) (List.replicate 16 0)]).property .uuid =
          .string text ∧
      Rfc4122 text ∧
      ∀ position : Fin 16, ∃ index : Fin 16, packedHeader.guidField index = position ∧
        (readGuid text).getD index 0 = (List.replicate 16 0x5A).getD position 0 :=
  @guid_tells_request _ naturals packedHeader emptyWorld
    (plainMessage .setSystemGUID none (List.replicate 16 0x5A))
    [plainMessage .setSystemGUID (some .other) (List.replicate 16 0)] rfl rfl
    ⟨fun _ => ⟨fun unanswered : none = some ccOk => absurd unanswered (by decide),
      plainMessage_inert _ _ _⟩, fun _ _ => trivial⟩

end InspurIpmi

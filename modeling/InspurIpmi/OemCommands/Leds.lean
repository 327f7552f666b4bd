import InspurIpmi.OemCommands.SettingRuns

/-!
# The LED status

The reply is to show what each LED does in a field of two bits: `00` for off, `01` for
blinking and `10` for on. What stands for on has its bit elsewhere.
-/

set_option autoImplicit false

namespace InspurIpmi

open Foundation

/-!
## What the reply is to show
-/

/-- The documented code of an action. -/
def LedAction.code : LedAction → ℕ
  | off => 0b00
  | blink => 0b01
  | on => 0b10

/-- The documented place of an LED: `[3:2]`, `[5:4]` and `[7:6]`. -/
def Led.lowBit : Led → ℕ
  | amber => 2
  | green => 4
  | identify => 6

def Led.field (led : Led) (byte : UInt8) : ℕ := byte.toNat >>> led.lowBit % 4

/-- What the LED does, when its property is a text that names an action. -/
def Led.action? {δ : Type} (header : OemHeader) (property : Property → Variant δ) (led : Led) :
    Option LedAction :=
  match property (.ledState led) with
  | .string text => header.convertAction text
  | _ => none

def Led.action {δ : Type} (header : OemHeader) (property : Property → Variant δ) (led : Led) :
    LedAction :=
  (led.action? header property).getD .off

/-- The byte behind the loop over the LEDs. -/
def collectedByte (action : Led → LedAction) : UInt8 → List (ℕ × Led) → UInt8
  | byte, [] => byte
  | byte, (offset, led) :: rest =>
      collectedByte action (byte ||| UInt8.ofNat ((actionDbusToIpmi (action led)).toNat <<< offset)) rest

/-- What the field of an LED is in the reply: one for an LED that blinks, and for the identify
LED also when the amber one is on. -/
def Led.shownField (action : Led → LedAction) (led : Led) : ℕ :=
  if action led = .blink ∨ led = .identify ∧ action .amber = .on then 0b01 else 0b00

/-- The byte that shows the LEDs as the documentation says. -/
def Documented (action : Led → LedAction) (byte : UInt8) : Prop :=
  ∀ led : Led, led.field byte = (action led).code

theorem forall_led {property : Led → Prop} :
    (∀ led, property led) ↔ property .amber ∧ property .green ∧ property .identify := by
  constructor
  · intro all
    exact ⟨all _, all _, all _⟩
  · rintro ⟨amber, green, identify⟩ led
    cases led with
    | amber => exact amber
    | green => exact green
    | identify => exact identify

/-- The bit of an amber LED that is on falls into the field of the identify LED, that of a
green one is shifted out of the byte, and so is that of the identify LED. -/
theorem field_collectedByte (action : Led → LedAction) (led : Led) :
    led.field (collectedByte action 0 offsetObjPath) = led.shownField action := by
  revert led
  rw [forall_led]
  simp only [collectedByte, offsetObjPath, Led.shownField]
  generalize action .amber = amber, action .green = green, action .identify = identify
  cases amber <;> cases green <;> cases identify <;> decide

theorem reserved_collectedByte (action : Led → LedAction) :
    (collectedByte action 0 offsetObjPath).toNat % 4 = 0 := by
  simp only [collectedByte, offsetObjPath]
  generalize action .amber = amber, action .green = green, action .identify = identify
  cases amber <;> cases green <;> cases identify <;> decide

/-- An LED that is on is not shown as one. -/
theorem documented_collectedByte_iff (action : Led → LedAction) :
    Documented action (collectedByte action 0 offsetObjPath) ↔ ∀ led, action led ≠ .on := by
  simp only [Documented, field_collectedByte, Led.shownField]
  constructor
  · intro shown led isOn
    have field := shown led
    rw [isOn, LedAction.code] at field
    split at field <;> cases field
  · intro none led
    have amber : action .amber ≠ .on := none .amber
    cases doing : action led with
    | on => exact absurd doing (none led)
    | blink => simp [LedAction.code]
    | off => simp [LedAction.code, amber]

/-!
## What is collected
-/

section Loop

open Process

variable {δ : Type} {header : OemHeader} {calls : OemCalls} {property : Property → Variant δ}

theorem ensures_variantString {pre : OemWorld δ → Prop} (value : Variant δ) :
    Ensures pre (variantString value) fun text world => pre world ∧ value = .string text := by
  cases value with
  | string text => exact ensures_pure fun world met => ⟨met, rfl⟩
  | _ => exact ensures_throw _

theorem ensures_getLEDState {pre : OemWorld δ → Prop} (number : ℕ) (led : Led)
    (kept : ∀ world, pre world → world.property = property) :
    Ensures pre (getLEDState header calls number led) fun state? world =>
      ∀ state ∈ state?, pre world ∧ (led.action? header property).isSome ∧
        state = actionDbusToIpmi (led.action header property) := by
  refine ensures_unlessSdbus ((ensures_dbusCall _).bind fun _ => ?_)
  refine (ensures_getDbusProperty _ _).bind fun value => (ensures_variantString value).bind fun text => ?_
  rw [convertActionFromString]
  cases converted : header.convertAction text with
  | none => exact ensures_throw_bind _ _
  | some action =>
      refine ensures_pure fun world met => ?_
      obtain ⟨⟨held, got⟩, isText⟩ := met
      have known : led.action? header property = some action := by
        rw [Led.action?, ← kept world held, ← got, isText]
        exact converted
      refine ⟨held, ?_, ?_⟩
      · rw [known]
        rfl
      · rw [Led.action, known]
        rfl

/-- The loop answers with success when all actions are known. Else the length stays zero. -/
theorem ensures_collectLEDs (number : ℕ) (leds : List (ℕ × Led)) (byte : UInt8) :
    Ensures (fun world : OemWorld δ =>
        world.property = property ∧ world.dataLen = 0 ∧ world.response 0 = byte)
      (collectLEDs header calls number leds) fun code world =>
        if code = ccOk then
          world.dataLen = 1 ∧ (∀ entry ∈ leds, (entry.2.action? header property).isSome) ∧
            world.response 0 = collectedByte (Led.action header property) byte leds
        else world.dataLen = 0 := by
  induction leds generalizing number byte with
  | nil =>
      refine (ensures_modify _).bind fun _ => ensures_pure ?_
      rintro world ⟨start, ⟨_, _, held⟩, rfl⟩
      rw [if_pos rfl]
      exact ⟨rfl, by simp, held⟩
  | cons entry rest ih =>
      obtain ⟨offset, led⟩ := entry
      have reads := @ensures_getLEDState δ header calls property
        (fun world => world.property = property ∧ world.dataLen = 0 ∧ world.response 0 = byte)
        number led fun world met => met.1
      refine (reads.unchanged (@keeps_getLEDState _ _ _ _ id number led)).bind fun state? => ?_
      cases state? with
      | none =>
          refine ensures_pure fun world met => ?_
          rw [if_neg ccUnspecifiedError_ne_ok]
          exact met.1.2.1
      | some state =>
          refine ensures_known fun world met => ?_
          obtain ⟨⟨held, zero, before⟩, known⟩ := met
          obtain ⟨_, isKnown, value⟩ := known state rfl
          have next := ih (number + 2)
            (byte ||| UInt8.ofNat ((actionDbusToIpmi (led.action header property)).toNat <<< offset))
          refine ((ensures_modify _).bind fun _ => next.of_pre ?_).imp ?_
          · rintro after ⟨start, ⟨⟨held, zero, before⟩, _⟩, rfl⟩
            refine ⟨held, zero, ?_⟩
            dsimp only
            rw [Function.update_self, before, value]
          · intro code after done
            by_cases ok : code = ccOk
            · rw [if_pos ok] at done ⊢
              obtain ⟨length, all, collected⟩ := done
              exact ⟨length, List.forall_mem_cons.mpr ⟨isKnown, all⟩, collected⟩
            · rw [if_neg ok] at done ⊢
              exact done

theorem ok_getLEDState (working : ∀ number, calls.fails number = none) (number : ℕ) (led : Led)
    {world : OemWorld δ} (known : (led.action? header world.property).isSome) :
    (getLEDState header calls number led).run world =
      (.returned (some (actionDbusToIpmi (led.action header world.property))), world) := by
  apply run_unlessSdbus
  simp only [run_dbusCall_bind, run_getDbusProperty_bind, working]
  rw [Led.action]
  rw [Led.action?] at known ⊢
  cases held : world.property (.ledState led) with
  | string text =>
      simp only [held] at known ⊢
      obtain ⟨action, converted⟩ := Option.isSome_iff_exists.mp known
      simp [variantString, convertActionFromString, converted]
  | _ =>
      simp only [held] at known
      cases known

theorem ok_collectLEDs (working : ∀ number, calls.fails number = none) (number : ℕ)
    (leds : List (ℕ × Led)) {world : OemWorld δ}
    (known : ∀ led : Led, (led.action? header world.property).isSome) :
    ((collectLEDs header calls number leds).run world).1 = .returned ccOk := by
  induction leds generalizing number world with
  | nil => rfl
  | cons entry rest ih =>
      obtain ⟨offset, led⟩ := entry
      rw [collectLEDs, run_bind_returned (ok_getLEDState working number led (known led))]
      exact ih (number + 2) known

end Loop

/-- However the handler ends, nothing but the response has changed. -/
theorem getLEDStatus_frame {δ : Type} (header : OemHeader) (calls : OemCalls) (world : OemWorld δ) :
    ((ipmiOEMGetLEDStatus header calls).run world).2.property = world.property ∧
      ((ipmiOEMGetLEDStatus header calls).run world).2.hostSerial = world.hostSerial := by
  constructor
  · funext name
    have kept := @keeps_getLEDStatus _ (.property name) calls header world
    exact Content.variant.inj kept
  · have kept := @keeps_getLEDStatus _ .environment calls header world
    exact Content.text.inj kept

/-- What an answer says. -/
structure LedReply {δ : Type} (header : OemHeader) (world : OemWorld δ) (code : CompletionCode)
    (after : OemWorld δ) : Prop where
  error : code ≠ ccOk → after.dataLen = 0
  length : code = ccOk → after.dataLen = 1
  known : code = ccOk → ∀ led : Led, (led.action? header world.property).isSome
  shown : code = ccOk → after.response 0 =
    collectedByte (Led.action header world.property) 0 offsetObjPath

theorem ensures_getLEDStatus {δ : Type} (header : OemHeader) (calls : OemCalls) (world : OemWorld δ) :
    Process.Ensures (· = world) (ipmiOEMGetLEDStatus header calls) (LedReply header world) := by
  refine (Process.ensures_gets _).bind fun length => Process.Ensures.ite (fun _ => ?_) fun _ => ?_
  · refine (Process.ensures_modify _).bind fun _ => Process.ensures_pure ?_
    rintro after ⟨start, _, rfl⟩
    have refused : ccReqDataLenInvalid ≠ ccOk := ccReqDataLenInvalid_ne_ok
    exact ⟨fun _ => rfl, fun ok => absurd ok refused, fun ok => absurd ok refused,
      fun ok => absurd ok refused⟩
  · have collects := @ensures_collectLEDs δ header calls world.property 0 offsetObjPath 0
    refine (Process.ensures_modify _).bind fun _ => (Process.ensures_modify _).bind fun _ =>
      (collects.of_pre ?_).imp ?_
    · rintro after ⟨middle, ⟨start, ⟨rfl, _⟩, rfl⟩, rfl⟩
      refine ⟨rfl, rfl, ?_⟩
      exact Function.update_self 0 0 start.response
    · intro code after done
      by_cases ok : code = ccOk
      · rw [if_pos ok] at done
        obtain ⟨one, listed, collected⟩ := done
        have known : ∀ led : Led, (led.action? header world.property).isSome :=
          forall_led.mpr (by simpa [offsetObjPath] using listed)
        exact ⟨fun error => absurd ok error, fun _ => one, fun _ => known, fun _ => collected⟩
      · rw [if_neg ok] at done
        exact ⟨fun _ => done, fun isOk => absurd isOk ok, fun isOk => absurd isOk ok,
          fun isOk => absurd isOk ok⟩

theorem ok_getLEDStatus {δ : Type} {header : OemHeader} {calls : OemCalls} {world : OemWorld δ}
    (empty : world.dataLen = 0) (working : ∀ number, calls.fails number = none)
    (known : ∀ led : Led, (led.action? header world.property).isSome) :
    ((ipmiOEMGetLEDStatus header calls).run world).1 = .returned ccOk := by
  simp only [ipmiOEMGetLEDStatus, run_oemDataLen_bind, empty, ne_eq, not_true, if_false,
    run_setByte_bind, run_setOemDataLen_bind]
  exact ok_collectLEDs working 0 offsetObjPath known

/-- However the handler ends, it keeps every property and the environment. An answer of
success shows each LED in its field as far as `Led.shownField` says, which is after the
documentation exactly when no LED is on. There is one whenever every call works and each
state is known, and no other answer carries any data. -/
theorem led_status_reply {δ : Type} (header : OemHeader) (calls : OemCalls) (world : OemWorld δ) :
    let ran := (ipmiOEMGetLEDStatus header calls).run world
    (ran.2.property = world.property ∧ ran.2.hostSerial = world.hostSerial) ∧
      (∀ code, ran.1 = .returned code →
        if code = ccOk then
          ran.2.dataLen = 1 ∧ (∀ led : Led, (led.action? header world.property).isSome) ∧
            (ran.2.response 0).toNat % 4 = 0 ∧
            (∀ led : Led, led.field (ran.2.response 0) =
              led.shownField (Led.action header world.property)) ∧
            (Documented (Led.action header world.property) (ran.2.response 0) ↔
              ∀ led : Led, led.action? header world.property ≠ some .on)
        else ran.2.dataLen = 0) ∧
      (world.dataLen = 0 → (∀ number, calls.fails number = none) →
        (∀ led : Led, (led.action? header world.property).isSome) → ran.1 = .returned ccOk) := by
  intro ran
  refine ⟨getLEDStatus_frame header calls world, fun code returned => ?_,
    fun empty working known => ok_getLEDStatus empty working known⟩
  have replied := ensures_getLEDStatus header calls world world rfl code ran.2 (Prod.ext returned rfl)
  by_cases ok : code = ccOk
  · have known := replied.known ok
    rw [if_pos ok, replied.shown ok, documented_collectedByte_iff]
    refine ⟨replied.length ok, known, reserved_collectedByte _, field_collectedByte _, ?_⟩
    refine forall_congr' fun led => not_congr ?_
    obtain ⟨action, isKnown⟩ := Option.isSome_iff_exists.mp (known led)
    rw [Led.action, isKnown, Option.getD_some, Option.some_inj]
  · rw [if_neg ok]
    exact replied.error ok

/-- All LEDs are on. -/
def litWorld : OemWorld ℕ := { emptyWorld with property := fun _ => .string (bytesOf "On") }

theorem led_status_reply_all_on :
    let ran := (ipmiOEMGetLEDStatus packedHeader (plainMessage .getLEDStatus none []).calls).run
      litWorld
    ran.1 = .returned ccOk ∧
      Led.identify.field (ran.2.response 0) = 0b01 ∧ Led.amber.field (ran.2.response 0) = 0b00 ∧
      ¬ Documented (Led.action packedHeader litWorld.property) (ran.2.response 0) := by
  have replied := led_status_reply packedHeader (plainMessage .getLEDStatus none []).calls litWorld
  have known : ∀ led : Led, led.action? packedHeader litWorld.property = some .on := fun _ => rfl
  have answered := replied.2.2 rfl (fun _ => rfl) fun led => congrArg Option.isSome (known led)
  have shown := replied.2.1 _ answered
  refine ⟨answered, shown.2.2.2.1 .identify, shown.2.2.2.1 .amber, fun documented => ?_⟩
  exact shown.2.2.2.2.mp documented .amber (known .amber)

end InspurIpmi

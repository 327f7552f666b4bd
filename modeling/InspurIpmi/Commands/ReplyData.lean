import InspurIpmi.Commands
import InspurIpmi.Sfp.Effects

/-!
# The data of a successful reply

Which replies show nothing but what the handler produced: two runs that start
with different response buffers and different local buffers answer alike.
-/

set_option autoImplicit false

namespace InspurIpmi

open Foundation

inductive DataCommand where
  | readCPLDEEPROM (calls : CpldCalls)
  | readVRINFO (calls : VrCalls)
  | getSFPEEPROM (calls : SffCalls)
  | getSFPPresent (calls : GpioRead)
  | getSFPInterruptInfo (calls : GpioRead)
  | getSFPLowPowerMode (calls : GpioRead)

/-- The second argument fills `temp` and `value_str`, the third is the memory
behind `value_str`. -/
def DataCommand.handler :
    DataCommand → Buffer → List UInt8 → Buffer → Daemon CompletionCode
  | readCPLDEEPROM calls, temp, _ => ipmiReadCPLDEEPROM calls temp
  | readVRINFO calls, _, _ => ipmiReadVRINFO calls
  | getSFPEEPROM calls, _, _ => ipmigetSFPEEPROM calls
  | getSFPPresent calls, valueStr, stack => ipmiGetSFPPresent calls ⟨valueStr, stack⟩
  | getSFPInterruptInfo calls, valueStr, stack => ipmiGetSFPInterruptInfo calls ⟨valueStr, stack⟩
  | getSFPLowPowerMode calls, valueStr, stack => ipmiGetSFPLowPowerMode calls ⟨valueStr, stack⟩

def Reply.Alike (first second : Reply) : Prop :=
  first.code = second.code ∧
    (first.code = ccOk → first.length = second.length ∧
      ∀ index < first.length, first.data index = second.data index)

def AnsweredAlike : Option (Reply × World) → Option (Reply × World) → Prop :=
  Option.Rel fun first second => first.1.Alike second.1

def World.withResponse (world : World) (response : Buffer) : World :=
  { world with response := response }

/-- The handler's local buffers and the response buffer do not show in the answer. -/
def ReplyDetermined (handler : Buffer → List UInt8 → Daemon CompletionCode) (length : ℕ)
    (world : World) : Prop :=
  ∀ stack locals₁ locals₂ response₁ response₂,
    AnsweredAlike (serve (handler locals₁ stack) length (world.withResponse response₁))
      (serve (handler locals₂ stack) length (world.withResponse response₂))

/-!
## Where the answer is determined
-/

/-- The number of characters of the version file that a reply of this length shows. -/
def digitsShown (length : ℕ) : ℕ := if length = 0 then 0 else if length ≤ 2 then 1 else 2

/-- Whatever follows, the number will compare with `-1` and with `special` as it
does now. -/
def SettledAs (special : Int) : Scan → Prop
  | .blank | .signed _ => False
  | .digits negative magnitude =>
      2 ≤ magnitude ∨ negative = false ∧ magnitude = 1 ∧ special = 0
  | .done _ _ => True

def GpioOutcome.Settles (special : Int) : GpioOutcome → Prop
  | unopened | failed => True
  | delivered text => text.length = 3 ∨ SettledAs special (scanText text)

def StatusProduced (base : ℤ) (special : Int) (calls : GpioRead) (request : Request)
    (world : World) : Prop :=
  request.length = 1 → (request.bytes 0).toNat < 32 →
    (calls.outcome (world.gpio (gpioLine base (request.bytes 0)))).Settles special

def DataCommand.Produces (request : Request) (world : World) : DataCommand → Prop
  | readCPLDEEPROM calls =>
      request.length = 2 → (request.bytes 1).toNat ≤ cpldVersionLength ∧
        digitsShown (request.bytes 1).toNat ≤ calls.delivered.length
  | readVRINFO calls =>
      request.length = 2 → calls.opens (calls.row request.bytes) = true →
        calls.Selects (calls.row request.bytes) → calls.byte? (calls.row request.bytes) ≠ none →
          (request.bytes 1).toNat ≤ cpldVersionLength
  | getSFPEEPROM calls =>
      request.length = 4 → (request.bytes 0).toNat < 32 → ∀ file count,
        calls.outcome (world.files (sffFile (request.bytes 0).toNat)) = .ok (file, count) →
          (request.bytes 3).toNat ≤ count
  | getSFPPresent calls => StatusProduced presentIndex 1 calls request world
  | getSFPInterruptInfo calls => StatusProduced interruptIndex 0 calls request world
  | getSFPLowPowerMode calls => StatusProduced lpmodeIndex 0 calls request world

/-!
## The three ways a run ends
-/

instance nontrivialByte : Nontrivial UInt8 := ⟨0, 1, by decide⟩

section Runs

variable {handler : Buffer → List UInt8 → Daemon CompletionCode} {length : ℕ} {world : World}

theorem replyDetermined_failed {code : CompletionCode} (error : code ≠ ccOk)
    (ran : ∀ locals stack response, ∃ after,
      (handler locals stack).run ((world.withResponse response).receive length) =
        (.returned code, after)) :
    ReplyDetermined handler length world := by
  intro stack locals₁ locals₂ response₁ response₂
  obtain ⟨after₁, ran₁⟩ := ran locals₁ stack response₁
  obtain ⟨after₂, ran₂⟩ := ran locals₂ stack response₂
  rw [serve_returned ran₁, serve_returned ran₂]
  exact .some ⟨rfl, fun succeeded => absurd succeeded error⟩

theorem replyDetermined_exited {status : Int}
    (ran : ∀ locals stack response, ∃ after,
      (handler locals stack).run ((world.withResponse response).receive length) =
        (.exited status, after)) :
    ReplyDetermined handler length world := by
  intro stack locals₁ locals₂ response₁ response₂
  obtain ⟨after₁, ran₁⟩ := ran locals₁ stack response₁
  obtain ⟨after₂, ran₂⟩ := ran locals₂ stack response₂
  rw [serve, serve, ran₁, ran₂]
  exact .none

/-- A handler that copies `count` bytes over the response buffer and announces
`shown` of them. -/
theorem replyDetermined_copied {count shown : ℕ} {source : Buffer → Buffer}
    (ran : ∀ locals stack response, ∃ after,
      (handler locals stack).run ((world.withResponse response).receive length) =
          (.returned ccOk, after) ∧
        after.dataLen = shown ∧ after.response = overlay response 0 count (source locals)) :
    ReplyDetermined handler length world ↔
      shown ≤ count ∧ ∀ locals₁ locals₂, ∀ index < shown,
        source locals₁ index = source locals₂ index := by
  have alike : ReplyDetermined handler length world ↔
      ∀ locals₁ locals₂ response₁ response₂, ∀ index < shown,
        overlay response₁ 0 count (source locals₁) index =
          overlay response₂ 0 count (source locals₂) index := by
    unfold ReplyDetermined
    constructor
    · intro determined locals₁ locals₂ response₁ response₂
      obtain ⟨after₁, ran₁, length₁, data₁⟩ := ran locals₁ [] response₁
      obtain ⟨after₂, ran₂, length₂, data₂⟩ := ran locals₂ [] response₂
      have answers := determined [] locals₁ locals₂ response₁ response₂
      rw [serve_returned ran₁, serve_returned ran₂, AnsweredAlike, Option.rel_some_some] at answers
      simpa only [length₁, data₁, data₂] using (answers.2 rfl).2
    · intro agree stack locals₁ locals₂ response₁ response₂
      obtain ⟨after₁, ran₁, length₁, data₁⟩ := ran locals₁ stack response₁
      obtain ⟨after₂, ran₂, length₂, data₂⟩ := ran locals₂ stack response₂
      rw [serve_returned ran₁, serve_returned ran₂, AnsweredAlike, Option.rel_some_some]
      refine ⟨rfl, fun _ => ⟨length₁.trans length₂.symm, ?_⟩⟩
      simpa only [length₁, data₁, data₂] using agree locals₁ locals₂ response₁ response₂
  rw [alike]
  constructor
  · intro agree
    have covered := fun locals₁ locals₂ => overlays_agree_iff.mp (agree locals₁ locals₂)
    exact ⟨(covered (fun _ => 0) fun _ => 0).1, fun locals₁ locals₂ => (covered locals₁ locals₂).2⟩
  · rintro ⟨covered, same⟩ locals₁ locals₂
    exact overlays_agree_iff.mpr ⟨covered, same locals₁ locals₂⟩

end Runs

/-!
## The two version commands
-/

theorem cpldRecord_agree {calls : CpldCalls} {shown : ℕ}
    (enough : digitsShown shown ≤ calls.delivered.length) (temp₁ temp₂ : Buffer) {index : ℕ}
    (below : index < shown) :
    cpldRecord (calls.char temp₁ 0) (calls.char temp₁ 1) index =
      cpldRecord (calls.char temp₂ 0) (calls.char temp₂ 1) index := by
  have known : ∀ place < calls.delivered.length,
      calls.char temp₁ place = calls.char temp₂ place := by
    intro place inside
    simp only [CpldCalls.char, inside, if_true]
  unfold digitsShown at enough
  split_ifs at enough with none few
  · omega
  · rw [known 0 (by omega)]
    exact cpldRecord_first (by omega)
  · rw [known 0 (by omega), known 1 (by omega)]

/-- A character that the file does not deliver shows: `0` and `F` differ in the first
digit of the reply, `0` and `8` in the second. -/
theorem digitsShown_le_of_agree {calls : CpldCalls} {shown : ℕ}
    (agree : ∀ temp₁ temp₂, ∀ index < shown,
      cpldRecord (calls.char temp₁ 0) (calls.char temp₁ 1) index =
        cpldRecord (calls.char temp₂ 0) (calls.char temp₂ 1) index) :
    digitsShown shown ≤ calls.delivered.length := by
  have left : ∀ temp place, calls.delivered.length ≤ place → calls.char temp place = temp place :=
    fun temp place behind => if_neg (not_lt_of_ge behind)
  have first : 0 < shown → 0 < calls.delivered.length := by
    intro visible
    by_contra empty
    have same := agree (fun _ => 0x30) (fun _ => 0x46) 0 visible
    rw [left _ 0 (by omega), left _ 1 (by omega), left _ 0 (by omega), left _ 1 (by omega)] at same
    exact absurd same (by decide)
  unfold digitsShown
  split_ifs with none few
  · exact Nat.zero_le _
  · exact first (by omega)
  · by_contra short
    have known : calls.char (fun _ => 0x30) 0 = calls.char (fun _ => 0x38) 0 := by
      simp only [CpldCalls.char, first (by omega), if_true]
    have same := agree (fun _ => 0x30) (fun _ => 0x38) 2 (by omega)
    rw [known, left _ 1 (by omega), left _ 1 (by omega)] at same
    exact cpldRecord_third _ same

theorem cpldRecord_agree_iff {calls : CpldCalls} {shown : ℕ} :
    (∀ temp₁ temp₂, ∀ index < shown,
        cpldRecord (calls.char temp₁ 0) (calls.char temp₁ 1) index =
          cpldRecord (calls.char temp₂ 0) (calls.char temp₂ 1) index) ↔
      digitsShown shown ≤ calls.delivered.length :=
  ⟨digitsShown_le_of_agree, fun enough temp₁ temp₂ _ => cpldRecord_agree enough temp₁ temp₂⟩

section Answers

variable {request : Request} {world : World}

theorem determined_readCPLDEEPROM {calls : CpldCalls} :
    ReplyDetermined (fun temp _ => ipmiReadCPLDEEPROM calls temp request.bytes) request.length
        world ↔
      (DataCommand.readCPLDEEPROM calls).Produces request world := by
  unfold DataCommand.Produces
  by_cases right : request.length = 2
  · simp only [right, forall_const]
    have copied : ∀ (temp : Buffer) (_ : List UInt8) (response : Buffer), ∃ after,
        (ipmiReadCPLDEEPROM calls temp request.bytes).run ((world.withResponse response).receive 2) =
            (.returned ccOk, after) ∧
          after.dataLen = (request.bytes 1).toNat ∧
          after.response = overlay response 0 cpldVersionLength
            (cpldRecord (calls.char temp 0) (calls.char temp 1)) :=
      fun _ _ _ => ⟨_, run_ipmiReadCPLDEEPROM_ok rfl, rfl, rfl⟩
    rw [replyDetermined_copied copied, cpldRecord_agree_iff]
  · simp only [right, IsEmpty.forall_iff, iff_true]
    exact replyDetermined_failed ccReqDataLenInvalid_ne_ok fun _ _ _ =>
      ⟨_, run_ipmiReadCPLDEEPROM_length right⟩

theorem determined_readVRINFO {calls : VrCalls} :
    ReplyDetermined (fun _ _ => ipmiReadVRINFO calls request.bytes) request.length world ↔
      (DataCommand.readVRINFO calls).Produces request world := by
  unfold DataCommand.Produces
  by_cases right : request.length = 2
  · simp only [right, forall_const]
    cases calls.reach (calls.row request.bytes) with
    | unopened unopened =>
        simp only [unopened, Bool.false_eq_true, IsEmpty.forall_iff, iff_true]
        exact replyDetermined_failed ccInvalidFieldRequest_ne_ok fun _ _ _ =>
          ⟨_, run_ipmiReadVRINFO_unopened rfl unopened⟩
    | unselected opened unselected =>
        simp only [unselected, IsEmpty.forall_iff, implies_true, iff_true]
        exact replyDetermined_exited fun _ _ _ =>
          ⟨_, run_ipmiReadVRINFO_unselected rfl opened unselected⟩
    | unread opened selected unread =>
        simp only [unread, ne_eq, not_true_eq_false, IsEmpty.forall_iff, implies_true, iff_true]
        exact replyDetermined_exited fun _ _ _ =>
          ⟨_, run_ipmiReadVRINFO_unread rfl opened selected unread⟩
    | @read byte opened selected read =>
        have copied : ∀ (_ : Buffer) (_ : List UInt8) (response : Buffer), ∃ after,
            (ipmiReadVRINFO calls request.bytes).run
                ((world.withResponse response).receive 2) = (.returned ccOk, after) ∧
              after.dataLen = (request.bytes 1).toNat ∧
              after.response = overlay response 0 cpldVersionLength (vrRecord byte) :=
          fun _ _ _ => ⟨_, run_ipmiReadVRINFO_read rfl opened selected read, rfl, rfl⟩
        rw [replyDetermined_copied copied]
        simp [opened, selected, read]
  · simp only [right, IsEmpty.forall_iff, iff_true]
    exact replyDetermined_failed ccReqDataLenInvalid_ne_ok fun _ _ _ =>
      ⟨_, run_ipmiReadVRINFO_length right⟩

theorem determined_getSFPEEPROM {calls : SffCalls} :
    ReplyDetermined (fun _ _ => ipmigetSFPEEPROM calls request.bytes) request.length world ↔
      (DataCommand.getSFPEEPROM calls).Produces request world := by
  unfold DataCommand.Produces
  by_cases right : request.length = 4
  · simp only [right, forall_const]
    by_cases inside : (request.bytes 0).toNat < 32
    · simp only [inside, forall_const]
      cases answered : calls.outcome (world.files (sffFile (request.bytes 0).toNat)) with
      | error status =>
          simp only [reduceCtorEq, IsEmpty.forall_iff, implies_true, iff_true]
          exact replyDetermined_failed ccInvalidFieldRequest_ne_ok fun _ _ _ =>
            ⟨_, run_ipmigetSFPEEPROM_error rfl inside answered⟩
      | ok delivery =>
          obtain ⟨file, count⟩ := delivery
          have copied : ∀ (_ : Buffer) (_ : List UInt8) (response : Buffer), ∃ after,
              (ipmigetSFPEEPROM calls request.bytes).run ((world.withResponse response).receive 4) =
                  (.returned ccOk, after) ∧
                after.dataLen = (request.bytes 3).toNat ∧
                after.response = overlay response 0 (min count (request.bytes 3).toNat) fun index =>
                  file ((request.bytes 2).toNat + (request.bytes 1).toNat * 128 + index) :=
            fun _ _ _ => ⟨_, run_ipmigetSFPEEPROM_ok rfl inside answered, rfl, rfl⟩
          rw [replyDetermined_copied copied]
          simp only [le_min_iff, le_refl, and_true, implies_true, Except.ok.injEq, Prod.mk.injEq]
          constructor
          · rintro covered _ _ ⟨rfl, rfl⟩
            exact covered
          · intro covered
            exact covered file count ⟨rfl, rfl⟩
    · simp only [inside, IsEmpty.forall_iff, iff_true]
      exact replyDetermined_failed ccParmOutOfRange_ne_ok fun _ _ _ =>
        ⟨_, run_ipmigetSFPEEPROM_range rfl (not_lt.mp inside)⟩
  · simp only [right, IsEmpty.forall_iff, iff_true]
    exact replyDetermined_failed ccReqDataLenInvalid_ne_ok fun _ _ _ =>
      ⟨_, run_ipmigetSFPEEPROM_length right⟩

end Answers

/-!
## The status commands
-/

def verdictOf (special value : Int) : Option Bool :=
  if value = -1 then none else some (decide (value = special))

theorem verdictOf_finish_settled {special : Int} (binary : special = 0 ∨ special = 1) {scan : Scan}
    (settled : SettledAs special scan) (rest₁ rest₂ : List UInt8) :
    verdictOf special (scan.finish rest₁) = verdictOf special (scan.finish rest₂) := by
  cases scan with
  | blank => exact settled.elim
  | signed negative => exact settled.elim
  | done negative magnitude => rw [Scan.finish_done, Scan.finish_done]
  | digits negative magnitude =>
      have other : ∀ rest, verdictOf special ((Scan.digits negative magnitude).finish rest) =
          some false := by
        intro rest
        rcases settled with large | ⟨rfl, one, rfl⟩
        · obtain ⟨notError, notZero, notOne⟩ :=
            @Scan.finish_digits_large negative magnitude large rest
          rcases binary with rfl | rfl
          · simp [verdictOf, notError, notZero]
          · simp [verdictOf, notError, notOne]
        · have positive := Scan.finish_digits_positive (le_of_eq one.symm) rest
          have notError : (Scan.digits false magnitude).finish rest ≠ -1 := by omega
          have notZero : (Scan.digits false magnitude).finish rest ≠ 0 := by omega
          simp [verdictOf, notError, notZero]
      rw [other rest₁, other rest₂]

theorem verdictOf_unsettled {special : Int} (binary : special = 0 ∨ special = 1) {scan : Scan}
    (unsettled : ¬ SettledAs special scan) :
    ∃ char, verdictOf special (clampLong scan.value) ≠
      verdictOf special (clampLong (scan.step char).value) := by
  cases scan with
  | blank => exact ⟨0x31, by rcases binary with rfl | rfl <;> decide⟩
  | signed negative =>
      exact ⟨0x31, by rcases binary with rfl | rfl <;> cases negative <;> decide⟩
  | done negative magnitude => exact absurd trivial unsettled
  | digits negative magnitude =>
      obtain ⟨small, positive⟩ := not_or.mp unsettled
      rcases Nat.lt_succ_iff_lt_or_eq.mp (not_le.mp small) with zero | rfl
      · obtain rfl := Nat.lt_one_iff.mp zero
        exact ⟨0x31, by rcases binary with rfl | rfl <;> cases negative <;> decide⟩
      · cases negative with
        | true => exact ⟨0x30, by rcases binary with rfl | rfl <;> decide⟩
        | false =>
            rcases binary with rfl | rfl
            · exact absurd ⟨rfl, rfl, rfl⟩ positive
            · exact ⟨0x32, by decide⟩

theorem Locals.text_full {delivered : List UInt8} (full : delivered.length = 3) (locals : Locals) :
    locals.text delivered = delivered ++ locals.stack := by
  simp [Locals.text, full]

theorem Locals.text_short {delivered : List UInt8} (short : delivered.length < 3) (char : UInt8) :
    (Locals.mk (fun index => if index = delivered.length then char else 0) []).text delivered =
      delivered ++ char :: List.replicate (2 - delivered.length) 0 := by
  have rest : ∀ start < 3, ((List.range 3).drop start).map (fun index =>
      if index = start then char else 0) = char :: List.replicate (2 - start) 0 := by
    intro start below
    match start, below with
    | 0, _ | 1, _ | 2, _ => rfl
  rw [Locals.text, rest _ short, List.append_nil]

theorem verdictOf_agree_iff {special : Int} (binary : special = 0 ∨ special = 1)
    {text : List UInt8} (fits : text.length ≤ 3) :
    (∀ stack valueStr₁ valueStr₂,
        verdictOf special (atoi (Locals.text ⟨valueStr₁, stack⟩ text)) =
          verdictOf special (atoi (Locals.text ⟨valueStr₂, stack⟩ text))) ↔
      (GpioOutcome.delivered text).Settles special := by
  constructor
  · intro agree
    by_contra unsettled
    obtain ⟨notFull, unsettled⟩ := not_or.mp unsettled
    have short : text.length < 3 := by omega
    obtain ⟨char, differ⟩ := verdictOf_unsettled binary unsettled
    have same := agree [] (fun index => if index = text.length then 0 else 0)
      fun index => if index = text.length then char else 0
    rw [Locals.text_short short, Locals.text_short short, atoi_append, atoi_append,
      ← List.replicate_succ, Scan.finish_nul, Scan.finish_cons_nul] at same
    exact differ same
  · rintro (full | settled) stack valueStr₁ valueStr₂
    · rw [Locals.text_full full, Locals.text_full full]
    · unfold Locals.text
      rw [List.append_assoc, List.append_assoc, atoi_append, atoi_append]
      exact verdictOf_finish_settled binary settled _ _

section Status

variable {base special : Int} {status : Int → UInt8} {calls : GpioRead} {request : Request}
  {world : World} {same other : UInt8}

theorem GpioRead.delivered_fits {file : Option (List UInt8)} {text : List UInt8}
    (answered : calls.outcome file = .delivered text) : text.length ≤ 3 := by
  unfold GpioRead.outcome at answered
  split at answered
  · cases delivers : calls.delivers with
    | none =>
        rw [delivers] at answered
        cases answered
    | some count =>
        rw [delivers] at answered
        cases answered
        exact (List.length_take_le _ _).trans (Nat.min_le_right _ _)
  · cases answered

theorem answeredAlike_sfpStatus (distinct : same ≠ other)
    (reads : ∀ value, status value = if value = special then same else other)
    {outcome : GpioOutcome} (inside : (request.bytes 0).toNat < 32)
    (answered : calls.outcome (world.gpio (gpioLine base (request.bytes 0))) = outcome)
    (locals₁ locals₂ : Locals) (response₁ response₂ : Buffer) :
    AnsweredAlike
        (serve (sfpStatus base status calls locals₁ request.bytes) 1 (world.withResponse response₁))
        (serve (sfpStatus base status calls locals₂ request.bytes) 1 (world.withResponse response₂)) ↔
      verdictOf special (outcome.value locals₁) = verdictOf special (outcome.value locals₂) := by
  have ran : ∀ locals response,
      (sfpStatus base status calls locals request.bytes).run
          ((world.withResponse response).receive 1) =
        if outcome.value locals = -1 then
          (.returned ccInvalidFieldRequest,
            { world.withResponse response with
              dataLen := 1, fds := outcome.fdsAfter world.fds })
        else
          (.returned ccOk,
            { world with
              dataLen := 1
              fds := outcome.fdsAfter world.fds
              response := overlay response 0 1 fun _ => status (outcome.value locals) }) :=
    fun _ _ => run_sfpStatus_read rfl inside answered
  unfold serve
  rw [ran, ran]
  unfold verdictOf AnsweredAlike
  by_cases error₁ : outcome.value locals₁ = -1 <;> by_cases error₂ : outcome.value locals₂ = -1
  · simp [error₁, error₂, Reply.Alike]
  · simp [error₁, error₂, Reply.Alike]
  · simp [error₁, error₂, Reply.Alike, eq_comm]
  · simp only [error₁, error₂, if_false, Option.rel_some_some, Reply.Alike, reads]
    by_cases special₁ : outcome.value locals₁ = special <;>
      by_cases special₂ : outcome.value locals₂ = special <;>
        simp [special₁, special₂, distinct, distinct.symm, overlay]

theorem determined_sfpStatus (binary : special = 0 ∨ special = 1) (distinct : same ≠ other)
    (reads : ∀ value, status value = if value = special then same else other) :
    ReplyDetermined
        (fun valueStr stack => sfpStatus base status calls ⟨valueStr, stack⟩ request.bytes)
        request.length world ↔
      StatusProduced base special calls request world := by
  unfold StatusProduced
  by_cases right : request.length = 1
  · simp only [right, forall_const]
    by_cases inside : (request.bytes 0).toNat < 32
    · simp only [inside, forall_const]
      unfold ReplyDetermined
      cases answered : calls.outcome (world.gpio (gpioLine base (request.bytes 0))) with
      | unopened =>
          simp only [answeredAlike_sfpStatus distinct reads inside answered]
          exact iff_of_true (fun _ _ _ _ _ => rfl) trivial
      | failed =>
          simp only [answeredAlike_sfpStatus distinct reads inside answered]
          exact iff_of_true (fun _ _ _ _ _ => rfl) trivial
      | delivered text =>
          simp only [answeredAlike_sfpStatus distinct reads inside answered, forall_const]
          exact verdictOf_agree_iff binary (GpioRead.delivered_fits answered)
    · simp only [inside, IsEmpty.forall_iff, iff_true]
      exact replyDetermined_failed ccParmOutOfRange_ne_ok fun _ _ _ =>
        ⟨_, run_sfpStatus_range rfl (not_lt.mp inside)⟩
  · simp only [right, IsEmpty.forall_iff, iff_true]
    exact replyDetermined_failed ccReqDataLenInvalid_ne_ok fun _ _ _ =>
      ⟨_, run_sfpStatus_length right⟩

end Status

/-!
## All six commands
-/

/-- A successful reply shows only what the handler produced exactly where it
produces as much as the reply shows. -/
theorem replyDetermined_iff (command : DataCommand) (request : Request) (world : World) :
    ReplyDetermined (fun locals stack => command.handler locals stack request.bytes)
        request.length world ↔
      command.Produces request world := by
  have distinct : (0x00 : UInt8) ≠ 0x01 := by decide
  cases command with
  | readCPLDEEPROM calls => exact determined_readCPLDEEPROM
  | readVRINFO calls => exact determined_readVRINFO
  | getSFPEEPROM calls => exact determined_getSFPEEPROM
  | getSFPPresent calls =>
      exact determined_sfpStatus (.inr rfl) distinct fun _ => rfl
  | getSFPInterruptInfo calls =>
      exact determined_sfpStatus (.inl rfl) distinct fun _ => rfl
  | getSFPLowPowerMode calls =>
      exact determined_sfpStatus (.inl rfl) distinct.symm fun _ => rfl

/-- The version record has ten bytes, and a request may ask for eleven. -/
theorem reply_shows_response_buffer :
    ¬ ReplyDetermined
      (fun locals stack => (DataCommand.readCPLDEEPROM ⟨some [0x33, 0x46], true⟩).handler locals stack
        fun index => if index = 1 then 11 else 0)
      2 World.boot := by
  intro determined
  have answers := determined [] (fun _ => 0) (fun _ => 0) (fun _ => 0) fun _ => 1
  have same := ((Option.rel_some_some.mp answers).2 rfl).2 10 (by decide)
  exact absurd same (by decide)

end InspurIpmi

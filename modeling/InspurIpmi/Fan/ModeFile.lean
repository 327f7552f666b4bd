import InspurIpmi.Fan.Effects
import InspurIpmi.Foundation.Runs

/-!
# The mode file over a session

The set command prints the mode into a file, and the get command reads it from
there. What a get may report follows from what the sets before it have written.
-/

set_option autoImplicit false

namespace InspurIpmi

open Foundation

/-- In such a session the shell writes the file whenever it is told to. -/
inductive FanCommand where
  | set (strayInterface : CString)
  | get (reads : Bool)

/-- The table is that of the moment: what the functions of a sensor do may change
from one request to the next. -/
structure FanMessage where
  sensors : SensorTable
  command : FanCommand
  request : Request

def FanMessage.handler (message : FanMessage) : Daemon CompletionCode :=
  match message.command with
  | .set strayInterface => ipmiSetFan message.sensors ⟨0, id, strayInterface⟩ message.request.bytes
  | .get reads => ipmiGetFan message.sensors reads message.request.bytes

/-- There is no reply when an exception leaves the handler. -/
structure FanExchange where
  message : FanMessage
  reply : Option Reply

structure FanSession where
  world : World
  history : List FanExchange

def FanSession.begin (world : World) : FanSession := ⟨world, []⟩

def FanSession.step (session : FanSession) (message : FanMessage) : Option FanSession :=
  match message.handler.run (session.world.receive message.request.length) with
  | (.returned code, after) =>
      some ⟨after, ⟨message, some ⟨code, after.dataLen, after.response⟩⟩ :: session.history⟩
  | (.thrown _, after) => some ⟨after, ⟨message, none⟩ :: session.history⟩
  | (.exited _, _) => none

/-- The mode a request makes the shell write, whatever becomes of it after that. -/
def FanMessage.written (message : FanMessage) : Option UInt8 :=
  match message.command with
  | .set _ =>
      if FanRequestFits message.request.bytes message.request.length ∧
          (message.sensors (message.request.bytes 0)).isSome then
        some (message.request.bytes 1)
      else none
  | .get _ => none

def latestWritten : List FanExchange → Option UInt8
  | [] => none
  | exchange :: earlier =>
      match exchange.message.written with
      | some mode => some mode
      | none => latestWritten earlier

def FanExchange.ReportsMode (latest : Option UInt8) (exchange : FanExchange) : Prop :=
  match exchange.message.command, exchange.reply with
  | .get _, some reply =>
      reply.code = ccOk → 0 < reply.length ∧ (reply.data 0 = 0 ∨ reply.data 0 = 1) ∧
        ∀ mode, latest = some mode → reply.data 0 = mode
  | _, _ => True

/-- Every successful get has reported the mode in force when it arrived. -/
def ModesReported : List FanExchange → Prop
  | [] => True
  | exchange :: earlier => exchange.ReportsMode (latestWritten earlier) ∧ ModesReported earlier

/-- A get that the sensor lets succeed finds a file that begins with a mode. -/
def FanMessage.FindsMode (session : FanSession) (message : FanMessage) : Prop :=
  match message.command with
  | .set _ => True
  | .get reads =>
      message.request.length = 1 → (fanValue? message.sensors message.request.bytes).isSome →
        reads = true ∧ ∃ text, session.world.fanMode = some text ∧
          (text.head? = some 0x30 ∨ text.head? = some 0x31)

structure FileHoldsLatest (session : FanSession) : Prop where
  small : ∀ mode, latestWritten session.history = some mode → mode = 0 ∨ mode = 1
  holds : ∀ mode, latestWritten session.history = some mode →
    session.world.fanMode = some (modeText mode)

/-!
## The text of the file
-/

theorem modeRead_modeText {mode : UInt8} (small : mode = 0 ∨ mode = 1) :
    modeRead true (some (modeText mode)) = mode := by
  rcases small with rfl | rfl <;> decide

/-- Exactly a file that can be read and begins with the digit `0` or `1` is read
as a mode. -/
theorem modeRead_small_iff {reads : Bool} {file : Option (List UInt8)} :
    (modeRead reads file = 0 ∨ modeRead reads file = 1) ↔
      reads = true ∧ ∃ text, file = some text ∧
        (text.head? = some 0x30 ∨ text.head? = some 0x31) := by
  have nothing : ¬ ((0 : UInt8) - 0x30 = 0 ∨ (0 : UInt8) - 0x30 = 1) := by decide
  cases reads with
  | false => exact iff_of_false nothing fun readable => Bool.false_ne_true readable.1
  | true =>
    cases file with
    | none =>
      refine iff_of_false nothing ?_
      rintro ⟨_, _, absent, _⟩
      cases absent
    | some text =>
      cases text with
      | nil =>
        refine iff_of_false nothing ?_
        rintro ⟨_, _, ⟨⟩, empty⟩
        simp at empty
      | cons first rest =>
        have zero : first - 0x30 = 0 ↔ first = 0x30 := UInt8.sub_eq_iff_eq_add
        have one : first - 0x30 = 1 ↔ first = 0x31 := UInt8.sub_eq_iff_eq_add
        change (first - 0x30 = 0 ∨ first - 0x30 = 1) ↔ _
        rw [zero, one]
        simp

/-!
## One request
-/

/-- With a shell that never fails, every request for a known sensor writes the
file, also one that is refused afterwards. -/
theorem fanVerdict_echoes (sensors : SensorTable) (strayInterface : CString) (request : Buffer)
    (world : World) :
    ((fanVerdict sensors ⟨0, id, strayInterface⟩ request).after ⟨0, id, strayInterface⟩ request
        world).fanMode =
      if (sensors (request 0)).isSome then some (modeText (request 1)) else world.fanMode := by
  have decided := fanVerdict_decided sensors ⟨0, id, strayInterface⟩ request
  generalize fanVerdict sensors ⟨0, id, strayInterface⟩ request = verdict at decided
  cases decided with
  | unknown missing =>
    rw [missing]
    rfl
  | unset found failed => exact absurd rfl failed
  | automatic found set mode =>
    rw [found]
    rfl
  | forbidden found set mode unable =>
    rw [found]
    rfl
  | handed found set mode able =>
    rw [found]
    rfl

theorem FanSession.step_set (session : FanSession) {message : FanMessage}
    {strayInterface : CString} (asked : message.command = .set strayInterface) :
    ∃ after reply, session.step message = some ⟨after, ⟨message, reply⟩ :: session.history⟩ ∧
      after.fanMode =
        match message.written with
        | some mode => some (modeText mode)
        | none => session.world.fanMode := by
  unfold FanSession.step FanMessage.handler FanMessage.written
  rw [asked]
  dsimp only
  by_cases fits : FanRequestFits message.request.bytes message.request.length
  · obtain ⟨after, ran, mode, _⟩ :=
      run_ipmiSetFan_fits fits message.sensors ⟨0, id, strayInterface⟩ session.world
    have echoed := mode.trans (fanVerdict_echoes message.sensors strayInterface
      message.request.bytes session.world)
    have text : after.fanMode =
        match (if FanRequestFits message.request.bytes message.request.length ∧
            (message.sensors (message.request.bytes 0)).isSome then
          some (message.request.bytes 1) else none) with
        | some mode => some (modeText mode)
        | none => session.world.fanMode := by
      rw [echoed]
      cases known : (message.sensors (message.request.bytes 0)).isSome with
      | true => rw [if_pos rfl, if_pos ⟨fits, rfl⟩]
      | false => rw [if_neg Bool.false_ne_true, if_neg fun writes => Bool.false_ne_true writes.2]
    rw [ran]
    rcases FanVerdict.outcome_cases (fanVerdict message.sensors ⟨0, id, strayInterface⟩
        message.request.bytes) (message.request.bytes 0) (message.request.bytes 2) with
      ⟨code, answers⟩ | throws
    · rw [answers]
      exact ⟨after, _, rfl, text⟩
    · rw [throws]
      exact ⟨after, _, rfl, text⟩
  · have misfit : ¬ FanRequestFits message.request.bytes
        (session.world.receive message.request.length).dataLen := fits
    rw [run_ipmiSetFan_misfit misfit, if_neg fun writes => fits writes.1]
    exact ⟨_, _, rfl, rfl⟩

theorem FanSession.step_get (session : FanSession) {message : FanMessage} {reads : Bool}
    (asked : message.command = .get reads) :
    ∃ after reply, session.step message =
        some ⟨after, ⟨message, some reply⟩ :: session.history⟩ ∧
      after.fanMode = session.world.fanMode ∧
      (reply.code = ccOk ↔ message.request.length = 1 ∧
        (fanValue? message.sensors message.request.bytes).isSome) ∧
      (reply.code = ccOk →
        reply.length = 2 ∧ reply.data 0 = modeRead reads session.world.fanMode) := by
  unfold FanSession.step FanMessage.handler
  rw [asked]
  dsimp only
  by_cases succeeds : message.request.length = 1 ∧
      (fanValue? message.sensors message.request.bytes).isSome
  · obtain ⟨right, isSome⟩ := succeeds
    obtain ⟨value, found⟩ := Option.isSome_iff_exists.mp isSome
    have one : (session.world.receive message.request.length).dataLen = 1 := right
    rw [run_ipmiGetFan_ok one found]
    exact ⟨_, _, rfl, rfl, iff_of_true rfl ⟨right, isSome⟩, fun _ => ⟨rfl, rfl⟩⟩
  · have failed : (session.world.receive message.request.length).dataLen = 1 →
        fanValue? message.sensors message.request.bytes = none := by
      intro right
      by_contra found
      exact succeeds ⟨right, Option.isSome_iff_ne_none.mpr found⟩
    obtain ⟨code, error, ran⟩ := @run_ipmiGetFan_error _ reads _ _ failed
    rw [ran]
    exact ⟨_, _, rfl, rfl, iff_of_false error succeeds, fun success => absurd success error⟩

theorem FanMessage.written_get {message : FanMessage} {reads : Bool}
    (asked : message.command = .get reads) : message.written = none := by
  rw [FanMessage.written, asked]

theorem FanMessage.written_small {message : FanMessage} {mode : UInt8}
    (written : message.written = some mode) : mode = 0 ∨ mode = 1 := by
  unfold FanMessage.written at written
  cases asked : message.command with
  | get reads =>
    rw [asked] at written
    cases written
  | set strayInterface =>
    rw [asked] at written
    dsimp only at written
    by_cases writes : FanRequestFits message.request.bytes message.request.length ∧
        (message.sensors (message.request.bytes 0)).isSome
    · rw [if_pos writes] at written
      cases written
      rcases writes.1 with ⟨_, auto⟩ | ⟨_, manual⟩
      · exact .inr auto
      · exact .inl manual
    · rw [if_neg writes] at written
      cases written

theorem latestWritten_unwritten {message : FanMessage} (unwritten : message.written = none)
    (reply : Option Reply) (history : List FanExchange) :
    latestWritten (⟨message, reply⟩ :: history) = latestWritten history := by
  rw [latestWritten, unwritten]

theorem latestWritten_written {message : FanMessage} {mode : UInt8}
    (written : message.written = some mode) (reply : Option Reply) (history : List FanExchange) :
    latestWritten (⟨message, reply⟩ :: history) = some mode := by
  rw [latestWritten, written]

theorem FileHoldsLatest.unwritten {session : FanSession} {message : FanMessage} {after : World}
    (latest : FileHoldsLatest session) (unwritten : message.written = none)
    (kept : after.fanMode = session.world.fanMode) (reply : Option Reply) :
    FileHoldsLatest ⟨after, ⟨message, reply⟩ :: session.history⟩ := by
  have same := latestWritten_unwritten unwritten reply session.history
  constructor
  · intro mode latestMode
    exact latest.small mode (same.symm.trans latestMode)
  · intro mode latestMode
    exact kept.trans (latest.holds mode (same.symm.trans latestMode))

theorem FileHoldsLatest.written {session : FanSession} {message : FanMessage} {after : World}
    {mode : UInt8} (written : message.written = some mode)
    (text : after.fanMode = some (modeText mode)) (reply : Option Reply) :
    FileHoldsLatest ⟨after, ⟨message, reply⟩ :: session.history⟩ := by
  have now := latestWritten_written written reply session.history
  constructor
  · intro other latestMode
    cases now.symm.trans latestMode
    exact FanMessage.written_small written
  · intro other latestMode
    cases now.symm.trans latestMode
    exact text

theorem FanSession.step_holdsLatest {session next : FanSession} {message : FanMessage}
    (latest : FileHoldsLatest session) (stepped : session.step message = some next) :
    FileHoldsLatest next := by
  cases asked : message.command with
  | set strayInterface =>
    obtain ⟨after, reply, known, text⟩ := session.step_set asked
    rw [known] at stepped
    cases stepped
    cases written : message.written with
    | none =>
      rw [written] at text
      exact latest.unwritten written text reply
    | some mode =>
      rw [written] at text
      exact FileHoldsLatest.written written text reply
  | get reads =>
    obtain ⟨after, reply, known, text, _⟩ := session.step_get asked
    rw [known] at stepped
    cases stepped
    exact latest.unwritten (FanMessage.written_get asked) text (some reply)

theorem findsMode_iff {session : FanSession} (message : FanMessage)
    (latest : FileHoldsLatest session) (reported : ModesReported session.history) :
    message.FindsMode session ↔
      ∀ next, session.step message = some next → ModesReported next.history := by
  unfold FanMessage.FindsMode
  cases asked : message.command with
  | set strayInterface =>
    refine iff_of_true trivial fun next stepped => ?_
    obtain ⟨after, reply, known, _⟩ := session.step_set asked
    rw [known] at stepped
    cases stepped
    refine ⟨?_, reported⟩
    unfold FanExchange.ReportsMode
    rw [asked]
    trivial
  | get reads =>
    obtain ⟨after, reply, known, _, success, answer⟩ := session.step_get asked
    rw [known]
    dsimp only
    have reports : (∀ next, some (⟨after, ⟨message, some reply⟩ :: session.history⟩ : FanSession) =
        some next → ModesReported next.history) ↔
        FanExchange.ReportsMode (latestWritten session.history) ⟨message, some reply⟩ := by
      constructor
      · intro lawful
        exact (lawful _ rfl).1
      · rintro reports next ⟨⟩
        exact ⟨reports, reported⟩
    rw [reports]
    unfold FanExchange.ReportsMode
    rw [asked]
    dsimp only
    rw [success, and_imp]
    refine forall_congr' fun right => forall_congr' fun found => ?_
    obtain ⟨two, data⟩ := answer (success.mpr ⟨right, found⟩)
    rw [two, data, ← modeRead_small_iff]
    constructor
    · intro small
      refine ⟨Nat.two_pos, small, fun mode latestMode => ?_⟩
      have readable := (modeRead_small_iff.mp small).1
      rw [readable, latest.holds mode latestMode]
      exact modeRead_modeText (latest.small mode latestMode)
    · rintro ⟨_, small, _⟩
      exact small

/-!
## Runs
-/

/-- The fan modes reported in a run are those in force exactly when every get
that succeeds finds a file that begins with a mode. -/
theorem modesReported_iff (world : World) (messages : List FanMessage) :
    Always FanSession.step (fun session => ModesReported session.history)
        (FanSession.begin world) messages ↔
      EachStep FanSession.step FanMessage.FindsMode (FanSession.begin world) messages := by
  have exact : ∀ session message, FileHoldsLatest session → ModesReported session.history →
      (FanMessage.FindsMode session message ↔
        ∀ next, FanSession.step session message = some next → ModesReported next.history) :=
    fun _ message latest reported => findsMode_iff message latest reported
  have keeps : ∀ session message next, FileHoldsLatest session →
      FanSession.step session message = some next → FileHoldsLatest next :=
    fun _ _ _ latest stepped => FanSession.step_holdsLatest latest stepped
  have fresh : FileHoldsLatest (FanSession.begin world) := by
    constructor <;> intro mode written <;> cases written
  exact always_iff_eachStep_of_invariant keeps exact fresh trivial messages

/-- Once a set has written the file, gets of readers that run report the truth. -/
theorem findsMode_after_set {session : FanSession} {message : FanMessage} {mode : UInt8}
    (latest : FileHoldsLatest session) (written : latestWritten session.history = some mode)
    (reads : message.command = .get true) : message.FindsMode session := by
  unfold FanMessage.FindsMode
  rw [reads]
  intro _ _
  refine ⟨rfl, modeText mode, latest.holds mode written, ?_⟩
  rcases latest.small mode written with rfl | rfl
  · exact .inl rfl
  · exact .inr rfl

/-- Without a mode file the mode reported is `0 - '0'`. -/
theorem modesReported_lost_without_file :
    ¬ Always FanSession.step (fun session => ModesReported session.history)
      (FanSession.begin World.boot)
      [⟨fun _ => some SensorInfo.pwm, .get true, ⟨fun _ => 0, 1⟩⟩] := by
  intro always
  have reported := (always.2 _ rfl).1 rfl
  exact absurd reported.2.1 (by decide)

end InspurIpmi

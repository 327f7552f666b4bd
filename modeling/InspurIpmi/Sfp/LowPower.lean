import InspurIpmi.Foundation.Runs
import InspurIpmi.Sfp.Effects

/-!
# Low-power control

A session of set-low-power requests, what it may write, and what the status
commands report after it.
-/

set_option autoImplicit false

namespace InspurIpmi

open Foundation

/-!
## Lines
-/

theorem gpioLine_bounds (base : ℤ) {sfpIndex : UInt8} (inside : sfpIndex.toNat < 32) :
    base - 24 ≤ gpioLine base sfpIndex ∧ gpioLine base sfpIndex ≤ base + 7 := by
  unfold gpioLine blockBase
  omega

theorem gpioLine_injective {base : ℤ} {first second : UInt8}
    (same : gpioLine base first = gpioLine base second) : first = second := by
  unfold gpioLine blockBase at same
  apply UInt8.toNat.inj
  omega

theorem gpioLine_lpmode_ne {base : ℤ} (other : base = presentIndex ∨ base = interruptIndex)
    {first second : UInt8} (firstInside : first.toNat < 32) (secondInside : second.toNat < 32) :
    gpioLine base second ≠ gpioLine lpmodeIndex first := by
  have lowPower := gpioLine_bounds lpmodeIndex firstInside
  have status := gpioLine_bounds base secondInside
  unfold presentIndex interruptIndex at other
  unfold lpmodeIndex at lowPower ⊢
  omega

/-!
## What the status commands report
-/

def GpioRead.healthy : GpioRead := ⟨true, some 3⟩

def reported (getter : GpioRead → Locals → Buffer → Daemon CompletionCode) (locals : Locals)
    (world : World) (port : UInt8) : Option UInt8 :=
  match serve (getter .healthy locals fun _ => port) 1 world with
  | some (reply, _) => if reply.code = ccOk ∧ reply.length = 1 then some (reply.data 0) else none
  | none => none

theorem atoi_gpioText (locals : Locals) (value : Int) :
    atoi (locals.text (gpioText value)) = if value = 0 then 0 else 1 := by
  unfold Locals.text gpioText
  split <;> rw [List.append_assoc, atoi_append] <;> exact Scan.finish_done _ _ _

theorem reported_sfpStatus {base : ℤ} {status : Int → UInt8} {locals : Locals} {world : World}
    {port : UInt8} {value : Int} (inside : port.toNat < 32)
    (line : world.gpio (gpioLine base port) = some (gpioText value)) :
    reported (sfpStatus base status) locals world port =
      some (status (if value = 0 then 0 else 1)) := by
  have delivered : GpioRead.healthy.outcome (world.gpio (gpioLine base port)) =
      .delivered (gpioText value) := by
    rw [line]
    unfold gpioText
    split <;> rfl
  have number : (GpioOutcome.delivered (gpioText value)).value locals = if value = 0 then 0 else 1 :=
    atoi_gpioText locals value
  have ran : (sfpStatus base status .healthy locals fun _ => port).run (world.receive 1) = _ :=
    run_sfpStatus_read rfl inside delivered
  rw [number, if_neg (by split <;> decide)] at ran
  unfold reported
  rw [serve_returned ran]
  rfl

/-!
## Sessions
-/

structure SetLowPower where
  calls : CharWrite
  request : Request

/-- A request that was answered, and the events between request and answer. -/
structure Answered where
  request : Request
  reply : Reply
  events : List Event

structure Session where
  world : World
  history : List Answered

def Session.begin (world : World) : Session := ⟨world, []⟩

def Session.step (session : Session) (command : SetLowPower) : Option Session :=
  (serve (ipmiSetSFPLowPowerMode command.calls command.request.bytes) command.request.length
      session.world).map fun served =>
    { world := served.2
      history := ⟨command.request, served.1,
        served.2.trace.drop session.world.trace.length⟩ :: session.history }

def lastMode (port : UInt8) : List Answered → Option UInt8
  | [] => none
  | answered :: earlier =>
      if answered.reply.code = ccOk ∧ answered.request.bytes 0 = port then
        some (answered.request.bytes 1)
      else lastMode port earlier

/-- What a session that began in `start` may have done. -/
structure PortControl (start : World) (session : Session) : Prop where
  rejected : ∀ answered ∈ session.history, getSFPSum ≤ (answered.request.bytes 0).toNat →
    answered.reply.code ≠ ccOk ∧ ∀ line, .gpioWriteAttempt line ∉ answered.events
  framed : ∀ answered ∈ session.history, answered.reply.code = ccOk →
    ∀ line, .gpioWriteAttempt line ∈ answered.events →
      line = gpioLine lpmodeIndex (answered.request.bytes 0)
  lowPower : ∀ locals, ∀ port : UInt8, port.toNat < getSFPSum →
    reported ipmiGetSFPLowPowerMode locals session.world port =
      match lastMode port session.history with
      | some mode => some (if mode = 1 then 1 else 0)
      | none => reported ipmiGetSFPLowPowerMode locals start port
  present : ∀ locals port, port.toNat < getSFPSum →
    reported ipmiGetSFPPresent locals session.world port =
      reported ipmiGetSFPPresent locals start port
  interrupt : ∀ locals port, port.toNat < getSFPSum →
    reported ipmiGetSFPInterruptInfo locals session.world port =
      reported ipmiGetSFPInterruptInfo locals start port

/-- Every line exists and shows a value as the kernel writes it. -/
def LinesShown (world : World) : Prop :=
  ∃ values : ℤ → Int, world.gpio = fun line => some (gpioText (values line))

theorem reported_congr {base : ℤ} {status : Int → UInt8} {before after : World} {port : UInt8}
    (shown : LinesShown before) (inside : port.toNat < getSFPSum)
    (same : after.gpio (gpioLine base port) = before.gpio (gpioLine base port)) (locals : Locals) :
    reported (sfpStatus base status) locals after port =
      reported (sfpStatus base status) locals before port := by
  obtain ⟨values, lines⟩ := shown
  rw [reported_sfpStatus inside (congrFun lines _),
    reported_sfpStatus inside (same.trans (congrFun lines _))]

theorem portControl_begin (world : World) : PortControl world (Session.begin world) where
  rejected := fun _ member => nomatch member
  framed := fun _ member => nomatch member
  lowPower := fun _ _ _ => rfl
  present := fun _ _ _ => rfl
  interrupt := fun _ _ _ => rfl

theorem PortControl.rejection {start after : World} {session : Session} {answered : Answered}
    (control : PortControl start session) (shown : LinesShown session.world)
    (code : answered.reply.code ≠ ccOk)
    (attempts : getSFPSum ≤ (answered.request.bytes 0).toNat →
      ∀ line, .gpioWriteAttempt line ∉ answered.events)
    (same : after.gpio = session.world.gpio) :
    PortControl start ⟨after, answered :: session.history⟩ where
  rejected := by
    intro other member outside
    rcases List.mem_cons.mp member with rfl | earlier
    · exact ⟨code, attempts outside⟩
    · exact control.rejected other earlier outside
  framed := by
    intro other member accepted
    rcases List.mem_cons.mp member with rfl | earlier
    · exact absurd accepted code
    · exact control.framed other earlier accepted
  lowPower := by
    intro locals port inside
    rw [lastMode, if_neg fun accepted => code accepted.1, ← control.lowPower locals port inside]
    exact reported_congr shown inside (congrFun same _) locals
  present := by
    intro locals port inside
    rw [← control.present locals port inside]
    exact reported_congr shown inside (congrFun same _) locals
  interrupt := by
    intro locals port inside
    rw [← control.interrupt locals port inside]
    exact reported_congr shown inside (congrFun same _) locals

theorem PortControl.acceptance {start after : World} {session : Session} {answered : Answered}
    (control : PortControl start session) (shown : LinesShown session.world)
    (inside : (answered.request.bytes 0).toNat < getSFPSum)
    (attempts : ∀ line, .gpioWriteAttempt line ∈ answered.events →
      line = gpioLine lpmodeIndex (answered.request.bytes 0))
    (written : after.gpio = Function.update session.world.gpio
      (lowPowerLine answered.request.bytes)
      (some (gpioText (lowPowerValue answered.request.bytes))))
    (code : answered.reply.code = ccOk) :
    PortControl start ⟨after, answered :: session.history⟩ where
  rejected := by
    intro other member outside
    rcases List.mem_cons.mp member with rfl | earlier
    · exact absurd inside (not_lt_of_ge outside)
    · exact control.rejected other earlier outside
  framed := by
    intro other member accepted
    rcases List.mem_cons.mp member with rfl | earlier
    · exact attempts
    · exact control.framed other earlier accepted
  lowPower := by
    intro locals port below
    by_cases addressed : answered.request.bytes 0 = port
    · subst addressed
      have line : after.gpio (gpioLine lpmodeIndex (answered.request.bytes 0)) =
          some (gpioText (lowPowerValue answered.request.bytes)) := by
        rw [written]
        exact Function.update_self _ _ _
      rw [lastMode, if_pos ⟨code, rfl⟩]
      unfold ipmiGetSFPLowPowerMode
      rw [reported_sfpStatus below line]
      unfold lowPowerValue
      by_cases mode : answered.request.bytes 1 = 1 <;> simp [mode]
    · rw [lastMode, if_neg fun accepted => addressed accepted.2, ← control.lowPower locals port below]
      refine reported_congr shown below ?_ locals
      rw [written]
      exact Function.update_of_ne (fun same => addressed (gpioLine_injective same).symm) _ _
  present := by
    intro locals port below
    rw [← control.present locals port below]
    refine reported_congr shown below ?_ locals
    rw [written]
    exact Function.update_of_ne (gpioLine_lpmode_ne (.inl rfl) inside below) _ _
  interrupt := by
    intro locals port below
    rw [← control.interrupt locals port below]
    refine reported_congr shown below ?_ locals
    rw [written]
    exact Function.update_of_ne (gpioLine_lpmode_ne (.inr rfl) inside below) _ _

/-!
## One request
-/

def SetLowPower.InRange (command : SetLowPower) : Prop :=
  command.request.length = 2 → (command.request.bytes 0).toNat < getSFPSum

theorem Session.step_of_run {session : Session} {command : SetLowPower} {code : CompletionCode}
    {after : World} {events : List Event}
    (ran : (ipmiSetSFPLowPowerMode command.calls command.request.bytes).run
      (session.world.receive command.request.length) = (.returned code, after))
    (traced : after.trace = session.world.trace ++ events) :
    session.step command =
      some ⟨after, ⟨command.request, ⟨code, after.dataLen, after.response⟩, events⟩ ::
        session.history⟩ := by
  unfold Session.step
  rw [serve_returned ran, Option.map_some, traced, List.drop_left]

theorem Session.step_length (session : Session) {command : SetLowPower}
    (wrong : command.request.length ≠ 2) :
    ∃ answered after, session.step command = some ⟨after, answered :: session.history⟩ ∧
      answered.reply.code ≠ ccOk ∧ answered.events = [] ∧ after.gpio = session.world.gpio := by
  have ran : (ipmiSetSFPLowPowerMode command.calls command.request.bytes).run
      (session.world.receive command.request.length) = _ :=
    run_ipmiSetSFPLowPowerMode_length wrong
  exact ⟨_, _, Session.step_of_run ran (List.append_nil _).symm, ccReqDataLenInvalid_ne_ok, rfl, rfl⟩

theorem Session.step_write (session : Session) {command : SetLowPower}
    (right : command.request.length = 2) :
    ∃ answered after, session.step command = some ⟨after, answered :: session.history⟩ ∧
      answered.request = command.request ∧
      answered.events = [.gpioWriteAttempt (lowPowerLine command.request.bytes)] ∧
      (answered.reply.code ≠ ccOk ∧ after.gpio = session.world.gpio ∨
        answered.reply.code = ccOk ∧ after.gpio = Function.update session.world.gpio
          (lowPowerLine command.request.bytes)
          (some (gpioText (lowPowerValue command.request.bytes)))) := by
  have two : (session.world.receive command.request.length).dataLen = 2 := right
  cases answer : command.calls.succeeds
      (session.world.gpio (lowPowerLine command.request.bytes)).isSome with
  | false =>
      have ran := run_ipmiSetSFPLowPowerMode_write two answer
      exact ⟨_, _, Session.step_of_run ran rfl, rfl, rfl, .inl ⟨ccInvalidFieldRequest_ne_ok, rfl⟩⟩
  | true =>
      have ran := run_ipmiSetSFPLowPowerMode_write two answer
      exact ⟨_, _, Session.step_of_run ran rfl, rfl, rfl, .inr ⟨rfl, rfl⟩⟩

theorem Session.step_some (session : Session) (command : SetLowPower) :
    ∃ next, session.step command = some next := by
  by_cases right : command.request.length = 2
  · obtain ⟨_, _, stepped, _⟩ := session.step_write right
    exact ⟨_, stepped⟩
  · obtain ⟨_, _, stepped, _⟩ := session.step_length right
    exact ⟨_, stepped⟩

theorem Session.step_shown {session next : Session} {command : SetLowPower}
    (shown : LinesShown session.world) (stepped : session.step command = some next) :
    LinesShown next.world := by
  by_cases right : command.request.length = 2
  · obtain ⟨answered, after, known, _, _, ⟨_, same⟩ | ⟨_, written⟩⟩ :=
      session.step_write right
    · rw [known] at stepped
      cases stepped
      obtain ⟨values, lines⟩ := shown
      exact ⟨values, same.trans lines⟩
    · rw [known] at stepped
      cases stepped
      obtain ⟨values, lines⟩ := shown
      refine ⟨Function.update values (lowPowerLine command.request.bytes)
        (lowPowerValue command.request.bytes), ?_⟩
      rw [written, lines]
      funext line
      by_cases same : line = lowPowerLine command.request.bytes
      · rw [same, Function.update_self, Function.update_self]
      · rw [Function.update_of_ne same, Function.update_of_ne same]
  · obtain ⟨answered, after, known, _, _, same⟩ := session.step_length right
    rw [known] at stepped
    cases stepped
    obtain ⟨values, lines⟩ := shown
    exact ⟨values, same.trans lines⟩

theorem inRange_iff {start : World} {session : Session} (command : SetLowPower)
    (shown : LinesShown session.world) (control : PortControl start session) :
    command.InRange ↔ ∀ next, session.step command = some next → PortControl start next := by
  by_cases right : command.request.length = 2
  · obtain ⟨answered, after, stepped, asked, events, outcome⟩ :=
      session.step_write right
    rw [stepped]
    constructor
    · rintro inRange next ⟨⟩
      have inside : (answered.request.bytes 0).toNat < getSFPSum := by
        rw [asked]
        exact inRange right
      rcases outcome with ⟨code, same⟩ | ⟨code, written⟩
      · exact control.rejection shown code (fun outside => absurd inside (not_lt_of_ge outside)) same
      · refine control.acceptance shown inside (fun line attempted => ?_) (by rw [asked]; exact written)
          code
        rw [events, List.mem_singleton] at attempted
        rw [asked]
        exact Event.gpioWriteAttempt.inj attempted
    · intro lawful _
      by_contra outside
      have attempts := ((lawful _ rfl).rejected answered List.mem_cons_self
        (by rw [asked]; exact not_lt.mp outside)).2
      refine attempts (lowPowerLine command.request.bytes) ?_
      rw [events]
      exact List.mem_singleton_self _
  · obtain ⟨answered, after, stepped, code, events, same⟩ :=
      session.step_length right
    refine iff_of_true (fun two => absurd two right) fun next known => ?_
    rw [stepped] at known
    cases known
    refine control.rejection shown code (fun _ line => ?_) same
    rw [events]
    exact List.not_mem_nil

/-!
## Runs
-/

/-- A session keeps to the addressed ports exactly when no request addresses a
port that does not exist. -/
theorem session_portControl_iff {world : World} (shown : LinesShown world)
    (commands : List SetLowPower) :
    Always Session.step (PortControl world) (Session.begin world) commands ↔
      ∀ command ∈ commands, command.InRange := by
  have exact : ∀ session command, LinesShown session.world → PortControl world session →
      (SetLowPower.InRange command ↔
        ∀ next, Session.step session command = some next → PortControl world next) :=
    fun _ command shown control => inRange_iff command shown control
  have keeps : ∀ session command next, LinesShown session.world →
      Session.step session command = some next → LinesShown next.world :=
    fun _ _ _ shown stepped => Session.step_shown shown stepped
  rw [always_iff_eachStep_of_invariant keeps exact shown (portControl_begin world)]
  exact eachStep_iff_forall Session.step_some _ _

def World.linesLow : World := { World.boot with gpio := fun _ => some (gpioText 0) }

theorem World.linesLow_shown : LinesShown World.linesLow := ⟨fun _ => 0, rfl⟩

theorem session_portControl_iff_linesLow :
    Always Session.step (PortControl World.linesLow) (Session.begin World.linesLow)
        [⟨⟨true, true⟩, ⟨fun _ => 1, 2⟩⟩, ⟨⟨true, false⟩, ⟨fun _ => 31, 2⟩⟩] ↔
      ∀ command ∈ [(⟨⟨true, true⟩, ⟨fun _ => 1, 2⟩⟩ : SetLowPower),
        ⟨⟨true, false⟩, ⟨fun _ => 31, 2⟩⟩], command.InRange :=
  session_portControl_iff World.linesLow_shown _

/-- An index that is too large reaches down into the lines of another signal. -/
theorem gpioLine_lpmode_shift {sfpIndex : UInt8} (inside : sfpIndex.toNat < 32) :
    gpioLine lpmodeIndex (sfpIndex + 32) = gpioLine interruptIndex sfpIndex ∧
      gpioLine lpmodeIndex (sfpIndex + 64) = gpioLine presentIndex sfpIndex := by
  have next : (sfpIndex + 32).toNat = sfpIndex.toNat + 32 := by
    rw [UInt8.toNat_add]
    exact Nat.mod_eq_of_lt (show sfpIndex.toNat + 32 < 2 ^ 8 by omega)
  have afterNext : (sfpIndex + 64).toNat = sfpIndex.toNat + 64 := by
    rw [UInt8.toNat_add]
    exact Nat.mod_eq_of_lt (show sfpIndex.toNat + 64 < 2 ^ 8 by omega)
  unfold gpioLine lpmodeIndex interruptIndex presentIndex blockBase
  omega

/-- Index `64` is accepted, and switches the present line of port `0`. -/
theorem portControl_lost_by_index_64 :
    ¬ Always Session.step (PortControl World.linesLow) (Session.begin World.linesLow)
      [⟨⟨true, true⟩, ⟨fun _ => 64, 2⟩⟩] := by
  intro always
  have inRange := (inRange_iff ⟨⟨true, true⟩, ⟨fun _ => 64, 2⟩⟩ World.linesLow_shown
    (portControl_begin World.linesLow)).mpr fun next stepped => (always.2 next stepped).start
  exact absurd (inRange rfl) (by decide)

end InspurIpmi

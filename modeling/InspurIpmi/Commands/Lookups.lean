import InspurIpmi.Bios.Effects
import InspurIpmi.Commands
import InspurIpmi.Sfp.Effects

/-!
# Table lookups

Which requests index the tables inside their bounds, and how an index outside is
answered.
-/

set_option autoImplicit false

namespace InspurIpmi

open Foundation

def Table.size : Table → ℕ
  | assetInfoGotFlag => deviceTypeMax
  | inputverinfo => InspurIpmi.inputverinfo.length
  | path => InspurIpmi.path.length

inductive LookupCommand where
  | setSystemInfo (calls : BusCalls)
  | getSystemInfo (calls : BusCalls)
  | readVRINFO (calls : VrCalls)
  | getSFPEEPROM (calls : SffCalls)

namespace LookupCommand

def command : LookupCommand → Command
  | setSystemInfo calls => .device (.setSystemInfo calls)
  | getSystemInfo calls => .device (.getSystemInfo calls)
  | readVRINFO calls => .readVRINFO calls
  | getSFPEEPROM calls => .device (.getSFPEEPROM calls)

def table : LookupCommand → Table
  | setSystemInfo _ => .assetInfoGotFlag
  | getSystemInfo _ => .assetInfoGotFlag
  | readVRINFO _ => .inputverinfo
  | getSFPEEPROM _ => .path

def LengthPasses (length : ℕ) : LookupCommand → Prop
  | setSystemInfo _ => 14 < length
  | getSystemInfo _ => length = 1
  | readVRINFO _ => length = 2
  | getSFPEEPROM _ => length = 4

end LookupCommand

def InRange (events : List Event) : Prop :=
  ∀ table index, .lookup table index ∈ events → index < table.size

structure StoreUntouched (before after : World) : Prop where
  records : after.records = before.records
  flags : after.assetInfoGotFlag = before.assetInfoGotFlag
  cells : after.eeprom.cells = before.eeprom.cells

/-- Every lookup of the request is in range, and an index that is not is answered
with an error. -/
structure LookupCommand.IndexSafe (request : Request) (world : World) (command : LookupCommand) :
    Prop where
  inRange : InRange (((command.command.handler request.bytes).run
    (world.receive request.length)).2.trace.drop world.trace.length)
  rejected : command.table.size ≤ (request.bytes 0).toNat →
    ∃ code after, (command.command.handler request.bytes).run (world.receive request.length) =
        (.returned code, after) ∧
      code ≠ ccOk ∧ StoreUntouched world after

/-- The flag of an unsupported type is read before the type is looked at, and the
regulator table is never guarded. A set looks at the type in time, unless the
process ends first. -/
def LookupCommand.Guarded (request : Request) (world : World) : LookupCommand → Prop
  | setSystemInfo calls =>
      (request.bytes 0).toNat < 8 ∨ (calls.opens 0).verdict world.fds ≠ .halted
  | getSystemInfo _ => (request.bytes 0).toNat < 8
  | readVRINFO _ => (request.bytes 0).toNat < 3
  | getSFPEEPROM _ => True

theorem inRange_of_run (command : LookupCommand) {request : Request} {world after : World}
    {outcome : Outcome Exception CompletionCode} {events : List Event}
    (ran : (command.command.handler request.bytes).run (world.receive request.length) =
      (outcome, after)) (traced : after.trace = world.trace ++ events) :
    InRange (((command.command.handler request.bytes).run
      (world.receive request.length)).2.trace.drop world.trace.length) ↔ InRange events := by
  rw [ran, traced, List.drop_left]

theorem inRange_nil : InRange [] := fun _ _ member => nomatch member

theorem inRange_cons {table : Table} {index : ℕ} {events : List Event} :
    InRange (.lookup table index :: events) ↔ index < table.size ∧ InRange events := by
  constructor
  · intro all
    exact ⟨all table index List.mem_cons_self,
      fun other place member => all other place (List.mem_cons_of_mem _ member)⟩
  · rintro ⟨first, rest⟩ other place member
    rcases List.mem_cons.mp member with same | later
    · cases same
      exact first
    · exact rest other place later

/-!
## Traces
-/

theorem World.noted_trace_supported {request : Buffer} {type : AssetType}
    (supported : AssetType.ofDeviceType? (request 0) = some type) (world : World) :
    (world.noted request).trace =
      world.trace ++ [.lookup .assetInfoGotFlag type.deviceType.toNat] := by
  rw [World.noted_supported supported]
  rfl

theorem World.sent_trace (request : Buffer) (world : World) :
    (world.sent request).trace = world.trace := by
  unfold World.sent
  split <;> rfl

section

variable {request : Request} {world : World}

theorem traced_setSystemInfo (calls : BusCalls) (world : World) (long : 14 < request.length) :
    ∃ outcome after, (ipmiSetSystemInfo calls request.bytes).run (world.receive request.length) =
        (outcome, after) ∧
      after.trace = ((world.receive request.length).noted request.bytes).trace := by
  cases calls.assetReach (request.bytes 0) world.fds with
  | halted halted => exact ⟨_, _, run_ipmiSetSystemInfo_halted long halted, rfl⟩
  | failed failed alive => exact ⟨_, _, run_ipmiSetSystemInfo_failed long failed alive, rfl⟩
  | opened supported opened =>
    exact ⟨_, _, run_ipmiSetSystemInfo_opened long supported opened, rfl⟩

theorem traced_getSystemInfo (calls : BusCalls) (world : World) (right : request.length = 1) :
    ∃ outcome after later,
      (ipmiGetSystemInfo calls request.bytes).run (world.receive request.length) =
        (outcome, after) ∧
      after.trace =
        world.trace ++ .lookup .assetInfoGotFlag (request.bytes 0).toNat :: later ∧
      InRange later := by
  have one : (world.receive request.length).dataLen = 1 := right
  by_cases missing : world.assetInfoGotFlag (request.bytes 0).toNat = 0
  · cases calls.assetReach (request.bytes 0) world.fds with
    | halted halted =>
      exact ⟨_, _, [], run_ipmiGetSystemInfo_halted one missing halted, rfl, inRange_nil⟩
    | failed failed alive =>
      exact ⟨_, _, [], run_ipmiGetSystemInfo_failed one missing failed alive, rfl, inRange_nil⟩
    | @opened type supported opened =>
      obtain ⟨pointer, ran⟩ := run_ipmiGetSystemInfo_opened one missing supported opened
      refine ⟨_, _, [.lookup .assetInfoGotFlag type.deviceType.toNat], ran, ?_,
        inRange_cons.mpr ⟨type.deviceType_lt, inRange_nil⟩⟩
      rw [World.sent_trace]
      exact List.append_assoc world.trace _ _
  · exact ⟨_, _, [], run_ipmiGetSystemInfo_cached one missing, World.sent_trace _ _, inRange_nil⟩

theorem traced_readVRINFO (calls : VrCalls) (world : World) (right : request.length = 2) :
    ∃ outcome after, (ipmiReadVRINFO calls request.bytes).run (world.receive request.length) =
        (outcome, after) ∧
      after.trace = world.trace ++ [.lookup .inputverinfo (request.bytes 0).toNat] := by
  have two : (world.receive request.length).dataLen = 2 := right
  cases calls.reach (calls.row request.bytes) with
  | unopened unopened => exact ⟨_, _, run_ipmiReadVRINFO_unopened two unopened, rfl⟩
  | unselected opened unselected =>
    exact ⟨_, _, run_ipmiReadVRINFO_unselected two opened unselected, rfl⟩
  | unread opened selected unread =>
    exact ⟨_, _, run_ipmiReadVRINFO_unread two opened selected unread, rfl⟩
  | read opened selected read =>
    exact ⟨_, _, run_ipmiReadVRINFO_read two opened selected read, rfl⟩

/-!
## The commands
-/

theorem indexSafe_of_inside {command : LookupCommand} {after : World}
    {outcome : Outcome Exception CompletionCode} {events : List Event}
    (ran : (command.command.handler request.bytes).run (world.receive request.length) =
      (outcome, after)) (traced : after.trace = world.trace ++ events) (inRange : InRange events)
    (inside : (request.bytes 0).toNat < command.table.size) : command.IndexSafe request world :=
  ⟨(inRange_of_run command ran traced).mpr inRange, fun outside => absurd inside (not_lt.mpr outside)⟩

theorem not_indexSafe_of_outside {command : LookupCommand} {after : World}
    {outcome : Outcome Exception CompletionCode} {events : List Event}
    (ran : (command.command.handler request.bytes).run (world.receive request.length) =
      (outcome, after)) (traced : after.trace = world.trace ++ events)
    (outOfRange : ¬ InRange events) : ¬ command.IndexSafe request world :=
  fun safe => outOfRange ((inRange_of_run command ran traced).mp safe.inRange)

theorem indexSafe_getSystemInfo {calls : BusCalls} (right : request.length = 1) :
    (LookupCommand.getSystemInfo calls).IndexSafe request world ↔
      (request.bytes 0).toNat < 8 := by
  obtain ⟨outcome, after, later, ran, traced, inRange⟩ := traced_getSystemInfo calls world right
  by_cases inside : (request.bytes 0).toNat < 8
  · exact iff_of_true (indexSafe_of_inside ran traced (inRange_cons.mpr ⟨inside, inRange⟩) inside) inside
  · exact iff_of_false
      (not_indexSafe_of_outside ran traced fun all => inside (inRange_cons.mp all).1) inside

theorem indexSafe_readVRINFO {calls : VrCalls} (right : request.length = 2) :
    (LookupCommand.readVRINFO calls).IndexSafe request world ↔ (request.bytes 0).toNat < 3 := by
  obtain ⟨outcome, after, ran, traced⟩ := traced_readVRINFO calls world right
  by_cases inside : (request.bytes 0).toNat < 3
  · exact iff_of_true
      (indexSafe_of_inside ran traced (inRange_cons.mpr ⟨inside, inRange_nil⟩) inside) inside
  · exact iff_of_false
      (not_indexSafe_of_outside ran traced fun all => inside (inRange_cons.mp all).1) inside

theorem indexSafe_setSystemInfo {calls : BusCalls} (long : 14 < request.length) :
    (LookupCommand.setSystemInfo calls).IndexSafe request world ↔
      (request.bytes 0).toNat < 8 ∨ (calls.opens 0).verdict world.fds ≠ .halted := by
  obtain ⟨outcome, after, ran, traced⟩ := traced_setSystemInfo calls world long
  cases supported : AssetType.ofDeviceType? (request.bytes 0) with
  | some type =>
      have inside : (request.bytes 0).toNat < 8 := by
        rw [AssetType.ofDeviceType?_eq_some.mp supported]
        exact type.deviceType_lt
      rw [World.noted_trace_supported supported] at traced
      exact iff_of_true (indexSafe_of_inside ran traced
        (inRange_cons.mpr ⟨type.deviceType_lt, inRange_nil⟩) inside) (.inl inside)
  | none =>
      rw [World.noted_unsupported supported] at traced
      have untraced : after.trace = world.trace ++ [] := traced.trans (List.append_nil _).symm
      have inRange := (inRange_of_run (.setSystemInfo calls) ran untraced).mpr inRange_nil
      by_cases inside : (request.bytes 0).toNat < 8
      · exact iff_of_true ⟨inRange, fun outside => absurd inside (not_lt.mpr outside)⟩ (.inl inside)
      · by_cases halted : (calls.opens 0).verdict world.fds = .halted
        · refine iff_of_false (fun safe => ?_) (not_or.mpr ⟨inside, not_not_intro halted⟩)
          obtain ⟨code, reached, returned, _⟩ := safe.rejected (not_lt.mp inside)
          have ended : ((LookupCommand.setSystemInfo calls).command.handler request.bytes).run
              (world.receive request.length) = _ := run_ipmiSetSystemInfo_halted long halted
          rw [ended] at returned
          cases returned
        · refine iff_of_true ⟨inRange, fun _ => ?_⟩ (.inr halted)
          have answered : (ipmiSetSystemInfo calls request.bytes).run
              (world.receive request.length) = _ :=
            run_ipmiSetSystemInfo_failed long (.inl supported) halted
          rw [World.noted_unsupported supported, setCode, supported] at answered
          exact ⟨_, _, answered, ccUnspecifiedError_ne_ok, rfl, rfl, rfl⟩

theorem indexSafe_getSFPEEPROM {calls : SffCalls} (right : request.length = 4) :
    (LookupCommand.getSFPEEPROM calls).IndexSafe request world := by
  by_cases inside : (request.bytes 0).toNat < 32
  · have inTable := inRange_cons.mpr ⟨show (request.bytes 0).toNat < Table.size .path from inside, inRange_nil⟩
    cases answer : calls.outcome (world.files (sffFile (request.bytes 0).toNat)) with
    | error status =>
        exact indexSafe_of_inside (run_ipmigetSFPEEPROM_error right inside answer) rfl inTable inside
    | ok delivered =>
        exact indexSafe_of_inside (run_ipmigetSFPEEPROM_ok right inside answer) rfl inTable inside
  · have ran : (ipmigetSFPEEPROM calls request.bytes).run (world.receive request.length) = _ :=
      run_ipmigetSFPEEPROM_range right (not_lt.mp inside)
    exact ⟨(inRange_of_run (.getSFPEEPROM calls) ran (List.append_nil _).symm).mpr inRange_nil,
      fun _ => ⟨_, _, ran, ccParmOutOfRange_ne_ok, rfl, rfl, rfl⟩⟩

end

/-- Among the requests of the right length, those that keep every lookup inside
its table and answer an index outside it are exactly the guarded ones. -/
theorem indexSafe_iff {command : LookupCommand} {request : Request}
    (passes : command.LengthPasses request.length) (world : World) :
    command.IndexSafe request world ↔ command.Guarded request world := by
  cases command with
  | setSystemInfo calls => exact indexSafe_setSystemInfo passes
  | getSystemInfo calls => exact indexSafe_getSystemInfo passes
  | readVRINFO calls => exact indexSafe_readVRINFO passes
  | getSFPEEPROM calls => exact iff_of_true (indexSafe_getSFPEEPROM passes) trivial

theorem indexSafe_iff_boot :
    (LookupCommand.getSystemInfo .healthy).IndexSafe ⟨fun _ => deviceTypeFwRevision, 1⟩ World.boot ↔
      (LookupCommand.getSystemInfo .healthy).Guarded ⟨fun _ => deviceTypeFwRevision, 1⟩ World.boot :=
  indexSafe_iff (show (LookupCommand.getSystemInfo .healthy).LengthPasses
    (Request.length ⟨fun _ => deviceTypeFwRevision, 1⟩) from rfl) World.boot

theorem lookup_out_of_range :
    (LookupCommand.getSystemInfo .healthy).LengthPasses 1 ∧
      ¬ (LookupCommand.getSystemInfo .healthy).IndexSafe ⟨fun _ => 8, 1⟩ World.boot :=
  ⟨rfl, fun safe => absurd ((indexSafe_getSystemInfo rfl).mp safe) (by decide)⟩

end InspurIpmi

import InspurIpmi.OemCommands.Chunks
import InspurIpmi.OemCommands.Identities

/-!
# The BIOS ID between its setting and its reading

One command sets the whole BIOS ID and another one reads it in chunks. Between two chunks
the daemon answers whatever messages other clients send.
-/

set_option autoImplicit false

namespace InspurIpmi

open Foundation

/-!
## Sessions
-/

/-- The daemon, and a reader with the bytes it has received. -/
structure ReadSession (δ : Type) where
  world : OemWorld δ
  received : List UInt8
  /-- The BIOS ID, once its end has been seen. -/
  text : Option (List UInt8)

inductive SessionEvent where
  /-- The reader asks for the bytes behind those it has. -/
  | ask (count : UInt8) (calls : OemCalls) (response : Buffer)
  /-- Another client sends a message. -/
  | message (message : OemMessage)

namespace ReadSession

variable {δ : Type}

def start (world : OemWorld δ) : ReadSession δ where
  world := world
  received := []
  text := none

/-- An offset out of range is the end of the text. After any other error, or without an
answer, the reader will ask again. -/
def answered (session : ReadSession δ) (after : OemWorld δ) : Option Reply → ReadSession δ
  | none => { session with world := after }
  | some reply =>
      if reply.code = ccOk then
        { session with world := after, received := session.received ++ reply.chunk }
      else if reply.code = ccParmOutOfRange then
        { session with world := after, text := some session.received }
      else { session with world := after }

/-- The next chunk is the one behind the bytes received. -/
def nextRequest (header : OemHeader) (session : ReadSession δ) (count : UInt8) (calls : OemCalls)
    (response : Buffer) : OemMessage where
  command := .getDeviceInfo
  calls := calls
  request := chunkRequest header.entityType count (UInt8.ofNat session.received.length)
  length := getOemDeviceInfoReqSize
  response := response

def step (doubles : Doubles δ) (header : OemHeader) (session : ReadSession δ) :
    SessionEvent → ReadSession δ
  | .message message => { session with world := (message.transmit doubles header session.world).2 }
  | .ask count calls response =>
      match session.text with
      | some _ => session
      | none =>
          let (reply, after) :=
            (session.nextRequest header count calls response).transmit doubles header session.world
          session.answered after reply

def run (doubles : Doubles δ) (header : OemHeader) (session : ReadSession δ)
    (events : List SessionEvent) : ReadSession δ :=
  events.foldl (step doubles header) session

/-- No BIOS ID is set while the session goes on. -/
def Undisturbed (doubles : Doubles δ) (header : OemHeader) :
    ReadSession δ → List SessionEvent → Prop :=
  EachStep (fun session event => some (session.step doubles header event))
    fun session event => ∀ message, event = .message message →
      Identity.biosId.Leaves doubles header session.world message

end ReadSession

/-- The chunk is asked for with a positive count, and both calls work. -/
def SessionEvent.works : SessionEvent → Bool
  | .ask count calls _ => 0 < count ∧ calls.fails 0 = none ∧ calls.fails 1 = none
  | _ => false

/-!
## What is set
-/

theorem requestedId_length (request : Buffer) :
    (requestedId request).length = (request 0).toNat := by
  simp [requestedId]

theorem requestedId_short (request : Buffer) : (requestedId request).length ≤ 255 := by
  rw [requestedId_length]
  exact Nat.le_of_lt_succ (request 0).toNat_lt

/-!
## What is read
-/

section Reading

variable {δ : Type} {doubles : Doubles δ} {header : OemHeader}

/-- The reply is the one of the handler by itself, with what its calls find in the store. -/
theorem reply_getDeviceInfo {message : OemMessage} (asks : message.command = .getDeviceInfo)
    (world : OemWorld δ) :
    (message.transmit doubles header world).1 =
      (serve (ipmiOEMGetDeviceInfo header.entityType (message.calls.deviceInfo world)
        message.request) message.length { World.boot with response := message.response }).map
          Prod.fst := by
  rcases message with ⟨command, calls, request, length, response⟩
  cases asks
  rw [OemMessage.transmit, OemMessage.handler, getDeviceInfo, run_onRequest, serve]
  have found : calls.deviceInfo { world with response := response, dataLen := length } =
      calls.deviceInfo world := rfl
  have begun : ({ World.boot with response := response, dataLen := length } : World) =
      { World.boot with response := response }.receive length := rfl
  dsimp only
  rw [found, begun]
  generalize (World.receive _ length) = start
  rcases (ipmiOEMGetDeviceInfo header.entityType (calls.deviceInfo world) request).run start
    with ⟨outcome, after⟩
  cases outcome <;> rfl

theorem deviceInfo_working {calls : OemCalls} {world : OemWorld δ} {idString : List UInt8}
    (held : world.property .biosId = .string idString)
    (service : calls.fails 0 = none) (property : calls.fails 1 = none) :
    calls.deviceInfo world = ⟨.ok (), .ok (.string idString)⟩ := by
  rw [OemCalls.deviceInfo, service, property, held]
  rfl

section Chunks

variable {message : OemMessage} {world : OemWorld δ} {count offset : UInt8}

/-- With a call that fails there is no answer, or one with another error. -/
theorem transmit_failing (asksInfo : message.command = .getDeviceInfo)
    (asks : message.request = chunkRequest header.entityType count offset)
    (length : message.length = getOemDeviceInfoReqSize)
    (failing : ¬ (message.calls.fails 0 = none ∧ message.calls.fails 1 = none)) :
    ∀ reply, (message.transmit doubles header world).1 = some reply →
      reply.code = ccUnspecifiedError := by
  have guarded : ¬ header.entityType.sdrVer < header.entityType.biosId :=
    UInt8.not_lt.mpr header.entityType.biosIdGuarded
  rw [reply_getDeviceInfo asksInfo, asks, length, serve]
  rcases message with ⟨command, calls, request, dataLen, response⟩
  simp only at failing ⊢
  cases service : calls.fails 0 with
  | some error =>
      simp [ipmiOEMGetDeviceInfo, chunkRequest, World.receive, guarded, OemCalls.deviceInfo,
        getOemDeviceInfoReqSize, service]
  | none =>
      cases property : calls.fails 1 with
      | none => exact absurd ⟨service, property⟩ failing
      | some error =>
          cases error <;>
            simp [ipmiOEMGetDeviceInfo, chunkRequest, World.receive, guarded,
              getOemDeviceInfoReqSize, OemCalls.deviceInfo, service, property]

theorem transmit_working {idString : List UInt8}
    (held : world.property .biosId = .string idString) (asksInfo : message.command = .getDeviceInfo)
    (asks : message.request = chunkRequest header.entityType count offset)
    (length : message.length = getOemDeviceInfoReqSize)
    (service : message.calls.fails 0 = none) (property : message.calls.fails 1 = none) :
    ∃ reply, (message.transmit doubles header world).1 = some reply ∧
      if offset.toNat < idString.length then
        reply.code = ccOk ∧ reply.chunk = (idString.drop offset.toNat).take count.toNat
      else reply.code = ccParmOutOfRange := by
  rw [reply_getDeviceInfo asksInfo, deviceInfo_working held service property, asks, length]
  by_cases inside : offset.toNat < idString.length
  · obtain ⟨reply, after, served, ok, chunk⟩ := @serveChunk_read header.entityType idString count
      offset inside { World.boot with response := message.response }
    rw [serveChunk] at served
    rw [served]
    refine ⟨reply, rfl, ?_⟩
    rw [if_pos inside]
    exact ⟨ok, chunk⟩
  · have served := @serveChunk_behind header.entityType idString count offset
      (Nat.not_lt.mp inside) { World.boot with response := message.response }
    rw [serveChunk] at served
    rw [served]
    refine ⟨_, rfl, ?_⟩
    rw [if_neg inside]

end Chunks

end Reading

namespace ReadSession

variable {δ : Type} {doubles : Doubles δ} {header : OemHeader}
  {session : ReadSession δ} {idString : List UInt8}

/-- The reader has the first bytes of the BIOS ID, and all of them once it has seen the
end. -/
structure Reads (idString : List UInt8) (session : ReadSession δ) : Prop where
  held : session.world.property .biosId = .string idString
  received : session.received <+: idString
  ended : ∀ text, session.text = some text → text = idString

/-- What comes of asking: the chunk is lost, or it comes, or the end is seen. -/
inductive Asked (idString : List UInt8) (session : ReadSession δ) (count : UInt8) (calls : OemCalls)
    (after : OemWorld δ) : ReadSession δ → Prop where
  | lost (failing : ¬ (calls.fails 0 = none ∧ calls.fails 1 = none)) :
      Asked idString session count calls after { session with world := after }
  | chunk (inside : session.received.length < idString.length) :
      Asked idString session count calls after { session with
        world := after
        received := session.received ++ (idString.drop session.received.length).take count.toNat }
  | finished (whole : idString.length ≤ session.received.length) :
      Asked idString session count calls after { session with
        world := after
        text := some session.received }

theorem Reads.ask (reads : session.Reads idString) (short : idString.length ≤ 255)
    (reading : session.text = none) (count : UInt8) (calls : OemCalls) (response : Buffer) :
    ∃ after : OemWorld δ, after.property .biosId = session.world.property .biosId ∧
      session.Asked idString count calls after
        (session.step doubles header (.ask count calls response)) := by
  have fits : (UInt8.ofNat session.received.length).toNat = session.received.length :=
    UInt8.toNat_ofNat_of_lt' (Nat.lt_of_le_of_lt reads.received.length_le (Nat.lt_succ_of_le short))
  let message := session.nextRequest header count calls response
  have kept := @identity_kept _ doubles header .biosId message session.world _ rfl
    fun setsId => OemCommand.noConfusion setsId
  refine ⟨(message.transmit doubles header session.world).2, kept, ?_⟩
  have stepped : session.step doubles header (.ask count calls response) =
      session.answered (message.transmit doubles header session.world).2
        (message.transmit doubles header session.world).1 := by
    rw [step, reading]
  rw [stepped]
  by_cases working : calls.fails 0 = none ∧ calls.fails 1 = none
  · obtain ⟨reply, replied, right⟩ :=
      @transmit_working δ doubles header message session.world count _ idString reads.held rfl rfl
        rfl working.1 working.2
    rw [fits] at right
    rw [replied, answered]
    by_cases inside : session.received.length < idString.length
    · rw [if_pos inside] at right
      rw [if_pos right.1, right.2]
      exact .chunk inside
    · rw [if_neg inside] at right
      have error : reply.code ≠ ccOk := right ▸ ccParmOutOfRange_ne_ok
      rw [if_neg error, if_pos right]
      exact .finished (Nat.not_lt.mp inside)
  · have refused := @transmit_failing δ doubles header message session.world count _ rfl rfl rfl
      working
    cases replied : (message.transmit doubles header session.world).1 with
    | none => exact .lost working
    | some reply =>
        have code := refused reply replied
        have error : reply.code ≠ ccOk := code ▸ ccUnspecifiedError_ne_ok
        have unended : reply.code ≠ ccParmOutOfRange := by
          rw [code]
          decide
        rw [answered, if_neg error, if_neg unended]
        exact .lost working

/-- The successful chunks that the reader still needs, with the one that shows the end. -/
def missing (idString : List UInt8) (session : ReadSession δ) : ℕ :=
  match session.text with
  | some _ => 0
  | none => idString.length - session.received.length + 1

/-- One event brings the reader forward, if it is a chunk that works, and never back. -/
theorem Reads.step (reads : session.Reads idString) (short : idString.length ≤ 255)
    {event : SessionEvent}
    (quiet : ∀ message, event = .message message →
      Identity.biosId.Leaves doubles header session.world message) :
    let next := session.step doubles header event
    next.Reads idString ∧
      next.missing idString ≤ session.missing idString - if event.works then 1 else 0 := by
  cases event with
  | message message =>
      have held := @identity_kept _ _ _ .biosId _ _ _ reads.held (quiet message rfl)
      refine ⟨⟨held, reads.received, reads.ended⟩, ?_⟩
      exact Nat.le_refl _
  | ask count calls response =>
      cases reading : session.text with
      | some text =>
          have stays : session.step doubles header (.ask count calls response) = session := by
            rw [ReadSession.step, reading]
          intro next
          have same : next = session := stays
          rw [same]
          refine ⟨reads, ?_⟩
          rw [missing, reading]
          exact Nat.zero_le _
      | none =>
          obtain ⟨after, property, asked⟩ :=
            @Reads.ask δ doubles header _ _ reads short reading count calls response
          dsimp only
          generalize session.step doubles header (.ask count calls response) = next at *
          have held : after.property .biosId = .string idString := property ▸ reads.held
          cases asked with
          | lost failing =>
              refine ⟨⟨held, reads.received, reads.ended⟩, ?_⟩
              have idle : SessionEvent.works (.ask count calls response) = false := by
                simpa [SessionEvent.works] using fun _ service property =>
                  failing ⟨service, property⟩
              rw [idle]
              exact Nat.le_refl _
          | chunk inside =>
              have taken := List.prefix_iff_eq_take.mp reads.received
              have longer : session.received ++
                    (idString.drop session.received.length).take count.toNat =
                  idString.take (session.received.length + count.toNat) := by
                rw [List.take_add, ← taken]
              refine ⟨⟨held, ?_, reads.ended⟩, ?_⟩
              · rw [longer]
                exact List.take_prefix _ _
              · simp only [missing, reading, longer, List.length_take]
                split
                · rename_i works
                  have positive : 0 < count.toNat := by
                    simp only [SessionEvent.works, decide_eq_true_eq] at works
                    exact UInt8.lt_iff_toNat_lt.mp works.1
                  omega
                · omega
          | finished whole =>
              have same : session.received = idString :=
                reads.received.eq_of_length (Nat.le_antisymm reads.received.length_le whole)
              exact ⟨⟨held, reads.received, fun text seen => (Option.some.inj seen).symm.trans same⟩,
                Nat.zero_le _⟩

theorem text_of_missing (found : session.missing idString = 0) : ∃ text, session.text = some text := by
  rw [missing] at found
  cases seen : session.text with
  | some text => exact ⟨text, rfl⟩
  | none =>
      rw [seen] at found
      exact absurd found (Nat.succ_ne_zero _)

theorem Reads.run (reads : session.Reads idString) (short : idString.length ≤ 255)
    {events : List SessionEvent} (quiet : Undisturbed doubles header session events) :
    let last := session.run doubles header events
    last.Reads idString ∧
      last.missing idString ≤ session.missing idString - (events.filter SessionEvent.works).length := by
  induction events generalizing session with
  | nil => exact ⟨reads, Nat.le_refl _⟩
  | cons event rest ih =>
      obtain ⟨allowed, later⟩ := quiet
      obtain ⟨still, nearer⟩ := reads.step short allowed
      obtain ⟨last, missing⟩ := ih still (later _ rfl)
      refine ⟨last, Nat.le_trans missing ?_⟩
      rw [List.filter_cons]
      split at nearer
      · rename_i works
        rw [if_pos works, List.length_cons]
        omega
      · rename_i idle
        rw [if_neg idle]
        omega

end ReadSession

/-- Whatever is sent and whatever fails between the chunks: as long as the BIOS ID is not
set again, what the reader has is the front of it, it takes nothing else for the whole, and it
has the whole after one working chunk more than there are bytes. -/
theorem bios_id_read_as_set {δ : Type} {doubles : Doubles δ} {header : OemHeader}
    {world : OemWorld δ} {set : OemMessage} {events : List SessionEvent}
    (sets : set.command = .setBIOSID) (accepted : set.answer doubles header world = some ccOk)
    (quiet : ReadSession.Undisturbed doubles header
      (.start (set.transmit doubles header world).2) events) :
    let last := (ReadSession.start (set.transmit doubles header world).2).run doubles header events
    last.received <+: requestedId set.request ∧
      (∀ text, last.text = some text → text = requestedId set.request) ∧
      ((requestedId set.request).length < (events.filter SessionEvent.works).length →
        last.text = some (requestedId set.request)) := by
  have short := requestedId_short set.request
  have start : (ReadSession.start (set.transmit doubles header world).2).Reads
      (requestedId set.request) :=
    ⟨@identity_set _ _ _ .biosId _ _ sets accepted, List.nil_prefix, fun _ unread => by cases unread⟩
  obtain ⟨reads, missing⟩ := start.run short quiet
  refine ⟨reads.received, reads.ended, fun enough => ?_⟩
  have needed : (ReadSession.start (set.transmit doubles header world).2).missing
      (requestedId set.request) = (requestedId set.request).length + 1 := rfl
  rw [needed, Nat.sub_eq_zero_of_le enough] at missing
  obtain ⟨text, seen⟩ := ReadSession.text_of_missing (Nat.le_zero.mp missing)
  rw [seen, reads.ended text seen]

/-- A text of two characters is read in two chunks, with a change that fails in between. -/
def twoChunks : List SessionEvent :=
  [.ask 1 (plainMessage .setBIOSID none []).calls fun _ => 0,
    .message (plainMessage .setBIOSID (some .sdbus) [1, 0x43]),
    .ask 8 (plainMessage .setBIOSID none []).calls fun _ => 0,
    .ask 8 (plainMessage .setBIOSID none []).calls fun _ => 0]

theorem undisturbed_twoChunks (session : ReadSession ℕ) :
    ReadSession.Undisturbed naturals packedHeader session twoChunks := by
  refine ⟨fun _ same => ?_, fun _ _ => ⟨fun message same _ => ?_, fun _ _ =>
    ⟨fun _ same => ?_, fun _ _ => ⟨fun _ same => ?_, fun _ _ => trivial⟩⟩⟩⟩
  · cases same
  · cases same
    exact ⟨fun unanswered : none = some ccOk => absurd unanswered (by decide),
      plainMessage_inert _ _ _⟩
  · cases same
  · cases same

theorem bios_id_read_as_set_two_characters :
    ((ReadSession.start ((plainMessage .setBIOSID none [2, 0x41, 0x42]).transmit naturals
        packedHeader emptyWorld).2).run naturals packedHeader twoChunks).text = some [0x41, 0x42] :=
  (@bios_id_read_as_set _ naturals packedHeader emptyWorld
    (plainMessage .setBIOSID none [2, 0x41, 0x42]) twoChunks rfl rfl
    (undisturbed_twoChunks _)).2.2 (by decide)

end InspurIpmi

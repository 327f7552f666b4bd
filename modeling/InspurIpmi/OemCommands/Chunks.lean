import Mathlib.Data.List.GetD
import InspurIpmi.OemCommands

/-!
# The BIOS ID in chunks

A request names a part of the BIOS ID and the reply carries it. What is copied is
not only that part: it goes on to the end of the text, behind the bytes that the
reply counts.
-/

set_option autoImplicit false

namespace InspurIpmi

open Foundation

/-!
## One chunk
-/

def chunkRequest (types : OEMDevEntityType) (count offset : UInt8) : Buffer :=
  fun index => [types.biosId, count, offset].getD index 0

/-- The request is served with the BIOS ID at hand. -/
def serveChunk (types : OEMDevEntityType) (idString : List UInt8) (count offset : UInt8)
    (world : World) : Option (Reply × World) :=
  serve (ipmiOEMGetDeviceInfo types ⟨.ok (), .ok (.string idString)⟩
    (chunkRequest types count offset)) getOemDeviceInfoReqSize world

def chunkLength (idString : List UInt8) (count offset : UInt8) : ℕ :=
  min count.toNat (idString.length - offset.toNat)

/-- The reply holds the length and the bytes of the chunk, and whatever the
response buffer held before, nothing else in it changes. -/
def ChunkReplied (types : OEMDevEntityType) (idString : List UInt8) (count offset : UInt8) : Prop :=
  ∀ world, ∃ reply after, serveChunk types idString count offset world = some (reply, after) ∧
    if offset.toNat < idString.length then
      reply.code = ccOk ∧ reply.length = chunkLength idString count offset + 1 ∧
        (reply.data 0).toNat = chunkLength idString count offset ∧
        (∀ index < chunkLength idString count offset,
          reply.data (1 + index) = idString.getD (offset.toNat + index) 0) ∧
        ∀ index, chunkLength idString count offset < index →
          reply.data index = world.response index
    else reply.code ≠ ccOk ∧ reply.data = world.response

/-- The response with the text from the offset on behind its length byte. -/
def chunkResponse (idString : List UInt8) (count offset : UInt8) (memory : Buffer) : Buffer :=
  overlay
    (overlay memory 1 (idString.length - offset.toNat) fun index =>
      idString.getD (offset.toNat + index) 0)
    0 1 fun _ => UInt8.ofNat (chunkLength idString count offset)

theorem chunkLength_lt (idString : List UInt8) (count offset : UInt8) :
    chunkLength idString count offset < 256 :=
  Nat.lt_of_le_of_lt (Nat.min_le_left _ _) count.toNat_lt

section Replies

variable {types : OEMDevEntityType} {idString : List UInt8} {count offset : UInt8}

theorem run_ipmiOEMGetDeviceInfo_biosId (world : World) :
    (ipmiOEMGetDeviceInfo types ⟨.ok (), .ok (.string idString)⟩
        (chunkRequest types count offset)).run (world.receive getOemDeviceInfoReqSize) =
      (sendDeviceInfo idString count offset).run { world with dataLen := 0 } := by
  have guarded : ¬ types.sdrVer < types.biosId := UInt8.not_lt.mpr types.biosIdGuarded
  simp [ipmiOEMGetDeviceInfo, chunkRequest, World.receive, getOemDeviceInfoReqSize, guarded]

theorem run_sendDeviceInfo_inside (inside : offset.toNat < idString.length) (world : World) :
    (sendDeviceInfo idString count offset).run world =
      (.returned ccOk, { world with
        dataLen := chunkLength idString count offset + 1
        response := chunkResponse idString count offset world.response }) := by
  have length : (if idString.length - offset.toNat < count.toNat then
      idString.length - offset.toNat else count.toNat) = chunkLength idString count offset := by
    unfold chunkLength
    split <;> omega
  simp [sendDeviceInfo, Nat.not_le.mpr inside, length, chunkLength_lt, chunkResponse, setDataLen]

theorem serveChunk_inside (inside : offset.toNat < idString.length) (world : World) :
    serveChunk types idString count offset world =
      some (⟨ccOk, chunkLength idString count offset + 1,
          chunkResponse idString count offset world.response⟩,
        { world with
          dataLen := chunkLength idString count offset + 1
          response := chunkResponse idString count offset world.response }) :=
  serve_returned ((run_ipmiOEMGetDeviceInfo_biosId world).trans
    (run_sendDeviceInfo_inside inside _))

theorem serveChunk_behind (behind : idString.length ≤ offset.toNat) (world : World) :
    serveChunk types idString count offset world =
      some (⟨ccParmOutOfRange, 0, world.response⟩, { world with dataLen := 0 }) := by
  have ran : (sendDeviceInfo idString count offset).run { world with dataLen := 0 } =
      (.returned ccParmOutOfRange, { world with dataLen := 0 }) := by
    simp [sendDeviceInfo, behind]
  exact serve_returned ((run_ipmiOEMGetDeviceInfo_biosId world).trans ran)

theorem chunkResponse_length (memory : Buffer) :
    (chunkResponse idString count offset memory 0).toNat = chunkLength idString count offset :=
  (congrArg UInt8.toNat (overlay_front _ _ Nat.zero_lt_one)).trans
    (UInt8.toNat_ofNat_of_lt' (chunkLength_lt idString count offset))

theorem chunkResponse_copied (memory : Buffer) {index : ℕ}
    (below : index < idString.length - offset.toNat) :
    chunkResponse idString count offset memory (1 + index) =
      idString.getD (offset.toNat + index) 0 := by
  rw [chunkResponse, overlay_outside _ _ (.inr (by omega)), overlay_inside _ _ below]

theorem chunkResponse_behind (memory : Buffer) {index : ℕ}
    (behind : idString.length - offset.toNat < index) :
    chunkResponse idString count offset memory index = memory index := by
  rw [chunkResponse, overlay_outside _ _ (.inr (by omega)), overlay_outside _ _ (.inr (by omega))]

/-- The reply is right as soon as nothing is copied that it does not count. -/
theorem chunkReplied_iff :
    ChunkReplied types idString count offset ↔
      idString.length ≤ offset.toNat + count.toNat := by
  unfold ChunkReplied
  constructor
  · intro replied
    by_contra longer
    have inside : offset.toNat < idString.length := by omega
    -- The byte behind the chunk is one of the text, whatever was there.
    have kept : ∀ byte : UInt8, idString.getD (offset.toNat + count.toNat) 0 = byte := by
      intro byte
      obtain ⟨reply, after, served, right⟩ := replied { World.boot with response := fun _ => byte }
      rw [serveChunk_inside inside] at served
      obtain ⟨rfl, _⟩ := Prod.mk.inj (Option.some.inj served)
      rw [if_pos inside] at right
      have unchanged := right.2.2.2.2 (1 + count.toNat) (by unfold chunkLength; omega)
      exact (chunkResponse_copied _ (by omega)).symm.trans unchanged
    exact absurd ((kept 0).symm.trans (kept 1)) (by decide)
  · intro covered world
    by_cases inside : offset.toNat < idString.length
    · refine ⟨_, _, serveChunk_inside inside world, ?_⟩
      have whole : chunkLength idString count offset = idString.length - offset.toNat := by
        unfold chunkLength
        omega
      rw [if_pos inside]
      refine ⟨rfl, rfl, chunkResponse_length world.response, fun index below => ?_,
        fun index behind => ?_⟩
      · exact chunkResponse_copied world.response (whole ▸ below)
      · exact chunkResponse_behind world.response (whole ▸ behind)
    · refine ⟨_, _, serveChunk_behind (Nat.not_lt.mp inside) world, ?_⟩
      rw [if_neg inside]
      exact ⟨ccParmOutOfRange_ne_ok, rfl⟩

end Replies

/-!
## Chunk after chunk
-/

/-- The bytes behind the length byte, as many as that says. -/
def Reply.chunk (reply : Reply) : List UInt8 :=
  (List.range (reply.data 0).toNat).map fun index => reply.data (1 + index)

/-- A reader asks for the bytes behind those it has, with one count after another,
until there is an error. Without one, it has not come to the end. -/
def readChunks (types : OEMDevEntityType) (idString : List UInt8) :
    List UInt8 → World → List UInt8 → Option (List UInt8)
  | [], _, _ => none
  | count :: counts, world, received =>
      match serveChunk types idString count (UInt8.ofNat received.length) world with
      | none => none
      | some (reply, after) =>
          if reply.code = ccOk then readChunks types idString counts after (received ++ reply.chunk)
          else some received

/-- What is read to the end is the BIOS ID, and the end is reached with as many
chunks as there are bytes. -/
structure Reassembled (types : OEMDevEntityType) (idString : List UInt8) : Prop where
  right : ∀ counts world text,
    readChunks types idString counts world [] = some text → text = idString
  ends : ∀ counts world, (∀ count ∈ counts, 0 < count) → idString.length < counts.length →
    ∃ text, readChunks types idString counts world [] = some text

section Reading

variable {types : OEMDevEntityType} {idString : List UInt8}

theorem serveChunk_read {count offset : UInt8} (inside : offset.toNat < idString.length)
    (world : World) :
    ∃ reply after, serveChunk types idString count offset world = some (reply, after) ∧
      reply.code = ccOk ∧ reply.chunk = (idString.drop offset.toNat).take count.toNat := by
  refine ⟨_, _, serveChunk_inside inside world, rfl, ?_⟩
  unfold Reply.chunk
  rw [chunkResponse_length]
  apply List.ext_getElem
  · simp [chunkLength]
  · intro index _ read
    rw [List.length_take, List.length_drop, Nat.lt_min] at read
    rw [List.getElem_map, List.getElem_range, List.getElem_take, List.getElem_drop,
      ← List.getD_eq_getElem idString 0]
    exact chunkResponse_copied world.response read.2

/-- One chunk lengthens what has been received by the bytes behind it. -/
theorem readChunks_cons_inside {taken : ℕ} (short : idString.length ≤ 255)
    (inside : taken < idString.length) (count : UInt8) (counts : List UInt8) (world : World) :
    ∃ after, readChunks types idString (count :: counts) world (idString.take taken) =
      readChunks types idString counts after (idString.take (taken + count.toNat)) := by
  have received : (idString.take taken).length = taken := List.length_take_of_le (Nat.le_of_lt inside)
  have offset : (UInt8.ofNat taken).toNat = taken :=
    UInt8.toNat_ofNat_of_lt' (Nat.lt_of_lt_of_le inside (Nat.le_succ_of_le short))
  obtain ⟨reply, after, served, ok, read⟩ :=
    @serveChunk_read types idString count (UInt8.ofNat taken) (offset.symm ▸ inside) world
  rw [offset] at read
  refine ⟨after, ?_⟩
  rw [readChunks, received, served, List.take_add, ← read]
  exact if_pos ok

theorem readChunks_cons_behind {taken : ℕ} (short : idString.length ≤ 255)
    (behind : idString.length ≤ taken) (count : UInt8) (counts : List UInt8) (world : World) :
    readChunks types idString (count :: counts) world (idString.take taken) = some idString := by
  have offset : (UInt8.ofNat idString.length).toNat = idString.length :=
    UInt8.toNat_ofNat_of_lt' (Nat.lt_succ_of_le short)
  rw [List.take_of_length_le behind, readChunks, serveChunk_behind (Nat.le_of_eq offset.symm)]
  rfl

theorem readChunks_right {taken : ℕ} {counts : List UInt8} {world : World} {text : List UInt8}
    (short : idString.length ≤ 255)
    (ended : readChunks types idString counts world (idString.take taken) = some text) :
    text = idString := by
  induction counts generalizing world taken with
  | nil => cases ended
  | cons count counts ih =>
    rcases Nat.lt_or_ge taken idString.length with inside | behind
    · obtain ⟨after, same⟩ := @readChunks_cons_inside types _ _ short inside count counts world
      exact ih (same ▸ ended)
    · rw [readChunks_cons_behind short behind] at ended
      exact (Option.some.inj ended).symm

theorem readChunks_ends {taken : ℕ} {counts : List UInt8} {world : World}
    (short : idString.length ≤ 255) (positive : ∀ count ∈ counts, 0 < count)
    (enough : idString.length - taken < counts.length) :
    readChunks types idString counts world (idString.take taken) = some idString := by
  induction counts generalizing world taken with
  | nil => exact absurd enough (Nat.not_lt_zero _)
  | cons count counts ih =>
    rcases Nat.lt_or_ge taken idString.length with inside | behind
    · obtain ⟨after, same⟩ := @readChunks_cons_inside types _ _ short inside count counts world
      have progress : 0 < count.toNat := UInt8.lt_iff_toNat_lt.mp (positive count List.mem_cons_self)
      rw [same]
      apply ih fun later member => positive later (List.mem_cons_of_mem count member)
      rw [List.length_cons] at enough
      omega
    · exact readChunks_cons_behind short behind count counts world

theorem reassembled (short : idString.length ≤ 255) : Reassembled types idString where
  right := fun _ _ _ ended => @readChunks_right types idString 0 _ _ _ short ended
  ends := fun _ _ positive enough =>
    ⟨idString, @readChunks_ends types idString 0 _ _ short positive enough⟩

end Reading

/-- A request is answered as it should be exactly when it asks for the rest of the
BIOS ID. The bytes copied in excess never come into what is read. -/
theorem chunkReplied_and_reassembled (types : OEMDevEntityType) (idString : List UInt8) :
    (∀ count offset, ChunkReplied types idString count offset ↔
        idString.length ≤ offset.toNat + count.toNat) ∧
      (idString.length ≤ 255 → Reassembled types idString) :=
  ⟨fun _ _ => chunkReplied_iff, reassembled⟩

theorem two_characters_reassembled : Reassembled ⟨0, 1, 2, by decide⟩ [0x41, 0x42] :=
  (chunkReplied_and_reassembled _ _).2 (by decide)

/-- Reading the first of two characters also copies the second. -/
theorem chunk_copied_in_excess :
    ¬ ChunkReplied ⟨0, 1, 2, by decide⟩ [0x41, 0x42] 1 0 := by
  rw [chunkReplied_iff]
  decide

end InspurIpmi

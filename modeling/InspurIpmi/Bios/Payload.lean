import InspurIpmi.Bios.Coherence
import InspurIpmi.ReceivedBytes

/-!
# From the payload to the store

What a set request leaves in memory and EEPROM when transfers fail, and when the
payload is shorter than the record.
-/

set_option autoImplicit false

namespace InspurIpmi

open Foundation

structure AssetStore where
  records : AssetObject → Buffer
  flags : Buffer
  cells : ℕ → UInt8

def World.assetStore (world : World) : AssetStore where
  records := world.records
  flags := world.assetInfoGotFlag
  cells := world.eeprom.cells

/-- The code that answers a set request, and the store it leaves. -/
def storedBy (calls : BusCalls) (request : Buffer) (length : ℕ) (world : World) :
    Option (CompletionCode × AssetStore) :=
  (serve (ipmiSetSystemInfo calls request) length world).map fun served =>
    (served.1.code, served.2.assetStore)

theorem storedBy_returned {calls : BusCalls} {request : Buffer} {length : ℕ} {world after : World}
    {code : CompletionCode}
    (ran : (ipmiSetSystemInfo calls request).run (world.receive length) = (.returned code, after)) :
    storedBy calls request length world = some (code, after.assetStore) := by
  rw [storedBy, serve_returned ran, Option.map_some]

theorem storedBy_halted {calls : BusCalls} {length : ℕ} {world : World} (long : 14 < length)
    (halted : (calls.opens 0).verdict world.fds = .halted) (request : Buffer) :
    storedBy calls request length world = none := by
  have ran : (ipmiSetSystemInfo calls request).run (world.receive length) = _ :=
    run_ipmiSetSystemInfo_halted long halted
  rw [storedBy, serve, ran, Option.map_none]

theorem storedBy_length {length : ℕ} (short : length ≤ 14) (calls : BusCalls) (request : Buffer)
    (world : World) :
    storedBy calls request length world = some (ccReqDataLenInvalid, world.assetStore) := by
  have ran : (ipmiSetSystemInfo calls request).run (world.receive length) = _ :=
    run_ipmiSetSystemInfo_length short
  rw [storedBy_returned ran]
  rfl

/-- As long as the process lives, a supported type is answered with success, and
its payload is in memory, whatever the EEPROM took of it. -/
theorem storedBy_supported {calls : BusCalls} {request : Buffer} {type : AssetType} {length : ℕ}
    {world : World} (long : 14 < length)
    (supported : AssetType.ofDeviceType? (request 0) = some type)
    (alive : (calls.opens 0).verdict world.fds ≠ .halted) :
    ∃ cells, storedBy calls request length world =
        some (ccOk,
          { records := (world.setRecord type type.size (payload request)).records
            flags := (world.markGot type).assetInfoGotFlag
            cells := cells }) ∧
      ((calls.opens 0).verdict world.fds = .opened → (∀ index < type.size, calls.writes index = true) →
        Holds cells type.offset type.size (payload request)) := by
  cases verdict : (calls.opens 0).verdict world.fds with
  | halted => exact absurd verdict alive
  | refused status =>
    have success : setCode request = ccOk := by rw [setCode, supported]; rfl
    have ran : (ipmiSetSystemInfo calls request).run (world.receive length) = _ :=
      run_ipmiSetSystemInfo_failed long (.inr (verdict.trans_ne (by simp)))
        (verdict.trans_ne (by simp))
    rw [success, World.noted_supported supported] at ran
    refine ⟨world.eeprom.cells, ?_, fun opened => absurd opened (by simp)⟩
    rw [storedBy_returned ran]
    rfl
  | opened =>
    have ran : (ipmiSetSystemInfo calls request).run (world.receive length) = _ :=
      run_ipmiSetSystemInfo_opened long supported verdict
    rw [World.noted_supported supported] at ran
    refine ⟨_, (storedBy_returned ran).trans rfl, fun _ all => ?_⟩
    refine (holds_storeAll_persisted fun index below => ?_).mpr fun index below => ?_
    · exact World.setRecord_same type below (payload request) (world.receive length)
    · exact .inl fun earlier upTo => all earlier (upTo.trans_lt below)

/-!
## All or nothing
-/

/-- The device opens and takes every byte of the record. -/
def BusCalls.Carries (calls : BusCalls) (fds : Finset ℕ) (type : AssetType) : Prop :=
  (calls.opens 0).verdict fds = .opened ∧ ∀ index < type.size, calls.writes index = true

/-- Success means that the payload is in both copies, and a failed transfer means
an error that leaves the memory copy alone. -/
def AllOrNothing (calls : BusCalls) (request : Request) (type : AssetType) (world : World) : Prop :=
  ∀ code store, storedBy calls request.bytes request.length world = some (code, store) →
    (code = ccOk →
      Holds (store.records type.object) 0 type.size (payload request.bytes) ∧
        Holds store.cells type.offset type.size (payload request.bytes)) ∧
    (¬ calls.Carries world.fds type →
      code ≠ ccOk ∧ store.records type.object = world.records type.object ∧
        store.flags type.deviceType.toNat = world.assetInfoGotFlag type.deviceType.toNat)

/-- A set is all or nothing exactly when there is no failure to report. -/
theorem allOrNothing_iff {calls : BusCalls} {request : Request} {type : AssetType} {world : World}
    (supported : AssetType.ofDeviceType? (request.bytes 0) = some type)
    (long : 14 + type.size ≤ request.length) :
    AllOrNothing calls request type world ↔
      (calls.opens 0).verdict world.fds = .halted ∨ calls.Carries world.fds type := by
  have payloadReceived : 14 < request.length := by
    have positive := type.size_pos
    omega
  by_cases halted : (calls.opens 0).verdict world.fds = .halted
  · refine iff_of_true ?_ (.inl halted)
    intro code store stored
    rw [storedBy_halted payloadReceived halted] at stored
    cases stored
  · obtain ⟨cells, stored, copied⟩ := storedBy_supported payloadReceived supported halted
    constructor
    · intro allOrNothing
      by_contra failed
      exact ((allOrNothing _ _ stored).2 fun carried => failed (.inr carried)).1 rfl
    · rintro (ended | carried)
      · exact absurd ended halted
      · intro code store storedOther
        rw [stored] at storedOther
        cases storedOther
        refine ⟨fun _ => ⟨?_, copied carried.1 carried.2⟩, fun failed => absurd carried failed⟩
        intro index below
        rw [Nat.zero_add]
        exact World.setRecord_same type below (payload request.bytes) world

theorem allOrNothing_iff_healthy :
    AllOrNothing .healthy ⟨fun _ => deviceTypeMem, 66⟩ .mem World.boot ↔
      (BusCalls.healthy.opens 0).verdict World.boot.fds = .halted ∨
        BusCalls.healthy.Carries World.boot.fds .mem :=
  allOrNothing_iff (by decide) (by decide)

/-- The status of the EEPROM write is dropped: after a failed write memory holds
what the EEPROM does not, and the answer is success. -/
theorem allOrNothing_lost_by_failed_write :
    ¬ AllOrNothing .writesFail ⟨fun _ => deviceTypeMem, 66⟩ .mem World.boot := by
  intro allOrNothing
  have alive : (BusCalls.writesFail.opens 0).verdict World.boot.fds ≠ .halted := by decide
  obtain ⟨cells, stored, _⟩ := @storedBy_supported .writesFail (fun _ => deviceTypeMem) .mem 66
    World.boot (by decide) rfl alive
  refine ((allOrNothing _ _ stored).2 fun carried => ?_).1 rfl
  exact absurd (carried.2 0 AssetType.mem.size_pos) (by decide)

/-!
## Short payloads
-/

/-- Requests that cannot be told apart by the bytes received leave the same store,
and are answered alike. -/
def StoresReceivedOnly (calls : BusCalls) (request : Request) (world : World) : Prop :=
  ∀ second, AgreeOn request.length request.bytes second →
    storedBy calls second request.length world =
      storedBy calls request.bytes request.length world

/-- A request that lacks a part of its record is an error that changes nothing. -/
def ShortRejected (calls : BusCalls) (request : Request) (world : World) : Prop :=
  ∀ type, AssetType.ofDeviceType? (request.bytes 0) = some type →
    request.length < 14 + type.size → ∀ code store,
      storedBy calls request.bytes request.length world = some (code, store) →
        code ≠ ccOk ∧ store = world.assetStore

/-- A supported request that passes the length test brings its whole record,
unless the process ends at the open. -/
def BringsRecord (calls : BusCalls) (request : Request) (world : World) : Prop :=
  14 < request.length → ∀ type, AssetType.ofDeviceType? (request.bytes 0) = some type →
    14 + type.size ≤ request.length ∨ (calls.opens 0).verdict world.fds = .halted

theorem World.noted_congr {first second : Buffer} (device : first 0 = second 0)
    (same : ∀ type, AssetType.ofDeviceType? (first 0) = some type →
      ∀ index < type.size, payload first index = payload second index) (world : World) :
    world.noted first = world.noted second := by
  cases supported : AssetType.ofDeviceType? (first 0) with
  | none =>
    rw [World.noted_unsupported supported, World.noted_unsupported (device ▸ supported)]
  | some type =>
    rw [World.noted_supported supported, World.noted_supported (device ▸ supported)]
    unfold World.setRecord
    rw [overlay_congr _ _ _ (same type supported)]

theorem storedBy_congr {first second : Buffer} (device : first 0 = second 0)
    (same : ∀ world : World, world.noted first = world.noted second) (calls : BusCalls)
    (length : ℕ) (world : World) :
    storedBy calls first length world = storedBy calls second length world := by
  have updates : updateAssetInfoShareMemory first = updateAssetInfoShareMemory second := by
    funext state
    refine (run_updateAssetInfoShareMemory first state).trans ?_
    rw [setCode, device, same]
    exact (run_updateAssetInfoShareMemory second state).symm
  have writes : writeAssetInfoToEeprom calls first = writeAssetInfoToEeprom calls second := by
    unfold writeAssetInfoToEeprom
    rw [device]
  unfold storedBy ipmiSetSystemInfo setSystemInfo
  rw [updates, writes]

theorem shortRejected_iff {calls : BusCalls} {request : Request} {world : World} :
    ShortRejected calls request world ↔ BringsRecord calls request world := by
  constructor
  · intro rejected long type supported
    by_contra lacking
    obtain ⟨short, alive⟩ := not_or.mp lacking
    obtain ⟨cells, stored, _⟩ := storedBy_supported long supported alive
    exact (rejected type supported (not_le.mp short) _ _ stored).1 rfl
  · intro brings type supported short code store stored
    rcases Nat.lt_or_ge 14 request.length with long | tooShort
    · have halted := (brings long type supported).resolve_left (not_le.mpr short)
      rw [storedBy_halted long halted] at stored
      cases stored
    · rw [storedBy_length tooShort] at stored
      cases stored
      exact ⟨ccReqDataLenInvalid_ne_ok, rfl⟩

/-- The first byte that was not received goes into the record. -/
theorem storedBy_behind {calls : BusCalls} {request : Request} {type : AssetType} {world : World}
    (long : 14 < request.length) (supported : AssetType.ofDeviceType? (request.bytes 0) = some type)
    (short : request.length < 14 + type.size)
    (alive : (calls.opens 0).verdict world.fds ≠ .halted) :
    ¬ StoresReceivedOnly calls request world := by
  intro same
  let second := Function.update request.bytes request.length (request.bytes request.length + 1)
  have agree : AgreeOn request.length request.bytes second := by
    intro index below
    exact (Function.update_of_ne below.ne _ _).symm
  have device : second 0 = request.bytes 0 := (agree 0 (by omega)).symm
  obtain ⟨_, stored, _⟩ := storedBy_supported long supported alive
  obtain ⟨_, storedSecond, _⟩ :=
    @storedBy_supported calls second type _ world long (device ▸ supported) alive
  have stores := same second agree
  rw [stored, storedSecond] at stores
  have records := congrArg (fun store => store.records type.object (request.length - 14))
    (Prod.mk.inj (Option.some.inj stores)).2
  have inside : request.length - 14 < type.size := by omega
  have place : 14 + (request.length - 14) = request.length := by omega
  dsimp only at records
  rw [World.setRecord_same type inside, World.setRecord_same type inside, payload, payload,
    frameHeaderSize_eq, place] at records
  simp [second] at records

theorem storesReceivedOnly_of_brings {calls : BusCalls} {request : Request} {world : World}
    (brings : BringsRecord calls request world) : StoresReceivedOnly calls request world := by
  intro second agree
  rcases Nat.lt_or_ge 14 request.length with long | tooShort
  · by_cases halted : (calls.opens 0).verdict world.fds = .halted
    · rw [storedBy_halted long halted, storedBy_halted long halted]
    · have device : request.bytes 0 = second 0 := agree 0 (by omega)
      refine (storedBy_congr device (World.noted_congr device ?_) calls _ world).symm
      intro type supported index below
      have whole := (brings long type supported).resolve_right halted
      rw [payload, payload, frameHeaderSize_eq]
      exact agree (14 + index) (by omega)
  · rw [storedBy_length tooShort, storedBy_length tooShort]

/-- Both ways to say it hold exactly when the one length test happens to cover the
record of the type. -/
theorem receivedPayload_iff {calls : BusCalls} {request : Request} {world : World} :
    (StoresReceivedOnly calls request world ↔ BringsRecord calls request world) ∧
      (ShortRejected calls request world ↔ BringsRecord calls request world) := by
  refine ⟨⟨fun same long type supported => ?_, storesReceivedOnly_of_brings⟩, shortRejected_iff⟩
  by_contra lacking
  obtain ⟨short, alive⟩ := not_or.mp lacking
  exact storedBy_behind long supported (not_le.mp short) alive same

/-- One byte of payload is taken for a whole processor record. -/
theorem receivedPayload_lost_by_one_byte :
    ¬ StoresReceivedOnly .healthy ⟨fun _ => deviceTypeCpu, 15⟩ World.boot ∧
      ¬ ShortRejected .healthy ⟨fun _ => deviceTypeCpu, 15⟩ World.boot := by
  have supported : AssetType.ofDeviceType? deviceTypeCpu = some .cpu := rfl
  have alive : (BusCalls.healthy.opens 0).verdict World.boot.fds ≠ .halted := by decide
  refine ⟨storedBy_behind (by decide) supported (by decide) alive, fun rejected => ?_⟩
  rcases shortRejected_iff.mp rejected (by decide) .cpu supported with whole | halted
  · exact absurd whole (by decide)
  · exact absurd halted alive

end InspurIpmi

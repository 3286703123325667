import Fuerte.RequestPayload
import Fuerte.Vst.RoundTrip

/-! # The payload on the way to the wire

A payload goes to the wire in slices, of whatever kind it is. Binary data that
is not velocypack by accident does not get there.
-/

namespace Fuerte.Vst

set_option autoImplicit false

open ByteMemory

section Fidelity

variable {vpack : VelocyPack} {buffers : BufferLibrary} {request : Request}

/-- `prepareForNetwork` returns, and its chunks carry header and payload. -/
def SendsPayload (vpack : VelocyPack) (version : VSTVersion) (item : RequestItem)
    (request : Request) (value : VValue) : Prop :=
  ∃ chunks sent, item.messageChunks vpack = .ok chunks ∧
    item.prepareForNetwork vpack version = .ok sent ∧
    dataBytes chunks = vpack.build value ++ request.payloadBuffer.bytes

theorem cacheValid_of_uncut (h : request.Uncut vpack) : request.CacheValid vpack := by
  intro hUnmodified
  rw [h.modified, Bool.and_true, Option.isSome_eq_false_iff, Option.isNone_iff_eq_none] at hUnmodified
  rw [h.empty hUnmodified, h.sliceCache]
  rfl

theorem uncut_withDefaults (h : request.Uncut vpack) :
    { request with header := RequestItem.withDefaults request.header : Request }.Uncut vpack :=
  ⟨h.length, h.modified, h.sliceCache, h.empty, h.values⟩

theorem tiled_of_slices {slices : List VSlice} {left : Request} (h : request.Uncut vpack)
    (hSlices : request.slices vpack = (.ok slices, left)) : Tiled vpack request.payload := by
  rw [Request.slices] at hSlices
  split at hSlices
  · split at hSlices
    · cases hSlices
    · rename_i found hSplit
      exact Tiled.of_cut _ _ _ _ (Nat.le_refl _) hSplit
  · rename_i hUnmodified
    rw [h.modified, Bool.and_true, Bool.not_eq_true, Option.isSome_eq_false_iff,
      Option.isNone_iff_eq_none] at hUnmodified
    rw [h.empty hUnmodified]
    exact .nil

theorem slices_of_tiled (hTiled : Tiled vpack request.payload) :
    ∃ slices left, request.slices vpack = (.ok slices, left) := by
  rw [Request.slices]
  split
  · obtain ⟨slices, hSplit⟩ := hTiled.cut _ (Nat.le_refl _) []
    rw [hSplit]
    exact ⟨_, _, rfl⟩
  · exact ⟨_, _, rfl⟩

/-- What velocypack is asked to add is on the wire; binary data is there if it
can be cut. -/
theorem payload_fidelity (vpack : VelocyPack) (buffers : BufferLibrary) (hSizes : vpack.SizesBuilt)
    (version : VSTVersion) (item : RequestItem) (request : Request) (value : VValue)
    (hBuilt : request.Built vpack buffers) (hRequest : item.request = some request)
    (hBuffers : item.requestBuffers = [])
    (hHeader : createVstMessageHeader (RequestItem.withDefaults request.header) = .ok value) :
    SendsPayload vpack version item request value ↔
      (request.isVpack = some false → Tiled vpack request.payloadBuffer.bytes) := by
  have hUncut := hBuilt.uncut
  simp only [SendsPayload, hUncut.bytes_payloadBuffer]
  constructor
  · rintro ⟨chunks, -, hChunks, -⟩ -
    simp only [RequestItem.messageChunks, hRequest] at hChunks
    obtain ⟨⟨msgHdr, parts, left⟩, hParts, -⟩ := exists_of_bind_ok hChunks
    obtain ⟨built, hValue, hRest⟩ := exists_of_bind_ok hParts
    obtain ⟨slices, hSlices, -⟩ := exists_of_bind_ok hRest
    have hSplit : Request.slices vpack
        { request with header := RequestItem.withDefaults request.header } =
          (.ok slices, (Request.slices vpack
            { request with header := RequestItem.withDefaults request.header }).2) :=
      Prod.ext hSlices rfl
    have hTiled := tiled_of_slices (uncut_withDefaults hUncut) hSplit
    exact hTiled
  · intro hBinary
    have hTiled : Tiled vpack request.payload := by
      by_cases hKind : request.isVpack = some false
      · exact hBinary hKind
      · exact (hUncut.areValues hKind).tiled
    obtain ⟨slices, left, hSlices⟩ : ∃ slices left, Request.slices vpack
        { request with header := RequestItem.withDefaults request.header } = (.ok slices, left) :=
      slices_of_tiled hTiled
    have hParts : RequestItem.messageParts vpack request =
        .ok (vpack.build value, ⟨vpack.build value, vpack.byteSize (vpack.build value)⟩ :: slices,
          left) := by
      simp only [RequestItem.messageParts, hHeader, hSlices, bind, Except.bind]
      rfl
    obtain ⟨-, hWithin, hBytes⟩ :=
      RequestItem.messageParts_ok hSizes (cacheValid_of_uncut hUncut) hParts
    have hChunks : item.messageChunks vpack = .ok (buildChunks (UInt64.ofNat item.messageID)
        defaultMaxChunkSize (⟨vpack.build value, vpack.byteSize (vpack.build value)⟩ :: slices)) := by
      simp only [RequestItem.messageChunks, hRequest, hParts, bind, Except.bind]
      rfl
    obtain ⟨sent, hSent, -⟩ := RequestItem.prepareForNetwork_ok hSizes version hRequest
      (cacheValid_of_uncut hUncut) hBuffers hChunks
    exact ⟨_, sent, hChunks, hSent,
      (buildChunks_spec _ _ (by decide) _ hWithin).data.trans hBytes⟩

end Fidelity

def itemOf (request : Request) : RequestItem where
  request := some request
  callback := { cb := .user }
  messageID := 1

/-- The header of a request for the version, as the encoder gets it. -/
def versionMembers : VValue :=
  .array [.int 1, .int 1, .string (ascii "_system"), .int 1, .string (ascii "/_api/version"),
    .object [], .object []]

def numberRequest : Request where
  header := versionRequest.header
  isVpack := some false
  payload := [0x32]
  payloadLength := 1

/-- A number is one of the binary payloads that are velocypack. -/
theorem payload_fidelity_number :
    SendsPayload .short .vst1_0 (itemOf numberRequest) numberRequest versionMembers :=
  (payload_fidelity .short .zeroed VelocyPack.short_sizesBuilt .vst1_0 _ _ _
    (.call (.addBinary [0x32]) (.ofHeader versionRequest.header) trivial rfl) rfl rfl rfl).mpr
    fun _ => .cons (List.cons_ne_nil 0x32 []) rfl .nil

def textRequest : Request where
  header := versionRequest.header
  isVpack := some false
  payload := ascii "Hi"
  payloadLength := 2

/-- The first byte of the text declares a string of eight bytes. -/
theorem binary_payload_rejected :
    textRequest.Built .short .zeroed ∧
      createVstMessageHeader (RequestItem.withDefaults textRequest.header) =
        .ok versionMembers ∧
      ∀ version, (itemOf textRequest).prepareForNetwork .short version =
          .error (.logicError "invalid buffer") ∧
        ¬ SendsPayload .short version (itemOf textRequest) textRequest versionMembers := by
  refine ⟨.call (.addBinary (ascii "Hi")) (.ofHeader versionRequest.header) trivial rfl, rfl,
    fun version => ⟨rfl, ?_⟩⟩
  rintro ⟨chunks, sent, hChunks, -⟩
  cases hChunks

end Fuerte.Vst

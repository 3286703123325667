import Fuerte.Http.Result
import Fuerte.Vst.ProcessChunk

/-! # The body of a response

A response keeps the received buffer and the offset of its body, and hands the
body out as bytes and as slices. The bytes are as many as the buffer has, wherever
they start; and where the body is empty, HTTP leaves the offset unset.
-/

namespace Fuerte

set_option autoImplicit false

open ByteMemory

namespace Response

/-- `Response::payload`. -/
def payloadBuffer (response : Response) (behind : Pointer) : ConstBuffer :=
  ⟨Pointer.ofList response.payload behind, response.payloadOffset, response.payload.length⟩

/-- `Response::slices`. With an offset behind the buffer the difference wraps
around, and the first slice is outside. -/
def slices (vpack : VelocyPack) (response : Response) : Except Fault (List VSlice) × Response :=
  if response.sliceCache = [] then
    if response.payload.length < response.payloadOffset then (.error .outOfBounds, response)
    else
      let cursor := response.payload.drop response.payloadOffset
      match splitSlices vpack cursor.length cursor [] with
      | (found, some fault) => (.error fault, { response with sliceCache := found })
      | (found, none) => (.ok found, { response with sliceCache := found })
  else (.ok response.sliceCache, response)

end Response

/-! ## Both views of a body -/

/-- `payload` denotes the body and nothing outside of the buffer, and `slices` its values. -/
structure ViewsAgree (vpack : VelocyPack) (behind : Pointer) (response : Response)
    (body : List UInt8) : Prop where
  within : (response.payloadBuffer behind).offset + (response.payloadBuffer behind).size ≤
    response.payload.length
  bytes : (response.payloadBuffer behind).bytes = body
  values : ∀ values, (∀ value ∈ values, vpack.IsValue value) → values.flatten = body →
    ∃ slices, (response.slices vpack).1 = .ok slices ∧ slices.map VSlice.bytes = values

/-- The views of a fresh response agree on what is behind its offset exactly
where this is the whole buffer. -/
theorem viewsAgree_iff {vpack : VelocyPack} {behind : Pointer} {response : Response}
    (hFresh : response.sliceCache = []) :
    ViewsAgree vpack behind response (response.payload.drop response.payloadOffset) ↔
      response.payloadOffset = 0 := by
  constructor
  · intro h
    have hWithin := h.within
    simp only [Response.payloadBuffer] at hWithin
    omega
  · intro hOffset
    rw [hOffset, List.drop_zero]
    refine ⟨?_, ?_, ?_⟩
    · simp only [Response.payloadBuffer, hOffset]
      omega
    · simp only [Response.payloadBuffer, ConstBuffer.bytes, hOffset, Pointer.add_zero]
      exact Pointer.read_ofList _ _
    · intro values hValues hBody
      obtain ⟨added, hAdded, hBytes, -⟩ := splitSlices_values _ values [] (Nat.le_refl _) hValues
      refine ⟨added, ?_, hBytes⟩
      rw [Response.slices, if_pos hFresh, hOffset, if_neg (Nat.not_lt_zero _)]
      dsimp only
      rw [List.drop_zero, ← hBody, hAdded]
      rfl

/-! ## Both transports -/

inductive TransportType where
  | undefined
  | http
  | vst
  deriving DecidableEq, Repr

/-- The responses of a transport, and the bytes that were received for the body. -/
inductive Delivered (platform : Vst.Platform) :
    TransportType → List UInt8 → Response → Prop
  | vst {messageID : MessageID} {buffer : List UInt8} {header : MessageHeader} {length : Nat}
      {response : Response} :
      Vst.validateAndExtractMessageHeader platform.vpack platform.assertions 1 buffer =
        .ok (header, length) → 0 < length →
      Vst.createResponse platform messageID buffer = .ok response →
      Delivered platform .vst (buffer.drop length) response
  | http {messageID : MessageID} {httpStatusCode : Nat} {responseHeaders : StringMap}
      {responseBody : List UInt8} :
      Delivered platform .http responseBody (Http.handleResult messageID httpStatusCode
        responseHeaders responseBody platform.uninitialised)

theorem createResponse_eq {platform : Vst.Platform} {messageID : MessageID} {buffer : List UInt8}
    {header : MessageHeader} {length : Nat} {response : Response}
    (hHeader : Vst.validateAndExtractMessageHeader platform.vpack platform.assertions 1 buffer =
      .ok (header, length))
    (h : Vst.createResponse platform messageID buffer = .ok response) :
    response.payload = buffer ∧ response.payloadOffset = length ∧ response.sliceCache = [] := by
  rw [Vst.createResponse, hHeader] at h
  cases h
  exact ⟨rfl, rfl, rfl⟩

theorem handleResult_eq (messageID : MessageID) (httpStatusCode : Nat)
    (responseHeaders : StringMap) (responseBody : List UInt8) (uninitialised : Nat) :
    let response := Http.handleResult messageID httpStatusCode responseHeaders responseBody
      uninitialised
    response.payload = responseBody ∧ response.sliceCache = [] ∧
      response.payloadOffset = if responseBody = [] then uninitialised else 0 := by
  cases responseBody with
  | nil => exact ⟨rfl, rfl, rfl⟩
  | cons c body => exact ⟨rfl, rfl, rfl⟩

/-- The views agree where the offset is zero, which over VST it never is. -/
theorem body_views (platform : Vst.Platform) (behind : Pointer) (transport : TransportType)
    (body : List UInt8) (response : Response) (h : Delivered platform transport body response) :
    ViewsAgree platform.vpack behind response body ↔
      transport = .http ∧ (body ≠ [] ∨ platform.uninitialised = 0) := by
  cases h with
  | vst hHeader hLength hResponse =>
    obtain ⟨hPayload, hOffset, hFresh⟩ := createResponse_eq hHeader hResponse
    rw [← hPayload, ← hOffset, viewsAgree_iff hFresh, hOffset]
    constructor
    · intro hZero
      omega
    · rintro ⟨hTransport, -⟩
      cases hTransport
  | http =>
    rename_i messageID httpStatusCode responseHeaders
    obtain ⟨hPayload, hFresh, hOffset⟩ :=
      handleResult_eq messageID httpStatusCode responseHeaders body platform.uninitialised
    have hDrop : ViewsAgree platform.vpack behind _ _ ↔ _ := viewsAgree_iff hFresh
    by_cases hBody : body = []
    · rw [if_pos hBody] at hOffset
      rw [hPayload, hOffset, hBody, List.drop_nil] at hDrop
      simpa [hBody] using hDrop
    · rw [if_neg hBody] at hOffset
      rw [hPayload, hOffset, List.drop_zero] at hDrop
      simpa [hBody] using hDrop

theorem body_views_http :
    ViewsAgree VelocyPack.short (fun _ => 0)
      (Http.handleResult 1 200 [] [0x31, 0x32] Vst.shortPlatform.uninitialised) [0x31, 0x32] :=
  (body_views Vst.shortPlatform (fun _ => 0) .http [0x31, 0x32] _ .http).mpr
    ⟨rfl, .inl (List.cons_ne_nil _ _)⟩

/-- A VST response without a body hands out as many bytes as its header has. -/
theorem payload_behind_header :
    ∃ buffer header length response,
      Vst.validateAndExtractMessageHeader VelocyPack.short true 1 buffer = .ok (header, length) ∧
      Vst.createResponse Vst.shortPlatform 1 buffer = .ok response ∧
      buffer.drop length = [] ∧ (response.payloadBuffer fun _ => 0).size = 10 ∧
      ¬ ViewsAgree VelocyPack.short (fun _ => 0) response (buffer.drop length) := by
  refine ⟨VelocyPack.short.build (.array [.int 1, .int 2, .uint 200]), _, _, _, rfl, rfl,
    by decide, by decide, fun h => ?_⟩
  exact absurd h.within (by decide)

end Fuerte

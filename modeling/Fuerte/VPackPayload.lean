import Fuerte.RequestPayload

/-! # Velocypack payloads

Slices and payload of a request say the same as long as one of the three ways of
adding velocypack is not used for more than nothing.
-/

namespace Fuerte

set_option autoImplicit false

open ByteMemory

/-- A call that adds velocypack to a request, or that asks for its slices. -/
inductive VPackCall where
  | addVPackSlice (memory : List UInt8)
  | addVPackBuffer (buffer : List UInt8)
  | addVPackMoved (buffer : List UInt8)
  | slices

/-- The values that are passed to a call. -/
inductive VPackCall.Adds (vpack : VelocyPack) : VPackCall → List (List UInt8) → Prop
  | addVPackSlice {memory : List UInt8} :
      vpack.IsValue (memory.take (vpack.byteSize memory)) →
      Adds vpack (.addVPackSlice memory) [memory.take (vpack.byteSize memory)]
  | addVPackBuffer {values : List (List UInt8)} : (∀ value ∈ values, vpack.IsValue value) →
      Adds vpack (.addVPackBuffer values.flatten) values
  | addVPackMoved {values : List (List UInt8)} : (∀ value ∈ values, vpack.IsValue value) →
      Adds vpack (.addVPackMoved values.flatten) values
  | slices : Adds vpack .slices []

/-- What a call throws that comes too late. -/
def tooLate : Fault := .logicError "Message is sealed or of wrong type (vst/binary)"

namespace Request

def vpackCall (vpack : VelocyPack) (buffers : BufferLibrary) (request : Request) :
    VPackCall → Except Fault Request
  | .addVPackSlice memory => request.addVPackSlice vpack buffers memory
  | .addVPackBuffer buffer => request.addVPackBuffer vpack buffers buffer
  | .addVPackMoved buffer => request.addVPackMoved buffers buffer
  | .slices => do
    let (slices, request) := request.slices vpack
    discard slices
    return request

/-- The requests that permitted calls lead to, with the values of the accepted
ones. A call that comes too late changes nothing. -/
inductive VPackRun (vpack : VelocyPack) (buffers : BufferLibrary)
    (permitted : Request → VPackCall → Prop) : Request → List (List UInt8) → Prop
  | ofHeader (header : MessageHeader) : VPackRun vpack buffers permitted (ofHeader header) []
  | accepted {request result : Request} {added values : List (List UInt8)} {c : VPackCall} :
      VPackRun vpack buffers permitted request added → c.Adds vpack values → permitted request c →
      request.vpackCall vpack buffers c = .ok result →
      VPackRun vpack buffers permitted result (added ++ values)
  | refused {request : Request} {added values : List (List UInt8)} {c : VPackCall} :
      VPackRun vpack buffers permitted request added → c.Adds vpack values → permitted request c →
      request.vpackCall vpack buffers c = .error tooLate →
      VPackRun vpack buffers permitted request added

/-- The request hands out what has been added, and a further call is accepted or
comes too late; none reads the last element of an empty vector of slices. -/
structure DeliversValues (vpack : VelocyPack) (buffers : BufferLibrary)
    (permitted : Request → VPackCall → Prop) (request : Request) (added : List (List UInt8)) :
    Prop where
  slices : ∃ slices left, request.slices vpack = (.ok slices, left) ∧
    slices.map VSlice.bytes = added
  payload : request.payloadBuffer.bytes = added.flatten
  calls : ∀ c values, c.Adds vpack values → permitted request c →
    (∃ result, request.vpackCall vpack buffers c = .ok result) ∨
      request.vpackCall vpack buffers c = .error tooLate

/-- The call does not enter the loop of `addVPack(VBuffer const&)`. -/
def SparesLoop (request : Request) : VPackCall → Prop
  | .addVPackBuffer buffer => buffer = [] ∨ request.sealed = true
  | _ => True

/-- Payload, length and cached slices of a request are those of the added values. -/
structure Holds (vpack : VelocyPack) (request : Request) (added : List (List UInt8)) : Prop where
  payload : request.payload = added.flatten
  length : request.payloadLength = request.payload.length
  values : ∀ value ∈ added, vpack.IsValue value
  kind : request.isVpack ≠ some false
  untouched : request.isVpack = none → added = [] ∧ request.sliceCache = []
  cache : request.isVpack = some true → request.modified = false →
    request.sliceCache.map VSlice.bytes = added

section Steps

variable {vpack : VelocyPack} {buffers : BufferLibrary} {request : Request}
  {added : List (List UInt8)}

theorem Holds.ofHeader (header : MessageHeader) : Holds vpack (ofHeader header) [] := by
  refine ⟨rfl, rfl, ?_, by simp [Request.ofHeader], fun _ => ⟨rfl, rfl⟩, by simp [Request.ofHeader]⟩
  rintro value hValue
  exact absurd hValue List.not_mem_nil

theorem Holds.of_modified (hPayload : request.payload = added.flatten)
    (hLength : request.payloadLength = request.payload.length)
    (hValues : ∀ value ∈ added, vpack.IsValue value) (hKind : request.isVpack = some true)
    (hModified : request.modified = true) : request.Holds vpack added := by
  refine ⟨hPayload, hLength, hValues, ?_, ?_, ?_⟩
  · rw [hKind]
    decide
  · intro hNone
    rw [hKind] at hNone
    cases hNone
  · intro _ hCut
    rw [hModified] at hCut
    cases hCut

theorem Holds.slices (h : request.Holds vpack added) :
    ∃ slices left, request.slices vpack = (.ok slices, left) ∧
      slices.map VSlice.bytes = added ∧ left.Holds vpack added := by
  by_cases hCut : (request.isVpack.isSome && request.modified) = true
  · obtain ⟨slices, hSlices, hBytes, -⟩ :=
      splitSlices_values request.payload.length added [] (Nat.le_of_eq (by rw [h.payload])) h.values
    rw [← h.payload, List.nil_append] at hSlices
    refine ⟨slices, { request with sliceCache := slices, modified := false }, ?_, hBytes, ?_⟩
    · rw [Request.slices, if_pos hCut, hSlices]
    · refine ⟨h.payload, h.length, h.values, h.kind, ?_, fun _ _ => hBytes⟩
      intro hNone
      have hKind : request.isVpack = none := hNone
      simp [hKind] at hCut
  · refine ⟨request.sliceCache, request, ?_, ?_, h⟩
    · rw [Request.slices, if_neg hCut]
    · cases hKind : request.isVpack with
      | none =>
        obtain ⟨rfl, hEmpty⟩ := h.untouched hKind
        rw [hEmpty]
        rfl
      | some kind =>
        cases kind with
        | false => exact absurd hKind h.kind
        | true => exact h.cache hKind (by simpa [hKind] using hCut)

theorem Holds.bytes_payloadBuffer (h : request.Holds vpack added) :
    request.payloadBuffer.bytes = added.flatten := by
  rw [Request.bytes_payloadBuffer h.length, h.payload]

/-- What a further call does to a request that holds what has been added. -/
def Continues (vpack : VelocyPack) (buffers : BufferLibrary) (request : Request)
    (added values : List (List UInt8)) (c : VPackCall) : Prop :=
  (∃ result, request.vpackCall vpack buffers c = .ok result ∧
    result.Holds vpack (added ++ values)) ∨ request.vpackCall vpack buffers c = .error tooLate

theorem Holds.addVPackSlice (h : request.Holds vpack added) {memory : List UInt8}
    (hValue : vpack.IsValue (memory.take (vpack.byteSize memory))) :
    Continues vpack buffers request added [memory.take (vpack.byteSize memory)]
      (.addVPackSlice memory) := by
  by_cases hLate : (request.sealed || request.isVpack == some false) = true
  · right
    rw [vpackCall, Request.addVPackSlice, if_pos hLate]
    rfl
  · left
    refine ⟨_, by rw [vpackCall, Request.addVPackSlice, if_neg hLate]; rfl, ?_⟩
    have hSize := hValue.length_take
    have hLength : request.payloadLength + vpack.byteSize memory =
        (request.payload ++ memory.take (vpack.byteSize memory)).length := by
      rw [List.length_append, hSize, h.length]
    refine .of_modified ?_ ?_ ?_ rfl rfl
    · rw [hLength, buffers.resetTo_length, List.flatten_append, h.payload, List.flatten_singleton]
    · exact (buffers.length_resetTo _ _).symm
    · intro value hMem
      rcases List.mem_append.mp hMem with hMem | hMem
      · exact h.values value hMem
      · rw [List.mem_singleton.mp hMem]
        exact hValue

theorem Holds.addVPackBuffer (h : request.Holds vpack added) {values : List (List UInt8)}
    (hValues : ∀ value ∈ values, vpack.IsValue value)
    (hSpares : request.SparesLoop (.addVPackBuffer values.flatten)) :
    Continues vpack buffers request added values (.addVPackBuffer values.flatten) := by
  by_cases hLate : (request.sealed || request.isVpack == some false) = true
  · right
    rw [vpackCall, Request.addVPackBuffer, if_pos hLate]
    rfl
  · left
    have hSealed : request.sealed = false := by
      simp only [Bool.or_eq_true, not_or, Bool.not_eq_true] at hLate
      exact hLate.1
    have hEmpty : values.flatten = [] := by
      rcases hSpares with hEmpty | hSpares
      · exact hEmpty
      · rw [hSealed] at hSpares
        cases hSpares
    have hNone : values = [] := VelocyPack.values_eq_nil hValues hEmpty
    rw [hNone] at hEmpty ⊢
    refine ⟨_, by rw [vpackCall, Request.addVPackBuffer, if_neg hLate]; rfl, ?_⟩
    rw [List.append_nil]
    exact .of_modified h.payload h.length h.values rfl rfl

theorem Holds.addVPackMoved (h : request.Holds vpack added) {values : List (List UInt8)}
    (hValues : ∀ value ∈ values, vpack.IsValue value) :
    Continues vpack buffers request added values (.addVPackMoved values.flatten) := by
  by_cases hLate : (request.sealed || request.isVpack.isSome) = true
  · right
    rw [vpackCall, Request.addVPackMoved, if_pos hLate]
    rfl
  · left
    have hKind : request.isVpack = none := by
      simp only [Bool.or_eq_true, not_or, Bool.not_eq_true, Option.isSome_eq_false_iff,
        Option.isNone_iff_eq_none] at hLate
      exact hLate.2
    obtain ⟨rfl, -⟩ := h.untouched hKind
    have hLength : request.payloadLength = 0 := by rw [h.length, h.payload]; rfl
    refine ⟨_, by rw [vpackCall, Request.addVPackMoved, if_neg hLate]; rfl, ?_⟩
    rw [List.nil_append]
    refine .of_modified ?_ (buffers.length_resetTo _ _).symm hValues rfl rfl
    rw [hLength, Nat.zero_add, buffers.resetTo_length]

theorem Holds.vpackCall (h : request.Holds vpack added) (buffers : BufferLibrary) {c : VPackCall}
    {values : List (List UInt8)} (hAdds : c.Adds vpack values) (hSpares : request.SparesLoop c) :
    Continues vpack buffers request added values c := by
  cases hAdds with
  | addVPackSlice hValue => exact h.addVPackSlice hValue
  | addVPackBuffer hValues => exact h.addVPackBuffer hValues hSpares
  | addVPackMoved hValues => exact h.addVPackMoved hValues
  | slices =>
    obtain ⟨slices, left, hSlices, -, hLeft⟩ := h.slices
    left
    refine ⟨left, ?_, ?_⟩
    · rw [Request.vpackCall, hSlices]
      rfl
    · rw [List.append_nil]
      exact hLeft

theorem VPackRun.holds (hRun : VPackRun vpack buffers SparesLoop request added) :
    request.Holds vpack added := by
  induction hRun with
  | ofHeader header => exact .ofHeader header
  | accepted _ hAdds hSpares hCall ih =>
    rcases ih.vpackCall buffers hAdds hSpares with ⟨result, hResult, hHolds⟩ | hLate
    · rw [hCall] at hResult
      cases hResult
      exact hHolds
    · rw [hCall] at hLate
      cases hLate
  | refused _ _ _ _ ih => exact ih

end Steps

end Request

open Request

/-- As long as no call enters the loop, slices and payload are what was added. -/
theorem vpack_payload {vpack : VelocyPack} {buffers : BufferLibrary} {request : Request}
    {added : List (List UInt8)} (hRun : VPackRun vpack buffers SparesLoop request added) :
    DeliversValues vpack buffers SparesLoop request added := by
  have hHolds := hRun.holds
  obtain ⟨slices, left, hSlices, hBytes, -⟩ := hHolds.slices
  refine ⟨⟨slices, left, hSlices, hBytes⟩, hHolds.bytes_payloadBuffer, ?_⟩
  intro c values hAdds hSpares
  rcases hHolds.vpackCall buffers hAdds hSpares with ⟨result, hResult, -⟩ | hLate
  · exact .inl ⟨result, hResult⟩
  · exact .inr hLate

/-- A slice, a call of `slices`, and an empty buffer. -/
theorem vpack_payload_slice :
    ∃ request : Request, VPackRun .short .zeroed SparesLoop request [[0x31]] ∧
      DeliversValues .short .zeroed SparesLoop request [[0x31]] := by
  have hValue : VelocyPack.short.IsValue [0x31] := ⟨by decide, fun rest => rfl⟩
  have hAdded : VPackRun .short .zeroed SparesLoop _ ([] ++ [[0x31]]) :=
    .accepted (c := .addVPackSlice [0x31]) (.ofHeader {}) (.addVPackSlice hValue) trivial rfl
  have hAsked : VPackRun .short .zeroed SparesLoop _ ([] ++ [[0x31]] ++ []) :=
    hAdded.accepted .slices trivial rfl
  have hEmpty : VPackRun .short .zeroed SparesLoop _ ([] ++ [[0x31]] ++ [] ++ []) :=
    hAsked.accepted (.addVPackBuffer (by simp)) (.inl rfl) rfl
  exact ⟨_, hEmpty, vpack_payload hEmpty⟩

/-- The first value added as a buffer is added after a look at the last of no slices. -/
theorem vpack_buffer_on_fresh_request :
    VPackRun .short .zeroed (fun _ _ => True) (Request.ofHeader {}) [] ∧
      ¬DeliversValues .short .zeroed (fun _ _ => True) (Request.ofHeader {}) [] := by
  refine ⟨.ofHeader {}, fun h => ?_⟩
  have hValues : ∀ value ∈ [[0x31]], VelocyPack.short.IsValue value := by
    rintro value hValue
    rw [List.mem_singleton.mp hValue]
    exact ⟨by decide, fun rest => rfl⟩
  rcases h.calls _ _ (.addVPackBuffer hValues) trivial with ⟨result, hResult⟩ | hLate
  · cases hResult
  · cases hLate

end Fuerte

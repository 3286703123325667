import Fuerte.Library.Outcome
import Fuerte.Vst.Demultiplexing

/-! # Responses that cannot be decoded

The item of a request leaves the message store before its response is decoded.
Whatever decoding throws then passes by the callback.
-/

namespace Fuerte

set_option autoImplicit false

open Outcome

namespace VelocyPack

/-- `Validator` rejects what is empty, the access to a member what is not an
array, and the iterator what is not an object. -/
structure Checked (vpack : VelocyPack) : Prop where
  validate_nil : vpack.validate [] ≠ none
  isArray_of_atIndex : ∀ slice i member, vpack.atIndex slice i = .ok member →
    vpack.isArray slice = true
  isObject_of_members : ∀ slice members, vpack.members slice = .ok members →
    vpack.isObject slice = true

theorem short_checked : VelocyPack.short.Checked := by
  refine ⟨by decide, ?_, ?_⟩
  · intro slice i member h
    simp only [short, ShortValue.atIndex] at h
    split at h
    · cases h
    · rename_i hHead
      exact decide_eq_true (Decidable.not_not.mp hHead)
  · intro slice members h
    simp only [short] at h
    split at h
    · rename_i hHead
      exact decide_eq_true hHead
    · cases h

section Reading

variable (vpack : VelocyPack) (slice : List UInt8)

/-- The member at `i` is there and `good`. -/
def MemberIs (i : Nat) (good : List UInt8 → Prop) : Prop :=
  ∃ member, vpack.atIndex slice i = .ok member ∧ good member

def IsNumber : Prop := Returns (vpack.getNumberInt slice)

def IsInt : Prop := Returns (vpack.getInt slice)

def IsUInt : Prop := Returns (vpack.getUInt slice)

def IsString : Prop := Returns (vpack.copyString slice)

/-- An object from strings to strings. -/
def IsStringMap : Prop :=
  vpack.isObject slice = true ∧ ∃ members, vpack.members slice = .ok members ∧
    ∀ entry ∈ members, vpack.IsString entry.1 ∧ vpack.IsString entry.2

def IsNoObject : Prop := vpack.isObject slice = false

/-- The members that a header of this type needs, with the types they need. -/
def HasMembers : MessageType → Prop
  | .authentication => vpack.MemberIs slice 2 vpack.IsString ∧ vpack.MemberIs slice 3 vpack.IsString
  | .request => vpack.MemberIs slice 2 vpack.IsString ∧ vpack.MemberIs slice 3 vpack.IsInt ∧
      vpack.MemberIs slice 4 vpack.IsString ∧ vpack.MemberIs slice 5 vpack.IsStringMap ∧
      vpack.MemberIs slice 6 vpack.IsStringMap
  | .response => vpack.MemberIs slice 2 vpack.IsUInt ∧
      ∃ length, vpack.length slice = .ok length ∧
        (4 ≤ length → vpack.MemberIs slice 3 vpack.IsStringMap)
  | _ => True

/-- The first map of such a header that is read is not an object. -/
def HasNoMap : MessageType → Prop
  | .request => vpack.MemberIs slice 2 vpack.IsString ∧ vpack.MemberIs slice 3 vpack.IsInt ∧
      vpack.MemberIs slice 4 vpack.IsString ∧ (vpack.MemberIs slice 5 vpack.IsNoObject ∨
        vpack.MemberIs slice 5 vpack.IsStringMap ∧ vpack.MemberIs slice 6 vpack.IsNoObject)
  | .response => vpack.MemberIs slice 2 vpack.IsUInt ∧
      ∃ length, vpack.length slice = .ok length ∧ 4 ≤ length ∧
        vpack.MemberIs slice 3 vpack.IsNoObject
  | _ => False

/-- Version and type are numbers, and the rest is as the type wants it. -/
def WithType (rest : MessageType → Prop) : Prop :=
  vpack.MemberIs slice 0 vpack.IsNumber ∧ ∃ type : Int,
    (vpack.MemberIs slice 1 fun member => vpack.getNumberInt member = .ok type) ∧
      rest (.ofInt type)

/-- Bytes that start with a header. -/
structure WellFormed : Prop where
  nonempty : slice ≠ []
  valid : vpack.validate slice = none
  isArray : vpack.isArray slice = true
  members : vpack.WithType slice (vpack.HasMembers slice)

/-- Bytes that an `assert` of the decoder fails on. -/
structure FailsAssert : Prop where
  valid : vpack.validate slice = none
  unexpected : vpack.isArray slice = false ∨ vpack.WithType slice (vpack.HasNoMap slice)

end Reading

end VelocyPack

namespace Vst

section Decoding

variable {vpack : VelocyPack} {assertions : Bool} {slice : List UInt8}

theorem velocypack_eq_ok_iff {α : Type} {r : Except String α} {a : α} :
    velocypack r = .ok a ↔ r = .ok a := by
  cases r <;> simp [velocypack, Except.mapError]

theorem velocypack_ne_assertion {α : Type} {r : Except String α} :
    velocypack r ≠ .error .assertion := by
  cases r <;> simp [velocypack, Except.mapError]

theorem assertThat_ok_iff {condition : Bool} {u : Unit} :
    assertThat assertions condition = .ok u ↔ (assertions = true → condition = true) := by
  cases assertions <;> cases condition <;> simp [assertThat]

theorem assertThat_error_iff {condition : Bool} :
    assertThat assertions condition = .error .assertion ↔
      assertions = true ∧ condition = false := by
  cases assertions <;> cases condition <;> simp [assertThat]

theorem contentType_vpack (header : MessageHeader) :
    header.contentType .vpack =
      .ok (header.addMeta fuContentTypeKey (ascii "application/x-velocypack")) := rfl

theorem returns_sliceToStringMap_iff (assertions : Bool) (hChecked : vpack.Checked) :
    Returns (sliceToStringMap vpack assertions slice) ↔ vpack.IsStringMap slice := by
  have hStep (map : StringMap) (entry : List UInt8 × List UInt8) :
      Returns (do
        let key ← velocypack (vpack.copyString entry.1)
        let value ← velocypack (vpack.copyString entry.2)
        return StringMap.insert map key value) ↔
        vpack.IsString entry.1 ∧ vpack.IsString entry.2 := by
    simp only [returns_bind_iff, velocypack_eq_ok_iff, returns_pure, and_true]
    exact exists_and_right
  simp only [sliceToStringMap, returns_bind_iff, assertThat_ok_iff, velocypack_eq_ok_iff,
    VelocyPack.IsStringMap]
  constructor
  · rintro ⟨_, _, members, hMembers, hEntries⟩
    exact ⟨hChecked.isObject_of_members _ _ hMembers, members, hMembers,
      (returns_foldlM_iff hStep members []).mp hEntries⟩
  · rintro ⟨hObject, members, hMembers, hEntries⟩
    exact ⟨(), fun _ => hObject, members, hMembers,
      (returns_foldlM_iff hStep members []).mpr hEntries⟩

theorem sliceToStringMap_assertion_iff :
    sliceToStringMap vpack assertions slice = .error .assertion ↔
      assertions = true ∧ vpack.IsNoObject slice := by
  rw [sliceToStringMap, bind_eq_error_iff, assertThat_error_iff, VelocyPack.IsNoObject]
  refine or_iff_left ?_
  rintro ⟨_, _, h⟩
  rcases bind_eq_error_iff.mp h with h | ⟨members, _, h⟩
  · exact velocypack_ne_assertion h
  · revert h
    apply foldlM_ne_error
    rintro map entry h
    rcases bind_eq_error_iff.mp h with h | ⟨key, _, h⟩
    · exact velocypack_ne_assertion h
    · rcases bind_eq_error_iff.mp h with h | ⟨value, _, h⟩
      · exact velocypack_ne_assertion h
      · cases h

theorem messageHeaderFromSlice_eq : messageHeaderFromSlice vpack assertions 1 slice = (do
    assertThat assertions (vpack.isArray slice)
    let header ← ({ byteSize := some (vpack.byteSize slice) } : MessageHeader).contentType .vpack
    let version ← velocypack (vpack.getNumberInt (← velocypack (vpack.atIndex slice 0)))
    let typeNumber ← velocypack (vpack.getNumberInt (← velocypack (vpack.atIndex slice 1)))
    readMembers vpack assertions slice
      { header with version := some version, type := some (.ofInt typeNumber) }
      (.ofInt typeNumber)) := rfl

theorem returns_readMembers_iff (hChecked : vpack.Checked) (header : MessageHeader)
    (type : MessageType) :
    Returns (readMembers vpack assertions slice header type) ↔ vpack.HasMembers slice type := by
  cases type with
  | authentication =>
    simp only [readMembers, VelocyPack.HasMembers, VelocyPack.MemberIs, VelocyPack.IsString,
      returns_bind_iff, velocypack_eq_ok_iff, returns_pure, and_true]
    simp only [Returns, ← exists_and_right, and_assoc]
  | request =>
    simp only [readMembers, VelocyPack.HasMembers, VelocyPack.MemberIs, VelocyPack.IsString,
      VelocyPack.IsInt, ← returns_sliceToStringMap_iff assertions hChecked,
      returns_bind_iff, velocypack_eq_ok_iff, returns_pure, and_true]
    simp only [Returns, ← exists_and_right, and_assoc]
  | response =>
    simp only [readMembers, VelocyPack.HasMembers, VelocyPack.MemberIs, VelocyPack.IsUInt,
      ← returns_sliceToStringMap_iff assertions hChecked, returns_bind_iff,
      returns_ite_iff, velocypack_eq_ok_iff, contentType_vpack, Except.ok.injEq, exists_eq_left',
      returns_pure, and_true]
    simp only [Returns, ← exists_and_right, and_assoc]
  | _ => exact iff_of_true (returns_pure header) trivial

theorem readMembers_assertion_iff (hChecked : vpack.Checked) (header : MessageHeader)
    (type : MessageType) :
    readMembers vpack assertions slice header type = .error .assertion ↔
      assertions = true ∧ vpack.HasNoMap slice type := by
  cases type with
  | authentication =>
    simp only [readMembers, VelocyPack.HasNoMap, bind_eq_error_iff, velocypack_ne_assertion,
      velocypack_eq_ok_iff, pure_ne_error, false_or, and_false, exists_false]
  | request =>
    simp only [readMembers, VelocyPack.HasNoMap, bind_eq_error_iff, velocypack_ne_assertion,
      velocypack_eq_ok_iff, pure_ne_error, false_or, and_false, exists_false, or_false,
      sliceToStringMap_assertion_iff, VelocyPack.MemberIs]
    constructor
    · rintro ⟨a, ha, s, hs, b, hb, i, hi, c, hc, p, hp, d, hd, hMaps⟩
      rcases hMaps with ⟨hAssertions, hNoMap⟩ | ⟨map, hMap, e, he, hAssertions, hNoMap⟩
      · exact ⟨hAssertions, ⟨a, ha, s, hs⟩, ⟨b, hb, i, hi⟩, ⟨c, hc, p, hp⟩, .inl ⟨d, hd, hNoMap⟩⟩
      · have hIsMap := (returns_sliceToStringMap_iff assertions hChecked).mp ⟨map, hMap⟩
        exact ⟨hAssertions, ⟨a, ha, s, hs⟩, ⟨b, hb, i, hi⟩, ⟨c, hc, p, hp⟩,
          .inr ⟨⟨d, hd, hIsMap⟩, e, he, hNoMap⟩⟩
    · rintro ⟨hAssertions, ⟨a, ha, s, hs⟩, ⟨b, hb, i, hi⟩, ⟨c, hc, p, hp⟩, hMaps⟩
      refine ⟨a, ha, s, hs, b, hb, i, hi, c, hc, p, hp, ?_⟩
      rcases hMaps with ⟨d, hd, hNoMap⟩ | ⟨⟨d, hd, hIsMap⟩, e, he, hNoMap⟩
      · exact ⟨d, hd, .inl ⟨hAssertions, hNoMap⟩⟩
      · obtain ⟨map, hMap⟩ := (returns_sliceToStringMap_iff assertions hChecked).mpr hIsMap
        exact ⟨d, hd, .inr ⟨map, hMap, e, he, hAssertions, hNoMap⟩⟩
  | response =>
    simp only [readMembers, VelocyPack.HasNoMap, bind_eq_error_iff, velocypack_ne_assertion,
      velocypack_eq_ok_iff, contentType_vpack, Except.ok.injEq, exists_eq_left', ite_eq_error_iff,
      pure_ne_error, false_or, and_false, exists_false, or_false, reduceCtorEq,
      sliceToStringMap_assertion_iff, VelocyPack.MemberIs]
    constructor
    · rintro ⟨a, ha, code, hCode, length, hLength, hLong, d, hd, hAssertions, hNoMap⟩
      exact ⟨hAssertions, ⟨a, ha, code, hCode⟩, length, hLength, hLong, d, hd, hNoMap⟩
    · rintro ⟨hAssertions, ⟨a, ha, code, hCode⟩, length, hLength, hLong, d, hd, hNoMap⟩
      exact ⟨a, ha, code, hCode, length, hLength, hLong, d, hd, hAssertions, hNoMap⟩
  | _ => exact iff_of_false (pure_ne_error header _) (fun h => h.2)

theorem returns_messageHeaderFromSlice_iff (hChecked : vpack.Checked) :
    Returns (messageHeaderFromSlice vpack assertions 1 slice) ↔
      vpack.isArray slice = true ∧ vpack.WithType slice (vpack.HasMembers slice) := by
  simp only [messageHeaderFromSlice_eq, returns_bind_iff, assertThat_ok_iff, velocypack_eq_ok_iff,
    contentType_vpack, Except.ok.injEq, exists_eq_left', returns_readMembers_iff hChecked]
  constructor
  · rintro ⟨_, _, a, ha, version, hVersion, b, hb, type, hType, hMembers⟩
    exact ⟨hChecked.isArray_of_atIndex _ _ _ ha, ⟨a, ha, version, hVersion⟩, type, ⟨b, hb, hType⟩,
      hMembers⟩
  · rintro ⟨hArray, ⟨a, ha, version, hVersion⟩, type, ⟨b, hb, hType⟩, hMembers⟩
    exact ⟨(), fun _ => hArray, a, ha, version, hVersion, b, hb, type, hType, hMembers⟩

theorem messageHeaderFromSlice_assertion_iff (hChecked : vpack.Checked) :
    messageHeaderFromSlice vpack assertions 1 slice = .error .assertion ↔ assertions = true ∧
      (vpack.isArray slice = false ∨ vpack.WithType slice (vpack.HasNoMap slice)) := by
  simp only [messageHeaderFromSlice_eq, bind_eq_error_iff, assertThat_ok_iff, assertThat_error_iff,
    velocypack_eq_ok_iff, velocypack_ne_assertion, contentType_vpack, Except.ok.injEq,
    exists_eq_left', reduceCtorEq, false_or, readMembers_assertion_iff hChecked]
  constructor
  · rintro (⟨hAssertions, hArray⟩ | ⟨_, _, a, ha, version, hVersion, b, hb, type, hType, hAssertions,
      hNoMap⟩)
    · exact ⟨hAssertions, .inl hArray⟩
    · exact ⟨hAssertions, .inr ⟨⟨a, ha, version, hVersion⟩, type, ⟨b, hb, hType⟩, hNoMap⟩⟩
  · rintro ⟨hAssertions, hArray | ⟨⟨a, ha, version, hVersion⟩, type, ⟨b, hb, hType⟩, hNoMap⟩⟩
    · exact .inl ⟨hAssertions, hArray⟩
    · have hArray := hChecked.isArray_of_atIndex _ _ _ ha
      exact .inr ⟨(), fun _ => hArray, a, ha, version, hVersion, b, hb, type, hType, hAssertions,
        hNoMap⟩

end Decoding

section Decoded

variable {platform : Platform} (messageID : MessageID) (buffer : List UInt8)

theorem returns_createResponse_iff (hChecked : platform.vpack.Checked) :
    Returns (createResponse platform messageID buffer) ↔ platform.vpack.WellFormed buffer := by
  rw [createResponse, returns_bind_iff_of_forall fun _ => returns_pure _,
    validateAndExtractMessageHeader]
  cases hValid : platform.vpack.validate buffer with
  | some what =>
    refine iff_of_false (not_returns_error _) fun h => ?_
    rw [h.valid] at hValid
    cases hValid
  | none =>
    refine (returns_bind_iff_of_forall fun _ => returns_pure _).trans ?_
    rw [returns_messageHeaderFromSlice_iff hChecked]
    constructor
    · rintro ⟨hArray, hMembers⟩
      refine ⟨?_, hValid, hArray, hMembers⟩
      rintro rfl
      exact hChecked.validate_nil hValid
    · exact fun h => ⟨h.isArray, h.members⟩

theorem createResponse_assertion_iff (hChecked : platform.vpack.Checked) :
    createResponse platform messageID buffer = .error .assertion ↔
      platform.assertions = true ∧ platform.vpack.FailsAssert buffer := by
  rw [createResponse, bind_eq_error_iff_of_forall fun _ => pure_ne_error _ _,
    validateAndExtractMessageHeader]
  cases hValid : platform.vpack.validate buffer with
  | some what =>
    refine iff_of_false (fun h => by cases h) fun h => ?_
    rw [h.2.valid] at hValid
    cases hValid
  | none =>
    refine (bind_eq_error_iff_of_forall fun _ => pure_ne_error _ _).trans ?_
    rw [messageHeaderFromSlice_assertion_iff hChecked]
    constructor
    · rintro ⟨hAssertions, h⟩
      exact ⟨hAssertions, hValid, h⟩
    · rintro ⟨hAssertions, h⟩
      exact ⟨hAssertions, h.unexpected⟩

end Decoded

/-! ## Completing the request -/

namespace Inflight

def Keyed (inflight : Inflight) : Prop :=
  ∀ id item, inflight.items id = some item → item.messageID = id

def IsInvoked (inflight : Inflight) (id : MessageID) : Prop :=
  ∃ item, inflight.items id = some item ∧ item.callback.invoked = true

/-- The message that this chunk makes complete. -/
def Assembles (platform : Platform) (inflight : Inflight) (chunk : ChunkHeader)
    (item : RequestItem) (buffer : List UInt8) : Prop :=
  inflight.findByID chunk.messageID.toNat = some item ∧
    ((item.addChunk chunk).assemble platform).1 = some buffer

end Inflight

open Inflight

/-- When `processChunk` returns or throws, a request it has taken out of the
store has had its callback invoked, with an error if the message is malformed. -/
structure CompletesRequest (platform : Platform) (inflight : Inflight) (chunk : ChunkHeader) :
    Prop where
  invoked : (processChunk platform inflight chunk).2 ≠ some .assertion →
    chunk.messageID.toNat ∈ inflight.messageStore →
    chunk.messageID.toNat ∉ (processChunk platform inflight chunk).1.messageStore →
    (processChunk platform inflight chunk).1.IsInvoked chunk.messageID.toNat
  error : ∀ item buffer, Assembles platform inflight chunk item buffer →
    ¬platform.vpack.WellFormed buffer →
    ∀ call ∈ (processChunk platform inflight chunk).1.calls,
      call ∈ inflight.calls ∨ call.error ≠ 0

/-- A message that this chunk makes complete can be decoded, or its request has
been answered already, or an assertion stops the process. -/
def Decodable (platform : Platform) (inflight : Inflight) (chunk : ChunkHeader) : Prop :=
  ∀ item buffer, Assembles platform inflight chunk item buffer →
    item.callback.invoked = true ∨ platform.vpack.WellFormed buffer ∨
      platform.assertions = true ∧ platform.vpack.FailsAssert buffer

section OneChunk

variable {platform : Platform} {inflight : Inflight} {chunk : ChunkHeader} {item : RequestItem}

theorem processChunk_of_found (platform : Platform)
    (hFind : inflight.findByID chunk.messageID.toNat = some item) :
    ∃ left, left.callback = item.callback ∧ left.messageID = item.messageID ∧
      processChunk platform inflight chunk =
        match ((item.addChunk chunk).assemble platform).1 with
        | none => (inflight.setItem item.messageID left, none)
        | some buffer => match createResponse platform item.messageID buffer with
          | .error fault =>
            ((inflight.setItem item.messageID left).removeByID item.messageID, some fault)
          | .ok response =>
            (((((inflight.setItem item.messageID left).removeByID item.messageID).takeRequest
              item.messageID).invoke item.messageID .noError left.request (some response) []),
              none) := by
  obtain ⟨_, hCallback, hLeft⟩ := RequestItem.assemble_frame platform (item.addChunk chunk)
  have hNumber : ((item.addChunk chunk).assemble platform).2.messageID = item.messageID := hLeft
  refine ⟨((item.addChunk chunk).assemble platform).2, hCallback, hLeft, ?_⟩
  rewrite [processChunk, hFind, ← hNumber]
  rfl

theorem isInvoked_invoke {id : MessageID} (hItem : inflight.items id = some item)
    (error : ErrorCondition) (request : Option Request) (response : Option Response)
    (held : List Mutex) : (inflight.invoke id error request response held).IsInvoked id := by
  rw [Inflight.invoke, hItem]
  dsimp only
  split
  · rename_i hInvoked
    exact ⟨item, hItem, hInvoked⟩
  · exact ⟨_, Function.update_self _ _ _, rfl⟩

theorem completesRequest_iff (hChecked : platform.vpack.Checked) (hKeyed : inflight.Keyed) :
    CompletesRequest platform inflight chunk ↔ Decodable platform inflight chunk := by
  cases hFind : inflight.findByID chunk.messageID.toNat with
  | none =>
    have hProcess : processChunk platform inflight chunk = (inflight, none) := by
      rw [processChunk, hFind]
    have hNothing : ∀ item buffer, ¬Assembles platform inflight chunk item buffer := by
      rintro item buffer ⟨hFound, _⟩
      rw [hFind] at hFound
      cases hFound
    refine iff_of_true ⟨?_, ?_⟩ fun item buffer h => absurd h (hNothing item buffer)
    · rw [hProcess]
      exact fun _ hStored hRemoved => absurd hStored hRemoved
    · exact fun item buffer h => absurd h (hNothing item buffer)
  | some item =>
    have hStored : chunk.messageID.toNat ∈ inflight.messageStore ∧
        inflight.items chunk.messageID.toNat = some item := by
      simpa [Inflight.findByID] using hFind
    have hID := hKeyed _ _ hStored.2
    obtain ⟨left, hCallback, hLeft, hProcess⟩ := processChunk_of_found platform hFind
    cases hBuffer : ((item.addChunk chunk).assemble platform).1 with
    | none =>
      rw [hBuffer] at hProcess
      have hNothing : ∀ other buffer, ¬Assembles platform inflight chunk other buffer := by
        rintro other buffer ⟨hFound, hAssembled⟩
        rw [hFind] at hFound
        cases hFound
        rw [hBuffer] at hAssembled
        cases hAssembled
      refine iff_of_true ⟨?_, ?_⟩ fun other buffer h => absurd h (hNothing other buffer)
      · rw [hProcess]
        exact fun _ hStored hRemoved => absurd hStored hRemoved
      · exact fun other buffer h => absurd h (hNothing other buffer)
    | some buffer =>
      rw [hBuffer] at hProcess
      have hOnly : ∀ other bytes, Assembles platform inflight chunk other bytes →
          other = item ∧ bytes = buffer := by
        rintro other bytes ⟨hFound, hAssembled⟩
        rw [hFind] at hFound
        cases hFound
        rw [hBuffer] at hAssembled
        cases hAssembled
        exact ⟨rfl, rfl⟩
      cases hResponse : createResponse platform item.messageID buffer with
      | ok response =>
        have hWellFormed := (returns_createResponse_iff _ _ hChecked).mp ⟨response, hResponse⟩
        simp only [hResponse] at hProcess
        refine iff_of_true ⟨fun _ _ _ => ?_, ?_⟩ ?_
        · have hTaken : (((inflight.setItem item.messageID left).removeByID
              item.messageID).takeRequest item.messageID).items item.messageID =
              some { left with request := none } := by
            simp [Inflight.takeRequest, Inflight.removeByID, Inflight.setItem]
          rw [hProcess, ← hID]
          exact isInvoked_invoke hTaken _ _ _ _
        · intro other bytes h hMalformed
          rw [(hOnly other bytes h).2] at hMalformed
          exact absurd hWellFormed hMalformed
        · intro other bytes h
          rw [(hOnly other bytes h).2]
          exact .inr (.inl hWellFormed)
      | error fault =>
        have hMalformed : ¬platform.vpack.WellFormed buffer := by
          intro hWellFormed
          obtain ⟨response, hOk⟩ :=
            (returns_createResponse_iff item.messageID buffer hChecked).mpr hWellFormed
          rw [hResponse] at hOk
          cases hOk
        have hAssert := createResponse_assertion_iff item.messageID buffer hChecked
        rw [hResponse] at hAssert
        simp only [hResponse] at hProcess
        have hItems : (processChunk platform inflight chunk).1.items chunk.messageID.toNat =
            some left := by
          rw [hProcess, ← hID]
          exact Function.update_self _ _ _
        constructor
        · intro h other bytes hAssembles
          rw [(hOnly other bytes hAssembles).1, (hOnly other bytes hAssembles).2]
          by_cases hFault : fault = .assertion
          · exact .inr (.inr (hAssert.mp (congrArg Except.error hFault)))
          · left
            obtain ⟨done, hDone, hInvoked⟩ := h.invoked
              (by rw [hProcess]; exact fun hSome => hFault (Option.some.inj hSome)) hStored.1
              (by rw [hProcess, ← hID]; simp [Inflight.removeByID])
            rw [hItems] at hDone
            cases hDone
            rw [← hCallback]
            exact hInvoked
        · intro hDecodable
          refine ⟨fun hFault _ _ => ⟨left, hItems, ?_⟩, ?_⟩
          · rw [hProcess] at hFault
            rw [hCallback]
            rcases hDecodable item buffer ⟨hFind, hBuffer⟩ with hInvoked | hWellFormed | hAsserts
            · exact hInvoked
            · exact absurd hWellFormed hMalformed
            · exact absurd (congrArg some (Except.error.inj (hAssert.mpr hAsserts))) hFault
          · rw [hProcess]
            exact fun _ _ _ _ call hCall => .inl hCall

theorem Inflight.Keyed.setItem (h : inflight.Keyed) {id : MessageID} (hID : item.messageID = id) :
    (inflight.setItem id item).Keyed := by
  intro other kept hKept
  simp only [Inflight.setItem, Function.update_apply] at hKept
  split at hKept
  · rename_i hOther
    cases hKept
    rw [hID, hOther]
  · exact h other kept hKept

theorem Inflight.Keyed.takeRequest (h : inflight.Keyed) (id : MessageID) :
    (inflight.takeRequest id).Keyed := by
  rw [Inflight.takeRequest]
  split
  · exact h
  · rename_i item hItem
    have hID : item.messageID = id := h id item hItem
    exact h.setItem hID

theorem Inflight.Keyed.invoke (h : inflight.Keyed) (id : MessageID) (error : ErrorCondition)
    (request : Option Request) (response : Option Response) (held : List Mutex) :
    (inflight.invoke id error request response held).Keyed := by
  rw [Inflight.invoke]
  split
  · exact h
  · rename_i item hItem
    have hID : item.messageID = id := h id item hItem
    split
    · exact h
    · exact h.setItem hID

theorem keyed_processChunk (platform : Platform) (chunk : ChunkHeader) (hKeyed : inflight.Keyed) :
    (processChunk platform inflight chunk).1.Keyed := by
  cases hFind : inflight.findByID chunk.messageID.toNat with
  | none =>
    rw [processChunk, hFind]
    exact hKeyed
  | some item =>
    obtain ⟨left, _, hLeft, hProcess⟩ := processChunk_of_found platform hFind
    have hSet := hKeyed.setItem hLeft
    rw [hProcess]
    split
    · exact hSet
    · split
      · exact hSet
      · have hRemoved : ((inflight.setItem item.messageID left).removeByID item.messageID).Keyed :=
          hSet
        exact (hRemoved.takeRequest item.messageID).invoke _ _ _ _ _

end OneChunk

theorem keyed_processChunks (platform : Platform) {inflight : Inflight}
    (hKeyed : inflight.Keyed) (chunks : List ChunkHeader) : (processChunks platform inflight chunks).1.Keyed := by
  induction chunks generalizing inflight with
  | nil => exact hKeyed
  | cons chunk chunks ih =>
    have hNext := keyed_processChunk platform chunk hKeyed
    rw [processChunks]
    split
    · rename_i hFirst
      rw [hFirst] at hNext
      exact hNext
    · rename_i hFirst
      rw [hFirst] at hNext
      exact ih hNext

/-- In every run over chunks, a chunk completes its request if and only if the
message it makes complete can be decoded. -/
theorem malformed_response {platform : Platform} (hChecked : platform.vpack.Checked)
    {start now : Inflight} (hKeyed : start.Keyed) {chunks : List ChunkHeader}
    (hRun : processChunks platform start chunks = (now, none)) (chunk : ChunkHeader) :
    CompletesRequest platform now chunk ↔ Decodable platform now chunk := by
  have hNow := keyed_processChunks platform hKeyed chunks
  rw [hRun] at hNow
  exact completesRequest_iff hChecked hNow

/-- A message without a response code. -/
def codelessMessage : List UInt8 := VelocyPack.short.build (.array [.int 1, .int 2])

theorem keyed_twoRequests : twoRequests.Keyed := by
  intro id item h
  simp only [twoRequests] at h
  split at h
  · cases h
    rfl
  · cases h

/-- The state of two requests one of which has been answered. -/
def oneRequest : Inflight := (processChunks shortPlatform twoRequests [serverChunk 2 3 okMessage]).1

theorem processChunks_twoRequests :
    processChunks shortPlatform twoRequests [serverChunk 2 3 okMessage] = (oneRequest, none) :=
  Prod.ext rfl rfl

theorem malformed_response_two_requests :
    CompletesRequest shortPlatform oneRequest (serverChunk 1 3 codelessMessage) ↔
      Decodable shortPlatform oneRequest (serverChunk 1 3 codelessMessage) :=
  malformed_response VelocyPack.short_checked keyed_twoRequests processChunks_twoRequests _

/-- Nobody hears of a response whose header has no response code. -/
theorem response_without_code :
    processChunks shortPlatform twoRequests [serverChunk 2 3 okMessage] = (oneRequest, none) ∧
      ¬CompletesRequest shortPlatform oneRequest (serverChunk 1 3 codelessMessage) := by
  refine ⟨processChunks_twoRequests, fun h => ?_⟩
  obtain ⟨item, hItem, hInvoked⟩ := h.invoked (by decide) (by decide) (by decide)
  cases hItem
  cases hInvoked

end Vst

end Fuerte

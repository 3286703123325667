import Fuerte.SliceCalls
import Fuerte.Vst.Receive

/-! # Validating and splitting

`validateAndCount` checks a body before it is handed out, `Request::slices` and
`Response::slices` cut it. All three go from value to value in the same way.
-/

namespace Fuerte

set_option autoImplicit false

open ByteMemory Vst

/-- `Validator` accepts with `isSubPart` the buffers that start with a value, and
`byteSize` is the length of this value. -/
structure VelocyPack.Validates (vpack : VelocyPack) (valid : List UInt8 → Prop) : Prop where
  nonempty : ∀ value, valid value → value ≠ []
  accepts : ∀ buffer, vpack.validate buffer = none ↔
    ∃ value rest, valid value ∧ buffer = value ++ rest
  byteSize : ∀ value rest, valid value → vpack.byteSize (value ++ rest) = value.length

/-- This many valid values, one behind the other. -/
def ConsistsOf (valid : List UInt8 → Prop) (count : Nat) (bytes : List UInt8) : Prop :=
  ∃ values : List (List UInt8), (∀ value ∈ values, valid value) ∧ values.flatten = bytes ∧
    values.length = count

namespace VelocyPack.Validates

variable {vpack : VelocyPack} {valid : List UInt8 → Prop}

theorem isValue (h : vpack.Validates valid) {value : List UInt8} (hValue : valid value) :
    vpack.IsValue value :=
  ⟨h.nonempty value hValue, fun rest => h.byteSize value rest hValue⟩

theorem append_inj (h : vpack.Validates valid) {value value' rest rest' : List UInt8}
    (hValue : valid value) (hValue' : valid value') (hSame : value ++ rest = value' ++ rest') :
    value = value' ∧ rest = rest' := by
  have hSize := h.byteSize value rest hValue
  rw [hSame, h.byteSize value' rest' hValue'] at hSize
  exact List.append_inj hSame hSize.symm

theorem consistsOf_append (h : vpack.Validates valid) {value rest : List UInt8}
    (hValue : valid value) (count : Nat) :
    ConsistsOf valid count (value ++ rest) ↔ ∃ less, count = less + 1 ∧ ConsistsOf valid less rest := by
  constructor
  · rintro ⟨values, hValues, hFlatten, rfl⟩
    cases values with
    | nil => exact absurd (List.append_eq_nil_iff.mp hFlatten.symm).1 (h.nonempty value hValue)
    | cons first values =>
      obtain ⟨hFirst, hRest⟩ := List.forall_mem_cons.mp hValues
      obtain ⟨-, hFlatten⟩ := h.append_inj hFirst hValue hFlatten
      exact ⟨values.length, rfl, values, hRest, hFlatten, rfl⟩
  · rintro ⟨_, rfl, values, hValues, rfl, rfl⟩
    exact ⟨value :: values, List.forall_mem_cons.mpr ⟨hValue, hValues⟩, rfl, rfl⟩

theorem consistsOf_nil (h : vpack.Validates valid) (count : Nat) :
    ConsistsOf valid count [] ↔ count = 0 := by
  constructor
  · rintro ⟨values, hValues, hFlatten, rfl⟩
    cases values with
    | nil => rfl
    | cons first values =>
      exact absurd (List.append_eq_nil_iff.mp hFlatten).1 (h.nonempty first (hValues first List.mem_cons_self))
  · rintro rfl
    exact ⟨[], fun _ hNot => absurd hNot List.not_mem_nil, rfl, rfl⟩

theorem not_consistsOf (h : vpack.Validates valid) {cursor : List UInt8} (hSome : cursor ≠ [])
    (hRejected : vpack.validate cursor ≠ none) (count : Nat) : ¬ ConsistsOf valid count cursor := by
  rintro ⟨values, hValues, hFlatten, rfl⟩
  cases values with
  | nil => exact hSome hFlatten.symm
  | cons first values =>
    exact hRejected ((h.accepts cursor).mpr
      ⟨first, values.flatten, hValues first List.mem_cons_self, hFlatten.symm⟩)

end VelocyPack.Validates

/-! ## `validateAndCount` -/

namespace Vst

def validationError (what : String) : Fault :=
  .runtimeError ("error during validation of incoming VPack (body)" ++ what)

/-- The loop of `validateAndCount`, with the parts of the buffer that validator
and `byteSize` are asked about. -/
def validateLoop (vpack : VelocyPack) :
    Nat → List UInt8 → Nat → Nat → List Access → Except Fault Nat × List Access
  | 0, _, _, _, loads => (.error .diverges, loads)
  | fuel + 1, cursor, position, numPayloads, loads =>
    if cursor.length = 0 then (.ok numPayloads, loads)
    else
      let loads := loads ++ [⟨position, cursor.length⟩]
      match vpack.validate cursor with
      | some what => (.error (validationError what), loads)
      | none =>
        let sliceSize := vpack.byteSize cursor
        let loads := loads ++ [⟨position, sliceSize⟩]
        if cursor.length < sliceSize then
          (.error (validationError "slice is longer than buffer"), loads)
        else
          validateLoop vpack fuel (cursor.drop sliceSize) (position + sliceSize) (numPayloads + 1) loads

/-- Each round takes at least one byte, as long as no value is empty. -/
def validateAndCount (vpack : VelocyPack) (buffer : List UInt8) :
    Except Fault Nat × List Access :=
  validateLoop vpack (buffer.length + 1) buffer 0 0 []

end Vst

section Validation

variable {vpack : VelocyPack} {valid : List UInt8 → Prop}

/-- The loop counts the values up to the end of the buffer, or throws, and stays
within the buffer. -/
theorem validateLoop_spec (h : vpack.Validates valid) (fuel : Nat) (cursor : List UInt8)
    (position numPayloads : Nat) (loads : List Access) (hFuel : cursor.length < fuel) :
    ∃ result added,
      validateLoop vpack fuel cursor position numPayloads loads = (result, loads ++ added) ∧
      (∀ a ∈ added, a.offset + a.width ≤ position + cursor.length) ∧
      ((∃ count, ConsistsOf valid count cursor ∧ result = .ok (numPayloads + count)) ∨
        (∀ count, ¬ ConsistsOf valid count cursor) ∧ ∃ what, result = .error (.runtimeError what)) := by
  induction fuel generalizing cursor position numPayloads loads with
  | zero => exact absurd hFuel (Nat.not_lt_zero _)
  | succ fuel ih =>
    rw [validateLoop]
    split
    · rename_i hEmpty
      obtain rfl := List.length_eq_zero_iff.mp hEmpty
      exact ⟨_, [], by rw [List.append_nil, Nat.add_zero], by simp, .inl ⟨0, (h.consistsOf_nil 0).mpr rfl, rfl⟩⟩
    · rename_i hLength
      dsimp only
      split
      · rename_i what hRejected
        have hNone := h.not_consistsOf (List.length_pos_iff.mp (Nat.pos_of_ne_zero hLength))
          (by rw [hRejected]; exact Option.some_ne_none what)
        refine ⟨_, _, rfl, ?_, .inr ⟨hNone, _, rfl⟩⟩
        intro a ha
        rw [List.mem_singleton.mp ha]
      · rename_i hAccepted
        obtain ⟨value, rest, hValue, rfl⟩ := (h.accepts cursor).mp hAccepted
        have hSize := h.byteSize value rest hValue
        have hPos := List.length_pos_iff.mpr (h.nonempty value hValue)
        rw [List.length_append] at hFuel
        rw [hSize, if_neg (by rw [List.length_append]; omega), List.drop_left]
        obtain ⟨result, added, hLoop, hLoads, hResult⟩ := ih rest (position + value.length)
          (numPayloads + 1) (loads ++ [⟨position, (value ++ rest).length⟩] ++ [⟨position, value.length⟩])
          (by omega)
        refine ⟨result, ⟨position, (value ++ rest).length⟩ :: ⟨position, value.length⟩ :: added,
          ?_, ?_, ?_⟩
        · rw [hLoop, List.append_assoc, List.append_assoc]
          rfl
        · intro a ha
          rw [List.length_append]
          rcases List.mem_cons.mp ha with rfl | ha
          · rw [List.length_append]
          · rcases List.mem_cons.mp ha with rfl | ha
            · dsimp only
              omega
            · have hWithin := hLoads a ha
              omega
        · rcases hResult with ⟨count, hCount, rfl⟩ | ⟨hNone, hThrows⟩
          · refine .inl ⟨count + 1, (h.consistsOf_append hValue _).mpr ⟨count, rfl, hCount⟩, ?_⟩
            rw [Nat.add_right_comm, Nat.add_assoc]
          · refine .inr ⟨?_, hThrows⟩
            intro count hCount
            obtain ⟨less, -, hRest⟩ := (h.consistsOf_append hValue _).mp hCount
            exact hNone less hRest

theorem ConsistsOf.unique (h : vpack.Validates valid) {bytes : List UInt8} {m n : Nat}
    (hm : ConsistsOf valid m bytes) (hn : ConsistsOf valid n bytes) : m = n := by
  obtain ⟨values, hValues, rfl, rfl⟩ := hm
  induction values generalizing n with
  | nil => exact ((h.consistsOf_nil n).mp hn).symm
  | cons value values ih =>
    obtain ⟨hValue, hRest⟩ := List.forall_mem_cons.mp hValues
    obtain ⟨less, rfl, hLess⟩ := (h.consistsOf_append hValue n).mp hn
    rw [List.length_cons, ih hRest hLess]

theorem validateAndCount_ok_iff (h : vpack.Validates valid) (buffer : List UInt8) (n : Nat) :
    (validateAndCount vpack buffer).1 = .ok n ↔ ConsistsOf valid n buffer := by
  obtain ⟨result, added, hLoop, -, hResult⟩ :=
    validateLoop_spec h (buffer.length + 1) buffer 0 0 [] (Nat.lt_succ_self _)
  rw [validateAndCount, hLoop]
  rcases hResult with ⟨count, hCount, rfl⟩ | ⟨hNone, what, rfl⟩
  · rw [Nat.zero_add]
    constructor
    · intro hSame
      cases hSame
      exact hCount
    · intro hn
      rw [hCount.unique h hn]
  · refine iff_of_false (fun hSame => ?_) (hNone n)
    cases hSame

theorem validateAndCount_throws (h : vpack.Validates valid) {buffer : List UInt8}
    (hNone : ∀ n, ¬ ConsistsOf valid n buffer) :
    ∃ what, (validateAndCount vpack buffer).1 = .error (.runtimeError what) := by
  obtain ⟨result, added, hLoop, -, hResult⟩ :=
    validateLoop_spec h (buffer.length + 1) buffer 0 0 [] (Nat.lt_succ_self _)
  rw [validateAndCount, hLoop]
  rcases hResult with ⟨count, hCount, -⟩ | ⟨-, hThrows⟩
  · exact absurd hCount (hNone count)
  · exact hThrows

theorem validateAndCount_loads (h : vpack.Validates valid) (buffer : List UInt8) :
    ∀ a ∈ (validateAndCount vpack buffer).2, a.offset + a.width ≤ buffer.length := by
  obtain ⟨result, added, hLoop, hLoads, -⟩ :=
    validateLoop_spec h (buffer.length + 1) buffer 0 0 [] (Nat.lt_succ_self _)
  rw [validateAndCount, hLoop]
  intro a ha
  have hWithin := hLoads a ha
  rwa [Nat.zero_add] at hWithin

end Validation

/-! ## `slices` -/

/-- The slices lie one behind the other and make up the buffer. -/
inductive TiledBy : List UInt8 → List VSlice → Prop
  | nil : TiledBy [] []
  | cons {buffer : List UInt8} {size : Nat} {slices : List VSlice} : 0 < size →
      size ≤ buffer.length → TiledBy (buffer.drop size) slices →
      TiledBy buffer (⟨buffer, size⟩ :: slices)

theorem splitSlices_tiledBy {vpack : VelocyPack} (fuel : Nat) (cursor : List UInt8)
    (found result : List VSlice) (hFuel : cursor.length ≤ fuel)
    (h : splitSlices vpack fuel cursor found = (result, none)) :
    ∃ added, result = found ++ added ∧ TiledBy cursor added := by
  induction fuel generalizing cursor found with
  | zero =>
    obtain rfl : cursor = [] := List.length_eq_zero_iff.mp (Nat.le_zero.mp hFuel)
    cases h
    exact ⟨[], (List.append_nil _).symm, .nil⟩
  | succ fuel ih =>
    rw [splitSlices] at h
    split at h
    · rename_i hEmpty
      obtain rfl : cursor = [] := List.length_eq_zero_iff.mp hEmpty
      cases h
      exact ⟨[], (List.append_nil _).symm, .nil⟩
    · dsimp only at h
      split at h
      · cases h
      · rename_i hWithin
        split at h
        · cases h
        · rename_i hSize
          obtain ⟨added, hResult, hTiles⟩ := ih (cursor.drop (vpack.byteSize cursor)) _
            (by rw [List.length_drop]; omega) h
          refine ⟨⟨cursor, vpack.byteSize cursor⟩ :: added, ?_,
            .cons (Nat.pos_of_ne_zero hSize) (Nat.le_of_not_lt hWithin) hTiles⟩
          rw [hResult, List.append_assoc, List.singleton_append]

section Splitting

variable {vpack : VelocyPack} {valid : List UInt8 → Prop}

theorem splitSlices_consistsOf (h : vpack.Validates valid) {bytes : List UInt8} {n : Nat}
    (hn : ConsistsOf valid n bytes) :
    ∃ slices, splitSlices vpack bytes.length bytes [] = (slices, none) ∧ TiledBy bytes slices ∧
      slices.length = n := by
  obtain ⟨values, hValues, rfl, rfl⟩ := hn
  obtain ⟨slices, hSplit, hBytes, -⟩ := splitSlices_values values.flatten.length values []
    (Nat.le_refl _) fun value hValue => h.isValue (hValues value hValue)
  rw [List.nil_append] at hSplit
  obtain ⟨added, hAdded, hTiles⟩ := splitSlices_tiledBy _ _ _ _ (Nat.le_refl _) hSplit
  rw [List.nil_append] at hAdded
  subst hAdded
  refine ⟨slices, hSplit, hTiles, ?_⟩
  rw [← hBytes, List.length_map]

/-- The requests that calls lead to, whether they return or throw. Only
`addVPack(VBuffer const&)` throws when it has begun to change the request. -/
inductive Request.Handled (vpack : VelocyPack) (buffers : BufferLibrary) : Request → Prop
  | ofHeader (header : MessageHeader) : Handled vpack buffers (Request.ofHeader header)
  | call {request result : Request} (c : PayloadCall) : Handled vpack buffers request →
      request.call vpack buffers c = .ok result → Handled vpack buffers result
  | slices {request : Request} : Handled vpack buffers request →
      Handled vpack buffers (request.slices vpack).2
  | thrown {request left : Request} : Handled vpack buffers request → left.isVpack = some true →
      left.modified = true → Handled vpack buffers left

/-- What is not cut anew has been cut before. -/
structure Request.Coherent (vpack : VelocyPack) (request : Request) : Prop where
  empty : request.isVpack = none → request.payload = [] ∧ request.sliceCache = []
  kept : request.modified = false →
    splitSlices vpack request.payload.length request.payload [] = (request.sliceCache, none)

end Splitting

namespace Request

variable {vpack : VelocyPack} {buffers : BufferLibrary} {request result : Request}

theorem Coherent.of_marked (hKind : request.isVpack ≠ none) (hModified : request.modified = true) :
    request.Coherent vpack := by
  refine ⟨fun hNone => absurd hNone hKind, fun hKept => ?_⟩
  rw [hModified] at hKept
  cases hKept

theorem addSlices_marks (sliceSize fuel : Nat) (cursor : List UInt8)
    (h : addSlices vpack buffers sliceSize fuel cursor request = .ok result) :
    result.isVpack = request.isVpack ∧ result.modified = request.modified := by
  induction fuel generalizing cursor request with
  | zero =>
    cases h
    exact ⟨rfl, rfl⟩
  | succ fuel ih =>
    rw [addSlices] at h
    split at h
    · cases h
      exact ⟨rfl, rfl⟩
    · dsimp only at h
      split at h
      · cases h
      · split at h
        · cases h
        · have hRest := ih _ h
          exact hRest

theorem addVPackBuffer_marks {buffer : List UInt8}
    (h : request.addVPackBuffer vpack buffers buffer = .ok result) :
    result.isVpack = some true ∧ result.modified = true := by
  rw [Request.addVPackBuffer] at h
  split at h
  · cases h
  · obtain ⟨header, -, h⟩ := exists_of_bind_ok h
    dsimp only at h
    split at h
    · cases h
      exact ⟨rfl, rfl⟩
    · split at h
      · cases h
      · exact addSlices_marks _ _ _ h

theorem call_marks (c : PayloadCall) (h : request.call vpack buffers c = .ok result) :
    result = request ∨ result.isVpack ≠ none ∧ result.modified = true := by
  cases c with
  | addVPackSlice memory =>
    simp only [Request.call, Request.addVPackSlice] at h
    split at h
    · cases h
    · obtain ⟨header, -, h⟩ := exists_of_bind_ok h
      cases h
      exact .inr ⟨Option.some_ne_none _, rfl⟩
  | addVPackBuffer buffer =>
    obtain ⟨hKind, hModified⟩ := addVPackBuffer_marks h
    exact .inr ⟨by rw [hKind]; exact Option.some_ne_none _, hModified⟩
  | addVPackMoved buffer =>
    simp only [Request.call, Request.addVPackMoved] at h
    split at h
    · cases h
    · obtain ⟨header, -, h⟩ := exists_of_bind_ok h
      cases h
      exact .inr ⟨Option.some_ne_none _, rfl⟩
  | addBinary data =>
    simp only [Request.call, addBinary] at h
    split at h
    · cases h
      exact .inl rfl
    · cases h
      exact .inr ⟨Option.some_ne_none _, rfl⟩
  | addBinarySingle buffer =>
    simp only [Request.call, addBinarySingle] at h
    split at h
    · cases h
      exact .inl rfl
    · cases h
      exact .inr ⟨Option.some_ne_none _, rfl⟩

theorem Coherent.slices (h : request.Coherent vpack) : (request.slices vpack).2.Coherent vpack := by
  rw [Request.slices]
  split
  · rename_i hCut
    rw [Bool.and_eq_true] at hCut
    have hKind : request.isVpack ≠ none := Option.isSome_iff_ne_none.mp hCut.1
    split
    · exact .of_marked hKind hCut.2
    · rename_i hSplit
      exact ⟨fun hNone => absurd hNone hKind, fun _ => hSplit⟩
  · exact h

theorem Handled.coherent (h : request.Handled vpack buffers) : request.Coherent vpack := by
  induction h with
  | ofHeader header => exact ⟨fun _ => ⟨rfl, rfl⟩, fun hKept => by cases hKept⟩
  | call c _ hCall ih =>
    rcases call_marks c hCall with rfl | ⟨hKind, hModified⟩
    · exact ih
    · exact .of_marked hKind hModified
  | slices _ ih => exact ih.slices
  | thrown _ hKind hModified _ =>
    exact .of_marked (by rw [hKind]; exact Option.some_ne_none _) hModified

theorem Coherent.slices_of_cut (h : request.Coherent vpack) {slices : List VSlice}
    (hCut : splitSlices vpack request.payload.length request.payload [] = (slices, none)) :
    (request.slices vpack).1 = .ok slices := by
  rw [Request.slices]
  split
  · rw [hCut]
  · rename_i hKept
    have hSame : splitSlices vpack request.payload.length request.payload [] =
        (request.sliceCache, none) := by
      rw [Bool.and_eq_true, not_and_or, Bool.not_eq_true, Bool.not_eq_true,
        Option.isSome_eq_false_iff, Option.isNone_iff_eq_none] at hKept
      rcases hKept with hNone | hKept
      · rw [(h.empty hNone).1, (h.empty hNone).2]
        rfl
      · exact h.kept hKept
    rw [hCut] at hSame
    cases hSame
    rfl

end Request

/-! ## All three -/

/-- What is accepted is cut into as many slices as have been counted. -/
structure SlicesAgree (vpack : VelocyPack) (buffers : BufferLibrary) (bytes : List UInt8) (n : Nat) :
    Prop where
  request : ∀ request : Request, request.Handled vpack buffers → request.payload = bytes →
    ∃ slices, (request.slices vpack).1 = .ok slices ∧ TiledBy bytes slices ∧ slices.length = n
  response : ∀ (response : Response) (buffer : List UInt8) (payloadOffset calls : Nat),
    payloadOffset ≤ buffer.length → buffer.drop payloadOffset = bytes →
    ∀ result ∈ Response.sliceCalls vpack calls (response.setPayload buffer payloadOffset),
      ∃ slices, result = .ok slices ∧ TiledBy bytes slices ∧ slices.length = n

theorem slicesAgree {vpack : VelocyPack} {valid : List UInt8 → Prop} (h : vpack.Validates valid)
    (buffers : BufferLibrary) {bytes : List UInt8} {n : Nat} (hn : ConsistsOf valid n bytes) :
    SlicesAgree vpack buffers bytes n := by
  obtain ⟨slices, hCut, hTiles, hCount⟩ := splitSlices_consistsOf h hn
  constructor
  · rintro request hHandled rfl
    exact ⟨slices, hHandled.coherent.slices_of_cut hCut, hTiles, hCount⟩
  · rintro response buffer payloadOffset calls hOffset rfl result hResult
    have hCutTo : (response.setPayload buffer payloadOffset).CutTo vpack slices :=
      ⟨hOffset, hCut, .inl rfl⟩
    rw [hCutTo.sliceCalls] at hResult
    exact ⟨slices, List.eq_of_mem_replicate hResult, hTiles, hCount⟩

/-- The validator counts the values that the slices are. -/
theorem validation_agrees {vpack : VelocyPack} {valid : List UInt8 → Prop}
    (h : vpack.Validates valid) (buffers : BufferLibrary) (bytes : List UInt8) :
    (∀ n, (validateAndCount vpack bytes).1 = .ok n ↔ ConsistsOf valid n bytes) ∧
    ((∀ n, ¬ ConsistsOf valid n bytes) →
      ∃ what, (validateAndCount vpack bytes).1 = .error (.runtimeError what)) ∧
    (∀ a ∈ (validateAndCount vpack bytes).2, a.offset + a.width ≤ bytes.length) ∧
    ∀ n, (validateAndCount vpack bytes).1 = .ok n → SlicesAgree vpack buffers bytes n :=
  ⟨validateAndCount_ok_iff h bytes, validateAndCount_throws h, validateAndCount_loads h bytes,
    fun n hn => slicesAgree h buffers ((validateAndCount_ok_iff h bytes n).mp hn)⟩

/-- The numbers from zero to nine. -/
def SmallInt (value : List UInt8) : Prop := ∃ b : UInt8, 0x30 ≤ b ∧ b ≤ 0x39 ∧ value = [b]

/-- Short values, of which the validator takes small integers only. -/
def VelocyPack.smallInts : VelocyPack where
  __ := VelocyPack.short
  validate
    | [] => some "ValidatorInvalidLength"
    | b :: _ => if 0x30 ≤ b ∧ b ≤ 0x39 then none else some "ValidatorInvalidType"

theorem VelocyPack.smallInts_validates : VelocyPack.smallInts.Validates SmallInt := by
  refine ⟨?_, ?_, ?_⟩
  · rintro _ ⟨b, -, -, rfl⟩
    exact List.cons_ne_nil _ _
  · intro buffer
    cases buffer with
    | nil =>
      refine iff_of_false (Option.some_ne_none _) ?_
      rintro ⟨_, rest, ⟨b, -, -, rfl⟩, hNil⟩
      cases hNil
    | cons b rest =>
      simp only [VelocyPack.smallInts, ite_eq_left_iff, reduceCtorEq, imp_false, Decidable.not_not]
      constructor
      · rintro ⟨hLow, hHigh⟩
        exact ⟨[b], rest, ⟨b, hLow, hHigh, rfl⟩, rfl⟩
      · rintro ⟨_, rest', ⟨c, hLow, hHigh, rfl⟩, hSame⟩
        cases hSame
        exact ⟨hLow, hHigh⟩
  · rintro _ rest ⟨b, hLow, hHigh, rfl⟩
    rw [UInt8.le_iff_toNat_le] at hLow hHigh
    have hHead : ShortValue.byteAt ([b] ++ rest) 0 = b.toNat := rfl
    change ShortValue.byteSize ([b] ++ rest) = 1
    rw [ShortValue.byteSize, hHead]
    change 48 ≤ b.toNat at hLow
    change b.toNat ≤ 57 at hHigh
    rw [if_neg (by omega), if_neg (by omega), if_neg (by omega), if_neg (by omega)]

theorem validation_agrees_two_values :
    SlicesAgree .smallInts .zeroed [0x31, 0x32] 2 :=
  (validation_agrees VelocyPack.smallInts_validates .zeroed [0x31, 0x32]).2.2.2 2 rfl

end Fuerte

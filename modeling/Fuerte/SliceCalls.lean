import Fuerte.RequestPayload
import Fuerte.ResponseBody

/-! # Asking a response for its slices again

The slices of a response are stored before they are checked, and what is stored
is handed out from then on. An exception is thrown once.
-/

namespace Fuerte

set_option autoImplicit false

/-- No value is empty. -/
def VelocyPack.Positive (vpack : VelocyPack) : Prop :=
  ∀ memory : List UInt8, memory ≠ [] → 0 < vpack.byteSize memory

theorem splitSlices_fault {vpack : VelocyPack} (hPositive : vpack.Positive) {fault : Fault}
    (fuel : Nat) (cursor : List UInt8) (found result : List VSlice)
    (h : splitSlices vpack fuel cursor found = (result, some fault)) :
    result ≠ [] ∧ fault = .logicError "invalid buffer" := by
  induction fuel generalizing cursor found with
  | zero => cases h
  | succ fuel ih =>
    rw [splitSlices] at h
    split at h
    · cases h
    · rename_i hLength
      dsimp only at h
      split at h
      · cases h
        exact ⟨List.append_ne_nil_of_right_ne_nil _ (List.cons_ne_nil _ _), rfl⟩
      · split at h
        · rename_i hZero
          have hPos := hPositive cursor (List.length_pos_iff.mp (Nat.pos_of_ne_zero hLength))
          omega
        · exact ih _ _ h

namespace Response

variable {vpack : VelocyPack} {response : Response}

/-- The part of the buffer that is cut. -/
def body (response : Response) : List UInt8 := response.payload.drop response.payloadOffset

/-- What several calls of `slices` end with, one after the other. -/
def sliceCalls (vpack : VelocyPack) : Nat → Response → List (Except Fault (List VSlice))
  | 0, _ => []
  | count + 1, response =>
    (response.slices vpack).1 :: sliceCalls vpack count (response.slices vpack).2

/-- No call returns a slice that ends behind the body, and all of them throw if
the body does not consist of values. -/
structure DetectsMalformed (vpack : VelocyPack) (count : Nat) (response : Response) : Prop where
  within : ∀ slices, .ok slices ∈ sliceCalls vpack count response → ∀ s ∈ slices, s.Within
  throws : ¬ Tiled vpack response.body → ∀ result ∈ sliceCalls vpack count response,
    result = .error (.logicError "invalid buffer")

/-- Nothing is stored, or what cutting the body yields. -/
structure CutTo (vpack : VelocyPack) (response : Response) (slices : List VSlice) : Prop where
  offset : response.payloadOffset ≤ response.payload.length
  cut : splitSlices vpack response.body.length response.body [] = (slices, none)
  cache : response.sliceCache = [] ∨ response.sliceCache = slices

theorem CutTo.slices {slices : List VSlice} (h : CutTo vpack response slices) :
    (response.slices vpack).1 = .ok slices ∧ CutTo vpack (response.slices vpack).2 slices := by
  have hCut := h.cut
  rw [body] at hCut
  rw [Response.slices]
  split
  · rw [if_neg (Nat.not_lt.mpr h.offset)]
    dsimp only
    rw [hCut]
    exact ⟨rfl, h.offset, h.cut, .inr rfl⟩
  · rename_i hStored
    rw [h.cache.resolve_left hStored]
    exact ⟨rfl, h⟩

theorem CutTo.sliceCalls {slices : List VSlice} (count : Nat) (h : CutTo vpack response slices) :
    sliceCalls vpack count response = List.replicate count (.ok slices) := by
  induction count generalizing response with
  | zero => rfl
  | succ count ih =>
    obtain ⟨hResult, hLeft⟩ := h.slices
    rw [Response.sliceCalls, hResult, ih hLeft, List.replicate_succ]

/-- The first call throws, and the second returns what it has stored. -/
theorem slices_of_not_tiled (hPositive : vpack.Positive)
    (hOffset : response.payloadOffset ≤ response.payload.length) (hFresh : response.sliceCache = [])
    (h : ¬ Tiled vpack response.body) :
    ∃ found, (response.slices vpack).1 = .error (.logicError "invalid buffer") ∧
      ((response.slices vpack).2.slices vpack).1 = .ok found := by
  cases hCut : splitSlices vpack response.body.length response.body [] with
  | mk found fault =>
    cases fault with
    | none => exact absurd (Tiled.of_cut _ _ _ _ (Nat.le_refl _) hCut) h
    | some fault =>
      obtain ⟨hFound, rfl⟩ := splitSlices_fault hPositive _ _ _ _ hCut
      have hSlices : response.slices vpack =
          (.error (.logicError "invalid buffer"), { response with sliceCache := found }) := by
        rw [body] at hCut
        rw [Response.slices, if_pos hFresh, if_neg (Nat.not_lt.mpr hOffset)]
        dsimp only
        rw [hCut]
      rw [hSlices]
      exact ⟨found, rfl, congrArg Prod.fst (if_neg hFound)⟩

theorem cutTo_of_tiled (hOffset : response.payloadOffset ≤ response.payload.length)
    (hFresh : response.sliceCache = []) (h : Tiled vpack response.body) :
    ∃ slices, CutTo vpack response slices ∧ ∀ s ∈ slices, s.Within := by
  obtain ⟨slices, hCut⟩ := h.cut response.body.length (Nat.le_refl _) []
  obtain ⟨added, hAdded, hWithin, -⟩ := splitSlices_ok vpack _ _ _ _ (Nat.le_refl _) hCut
  rw [List.nil_append] at hAdded
  exact ⟨slices, ⟨hOffset, hCut, .inl hFresh⟩, hAdded ▸ hWithin⟩

theorem detectsMalformed_iff (hPositive : vpack.Positive)
    (hOffset : response.payloadOffset ≤ response.payload.length) (hFresh : response.sliceCache = [])
    (count : Nat) :
    DetectsMalformed vpack count response ↔ count ≤ 1 ∨ Tiled vpack response.body := by
  by_cases hTiled : Tiled vpack response.body
  · obtain ⟨slices, hCut, hWithin⟩ := cutTo_of_tiled hOffset hFresh hTiled
    refine iff_of_true ⟨?_, fun hNot => absurd hTiled hNot⟩ (.inr hTiled)
    intro found hFound
    rw [hCut.sliceCalls] at hFound
    rw [Except.ok.inj (List.eq_of_mem_replicate hFound)]
    exact hWithin
  · obtain ⟨found, hFirst, hSecond⟩ := slices_of_not_tiled hPositive hOffset hFresh hTiled
    rw [or_iff_left hTiled]
    constructor
    · intro h
      by_contra hMany
      obtain ⟨more, rfl⟩ : ∃ more, count = more + 2 := ⟨count - 2, by omega⟩
      have hThrows := h.throws hTiled _ (List.mem_cons_of_mem _ List.mem_cons_self)
      rw [hSecond] at hThrows
      cases hThrows
    · intro hCount
      have hAll : ∀ result ∈ sliceCalls vpack count response,
          result = .error (.logicError "invalid buffer") := by
        intro result hResult
        rcases Nat.le_one_iff_eq_zero_or_eq_one.mp hCount with rfl | rfl
        · cases hResult
        · rw [List.mem_singleton.mp hResult, hFirst]
      refine ⟨fun slices hSlices => ?_, fun _ => hAll⟩
      cases hAll _ hSlices

end Response

/-- A malformed body is reported once. -/
theorem malformed_detection {vpack : VelocyPack} (hPositive : vpack.Positive) (response : Response)
    (buffer : List UInt8) (payloadOffset : Nat) (hOffset : payloadOffset ≤ buffer.length)
    (count : Nat) :
    (response.setPayload buffer payloadOffset).DetectsMalformed vpack count ↔
      count ≤ 1 ∨ Tiled vpack (buffer.drop payloadOffset) :=
  Response.detectsMalformed_iff hPositive hOffset rfl count

/-- Short values none of which declares itself empty. -/
def VelocyPack.sized : VelocyPack :=
  { VelocyPack.short with byteSize := fun memory => max 1 (ShortValue.byteSize memory) }

theorem VelocyPack.sized_positive : VelocyPack.sized.Positive := by
  intro memory _
  exact Nat.lt_of_lt_of_le Nat.zero_lt_one (Nat.le_max_left _ _)

/-- A one, and an integer whose byte is missing. -/
def truncatedBody : List UInt8 := [0x31, 0x28]

def emptyResponse : Response where
  header := {}
  payloadOffset := 0

theorem malformed_detection_one_call :
    (emptyResponse.setPayload truncatedBody 0).DetectsMalformed .sized 1 ↔
      1 ≤ 1 ∨ Tiled .sized truncatedBody :=
  malformed_detection VelocyPack.sized_positive emptyResponse truncatedBody 0 (Nat.zero_le _) 1

/-- The second call returns the slice that the first one has thrown for. -/
theorem second_call_returns :
    Response.sliceCalls .sized 2 (emptyResponse.setPayload truncatedBody 0) =
        [.error (.logicError "invalid buffer"), .ok [⟨[0x31, 0x28], 1⟩, ⟨[0x28], 2⟩]] ∧
      ¬ (emptyResponse.setPayload truncatedBody 0).DetectsMalformed .sized 2 := by
  have hCalls : Response.sliceCalls .sized 2 (emptyResponse.setPayload truncatedBody 0) =
      [.error (.logicError "invalid buffer"), .ok [⟨[0x31, 0x28], 1⟩, ⟨[0x28], 2⟩]] := rfl
  refine ⟨hCalls, fun h => ?_⟩
  have hWithin := h.within [⟨[0x31, 0x28], 1⟩, ⟨[0x28], 2⟩]
    (by rw [hCalls]; exact List.mem_cons_of_mem _ List.mem_cons_self)
  exact absurd (hWithin ⟨[0x28], 2⟩ (List.mem_cons_of_mem _ List.mem_cons_self)) (by decide)

end Fuerte

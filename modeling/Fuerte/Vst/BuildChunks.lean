import Fuerte.Vst.ChunkHeader

/-! # Splitting a message into chunks

Every part of a message is cut on its own, so no chunk spans two parts.
-/

namespace Fuerte.Vst

set_option autoImplicit false

open ByteMemory

/-- The values `buildChunks` computes before its loops. -/
structure SplitSettings where
  messageID : UInt64
  messageLength : UInt64
  maxDataLength : Nat

/-- The chunk one round of the inner loop pushes. -/
def partChunk (settings : SplitSettings) (part : VSlice) (chunkIndex : UInt32)
    (offset dataLength : Nat) : ChunkHeader where
  chunkX := chunkIndex <<< 1
  messageID := settings.messageID
  messageLength := settings.messageLength
  data := ⟨Pointer.ofList part.memory fun _ => 0, offset, dataLength⟩

/-- The loop over one part. Every round takes at least one byte, as long as
`maxDataLength` is positive; `fuel` bounds the rounds. -/
def partLoop (settings : SplitSettings) (part : VSlice) :
    Nat → Nat → Nat → UInt32 → List ChunkHeader → UInt32 × List ChunkHeader
  | 0, _, _, chunkIndex, result => (chunkIndex, result)
  | fuel + 1, remaining, offset, chunkIndex, result =>
    if 0 < remaining then
      let dataLength := if settings.maxDataLength < remaining then settings.maxDataLength else remaining
      partLoop settings part fuel (remaining - dataLength) (offset + dataLength) (chunkIndex + 1)
        (result ++ [partChunk settings part chunkIndex offset dataLength])
    else (chunkIndex, result)

def partsLoop (settings : SplitSettings) :
    List VSlice → UInt32 → List ChunkHeader → List ChunkHeader
  | [], _, result => result
  | part :: parts, chunkIndex, result =>
    let (chunkIndex, result) := partLoop settings part part.byteSize part.byteSize 0 chunkIndex result
    partsLoop settings parts chunkIndex result

/-- The final step: `result[0]` announces the number of chunks. -/
def setFirstChunkX : List ChunkHeader → List ChunkHeader
  | [] => []
  | first :: rest =>
    let size := (first :: rest).length
    { first with
      chunkX := if size = 1 then 3 else UInt32.ofNat ((size <<< 1) + 1) } :: rest

def buildChunks (messageID : UInt64) (maxChunkSize : Nat) (messageParts : List VSlice) :
    List ChunkHeader :=
  let messageLength := UInt64.ofNat (messageParts.map VSlice.byteSize).sum
  let settings := ⟨messageID, messageLength, maxChunkSize - maxChunkHeaderSize⟩
  setFirstChunkX (partsLoop settings messageParts 0 [])

/-! ## What the loops produce -/

/-- The chunk carries bytes of one part and the values common to all chunks. -/
structure PieceOf (settings : SplitSettings) (part : VSlice) (chunk : ChunkHeader) : Prop where
  messageID : chunk.messageID = settings.messageID
  messageLength : chunk.messageLength = settings.messageLength
  size_pos : 0 < chunk.data.size
  size_le : chunk.data.size ≤ settings.maxDataLength
  base : chunk.data.base = Pointer.ofList part.memory fun _ => 0
  within : chunk.data.offset + chunk.data.size ≤ part.byteSize

/-- The chunks carry consecutive indices, the first of them `k`. -/
def Indexed : Nat → List ChunkHeader → Prop
  | _, [] => True
  | k, chunk :: chunks => chunk.chunkX = UInt32.ofNat k <<< 1 ∧ Indexed (k + 1) chunks

theorem indexed_append (k : Nat) (front back : List ChunkHeader) :
    Indexed k (front ++ back) ↔ Indexed k front ∧ Indexed (k + front.length) back := by
  induction front generalizing k with
  | nil => simp [Indexed]
  | cons chunk front ih =>
    simp only [List.cons_append, Indexed, ih, List.length_cons, and_assoc]
    rw [show k + 1 + front.length = k + (front.length + 1) by omega]

def dataBytes (chunks : List ChunkHeader) : List UInt8 := chunks.flatMap fun c => c.data.bytes

@[simp] theorem dataBytes_append (front back : List ChunkHeader) :
    dataBytes (front ++ back) = dataBytes front ++ dataBytes back := List.flatMap_append

/-- One part becomes pieces that are numbered on from `k` and carry what was
left of the part. -/
theorem partLoop_spec (settings : SplitSettings) (hMax : 0 < settings.maxDataLength)
    (part : VSlice) (hPart : part.Within) (fuel remaining offset k : Nat)
    (result : List ChunkHeader) (hFuel : remaining ≤ fuel)
    (hOffset : offset + remaining = part.byteSize) :
    ∃ pieces, partLoop settings part fuel remaining offset (UInt32.ofNat k) result =
        (UInt32.ofNat (k + pieces.length), result ++ pieces) ∧
      (∀ c ∈ pieces, PieceOf settings part c) ∧ Indexed k pieces ∧
      dataBytes pieces = part.bytes.drop offset := by
  have hLength := hPart.length_bytes
  induction fuel generalizing remaining offset k result with
  | zero =>
    refine ⟨[], by simp [partLoop], by simp, trivial, ?_⟩
    rw [List.drop_eq_nil_of_le (by omega)]
    rfl
  | succ fuel ih =>
    rw [partLoop]
    split
    · rename_i hRemaining
      generalize hData : (if settings.maxDataLength < remaining then settings.maxDataLength
        else remaining) = dataLength
      have hBounds : 0 < dataLength ∧ dataLength ≤ remaining ∧
          dataLength ≤ settings.maxDataLength := by
        split at hData <;> omega
      dsimp only
      obtain ⟨pieces, hLoop, hPieces, hIndexed, hBytes⟩ :=
        ih (remaining - dataLength) (offset + dataLength) (k + 1)
          (result ++ [partChunk settings part (UInt32.ofNat k) offset dataLength])
          (by omega) (by omega)
      rw [UInt32.ofNat_add] at hLoop
      refine ⟨partChunk settings part (UInt32.ofNat k) offset dataLength :: pieces, hLoop.trans ?_, ?_,
        ⟨rfl, hIndexed⟩, ?_⟩
      · rw [List.append_assoc, List.singleton_append, List.length_cons,
          show k + 1 + pieces.length = k + (pieces.length + 1) by omega]
      · intro c hc
        rcases List.mem_cons.mp hc with rfl | hc
        · exact ⟨rfl, rfl, hBounds.1, hBounds.2.2, rfl, by simp only [partChunk]; omega⟩
        · exact hPieces c hc
      · have hPiece : ((Pointer.ofList part.memory fun _ => 0).add offset).read dataLength =
            (part.bytes.drop offset).take dataLength := by
          have hMemory : part.byteSize ≤ part.memory.length := hPart
          rw [Pointer.read_add_ofList _ _ _ _ (by omega), VSlice.bytes, List.drop_take,
            List.take_take, Nat.min_eq_left (by omega)]
        calc
          dataBytes (partChunk settings part (UInt32.ofNat k) offset dataLength :: pieces)
              = ((Pointer.ofList part.memory fun _ => 0).add offset).read dataLength ++
                  dataBytes pieces := rfl
          _ = (part.bytes.drop offset).take dataLength ++
                (part.bytes.drop offset).drop dataLength := by
              rw [hPiece, hBytes, List.drop_drop]
          _ = part.bytes.drop offset := List.take_append_drop _ _
    · refine ⟨[], by simp, by simp, trivial, ?_⟩
      rw [List.drop_eq_nil_of_le (by omega)]
      rfl

/-- All parts together become pieces numbered on from `k` that carry the whole
message. -/
theorem partsLoop_spec (settings : SplitSettings) (hMax : 0 < settings.maxDataLength)
    (parts : List VSlice) (hParts : ∀ part ∈ parts, part.Within) (k : Nat)
    (result : List ChunkHeader) :
    ∃ pieces, partsLoop settings parts (UInt32.ofNat k) result = result ++ pieces ∧
      (∀ c ∈ pieces, ∃ part ∈ parts, PieceOf settings part c) ∧ Indexed k pieces ∧
      dataBytes pieces = parts.flatMap VSlice.bytes := by
  induction parts generalizing k result with
  | nil => exact ⟨[], by simp [partsLoop], by simp, trivial, rfl⟩
  | cons part parts ih =>
    obtain ⟨front, hFront, hFrontPieces, hFrontIndexed, hFrontBytes⟩ :=
      partLoop_spec settings hMax part (hParts part List.mem_cons_self) part.byteSize part.byteSize 0
        k result (Nat.le_refl _) (Nat.zero_add _)
    obtain ⟨back, hBack, hBackPieces, hBackIndexed, hBackBytes⟩ :=
      ih (fun p hp => hParts p (List.mem_cons_of_mem part hp)) (k + front.length) (result ++ front)
    refine ⟨front ++ back, ?_, ?_, (indexed_append _ _ _).mpr ⟨hFrontIndexed, hBackIndexed⟩, ?_⟩
    · rw [partsLoop, hFront]
      dsimp only
      rw [hBack, List.append_assoc]
    · intro c hc
      rcases List.mem_append.mp hc with hc | hc
      · exact ⟨part, List.mem_cons_self, hFrontPieces c hc⟩
      · obtain ⟨p, hp, hPiece⟩ := hBackPieces c hc
        exact ⟨p, List.mem_cons_of_mem part hp, hPiece⟩
    · rw [dataBytes_append, hFrontBytes, hBackBytes, List.drop_zero, List.flatMap_cons]

/-- The first chunk announces how many there are, the others carry their place. -/
def Numbered (chunks : List ChunkHeader) : Prop :=
  ∀ k (h : k < chunks.length),
    chunks[k].chunkX.toNat = if k = 0 then 2 * chunks.length + 1 else 2 * k

theorem Indexed.chunkX_toNat {k : Nat} {chunks : List ChunkHeader} (h : Indexed k chunks)
    (hBound : k + chunks.length ≤ 2 ^ 31) (j : Nat) (hj : j < chunks.length) :
    chunks[j].chunkX.toNat = 2 * (k + j) := by
  induction chunks generalizing k j with
  | nil => exact absurd hj (Nat.not_lt_zero _)
  | cons chunk chunks ih =>
    rw [List.length_cons] at hBound hj
    cases j with
    | zero =>
      rw [List.getElem_cons_zero, h.1, UInt32.toNat_shiftLeft, UInt32.toNat_ofNat']
      simp only [UInt32.toNat_one, Nat.shiftLeft_eq, Nat.reduceMod, Nat.reducePow]
      omega
    | succ j =>
      rw [List.getElem_cons_succ, ih h.2 (by omega) j (by omega)]
      omega

theorem numbered_setFirstChunkX {chunks : List ChunkHeader} (h : Indexed 0 chunks)
    (hBound : chunks.length < 2 ^ 31) : Numbered (setFirstChunkX chunks) := by
  cases chunks with
  | nil => exact fun k hk => absurd hk (Nat.not_lt_zero _)
  | cons first rest =>
    intro k hk
    cases k with
    | zero =>
      simp only [setFirstChunkX, List.getElem_cons_zero, List.length_cons, if_true] at hBound ⊢
      split
      · rename_i hSingle
        rw [hSingle]
        rfl
      · rw [UInt32.toNat_ofNat', Nat.shiftLeft_eq]
        omega
    | succ k =>
      have hTail := h.2.chunkX_toNat (by rw [List.length_cons] at hBound; omega) k
        (by simpa [setFirstChunkX] using hk)
      simp only [setFirstChunkX, List.getElem_cons_succ, hTail, Nat.succ_ne_zero, if_false]
      omega

@[simp] theorem length_setFirstChunkX (chunks : List ChunkHeader) :
    (setFirstChunkX chunks).length = chunks.length := by
  cases chunks <;> rfl

theorem dataBytes_setFirstChunkX (chunks : List ChunkHeader) :
    dataBytes (setFirstChunkX chunks) = dataBytes chunks := by
  cases chunks <;> rfl

theorem forall_setFirstChunkX {settings : SplitSettings} {parts : List VSlice}
    {chunks : List ChunkHeader}
    (h : ∀ c ∈ chunks, ∃ part ∈ parts, PieceOf settings part c) :
    ∀ c ∈ setFirstChunkX chunks, ∃ part ∈ parts, PieceOf settings part c := by
  cases chunks with
  | nil => exact h
  | cons first rest =>
    intro c hc
    rcases List.mem_cons.mp hc with rfl | hc
    · obtain ⟨part, hPart, hPiece⟩ := h first List.mem_cons_self
      exact ⟨part, hPart, ⟨hPiece.messageID, hPiece.messageLength, hPiece.size_pos,
        hPiece.size_le, hPiece.base, hPiece.within⟩⟩
    · exact h c (List.mem_cons_of_mem _ hc)

/-- What `buildChunks` makes of parts that lie within their buffers. -/
structure SplitOf (messageID : UInt64) (maxChunkSize : Nat) (parts : List VSlice)
    (chunks : List ChunkHeader) : Prop where
  pieces : ∀ c ∈ chunks, ∃ part ∈ parts, PieceOf ⟨messageID,
    UInt64.ofNat (parts.map VSlice.byteSize).sum, maxChunkSize - maxChunkHeaderSize⟩ part c
  data : dataBytes chunks = parts.flatMap VSlice.bytes
  numbered : chunks.length < 2 ^ 31 → Numbered chunks

theorem buildChunks_spec (messageID : UInt64) (maxChunkSize : Nat)
    (hMax : maxChunkHeaderSize < maxChunkSize) (parts : List VSlice)
    (hParts : ∀ part ∈ parts, part.Within) :
    SplitOf messageID maxChunkSize parts (buildChunks messageID maxChunkSize parts) := by
  obtain ⟨pieces, hLoop, hPieces, hIndexed, hBytes⟩ :=
    partsLoop_spec ⟨messageID, UInt64.ofNat (parts.map VSlice.byteSize).sum,
      maxChunkSize - maxChunkHeaderSize⟩ (by simp only; omega) parts hParts 0 []
  have hChunks : buildChunks messageID maxChunkSize parts = setFirstChunkX pieces :=
    congrArg setFirstChunkX hLoop
  rw [hChunks]
  refine ⟨forall_setFirstChunkX hPieces, (dataBytes_setFirstChunkX pieces).trans hBytes, ?_⟩
  rw [length_setFirstChunkX]
  exact numbered_setFirstChunkX hIndexed

end Fuerte.Vst

import Fuerte.Vst.RoundTrip

/-! # The codec of the chunk header

Writer, reader and `chunkHeaderLength` choose between the short and the long
header each on their own. They agree as long as no first chunk announces that
there are no chunks.
-/

namespace Fuerte.Vst

set_option autoImplicit false

open ByteMemory

def chunkHeaderLength (vstVersion : VSTVersion) (isFirst isSingle : Bool) : Nat :=
  match vstVersion with
  | .vst1_0 => if isFirst && !isSingle then maxChunkHeaderSize else minChunkHeaderSize
  | .vst1_1 => maxChunkHeaderSize

/-- The header that a reader returns. -/
def headerRead (version : VSTVersion) (bufferBegin : Pointer) : ChunkHeader :=
  (readChunkHeader version bufferBegin []).1

theorem headerRead_eq (version : VSTVersion) (p : Pointer) :
    headerRead version p = headerAt version p := by
  rw [headerRead, readChunkHeader_eq]

/-! ## Write, then read -/

/-- What was written is what is read. -/
structure ReadsBack (version : VSTVersion) (chunk read : ChunkHeader) : Prop where
  messageID : read.messageID = chunk.messageID
  chunkX : read.chunkX = chunk.chunkX
  data : read.data.bytes = chunk.data.bytes
  chunkLength : read.chunkLength.toNat = (chunk.writeHeader version).length + chunk.data.size
  messageLength : (chunk.writeHeader version).length = maxChunkHeaderSize →
    read.messageLength = chunk.messageLength

theorem messageLengthField_encode {version : VSTVersion} (behind : Pointer) {chunk : ChunkHeader}
    (hLong : headerLength version chunk.chunkX = maxChunkHeaderSize) :
    word64 ((Pointer.ofList (chunk.encode version) behind).add 16) = chunk.messageLength := by
  rw [ChunkHeader.encode, ChunkHeader.writeHeader_eq, if_pos hLong]
  have hSkip := Pointer.ofList_append_add
    (bytes32 (UInt32.ofNat (headerLength version chunk.chunkX + chunk.data.size)) ++
      (bytes32 chunk.chunkX ++ bytes64 chunk.messageID))
  simp only [List.length_append, length_bytes32, length_bytes64, Nat.reduceAdd,
    List.append_assoc] at hSkip ⊢
  rw [hSkip, word64_bytes64]

theorem readsBack (version : VSTVersion) (behind : Pointer) (chunk : ChunkHeader)
    (hFits : (chunk.writeHeader version).length + chunk.data.size < 2 ^ 32) :
    ReadsBack version chunk (headerRead version (Pointer.ofList (chunk.encode version) behind)) := by
  have hEncoded : (chunk.encode version).length < 2 ^ 32 := by
    rwa [ChunkHeader.encode, List.length_append, ConstBuffer.length_bytes]
  have hWire := wire_headerAt_encode version behind chunk [] hEncoded
  have hLength := lengthField_encode version behind chunk [] hEncoded
  have hChunkX := chunkXField_encode version behind chunk []
  rw [List.append_nil] at hWire hLength hChunkX
  rw [ChunkHeader.wire, ChunkHeader.wire, WireChunk.mk.injEq] at hWire
  rw [headerRead_eq]
  refine ⟨hWire.2.1, hWire.1, hWire.2.2, ?_, ?_⟩
  · rw [ChunkHeader.length_writeHeader, ← ChunkHeader.length_encode]
    exact hLength
  · intro hLong
    rw [ChunkHeader.length_writeHeader] at hLong
    simp only [headerAt, hChunkX, if_pos hLong]
    exact messageLengthField_encode behind hLong

/-! ## Read, then write -/

theorem writeHeader_headerAt {version : VSTVersion} {p : Pointer}
    (hHeld : headerLength version (chunkXField p) ≤ (lengthField p).toNat) :
    (headerAt version p).writeHeader version = p.read (headerLength version (chunkXField p)) := by
  have hLength : UInt32.ofNat (headerLength version (chunkXField p) +
      contentLength (lengthField p) (headerLength version (chunkXField p))) = lengthField p := by
    rw [contentLength_of_le hHeld, Nat.add_sub_cancel' hHeld, UInt32.ofNat_toNat]
  have hSize : bytes32 (lengthField p) = p.read 4 := bytes32_word32 p
  have hChunkX : bytes32 (chunkXField p) = (p.add 4).read 4 := bytes32_word32 _
  rw [ChunkHeader.writeHeader_eq]
  dsimp only [headerAt]
  rw [hLength, hSize, hChunkX, bytes64_word64]
  rcases headerLength_cases version (chunkXField p) with hShort | hLong
  · have hNot : headerLength version (chunkXField p) ≠ maxChunkHeaderSize := by
      rw [hShort]
      decide
    simp only [hNot, if_false, List.append_nil]
    rw [hShort, show 16 = 4 + (4 + 8) by rfl, Pointer.read_add, Pointer.read_add, Pointer.add_add]
  · have hIs : headerLength version (chunkXField p) = maxChunkHeaderSize := hLong
    simp only [hIs, if_true, bytes64_word64]
    rw [maxChunkHeaderSize, show 24 = 4 + (4 + (8 + 8)) by rfl, Pointer.read_add, Pointer.read_add, Pointer.read_add,
      Pointer.add_add, Pointer.add_add]

/-- A complete chunk is canonical: its header is the only one that reads as it does. -/
theorem writeHeader_headerRead {version : VSTVersion} {behind : Pointer} {buffer : List UInt8}
    (hComplete : Complete (Pointer.ofList buffer behind) buffer.length)
    (hHeld : (headerRead version (Pointer.ofList buffer behind)).data.offset ≤
      (lengthField (Pointer.ofList buffer behind)).toNat) :
    (headerRead version (Pointer.ofList buffer behind)).writeHeader version =
      buffer.take (headerRead version (Pointer.ofList buffer behind)).data.offset := by
  rw [headerRead_eq] at hHeld ⊢
  rw [writeHeader_headerAt hHeld]
  have hRead := Pointer.read_add_ofList buffer behind 0
    (headerLength version (chunkXField (Pointer.ofList buffer behind)))
    (by have hLength := hComplete.2.2; simp only [headerAt] at hHeld; omega)
  rwa [Pointer.add_zero, List.drop_zero] at hRead

/-! ## The length of the header -/

/-- A first chunk that announces zero chunks. -/
def AnnouncesNothing (chunk : ChunkHeader) : Prop :=
  chunk.isFirst = true ∧ chunk.numberOfChunks = 0

instance (chunk : ChunkHeader) : Decidable (AnnouncesNothing chunk) :=
  inferInstanceAs (Decidable (_ ∧ _))

theorem chunkHeaderLength_eq (version : VSTVersion) {chunk : ChunkHeader}
    (h : ¬ AnnouncesNothing chunk) :
    chunkHeaderLength version chunk.isFirst (chunk.numberOfChunks == 1) =
      headerLength version chunk.chunkX := by
  cases version with
  | vst1_1 => rfl
  | vst1_0 =>
    cases hFirst : chunk.isFirst with
    | false =>
      have hBit : ¬ chunk.chunkX &&& 1 = 1 := by
        rw [ChunkHeader.isFirst, beq_eq_false_iff_ne] at hFirst
        exact hFirst
      rw [headerLength, if_neg fun hBoth => hBit hBoth.1]
      rfl
    | true =>
      have hBit : chunk.chunkX &&& 1 = 1 := by rwa [ChunkHeader.isFirst, beq_iff_eq] at hFirst
      have hNumber : chunk.numberOfChunks = chunk.chunkX >>> 1 := by
        rw [ChunkHeader.numberOfChunks, if_pos (beq_iff_eq.mpr hBit)]
      have hSome : chunk.chunkX >>> 1 ≠ 0 := fun hZero => h ⟨hFirst, hNumber.trans hZero⟩
      have hMany : chunk.chunkX >>> 1 > 1 ↔ ¬ chunk.chunkX >>> 1 = 1 := by
        rw [gt_iff_lt, UInt32.lt_iff_toNat_lt, ← UInt32.toNat_inj, UInt32.toNat_one]
        rw [ne_eq, ← UInt32.toNat_inj, UInt32.toNat_zero] at hSome
        omega
      simp only [chunkHeaderLength, headerLength, hNumber, hBit, hMany, true_and, Bool.true_and,
        Bool.not_eq_true', beq_eq_false_iff_ne, ne_eq]

/-- Writer, reader and `chunkHeaderLength` use the same length. -/
structure SameLength (version : VSTVersion) (chunk : ChunkHeader) : Prop where
  writer : (chunk.writeHeader version).length =
    chunkHeaderLength version chunk.isFirst (chunk.numberOfChunks == 1)
  reader : ∀ p : Pointer, chunkXField p = chunk.chunkX →
    (headerRead version p).data.offset =
      chunkHeaderLength version chunk.isFirst (chunk.numberOfChunks == 1)

theorem sameLength (version : VSTVersion) {chunk : ChunkHeader} (h : ¬ AnnouncesNothing chunk) :
    SameLength version chunk := by
  constructor
  · rw [chunkHeaderLength_eq version h, ChunkHeader.length_writeHeader]
  · intro p hChunkX
    rw [chunkHeaderLength_eq version h, headerRead_eq, headerAt, hChunkX]

/-- Writer and reader are inverse to each other, and all three use one length. -/
theorem chunk_header_codec (version : VSTVersion) (behind : Pointer) :
    (∀ chunk : ChunkHeader, (chunk.writeHeader version).length + chunk.data.size < 2 ^ 32 →
      ReadsBack version chunk
        (headerRead version (Pointer.ofList (chunk.encode version) behind))) ∧
    (∀ buffer : List UInt8, Complete (Pointer.ofList buffer behind) buffer.length →
      (headerRead version (Pointer.ofList buffer behind)).data.offset ≤
        (lengthField (Pointer.ofList buffer behind)).toNat →
      (headerRead version (Pointer.ofList buffer behind)).writeHeader version =
        buffer.take (headerRead version (Pointer.ofList buffer behind)).data.offset) ∧
    ∀ chunk : ChunkHeader, ¬ AnnouncesNothing chunk → SameLength version chunk :=
  ⟨readsBack version behind, fun _ => writeHeader_headerRead, fun _ => sameLength version⟩

/-- The first of three chunks. -/
def firstOfThree : ChunkHeader where
  chunkX := 7
  messageID := 5
  messageLength := 9
  data := .ofList [1, 2, 3]

theorem chunk_header_codec_first_of_three :
    ReadsBack .vst1_0 firstOfThree
        (headerRead .vst1_0 (Pointer.ofList (firstOfThree.encode .vst1_0) fun _ => 0)) ∧
      SameLength .vst1_0 firstOfThree := by
  obtain ⟨hReadsBack, -, hLength⟩ := chunk_header_codec .vst1_0 fun _ => 0
  exact ⟨hReadsBack firstOfThree (by decide), hLength firstOfThree (by decide)⟩

end Fuerte.Vst

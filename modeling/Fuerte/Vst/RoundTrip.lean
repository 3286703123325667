import Fuerte.Vst.Reassembly
import Fuerte.Vst.FramingSafety

/-! # Wire round trip

What `prepareForNetwork` sends is a stream of chunks that delimit themselves, so
the parse loop finds them however the stream is cut into reads, and the item
that collects them assembles the message that was split.
-/

namespace Fuerte.Vst

set_option autoImplicit false

open ByteMemory

/-! ## One chunk on the wire -/

/-- What both ends agree on about a chunk. -/
structure WireChunk where
  chunkX : UInt32
  messageID : UInt64
  data : List UInt8
  deriving DecidableEq, Repr

def ChunkHeader.wire (chunk : ChunkHeader) : WireChunk :=
  ⟨chunk.chunkX, chunk.messageID, chunk.data.bytes⟩

theorem ChunkHeader.writeHeader_eq (version : VSTVersion) (chunk : ChunkHeader) :
    chunk.writeHeader version =
      bytes32 (UInt32.ofNat (headerLength version chunk.chunkX + chunk.data.size)) ++
        (bytes32 chunk.chunkX ++ (bytes64 chunk.messageID ++
          if headerLength version chunk.chunkX = maxChunkHeaderSize
          then bytes64 chunk.messageLength else [])) := by
  cases version with
  | vst1_0 =>
    have hTest : (chunk.isFirst && decide (1 < chunk.numberOfChunks)) = true ↔
        chunk.chunkX &&& 1 = 1 ∧ chunk.chunkX >>> 1 > 1 := by
      rw [Bool.and_eq_true, decide_eq_true_iff, isFirst, beq_iff_eq]
      refine and_congr_right fun hFirst => ?_
      rw [numberOfChunks, if_pos (beq_iff_eq.mpr hFirst)]
    by_cases h : chunk.chunkX &&& 1 = 1 ∧ chunk.chunkX >>> 1 > 1
    · have hLength : headerLength .vst1_0 chunk.chunkX = maxChunkHeaderSize := if_pos h
      simp only [writeHeader, writeHeaderToVST1_0, hTest.mpr h, hLength, if_true, List.append_assoc]
    · have hLength : headerLength .vst1_0 chunk.chunkX = minChunkHeaderSize := if_neg h
      rw [hLength, if_neg (by decide)]
      simp only [writeHeader, writeHeaderToVST1_0, hTest, h, if_false, List.append_assoc]
  | vst1_1 =>
    simp only [writeHeader, writeHeaderToVST1_1, headerLength, if_true, List.append_assoc]

theorem ChunkHeader.length_writeHeader (version : VSTVersion) (chunk : ChunkHeader) :
    (chunk.writeHeader version).length = headerLength version chunk.chunkX := by
  rw [writeHeader_eq]
  simp only [List.length_append, length_bytes32, length_bytes64]
  rcases headerLength_cases version chunk.chunkX with h | h
  · rw [h, if_neg (by decide), List.length_nil]
  · rw [h, if_pos (by decide), length_bytes64]

theorem ChunkHeader.length_encode (version : VSTVersion) (chunk : ChunkHeader) :
    (chunk.encode version).length = headerLength version chunk.chunkX + chunk.data.size := by
  rw [encode, List.length_append, length_writeHeader, ConstBuffer.length_bytes]

section OneChunk

variable (version : VSTVersion) (behind : Pointer) (chunk : ChunkHeader)

theorem lengthField_encode (rest : List UInt8)
    (hFits : (chunk.encode version).length < 2 ^ 32) :
    (lengthField (Pointer.ofList (chunk.encode version ++ rest) behind)).toNat =
      (chunk.encode version).length := by
  rw [lengthField, ChunkHeader.length_encode, ChunkHeader.encode, ChunkHeader.writeHeader_eq,
    List.append_assoc, List.append_assoc, word32_bytes32, UInt32.toNat_ofNat']
  rw [ChunkHeader.length_encode] at hFits
  exact Nat.mod_eq_of_lt hFits

theorem chunkXField_encode (rest : List UInt8) :
    chunkXField (Pointer.ofList (chunk.encode version ++ rest) behind) = chunk.chunkX := by
  rw [chunkXField, ChunkHeader.encode, ChunkHeader.writeHeader_eq]
  simp only [List.append_assoc]
  have hSkip := Pointer.ofList_append_add
    (bytes32 (UInt32.ofNat (headerLength version chunk.chunkX + chunk.data.size)))
  rw [length_bytes32] at hSkip
  rw [hSkip, word32_bytes32]

theorem messageIDField_encode (rest : List UInt8) :
    word64 ((Pointer.ofList (chunk.encode version ++ rest) behind).add 8) = chunk.messageID := by
  rw [ChunkHeader.encode, ChunkHeader.writeHeader_eq]
  simp only [List.append_assoc]
  rw [← List.append_assoc (bytes32 _) (bytes32 chunk.chunkX)]
  have hSkip := Pointer.ofList_append_add
    (bytes32 (UInt32.ofNat (headerLength version chunk.chunkX + chunk.data.size)) ++
      bytes32 chunk.chunkX)
  rw [List.length_append, length_bytes32, length_bytes32] at hSkip
  rw [hSkip, word64_bytes64]

theorem complete_encode (rest : List UInt8)
    (hFits : (chunk.encode version).length < 2 ^ 32) :
    Complete (Pointer.ofList (chunk.encode version ++ rest) behind)
      (chunk.encode version ++ rest).length := by
  have hLength := ChunkHeader.length_encode version chunk
  have hHeader := headerLength_cases version chunk.chunkX
  rw [Complete, lengthField_encode version behind chunk rest hFits, List.length_append]
  omega

theorem wire_headerAt_encode (rest : List UInt8)
    (hFits : (chunk.encode version).length < 2 ^ 32) :
    (headerAt version (Pointer.ofList (chunk.encode version ++ rest) behind)).wire = chunk.wire := by
  have hField := lengthField_encode version behind chunk rest hFits
  rw [ChunkHeader.length_encode] at hField
  have hContent : contentLength (lengthField (Pointer.ofList (chunk.encode version ++ rest) behind))
      (headerLength version chunk.chunkX) = chunk.data.size := by
    rw [contentLength_of_le (by omega), hField]
    omega
  have hData : ((Pointer.ofList (chunk.encode version ++ rest) behind).add
      (headerLength version chunk.chunkX)).read chunk.data.size = chunk.data.bytes := by
    have hSkip := Pointer.ofList_append_add (chunk.writeHeader version)
    have hRead := Pointer.read_ofList_append chunk.data.bytes rest behind
    rw [ChunkHeader.length_writeHeader] at hSkip
    rw [ConstBuffer.length_bytes] at hRead
    rw [ChunkHeader.encode, List.append_assoc, hSkip, hRead]
  rw [ChunkHeader.wire, ChunkHeader.wire, WireChunk.mk.injEq]
  refine ⟨chunkXField_encode version behind chunk rest,
    messageIDField_encode version behind chunk rest, ?_⟩
  simp only [headerAt, ConstBuffer.bytes, chunkXField_encode, hContent]
  exact hData

/-- A front part of a chunk is not taken for a chunk. -/
theorem not_complete_front (front : List UInt8) (hFront : front <+: chunk.encode version)
    (hProper : front ≠ chunk.encode version) (hFits : (chunk.encode version).length < 2 ^ 32) :
    ¬ Complete (Pointer.ofList front behind) front.length := by
  rintro ⟨hFour, _, hLength⟩
  have hShort : front.length < (chunk.encode version).length :=
    hFront.length_le.lt_of_ne fun h => hProper (hFront.eq_of_length h)
  obtain ⟨back, hBack⟩ := hFront
  have hField := lengthField_encode version behind chunk [] hFits
  have hSame : (Pointer.ofList front behind).read 4 =
      (Pointer.ofList (chunk.encode version ++ []) behind).read 4 := by
    have hLeft := Pointer.read_add_ofList front behind 0 4 (by omega)
    have hRight := Pointer.read_add_ofList (front ++ back) behind 0 4
      (by rw [List.length_append]; omega)
    rw [Pointer.add_zero, List.drop_zero] at hLeft hRight
    rw [List.append_nil, ← hBack, hLeft, hRight, List.take_append_of_le_length hFour]
  rw [lengthField, word32, ← hSame, ← word32, ← lengthField] at hField
  omega

/-- A written chunk is found, whatever follows it, once it is there as a whole. -/
theorem delimits_encode (hFits : (chunk.encode version).length < 2 ^ 32) :
    Framing.Delimits (nextChunk version behind) (ChunkHeader.encode version)
      (fun c iteration => iteration.chunk.wire = c.wire) chunk := by
  refine ⟨?_, ?_, ?_⟩
  · intro hEmpty
    have hLength := ChunkHeader.length_encode version chunk
    have := headerLength_cases version chunk.chunkX
    rw [hEmpty, List.length_nil] at hLength
    omega
  · intro rest
    refine ⟨iterationAt version behind (chunk.encode version ++ rest), ?_,
      wire_headerAt_encode version behind chunk rest hFits⟩
    rw [nextChunk_of_complete (complete_encode version behind chunk rest hFits),
      lengthField_encode version behind chunk rest hFits, List.drop_left]
  · intro front hFront hProper
    exact nextChunk_of_not_complete
      (not_complete_front version behind chunk front hFront hProper hFits)

end OneChunk

/-! ## The whole message -/

/-- The header and data buffers, one after the other, hold the encoded chunks. -/
theorem RequestItem.bytes_writeLoop (version : VSTVersion) (chunks : List ChunkHeader)
    (requestChunkBuffer : List UInt8) (requestBuffers : List ConstBuffer) :
    (writeLoop version chunks requestChunkBuffer requestBuffers).2.flatMap ConstBuffer.bytes =
      requestBuffers.flatMap ConstBuffer.bytes ++ chunks.flatMap (ChunkHeader.encode version) := by
  induction chunks generalizing requestChunkBuffer requestBuffers with
  | nil => simp [writeLoop]
  | cons chunk chunks ih =>
    have hHeader : (ConstBuffer.mk
        (Pointer.ofList (requestChunkBuffer ++ chunk.writeHeader version) fun _ => 0)
        requestChunkBuffer.length
        ((requestChunkBuffer ++ chunk.writeHeader version).length - requestChunkBuffer.length)).bytes =
        chunk.writeHeader version := by
      rw [ConstBuffer.bytes, Pointer.ofList_append_add, List.length_append,
        Nat.add_sub_cancel_left, Pointer.read_ofList]
    rw [writeLoop, ih, List.flatMap_append, List.flatMap_cons, List.append_assoc]
    simp only [List.flatMap_cons, List.flatMap_nil, hHeader, ChunkHeader.encode,
      List.append_nil, List.append_assoc]

/-- The chunks that `prepareForNetwork` splits the message of an item into. -/
def RequestItem.messageChunks (vpack : VelocyPack) (item : RequestItem) :
    Except Fault (List ChunkHeader) :=
  match item.request with
  | none => .error .nullPointer
  | some request => do
    let (_, parts, _) ← messageParts vpack request
    return buildChunks (UInt64.ofNat item.messageID) defaultMaxChunkSize parts

/-- The parts of a message lie within their buffers: the header that has been
built, and then the payload. -/
theorem RequestItem.messageParts_ok {vpack : VelocyPack} (hSizes : vpack.SizesBuilt)
    {request left : Request} (hCache : request.CacheValid vpack) {msgHdr : List UInt8}
    {parts : List VSlice} (h : messageParts vpack request = .ok (msgHdr, parts, left)) :
    msgHdr ≠ [] ∧ (∀ part ∈ parts, part.Within) ∧
      parts.flatMap VSlice.bytes = msgHdr ++ request.payload := by
  obtain ⟨value, _, h⟩ := exists_of_bind_ok h
  obtain ⟨slices, hSlices, h⟩ := exists_of_bind_ok h
  cases h
  have hSplit : (Request.slices vpack { request with header := withDefaults request.header }) =
      (.ok slices, (Request.slices vpack { request with header := withDefaults request.header }).2) :=
    Prod.ext hSlices rfl
  have hDefaults : Request.CacheValid vpack { request with header := withDefaults request.header } :=
    hCache
  obtain ⟨hWithin, hBytes, _, _⟩ := Request.slices_ok hDefaults hSplit
  refine ⟨hSizes.build_nonempty value, ?_, ?_⟩
  · intro part hPart
    rcases List.mem_cons.mp hPart with rfl | hPart
    · exact (hSizes.byteSize_build value).le
    · exact hWithin part hPart
  · rw [List.flatMap_cons, hBytes, VSlice.bytes, List.take_of_length_le
      (hSizes.byteSize_build value).ge]

/-- `prepareForNetwork` on an item that has nothing to send yet. -/
theorem RequestItem.prepareForNetwork_ok {vpack : VelocyPack} (hSizes : vpack.SizesBuilt)
    (version : VSTVersion) {item : RequestItem} {request : Request}
    (hRequest : item.request = some request) (hCache : request.CacheValid vpack)
    (hBuffers : item.requestBuffers = []) {chunks : List ChunkHeader}
    (hChunks : item.messageChunks vpack = .ok chunks) :
    ∃ sent, item.prepareForNetwork vpack version = .ok sent ∧
      sent.requestBuffers.flatMap ConstBuffer.bytes =
        chunks.flatMap (ChunkHeader.encode version) ∧
      (∀ c ∈ chunks, c.data.size + 24 < 2 ^ 32) ∧
      (chunks.length < 2 ^ 31 → Numbered chunks) ∧ chunks ≠ [] ∧
      dataBytes chunks = sent.msgHdr ++ request.payload := by
  simp only [messageChunks, hRequest] at hChunks
  obtain ⟨⟨msgHdr, parts, left⟩, hParts, hChunks⟩ := exists_of_bind_ok hChunks
  cases hChunks
  obtain ⟨hHeader, hWithin, hBytes⟩ := messageParts_ok hSizes hCache hParts
  have hSplit := buildChunks_spec (UInt64.ofNat item.messageID) defaultMaxChunkSize (by decide) parts
    hWithin
  refine ⟨_, by simp only [prepareForNetwork, hRequest, hParts]; rfl, ?_, ?_, hSplit.numbered, ?_, ?_⟩
  · rw [bytes_writeLoop, hBuffers, List.flatMap_nil, List.nil_append]
  · intro c hc
    obtain ⟨part, _, hPiece⟩ := hSplit.pieces c hc
    have hSize := hPiece.size_le
    simp only [defaultMaxChunkSize, maxChunkHeaderSize] at hSize
    omega
  · intro hEmpty
    have hData := hSplit.data
    rw [hEmpty, hBytes] at hData
    exact hHeader (List.append_eq_nil_iff.mp hData.symm).1
  · rw [hSplit.data, hBytes]

/-- Reads that make up a stream of encoded chunks yield these chunks and nothing
else. -/
theorem receive_encoded (version : VSTVersion) (behind : Pointer) (chunks : List ChunkHeader)
    (hSizes : ∀ c ∈ chunks, c.data.size + 24 < 2 ^ 32) (reads : List (List UInt8))
    (hStream : reads.flatten = chunks.flatMap (ChunkHeader.encode version)) :
    (receive version behind reads).1.map (fun i => i.chunk.wire) = chunks.map ChunkHeader.wire ∧
      (receive version behind reads).2 = [] := by
  have hFits : ∀ c ∈ chunks, (c.encode version).length < 2 ^ 32 := by
    intro c hc
    have hSize := hSizes c hc
    have hHeader := headerLength_cases version c.chunkX
    rw [ChunkHeader.length_encode]
    omega
  have hCode := fun c hc => delimits_encode version behind c (hFits c hc)
  have hPending : Framing.Pending (ChunkHeader.encode version) [] chunks := by
    refine ⟨List.nil_prefix, fun c rest hChunks => ?_⟩
    rw [List.length_nil]
    exact List.length_pos_iff.mpr (hCode c (hChunks ▸ List.mem_cons_self)).nonempty
  obtain ⟨hFound, hLeft⟩ := Framing.feed_stream (shrinking_nextChunk version behind) reads chunks
    hCode [] hPending hStream
  refine ⟨?_, hLeft⟩
  rw [← List.forall₂_eq_eq_eq, List.forall₂_map_left_iff, List.forall₂_map_right_iff]
  exact hFound.flip

/-- Numbering and content of chunks are visible on the wire. -/
theorem Numbered.of_wire {chunks received : List ChunkHeader} (h : Numbered chunks)
    (hWire : received.map ChunkHeader.wire = chunks.map ChunkHeader.wire) :
    Numbered received ∧ dataBytes received = dataBytes chunks ∧
      received.length = chunks.length := by
  have hLength : received.length = chunks.length := by
    simpa using congrArg List.length hWire
  refine ⟨?_, ?_, hLength⟩
  · intro k hk
    have hChunk : k < chunks.length := hLength ▸ hk
    have hSame : (received.map ChunkHeader.wire)[k]? = (chunks.map ChunkHeader.wire)[k]? :=
      congrArg (fun l => l[k]?) hWire
    rw [List.getElem?_map, List.getElem?_map, List.getElem?_eq_getElem hk,
      List.getElem?_eq_getElem hChunk] at hSame
    have hChunkX : received[k].chunkX = chunks[k].chunkX :=
      congrArg WireChunk.chunkX (Option.some.inj hSame)
    rw [hChunkX, h k hChunk]
    simp only [hLength]
  · have hData (l : List ChunkHeader) :
        dataBytes l = (l.map ChunkHeader.wire).flatMap WireChunk.data := by
      rw [List.flatMap_map]
      rfl
    rw [hData, hData, hWire]

end Fuerte.Vst

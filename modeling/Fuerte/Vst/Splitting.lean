import Fuerte.Vst.Connection.ChunkLimit
import Fuerte.Vst.MessageHeader
import Mathlib.Algebra.Order.BigOperators.Group.List
import Mathlib.Algebra.Order.Group.Nat

/-! # Splitting a message

`buildChunks` empties the vector it is given, fills it with the pieces of the
parts, and numbers them.
-/

namespace Fuerte.Vst

set_option autoImplicit false

open ByteMemory

/-- `buildChunks` on the caller's vector. Where no part has a byte, there is no
first chunk to rewrite. -/
def buildChunksInto (assertions : Bool) (messageID : UInt64) (maxChunkSize : UInt32)
    (messageParts : List VSlice) (result : List ChunkHeader) : Except Fault (List ChunkHeader) := do
  assertThat assertions (maxChunkHeaderSize < maxChunkSize.toNat)
  let messageLength := messageParts.foldl (fun sum part => sum + UInt64.ofNat part.byteSize) 0
  -- `result.clear()`
  let result := result.drop result.length
  let maxDataLength := maxChunkSize - UInt32.ofNat maxChunkHeaderSize
  let result := partsLoop ⟨messageID, messageLength, maxDataLength.toNat⟩ messageParts 0 result
  if result = [] then throw .outOfBounds
  else return setFirstChunkX result

def pieceCount (maxDataLength : Nat) (parts : List VSlice) : Nat :=
  (parts.map fun part => (part.byteSize + maxDataLength - 1) / maxDataLength).sum

section Lengths

variable {maxDataLength : Nat}

theorem length_buildChunks (messageID : UInt64) {maxChunkSize : Nat}
    (hMax : maxChunkHeaderSize < maxChunkSize) (parts : List VSlice) :
    (buildChunks messageID maxChunkSize parts).length =
      pieceCount (maxChunkSize - maxChunkHeaderSize) parts := by
  obtain ⟨groups, hLoop, hCuts⟩ := partsLoop_cutInto ⟨messageID,
    UInt64.ofNat (parts.map VSlice.byteSize).sum, maxChunkSize - maxChunkHeaderSize⟩
    (by simp only; omega) parts 0 []
  have hChunks : buildChunks messageID maxChunkSize parts = setFirstChunkX groups.flatten :=
    congrArg setFirstChunkX hLoop
  rw [hChunks, length_setFirstChunkX]
  exact length_flatten_groups hCuts

theorem byteSize_le_pieces (hMax : 0 < maxDataLength) (size : Nat) :
    size ≤ (size + maxDataLength - 1) / maxDataLength * maxDataLength := by
  have hBelow := Nat.lt_div_mul_add hMax (a := size + maxDataLength - 1)
  omega

theorem sum_byteSize_le (hMax : 0 < maxDataLength) (parts : List VSlice) :
    (parts.map VSlice.byteSize).sum ≤ pieceCount maxDataLength parts * maxDataLength := by
  induction parts with
  | nil => exact Nat.zero_le _
  | cons part parts ih =>
    have hPart := byteSize_le_pieces hMax part.byteSize
    rw [pieceCount] at ih ⊢
    rw [List.map_cons, List.sum_cons, List.map_cons, List.sum_cons, Nat.add_mul]
    exact Nat.add_le_add hPart ih

theorem pieceCount_pos (hMax : 0 < maxDataLength) {parts : List VSlice}
    (hSome : ∃ part ∈ parts, 0 < part.byteSize) : 0 < pieceCount maxDataLength parts := by
  obtain ⟨part, hPart, hSize⟩ := hSome
  have hLe : part.byteSize ≤ (parts.map VSlice.byteSize).sum :=
    List.single_le_sum (fun _ _ => Nat.zero_le _) _ (List.mem_map_of_mem hPart)
  have hRoom := sum_byteSize_le hMax parts
  rcases Nat.eq_zero_or_pos (pieceCount maxDataLength parts) with hZero | hPos
  · rw [hZero, Nat.zero_mul] at hRoom
    omega
  · exact hPos

end Lengths

theorem foldl_messageLength (parts : List VSlice) (start : UInt64) :
    parts.foldl (fun sum part => sum + UInt64.ofNat part.byteSize) start =
      start + UInt64.ofNat (parts.map VSlice.byteSize).sum := by
  induction parts generalizing start with
  | nil => simp
  | cons part parts ih =>
    rw [List.foldl_cons, ih, List.map_cons, List.sum_cons, UInt64.ofNat_add, UInt64.add_assoc]

/-- What the vector held before does not matter. -/
theorem buildChunksInto_eq (assertions : Bool) (messageID : UInt64) {maxChunkSize : UInt32}
    (hMax : maxChunkHeaderSize < maxChunkSize.toNat) {parts : List VSlice}
    (hSome : ∃ part ∈ parts, 0 < part.byteSize) (result : List ChunkHeader) :
    buildChunksInto assertions messageID maxChunkSize parts result =
      .ok (buildChunks messageID maxChunkSize.toNat parts) := by
  have hRoom : (maxChunkSize - UInt32.ofNat maxChunkHeaderSize).toNat =
      maxChunkSize.toNat - maxChunkHeaderSize := by
    rw [UInt32.toNat_sub_of_le]
    · rfl
    · rw [UInt32.le_iff_toNat_le]
      exact hMax.le
  have hLength := foldl_messageLength parts 0
  rw [UInt64.zero_add] at hLength
  have hAssert : assertThat assertions (decide (maxChunkHeaderSize < maxChunkSize.toNat)) = .ok () := by
    rw [assertThat, decide_eq_true hMax, Bool.not_true, Bool.and_false]
    rfl
  have hNonempty : partsLoop ⟨messageID, UInt64.ofNat (parts.map VSlice.byteSize).sum,
      maxChunkSize.toNat - maxChunkHeaderSize⟩ parts 0 [] ≠ [] := by
    intro hEmpty
    have hCount := length_buildChunks messageID hMax parts
    have hPos := pieceCount_pos (Nat.sub_pos_of_lt hMax) hSome
    rw [buildChunks, hEmpty] at hCount
    exact absurd hPos (by rw [← hCount]; decide)
  simp only [buildChunksInto, hAssert, hRoom, hLength, List.drop_length]
  exact if_neg hNonempty

/-- What a message becomes. -/
structure SplitsMessage (messageID : UInt64) (maxChunkSize : UInt32) (parts : List VSlice)
    (chunks : List ChunkHeader) : Prop where
  count : chunks.length = pieceCount (maxChunkSize.toNat - maxChunkHeaderSize) parts
  data : dataBytes chunks = parts.flatMap VSlice.bytes
  size : ∀ c ∈ chunks, 1 ≤ c.data.size ∧ c.data.size ≤ maxChunkSize.toNat - maxChunkHeaderSize
  within : ∀ c ∈ chunks, ∃ part ∈ parts, c.data.base = (Pointer.ofList part.memory fun _ => 0) ∧
    c.data.offset + c.data.size ≤ part.byteSize
  encoded : ∀ c ∈ chunks, ∀ version, (c.encode version).length ≤ maxChunkSize.toNat
  messageID : ∀ c ∈ chunks, c.messageID = messageID
  messageLength : ∀ c ∈ chunks, c.messageLength.toNat = (parts.map VSlice.byteSize).sum
  first : ∀ h : 0 < chunks.length, chunks[0].chunkX.toNat = 2 * chunks.length + 1
  later : ∀ k, 1 ≤ k → ∀ h : k < chunks.length, chunks[k].chunkX.toNat = 2 * k

/-- With fewer than 2^31 pieces of fewer than 2^32 bytes, the length of the
message does not wrap around. -/
theorem message_splitting (assertions : Bool) (messageID : UInt64) (maxChunkSize : UInt32)
    (hMax : 24 < maxChunkSize) (parts : List VSlice) (hParts : ∀ part ∈ parts, part.Within)
    (hSome : ∃ part ∈ parts, 0 < part.byteSize)
    (hCount : pieceCount (maxChunkSize.toNat - maxChunkHeaderSize) parts < 2 ^ 31) :
    ∃ chunks, SplitsMessage messageID maxChunkSize parts chunks ∧
      ∀ result, buildChunksInto assertions messageID maxChunkSize parts result = .ok chunks := by
  have hMaxNat : maxChunkHeaderSize < maxChunkSize.toNat := UInt32.lt_iff_toNat_lt.mp hMax
  have hSplit := buildChunks_spec messageID maxChunkSize.toNat hMaxNat parts hParts
  have hLength := length_buildChunks messageID hMaxNat parts
  have hNumbered := hSplit.numbered (hLength ▸ hCount)
  refine ⟨buildChunks messageID maxChunkSize.toNat parts, ?_,
    buildChunksInto_eq assertions messageID hMaxNat hSome⟩
  constructor
  case count => exact hLength
  case data => exact hSplit.data
  case size =>
    intro c hc
    obtain ⟨part, _, hPiece⟩ := hSplit.pieces c hc
    exact ⟨hPiece.size_pos, hPiece.size_le⟩
  case within =>
    intro c hc
    obtain ⟨part, hPart, hPiece⟩ := hSplit.pieces c hc
    exact ⟨part, hPart, hPiece.base, hPiece.within⟩
  case encoded =>
    intro c hc version
    obtain ⟨part, _, hPiece⟩ := hSplit.pieces c hc
    have hSize : c.data.size ≤ maxChunkSize.toNat - maxChunkHeaderSize := hPiece.size_le
    have hHeader : headerLength version c.chunkX ≤ maxChunkHeaderSize := by
      rcases headerLength_cases version c.chunkX with h | h <;> rw [h] <;> decide
    rw [ChunkHeader.length_encode]
    omega
  case messageID =>
    intro c hc
    obtain ⟨part, _, hPiece⟩ := hSplit.pieces c hc
    exact hPiece.messageID
  case messageLength =>
    intro c hc
    obtain ⟨part, _, hPiece⟩ := hSplit.pieces c hc
    have hRoom := sum_byteSize_le (Nat.sub_pos_of_lt hMaxNat) parts
    have hBound : pieceCount (maxChunkSize.toNat - maxChunkHeaderSize) parts *
        (maxChunkSize.toNat - maxChunkHeaderSize) < 2 ^ 31 * 2 ^ 32 :=
      Nat.mul_lt_mul'' hCount ((Nat.sub_le _ _).trans_lt maxChunkSize.toNat_lt)
    rw [hPiece.messageLength, UInt64.toNat_ofNat']
    exact Nat.mod_eq_of_lt (by omega)
  case first =>
    intro h
    exact hNumbered 0 h
  case later =>
    intro k hk h
    rw [hNumbered k h, if_neg (by omega)]

/-- A part of 30 bytes becomes four pieces of at most eight. -/
theorem message_splitting_four_pieces :
    ∃ chunks, SplitsMessage 1 32 [⟨List.replicate 30 0, 30⟩] chunks ∧
      ∀ result, buildChunksInto true 1 32 [⟨List.replicate 30 0, 30⟩] result = .ok chunks :=
  message_splitting true 1 32 (by decide) _ (by decide) ⟨_, List.mem_singleton_self _, by decide⟩
    (by decide)

end Fuerte.Vst

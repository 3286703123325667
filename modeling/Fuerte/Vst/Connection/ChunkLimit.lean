import Fuerte.Vst.RoundTrip
import Fuerte.Vst.Connection.Step

/-! # The configured chunk limit

The limit that is configured for a connection ends there. Messages are split by
the default of the protocol, so the limit holds where their parts are small.
-/

namespace Fuerte.Vst

set_option autoImplicit false

open ByteMemory

/-! ## The sizes of the pieces -/

/-- The pieces that a part of this size is cut into. -/
structure CutInto (maxDataLength size : Nat) (pieces : List ChunkHeader) : Prop where
  first : 0 < size → ∃ c rest, pieces = c :: rest ∧ c.data.size = min maxDataLength size
  size_le : ∀ c ∈ pieces, c.data.size ≤ min maxDataLength size
  later : ∀ c ∈ pieces, c.chunkX &&& 1 = 0
  count : pieces.length = (size + maxDataLength - 1) / maxDataLength

theorem shiftLeft_one_and_one (i : UInt32) : i <<< 1 &&& 1 = 0 := by
  rw [← UInt32.toNat_inj, UInt32.toNat_and, UInt32.toNat_shiftLeft]
  simp only [UInt32.toNat_one, UInt32.toNat_zero, Nat.shiftLeft_eq, Nat.reduceMod, Nat.reducePow,
    Nat.and_one_is_mod]
  omega

theorem partLoop_cutInto (settings : SplitSettings) (hMax : 0 < settings.maxDataLength)
    (part : VSlice) (fuel remaining offset : Nat) (i : UInt32) (result : List ChunkHeader)
    (hFuel : remaining ≤ fuel) :
    ∃ next pieces, partLoop settings part fuel remaining offset i result =
        (next, result ++ pieces) ∧ CutInto settings.maxDataLength remaining pieces := by
  induction fuel generalizing remaining offset i result with
  | zero =>
    obtain rfl : remaining = 0 := by omega
    refine ⟨i, [], by simp [partLoop], ⟨nofun, by simp, by simp, ?_⟩⟩
    rw [List.length_nil, Nat.zero_add, Nat.div_eq_of_lt (by omega)]
  | succ fuel ih =>
    rw [partLoop]
    split
    · rename_i hRemaining
      have hLength : (if settings.maxDataLength < remaining then settings.maxDataLength
          else remaining) = min settings.maxDataLength remaining := by
        split <;> omega
      rw [hLength]
      dsimp only
      obtain ⟨next, pieces, hLoop, hPieces⟩ := ih
        (remaining - min settings.maxDataLength remaining)
        (offset + min settings.maxDataLength remaining) (i + 1)
        (result ++ [partChunk settings part i offset (min settings.maxDataLength remaining)])
        (by omega)
      refine ⟨next, partChunk settings part i offset (min settings.maxDataLength remaining) :: pieces,
        ?_, ⟨fun _ => ⟨_, _, rfl, rfl⟩, ?_, ?_, ?_⟩⟩
      · rw [hLoop, List.append_assoc, List.singleton_append]
      · intro c hc
        rcases List.mem_cons.mp hc with rfl | hc
        · exact Nat.le_refl _
        · have hSize := hPieces.size_le c hc
          omega
      · exact List.forall_mem_cons.mpr ⟨shiftLeft_one_and_one i, hPieces.later⟩
      · rw [List.length_cons, hPieces.count]
        rcases Nat.le_total remaining settings.maxDataLength with hLe | hLe
        · rw [Nat.min_eq_right hLe, Nat.sub_self, Nat.zero_add, Nat.div_eq_of_lt (by omega)]
          exact (Nat.div_eq_of_lt_le (by omega) (by omega)).symm
        · rw [Nat.min_eq_left hLe,
            show remaining - settings.maxDataLength + settings.maxDataLength - 1 = remaining - 1 by omega,
            show remaining + settings.maxDataLength - 1 = remaining - 1 + settings.maxDataLength by omega,
            Nat.add_div_right _ hMax]
    · obtain rfl : remaining = 0 := by omega
      refine ⟨i, [], by simp, ⟨nofun, by simp, by simp, ?_⟩⟩
      rw [List.length_nil, Nat.zero_add, Nat.div_eq_of_lt (by omega)]

theorem partsLoop_cutInto (settings : SplitSettings) (hMax : 0 < settings.maxDataLength)
    (parts : List VSlice) (i : UInt32) (result : List ChunkHeader) :
    ∃ groups : List (List ChunkHeader),
      partsLoop settings parts i result = result ++ groups.flatten ∧
      List.Forall₂ (fun part pieces => CutInto settings.maxDataLength part.byteSize pieces)
        parts groups := by
  induction parts generalizing i result with
  | nil => exact ⟨[], by simp [partsLoop], .nil⟩
  | cons part parts ih =>
    obtain ⟨next, pieces, hLoop, hPieces⟩ := partLoop_cutInto settings hMax part part.byteSize
      part.byteSize 0 i result (Nat.le_refl _)
    obtain ⟨groups, hGroups, hCuts⟩ := ih next (result ++ pieces)
    refine ⟨pieces :: groups, ?_, .cons hPieces hCuts⟩
    rw [partsLoop, hLoop]
    dsimp only
    rw [hGroups, List.append_assoc, List.flatten_cons]

/-! ## The sizes of the chunks -/

/-- The room for data in a chunk of the default size. -/
def maxDataLength : Nat := defaultMaxChunkSize - maxChunkHeaderSize

def chunkCount (parts : List VSlice) : Nat :=
  (parts.map fun part => (part.byteSize + maxDataLength - 1) / maxDataLength).sum

/-- Version 1.0 writes a long header only in front of a first chunk that
announces further ones; 31 bits announce them. -/
def firstHeaderLength (version : VSTVersion) (count : Nat) : Nat :=
  match version with
  | .vst1_0 => if 1 < count % 2 ^ 31 then maxChunkHeaderSize else minChunkHeaderSize
  | .vst1_1 => maxChunkHeaderSize

def laterHeaderLength : VSTVersion → Nat
  | .vst1_0 => minChunkHeaderSize
  | .vst1_1 => maxChunkHeaderSize

theorem headerLength_of_later {version : VSTVersion} {chunkX : UInt32} (h : chunkX &&& 1 = 0) :
    headerLength version chunkX = laterHeaderLength version := by
  cases version with
  | vst1_0 =>
    rw [headerLength, if_neg]
    · rfl
    · rintro ⟨hFirst, -⟩
      rw [h] at hFirst
      cases hFirst
  | vst1_1 => rfl

theorem laterHeaderLength_le (version : VSTVersion) (count : Nat) :
    laterHeaderLength version ≤ firstHeaderLength version count ∧
      firstHeaderLength version count ≤ maxChunkHeaderSize := by
  cases version with
  | vst1_0 =>
    rw [firstHeaderLength]
    split <;> decide
  | vst1_1 => exact ⟨Nat.le_refl _, Nat.le_refl _⟩

theorem headerLength_of_first (version : VSTVersion) (count : Nat) :
    headerLength version (if count = 1 then 3 else UInt32.ofNat ((count <<< 1) + 1)) =
      firstHeaderLength version count := by
  cases version with
  | vst1_0 =>
    have hCount : (if count = 1 then 3 else UInt32.ofNat ((count <<< 1) + 1)).toNat =
        (2 * count + 1) % 2 ^ 32 := by
      split
      · rename_i hOne
        rw [hOne]
        rfl
      · rw [UInt32.toNat_ofNat', Nat.shiftLeft_eq]
        congr 1
        omega
    generalize (if count = 1 then 3 else UInt32.ofNat ((count <<< 1) + 1)) = chunkX at hCount
    have hFirst : chunkX &&& 1 = 1 := by
      rw [← UInt32.toNat_inj, UInt32.toNat_and, hCount]
      simp only [UInt32.toNat_one, Nat.and_one_is_mod]
      omega
    have hMany : chunkX >>> 1 > 1 ↔ 1 < count % 2 ^ 31 := by
      rw [gt_iff_lt, UInt32.lt_iff_toNat_lt, UInt32.toNat_shiftRight, hCount]
      simp only [UInt32.toNat_one, Nat.reduceMod, Nat.shiftRight_eq_div_pow]
      omega
    rw [headerLength, firstHeaderLength]
    simp only [hFirst, hMany, true_and]
  | vst1_1 => rfl

def ChunksWithin (version : VSTVersion) (limit : Nat) (chunks : List ChunkHeader) : Prop :=
  ∀ c ∈ chunks, (c.encode version).length ≤ limit

/-- The largest chunk of every part has at most this many bytes. -/
def PartsWithin (version : VSTVersion) (limit : Nat) : List VSlice → Prop
  | [] => True
  | header :: slices =>
    firstHeaderLength version (chunkCount (header :: slices)) +
        min maxDataLength header.byteSize ≤ limit ∧
      ∀ slice ∈ slices, laterHeaderLength version + min maxDataLength slice.byteSize ≤ limit

section Sizes

variable {version : VSTVersion} {limit : Nat}

/-- The chunks of the slices behind the first part. -/
theorem chunksWithin_later (hLimit : maxChunkHeaderSize < limit) {slices : List VSlice}
    {groups : List (List ChunkHeader)} (h : List.Forall₂ (fun slice pieces =>
      CutInto maxDataLength slice.byteSize pieces) slices groups) :
    ChunksWithin version limit groups.flatten ↔
      ∀ slice ∈ slices, laterHeaderLength version + min maxDataLength slice.byteSize ≤ limit := by
  induction h with
  | nil => simp [ChunksWithin]
  | @cons slice pieces slices groups hPieces _ ih =>
    rw [List.flatten_cons, List.forall_mem_cons, ← ih]
    have hLength (c : ChunkHeader) (hc : c ∈ pieces) :
        (c.encode version).length = laterHeaderLength version + c.data.size := by
      rw [ChunkHeader.length_encode, headerLength_of_later (hPieces.later c hc)]
    constructor
    · intro hAll
      refine ⟨?_, fun c hc => hAll c (List.mem_append_right _ hc)⟩
      rcases Nat.eq_zero_or_pos slice.byteSize with hEmpty | hPos
      · have hHeader := laterHeaderLength_le version 0
        rw [hEmpty]
        omega
      · obtain ⟨c, rest, rfl, hSize⟩ := hPieces.first hPos
        have hFirst := hAll c (List.mem_append_left _ List.mem_cons_self)
        rw [hLength c List.mem_cons_self, hSize] at hFirst
        exact hFirst
    · rintro ⟨hSlice, hRest⟩ c hc
      rcases List.mem_append.mp hc with hc | hc
      · have hSize := hPieces.size_le c hc
        rw [hLength c hc]
        omega
      · exact hRest c hc

theorem length_flatten_groups {maxDataLength : Nat} {parts : List VSlice}
    {groups : List (List ChunkHeader)} (h : List.Forall₂ (fun part pieces =>
      CutInto maxDataLength part.byteSize pieces) parts groups) : groups.flatten.length =
      (parts.map fun part => (part.byteSize + maxDataLength - 1) / maxDataLength).sum := by
  induction h with
  | nil => rfl
  | cons hPieces _ ih =>
    rw [List.flatten_cons, List.length_append, hPieces.count, ih, List.map_cons, List.sum_cons]

/-- All chunks of a message are small enough if and only if its parts are. -/
theorem chunksWithin_iff (hLimit : maxChunkHeaderSize < limit) (messageID : UInt64)
    {header : VSlice} (slices : List VSlice) (hHeader : 0 < header.byteSize) :
    ChunksWithin version limit (buildChunks messageID defaultMaxChunkSize (header :: slices)) ↔
      PartsWithin version limit (header :: slices) := by
  obtain ⟨groups, hLoop, hCuts⟩ := partsLoop_cutInto ⟨messageID,
    UInt64.ofNat ((header :: slices).map VSlice.byteSize).sum, maxDataLength⟩
    (show 0 < maxDataLength by decide) (header :: slices) 0 []
  have hCount : groups.flatten.length = chunkCount (header :: slices) := length_flatten_groups hCuts
  have hChunks : buildChunks messageID defaultMaxChunkSize (header :: slices) =
      setFirstChunkX groups.flatten := congrArg setFirstChunkX hLoop
  rw [hChunks]
  cases hCuts with
  | @cons _ pieces _ groups hPieces hCuts =>
    obtain ⟨first, rest, rfl, hSize⟩ := hPieces.first hHeader
    rw [List.flatten_cons, List.cons_append] at hCount ⊢
    rw [setFirstChunkX, hCount, ChunksWithin, List.forall_mem_cons, ChunkHeader.length_encode,
      headerLength_of_first, PartsWithin]
    have hFirst : first.data.size = min maxDataLength header.byteSize := hSize
    have hRest (c : ChunkHeader) (hc : c ∈ rest) :
        (c.encode version).length ≤ laterHeaderLength version + min maxDataLength header.byteSize := by
      have hIn := List.mem_cons_of_mem first hc
      have hPiece : c.data.size ≤ min maxDataLength header.byteSize := hPieces.size_le c hIn
      rw [ChunkHeader.length_encode, headerLength_of_later (hPieces.later c hIn)]
      omega
    have hHeaders := (laterHeaderLength_le version (chunkCount (header :: slices))).1
    rw [hFirst, ← chunksWithin_later hLimit hCuts]
    constructor
    · rintro ⟨hFits, hAll⟩
      exact ⟨hFits, fun c hc => hAll c (List.mem_append_right _ hc)⟩
    · rintro ⟨hFits, hSlices⟩
      refine ⟨hFits, fun c hc => ?_⟩
      rcases List.mem_append.mp hc with hc | hc
      · have hSize := hRest c hc
        omega
      · exact hSlices c hc

end Sizes

/-! ## What is written -/

/-- The sizes of the chunks in a list of header and data buffers. -/
def chunkSizes : List ConstBuffer → List Nat
  | hdr :: data :: buffers => (hdr.size + data.size) :: chunkSizes buffers
  | _ => []

theorem chunkSizes_append (front back : List ConstBuffer) (h : front.length % 2 = 0) :
    chunkSizes (front ++ back) = chunkSizes front ++ chunkSizes back := by
  induction front using chunkSizes.induct with
  | case1 hdr data buffers ih =>
    rw [List.length_cons, List.length_cons] at h
    simp only [List.cons_append, chunkSizes, ih (by omega)]
  | case2 front hFront =>
    cases front with
    | nil => rfl
    | cons hdr front =>
      cases front with
      | nil => simp at h
      | cons data front => exact absurd rfl (hFront hdr data front)

theorem chunkSizes_writeLoop (version : VSTVersion) (chunks : List ChunkHeader)
    (requestChunkBuffer : List UInt8) (requestBuffers : List ConstBuffer)
    (h : requestBuffers.length % 2 = 0) :
    chunkSizes (RequestItem.writeLoop version chunks requestChunkBuffer requestBuffers).2 =
      chunkSizes requestBuffers ++ chunks.map fun c => (c.encode version).length := by
  induction chunks generalizing requestChunkBuffer requestBuffers with
  | nil => simp [RequestItem.writeLoop]
  | cons chunk chunks ih =>
    rw [RequestItem.writeLoop, ih _ _ (by rw [List.length_append, List.length_cons,
      List.length_cons, List.length_nil]; omega), chunkSizes_append _ _ h]
    simp only [chunkSizes, List.append_assoc, List.singleton_append, List.map_cons,
      List.length_append, Nat.add_sub_cancel_left, ChunkHeader.length_encode,
      ChunkHeader.length_writeHeader]

namespace Connection

/-- `detail::ConnectionConfiguration`, with the limit as its builder sets it. -/
structure ConnectionConfiguration extends Configuration where
  maxChunkSize : Nat := 5000

/-- No chunk written for the item is longer than the limit. -/
def WithinLimit (configuration : ConnectionConfiguration) (item : RequestItem) : Prop :=
  ∀ size ∈ chunkSizes item.requestBuffers, size ≤ configuration.maxChunkSize

/-- The parts of the message that is made of a request. -/
def MessagePartsAre (vpack : VelocyPack) (request : Request) (parts : List VSlice) : Prop :=
  ∃ msgHdr left, RequestItem.messageParts vpack request = .ok (msgHdr, parts, left)

/-- The chunks of a request that a connection sends respect its limit if and only
if the parts of its message are small enough. -/
theorem chunk_limit {platform : Platform} (hSizes : platform.vpack.SizesBuilt)
    {configuration : ConnectionConfiguration} (hLimit : maxChunkHeaderSize < configuration.maxChunkSize)
    {s s' : Shared} {request : Request} {cb : CallbackOwner} {id : MessageID}
    (h : createItem platform configuration.toConfiguration s request cb = (s', .ok id)) :
    ∃ item parts, s'.items id = some item ∧
      MessagePartsAre platform.vpack { request with messageID := id } parts ∧
      (WithinLimit configuration item ↔
        PartsWithin configuration.vstVersion configuration.maxChunkSize parts) := by
  simp only [createItem] at h
  split at h
  · cases h
  · rename_i item hItem
    cases h
    obtain ⟨⟨msgHdr, parts, left⟩, hParts, hItem⟩ := exists_of_bind_ok hItem
    cases hItem
    refine ⟨_, parts, Function.update_self .., ⟨msgHdr, left, hParts⟩, ?_⟩
    obtain ⟨value, _, hParts⟩ := exists_of_bind_ok hParts
    obtain ⟨slices, _, hParts⟩ := exists_of_bind_ok hParts
    cases hParts
    have hHeader : 0 < platform.vpack.byteSize (platform.vpack.build value) := by
      rw [hSizes.byteSize_build]
      exact List.length_pos_iff.mpr (hSizes.build_nonempty value)
    rw [← chunksWithin_iff hLimit (UInt64.ofNat (s.messageID + 1)) slices hHeader, WithinLimit,
      chunkSizes_writeLoop _ _ _ _ rfl]
    simp only [chunkSizes, List.nil_append, List.forall_mem_map]
    rfl

theorem chunk_limit_version_request :
    ∃ s' id, createItem shortPlatform {} initial.shared versionRequest .user = (s', .ok id) ∧
      ∃ item parts, s'.items id = some item ∧
        MessagePartsAre shortPlatform.vpack { versionRequest with messageID := id } parts ∧
        (WithinLimit {} item ↔ PartsWithin .vst1_0 5000 parts) := by
  refine ⟨_, _, rfl, ?_⟩
  exact @chunk_limit shortPlatform VelocyPack.short_sizesBuilt {} (by decide) initial.shared _
    versionRequest .user 1 rfl

def narrow : ConnectionConfiguration := { maxChunkSize := 25 }

/-- A chunk of 53 bytes is sent where 25 are the limit. -/
theorem chunk_limit_ignored :
    maxChunkHeaderSize < narrow.maxChunkSize ∧ ∃ s' item,
      createItem shortPlatform narrow.toConfiguration initial.shared versionRequest .user =
        (s', .ok 1) ∧
      s'.items 1 = some item ∧ ¬ WithinLimit narrow item := by
  refine ⟨by decide, _, _, rfl, rfl, fun hWithin => ?_⟩
  exact absurd (hWithin 53 (by decide)) (by decide)

end Connection

end Fuerte.Vst

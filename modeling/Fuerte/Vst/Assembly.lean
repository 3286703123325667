import Fuerte.Vst.Reassembly

/-! # When an item hands out a buffer

An item counts the chunks it has seen. What it assembles is the content of every
one of them, in key order, whether or not these are the chunks of one message.
-/

namespace Fuerte.Vst

set_option autoImplicit false

open ByteMemory

variable {platform : Platform} {item : RequestItem} {arrived : List ChunkHeader}

/-- The items that a fresh one becomes by `addChunk` and `assemble`, with the
chunks added on the way. -/
inductive Gathered (platform : Platform) : RequestItem → List ChunkHeader → Prop where
  | fresh {item : RequestItem} (hFresh : item.Fresh) : Gathered platform item []
  | addChunk {item : RequestItem} {arrived : List ChunkHeader} (h : Gathered platform item arrived)
      (chunk : ChunkHeader) : Gathered platform (item.addChunk chunk) (arrived ++ [chunk])
  | assemble {item : RequestItem} {arrived : List ChunkHeader} (h : Gathered platform item arrived) :
      Gathered platform (item.assemble platform).2 arrived

/-- A first chunk that announces `n` chunks is among them. -/
def Announced (arrived : List ChunkHeader) (n : Nat) : Prop :=
  ∃ c ∈ arrived, c.isFirst = true ∧ c.numberOfChunks.toNat = n

/-- Some chunk with each of the indices below `n` is among them. -/
def EveryIndex (arrived : List ChunkHeader) (n : Nat) : Prop :=
  ∀ i < n, ∃ c ∈ arrived, c.key = i

/-- The contents of exactly one chunk for each index below `n`, in the order of
the indices. -/
def OnePerIndex (arrived : List ChunkHeader) (n : Nat) (buffer : List UInt8) : Prop :=
  ∃ picked, Sorting.Picked ChunkHeader.key n arrived picked ∧ buffer = dataBytes picked

/-- What a message needs before it may be handed out. -/
def NeedsEveryChunk (platform : Platform) (item : RequestItem) (arrived : List ChunkHeader) : Prop :=
  ∀ buffer, (item.assemble platform).1 = some buffer →
    ∃ n, Announced arrived n ∧ EveryIndex arrived n ∧ OnePerIndex arrived n buffer

/-- What the last first chunk announced, and zero if there was none. -/
def announcedLast (arrived : List ChunkHeader) : Nat :=
  arrived.foldl (fun n c => if c.isFirst then c.numberOfChunks.toNat else n) 0

/-- The chunks of one message of `n` chunks, except for chunks without content. -/
structure WholeMessage (arrived : List ChunkHeader) (n : Nat) : Prop where
  announced : Announced arrived n
  everyIndex : EveryIndex arrived n
  noRepeat : ∀ i < n, (arrived.countP fun c => c.key = i ∧ c.data.bytes ≠ []) ≤ 1
  noSurplus : ∀ c ∈ arrived, n ≤ c.key → c.data.bytes = []

/-- The received chunks are too few for the announced number, or make up a message. -/
def CountDecides (arrived : List ChunkHeader) : Prop :=
  announcedLast arrived = 0 ∨ arrived.length < announcedLast arrived ∨ ∃ n, WholeMessage arrived n

/-! ## What an item keeps of the chunks -/

/-- The item keeps the chunks it has seen, perhaps in another order. -/
structure Retains (item : RequestItem) (arrived : List ChunkHeader) : Prop where
  stored : ∃ order, order.Perm arrived ∧
    List.Forall₂ (Stored item.responseChunkContent) item.responseChunks order
  number : item.responseNumberOfChunks = announcedLast arrived

theorem Retains.addChunk (h : Retains item arrived) (chunk : ChunkHeader) :
    Retains (item.addChunk chunk) (arrived ++ [chunk]) := by
  obtain ⟨order, hPerm, hStored⟩ := h.stored
  constructor
  · exact ⟨order ++ [chunk], hPerm.append_right [chunk], RequestItem.stored_addChunk hStored chunk⟩
  · rw [announcedLast, List.foldl_append, ← announcedLast, ← h.number]
    rfl

theorem Retains.assemble_snd (h : Retains item arrived) :
    Retains (item.assemble platform).2 arrived := by
  obtain ⟨order, hPerm, hStored⟩ := h.stored
  rw [RequestItem.assemble]
  split
  · exact h
  · split
    · exact h
    · refine ⟨?_, h.number⟩
      obtain ⟨sorted, hRel, hSorted⟩ :=
        List.perm_comp_forall₂ (platform.sort.perm item.responseChunks) hStored
      exact ⟨sorted, hSorted.trans hPerm, hRel⟩

theorem Gathered.retains (h : Gathered platform item arrived) : Retains item arrived := by
  induction h with
  | fresh hFresh =>
    refine ⟨⟨[], .nil, ?_⟩, hFresh.responseNumberOfChunks⟩
    rw [hFresh.responseChunks]
    exact .nil
  | addChunk _ chunk ih => exact ih.addChunk chunk
  | assemble _ ih => exact ih.assemble_snd

/-- What is assembled is the content of all chunks that arrived, in key order. -/
theorem Retains.assemble_fst (platform : Platform) (h : Retains item arrived) :
    ∃ order : List ChunkHeader, order.Perm arrived ∧
      (order.Pairwise fun a b => a.key ≤ b.key) ∧ (item.assemble platform).1 =
        if announcedLast arrived = 0 ∨ arrived.length < announcedLast arrived then none
        else some (dataBytes order) := by
  obtain ⟨order, hPerm, hStored⟩ := h.stored
  obtain ⟨sorted, hRel, hSorted⟩ :=
    List.perm_comp_forall₂ (platform.sort.perm item.responseChunks) hStored
  refine ⟨sorted, hSorted.trans hPerm, ?_, ?_⟩
  · rw [← List.pairwise_map, ← map_key_of_stored hRel, List.pairwise_map]
    exact platform.sort.sorted item.responseChunks
  · have hLength := hStored.length_eq.trans hPerm.length_eq
    rw [RequestItem.assemble, h.number, hLength]
    by_cases hNone : announcedLast arrived = 0
    · rw [if_pos hNone, if_pos (.inl hNone)]
    · rw [if_neg hNone]
      by_cases hFew : arrived.length < announcedLast arrived
      · rw [if_pos hFew, if_pos (.inr hFew)]
      · rw [if_neg hFew, if_neg (by tauto)]
        exact congrArg some (flatMap_stored hRel)

theorem wholeMessage_iff {order : List ChunkHeader} (hOrder : order.Perm arrived)
    (hSorted : order.Pairwise fun a b => a.key ≤ b.key) (n : Nat) :
    WholeMessage arrived n ↔ Announced arrived n ∧ EveryIndex arrived n ∧
      OnePerIndex arrived n (dataBytes order) := by
  have hPicked := Sorting.exists_picked_iff n (fun c : ChunkHeader => c.data.bytes) hOrder hSorted
  constructor
  · rintro ⟨hAnnounced, hEvery, hRepeat, hSurplus⟩
    exact ⟨hAnnounced, hEvery, hPicked.mpr ⟨hEvery, hRepeat, hSurplus⟩⟩
  · rintro ⟨hAnnounced, hEvery, hOne⟩
    obtain ⟨_, hRepeat, hSurplus⟩ := hPicked.mp hOne
    exact ⟨hAnnounced, hEvery, hRepeat, hSurplus⟩

/-- An item hands out nothing but whole messages if and only if the chunks that
arrived are too few for the announced number or really make up a message. -/
theorem reassembly (h : Gathered platform item arrived) :
    NeedsEveryChunk platform item arrived ↔ CountDecides arrived := by
  obtain ⟨order, hOrder, hSorted, hAssemble⟩ := h.retains.assemble_fst platform
  have hWhole := wholeMessage_iff hOrder hSorted
  rw [NeedsEveryChunk, CountDecides, hAssemble]
  by_cases hFew : announcedLast arrived = 0 ∨ arrived.length < announcedLast arrived
  · rw [if_pos hFew]
    constructor
    · intro _
      exact hFew.elim .inl fun hLess => .inr (.inl hLess)
    · rintro _ buffer hBuffer
      cases hBuffer
  · rw [if_neg hFew]
    constructor
    · intro hNeeds
      obtain ⟨n, hMessage⟩ := hNeeds _ rfl
      exact .inr (.inr ⟨n, (hWhole n).mpr hMessage⟩)
    · rintro hDecides buffer hBuffer
      obtain ⟨n, hMessage⟩ : ∃ n, WholeMessage arrived n := by tauto
      cases hBuffer
      exact ⟨n, (hWhole n).mp hMessage⟩

/-- The first of the two chunks of message 1, which is two bytes long. -/
def firstOfTwo : ChunkHeader :=
  { chunkLength := 25, chunkX := 5, messageID := 1, messageLength := 2,
    data := ConstBuffer.ofList [0x61] }

theorem gathered_repeated : Gathered shortPlatform
    ((versionItem.addChunk firstOfTwo).addChunk firstOfTwo) [firstOfTwo, firstOfTwo] :=
  ((Gathered.fresh ⟨rfl, rfl, rfl⟩).addChunk firstOfTwo).addChunk firstOfTwo

theorem reassembly_repeated :
    NeedsEveryChunk shortPlatform ((versionItem.addChunk firstOfTwo).addChunk firstOfTwo)
      [firstOfTwo, firstOfTwo] ↔ CountDecides [firstOfTwo, firstOfTwo] :=
  reassembly gathered_repeated

/-- The first of two chunks received twice passes for the whole message. -/
theorem repeated_chunk_completes :
    Gathered shortPlatform ((versionItem.addChunk firstOfTwo).addChunk firstOfTwo)
        [firstOfTwo, firstOfTwo] ∧
      ¬NeedsEveryChunk shortPlatform ((versionItem.addChunk firstOfTwo).addChunk firstOfTwo)
        [firstOfTwo, firstOfTwo] := by
  refine ⟨gathered_repeated, fun hNeeds => ?_⟩
  have hOnly : ∀ c ∈ [firstOfTwo, firstOfTwo], c = firstOfTwo := by simp
  obtain ⟨n, ⟨c, hc, _, hNumber⟩, hEvery, _⟩ := hNeeds [0x61, 0x61] (by decide)
  have hTwo : n = 2 := by
    rw [← hNumber, hOnly c hc]
    decide
  obtain ⟨c, hc, hIndex⟩ := hEvery 1 (by omega)
  rw [hOnly c hc] at hIndex
  exact absurd hIndex (by decide)

end Fuerte.Vst

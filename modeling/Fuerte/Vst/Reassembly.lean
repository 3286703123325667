import Mathlib.Data.List.Perm.Basic
import Fuerte.Vst.BuildChunks
import Fuerte.Vst.RequestItem

/-! # Reassembly of a message from its chunks

The chunks of one message may arrive in any order. The item knows how many there
are once the first chunk is among them, and only then can it be complete.
-/

namespace Fuerte.Vst

set_option autoImplicit false

open ByteMemory

/-- The chunk kept by an item stands for a chunk that arrived. -/
structure Stored (content : List UInt8) (kept arrived : ChunkHeader) : Prop where
  chunkX : kept.chunkX = arrived.chunkX
  within : kept.responseChunkContentOffset + kept.responseContentLength ≤ content.length
  content : (content.drop kept.responseChunkContentOffset).take kept.responseContentLength =
    arrived.data.bytes

theorem Stored.append {content : List UInt8} {kept arrived : ChunkHeader}
    (h : Stored content kept arrived) (more : List UInt8) : Stored (content ++ more) kept arrived := by
  have hWithin := h.within
  refine ⟨h.chunkX, by rw [List.length_append]; omega, ?_⟩
  rw [List.drop_append_of_le_length (by omega), List.take_append_of_le_length (by
    rw [List.length_drop]; omega), h.content]

namespace RequestItem

/-- The item has seen exactly the chunks of `arrived`, in this order; `n` is the
number that a first chunk among them announces. -/
structure Collected (n : Nat) (item : RequestItem) (arrived : List ChunkHeader) : Prop where
  stored : List.Forall₂ (Stored item.responseChunkContent) item.responseChunks arrived
  announced : (∃ c ∈ arrived, c.isFirst = true) → item.responseNumberOfChunks = n
  number : item.responseNumberOfChunks = 0 ∨ item.responseNumberOfChunks = n

/-- An item that has not seen a chunk. -/
structure Fresh (item : RequestItem) : Prop where
  responseChunks : item.responseChunks = []
  responseChunkContent : item.responseChunkContent = []
  responseNumberOfChunks : item.responseNumberOfChunks = 0

theorem Fresh.collected {item : RequestItem} (h : item.Fresh) (n : Nat) : Collected n item [] := by
  refine ⟨?_, ?_, .inl h.responseNumberOfChunks⟩
  · rw [h.responseChunks]
    exact .nil
  · rintro ⟨c, hc, _⟩
    exact absurd hc List.not_mem_nil

theorem stored_addChunk {item : RequestItem} {arrived : List ChunkHeader}
    (h : List.Forall₂ (Stored item.responseChunkContent) item.responseChunks arrived)
    (chunk : ChunkHeader) :
    List.Forall₂ (Stored (item.addChunk chunk).responseChunkContent)
      (item.addChunk chunk).responseChunks (arrived ++ [chunk]) := by
  refine List.rel_append (h.imp fun _ _ hKept => hKept.append chunk.data.bytes) ?_
  refine .cons ⟨rfl, ?_, ?_⟩ .nil
  · simp only [RequestItem.addChunk, List.length_append, ConstBuffer.length_bytes, Nat.le_refl]
  · simp only [RequestItem.addChunk, List.drop_left]
    exact List.take_of_length_le (by rw [ConstBuffer.length_bytes])

theorem Collected.addChunk {n : Nat} {item : RequestItem} {arrived : List ChunkHeader}
    (h : Collected n item arrived) (chunk : ChunkHeader)
    (hNumber : chunk.isFirst = true → chunk.numberOfChunks.toNat = n) :
    Collected n (item.addChunk chunk) (arrived ++ [chunk]) := by
  refine ⟨?_, ?_, ?_⟩
  · exact stored_addChunk h.stored chunk
  · rintro ⟨c, hc, hFirst⟩
    by_cases hChunk : chunk.isFirst = true
    · simp only [RequestItem.addChunk, hChunk, if_true]
      exact hNumber hChunk
    · simp only [RequestItem.addChunk, hChunk]
      rcases List.mem_append.mp hc with hc | hc
      · exact h.announced ⟨c, hc, hFirst⟩
      · rw [List.mem_singleton.mp hc] at hFirst
        exact absurd hFirst hChunk
  · by_cases hChunk : chunk.isFirst = true
    · simp only [RequestItem.addChunk, hChunk, if_true]
      exact .inr (hNumber hChunk)
    · simp only [RequestItem.addChunk, hChunk]
      exact h.number

def addChunks (item : RequestItem) (chunks : List ChunkHeader) : RequestItem :=
  chunks.foldl addChunk item

theorem addChunks_append (item : RequestItem) (front back : List ChunkHeader) :
    item.addChunks (front ++ back) = (item.addChunks front).addChunks back := List.foldl_append

theorem addChunks_frame (item : RequestItem) (chunks : List ChunkHeader) :
    (item.addChunks chunks).request = item.request ∧
      (item.addChunks chunks).callback = item.callback ∧
      (item.addChunks chunks).messageID = item.messageID := by
  induction chunks generalizing item with
  | nil => exact ⟨rfl, rfl, rfl⟩
  | cons chunk chunks ih => exact ih (item.addChunk chunk)

theorem Collected.addChunks {n : Nat} {item : RequestItem} {arrived : List ChunkHeader}
    (h : Collected n item arrived) (chunks : List ChunkHeader)
    (hNumber : ∀ c ∈ chunks, c.isFirst = true → c.numberOfChunks.toNat = n) :
    Collected n (item.addChunks chunks) (arrived ++ chunks) := by
  induction chunks generalizing item arrived with
  | nil => rwa [List.append_nil]
  | cons chunk chunks ih =>
    rw [List.append_cons]
    exact ih (h.addChunk chunk (hNumber chunk List.mem_cons_self))
      (fun c hc => hNumber c (List.mem_cons_of_mem chunk hc))

end RequestItem

/-! ## Numbered chunks -/

theorem Numbered.isFirst_zero {chunks : List ChunkHeader} (h : Numbered chunks)
    (hPos : 0 < chunks.length) : chunks[0].isFirst = true := by
  rw [ChunkHeader.isFirst_iff, h 0 hPos, if_pos rfl]
  omega

theorem Numbered.isFirst_iff {chunks : List ChunkHeader} (h : Numbered chunks) (k : Nat)
    (hk : k < chunks.length) : chunks[k].isFirst = true ↔ k = 0 := by
  rw [ChunkHeader.isFirst_iff, h k hk]
  split <;> omega

theorem Numbered.numberOfChunks {chunks : List ChunkHeader} (h : Numbered chunks) :
    ∀ c ∈ chunks, c.isFirst = true → c.numberOfChunks.toNat = chunks.length := by
  intro c hc hFirst
  obtain ⟨k, hk, rfl⟩ := List.getElem_of_mem hc
  rw [ChunkHeader.numberOfChunks_of_isFirst hFirst, h k hk, if_pos ((h.isFirst_iff k hk).mp hFirst)]
  omega

theorem Numbered.key {chunks : List ChunkHeader} (h : Numbered chunks) (k : Nat)
    (hk : k < chunks.length) : chunks[k].key = k := by
  by_cases hZero : k = 0
  · rw [ChunkHeader.key_of_isFirst ((h.isFirst_iff k hk).mpr hZero), hZero]
  · have hNot : chunks[k].isFirst = false :=
      Bool.eq_false_iff.mpr fun hFirst => hZero ((h.isFirst_iff k hk).mp hFirst)
    rw [ChunkHeader.key_of_not_isFirst hNot, h k hk, if_neg hZero]
    omega

theorem Numbered.pairwise_key {chunks : List ChunkHeader} (h : Numbered chunks) :
    chunks.Pairwise fun a b => a.key < b.key := by
  rw [List.pairwise_iff_getElem]
  intro i j hi hj hij
  rw [h.key i hi, h.key j hj]
  exact hij

theorem key_eq_of_chunkX {a b : ChunkHeader} (h : a.chunkX = b.chunkX) : a.key = b.key := by
  rw [ChunkHeader.key, ChunkHeader.key, ChunkHeader.index, ChunkHeader.index, h]

theorem map_key_of_stored {content : List UInt8} {kept chunks : List ChunkHeader}
    (hStored : List.Forall₂ (Stored content) kept chunks) :
    kept.map ChunkHeader.key = chunks.map ChunkHeader.key := by
  rw [← List.forall₂_eq_eq_eq, List.forall₂_map_left_iff, List.forall₂_map_right_iff]
  exact hStored.imp fun _ _ h => key_eq_of_chunkX h.chunkX

theorem pairwise_key_of_stored {content : List UInt8} {kept chunks : List ChunkHeader}
    (hStored : List.Forall₂ (Stored content) kept chunks)
    (hChunks : chunks.Pairwise fun a b => a.key < b.key) :
    kept.Pairwise fun a b => a.key < b.key := by
  rw [← List.pairwise_map, map_key_of_stored hStored, List.pairwise_map]
  exact hChunks

theorem flatMap_stored {content : List UInt8} {kept chunks : List ChunkHeader}
    (hStored : List.Forall₂ (Stored content) kept chunks) :
    (kept.flatMap fun c =>
      (content.drop c.responseChunkContentOffset).take c.responseContentLength) =
      dataBytes chunks := by
  induction hStored with
  | nil => rfl
  | cons hKept _ ih => rw [List.flatMap_cons, ih, hKept.content]; rfl

namespace RequestItem

variable (platform : Platform) {item : RequestItem} {chunks arrived : List ChunkHeader}

theorem assemble_frame (item : RequestItem) :
    (item.assemble platform).2.request = item.request ∧
      (item.assemble platform).2.callback = item.callback ∧
      (item.assemble platform).2.messageID = item.messageID := by
  rw [assemble]
  split
  · exact ⟨rfl, rfl, rfl⟩
  · split <;> exact ⟨rfl, rfl, rfl⟩

theorem assemble_of_missing (hItem : Collected chunks.length item arrived)
    (hMissing : arrived.length < chunks.length) : item.assemble platform = (none, item) := by
  have hLength := hItem.stored.length_eq
  rw [assemble]
  split
  · rfl
  · rename_i hKnown
    rw [if_pos]
    rcases hItem.number with hNumber | hNumber <;> omega

/-- Once all chunks are there, in whatever order they came, the message is the
content of the chunks in the order of their indices. -/
theorem assemble_of_all (hNumbered : Numbered chunks) (hPos : 0 < chunks.length)
    (hItem : Collected chunks.length item arrived) (hPerm : arrived.Perm chunks) :
    ∃ kept, item.assemble platform =
      (some (dataBytes chunks), { item with responseChunks := kept }) := by
  have hFirst : item.responseNumberOfChunks = chunks.length :=
    hItem.announced ⟨chunks[0], hPerm.mem_iff.mpr (List.getElem_mem hPos),
      hNumbered.isFirst_zero hPos⟩
  have hLength := hItem.stored.length_eq.trans hPerm.length_eq
  obtain ⟨kept, hKeptPerm, hKept⟩ :
      Relation.Comp List.Perm (List.Forall₂ (Stored item.responseChunkContent))
        item.responseChunks chunks := by
    rw [← List.forall₂_comp_perm_eq_perm_comp_forall₂]
    exact ⟨arrived, hItem.stored, hPerm⟩
  have hSort : platform.sort.run item.responseChunks = kept :=
    platform.sort.run_eq hKeptPerm (pairwise_key_of_stored hKept hNumbered.pairwise_key)
  refine ⟨kept, ?_⟩
  rw [assemble, if_neg (by omega), if_neg (by omega)]
  simp only [hSort, flatMap_stored hKept]

end RequestItem

end Fuerte.Vst

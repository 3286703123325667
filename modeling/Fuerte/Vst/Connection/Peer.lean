import Fuerte.Vst.Connection.SentStream

/-! # What a peer makes of a stream

A peer that takes chunks off what it has received, as the connection itself does,
finds the accepted messages again, however the bytes arrive and wherever a write breaks off.
-/

namespace Fuerte.Vst.Connection

set_option autoImplicit false

open Interleaving

section Messages

variable (platform : Platform) (configuration : Configuration)

variable {platform configuration}

/-- The item has a request and has been prepared from scratch. -/
structure Prepared (platform : Platform) (configuration : Configuration) (item : RequestItem) :
    Prop where
  request : ∃ request, item.request = some request
  buffers : item.requestBuffers = []
  sent : ∃ sent, item.prepareForNetwork platform.vpack configuration.vstVersion = .ok sent

theorem Prepared.messageChunks {item : RequestItem} (h : Prepared platform configuration item) :
    ∃ request msgHdr parts left, item.request = some request ∧
      RequestItem.messageParts platform.vpack request = .ok (msgHdr, parts, left) ∧
      item.messageChunks platform.vpack =
        .ok (buildChunks (UInt64.ofNat item.messageID) defaultMaxChunkSize parts) := by
  obtain ⟨⟨request, hRequest⟩, -, sent, hSent⟩ := h
  rw [RequestItem.prepareForNetwork, hRequest] at hSent
  obtain ⟨⟨msgHdr, parts, left⟩, hParts, -⟩ := exists_of_bind_ok hSent
  refine ⟨request, msgHdr, parts, left, hRequest, hParts, ?_⟩
  simp only [RequestItem.messageChunks, hRequest, hParts]
  rfl

end Messages

/-- Reads of the front of a stream of chunks yield the front of the chunks. -/
theorem receive_front (version : VSTVersion) (behind : ByteMemory.Pointer) (chunks : List ChunkHeader)
    (hSizes : ∀ c ∈ chunks, c.data.size + 24 < 2 ^ 32) (reads : List (List UInt8))
    (hStream : reads.flatten <+: chunks.flatMap (ChunkHeader.encode version)) :
    (Vst.receive version behind reads).1.map (fun i => i.chunk.wire) <+: chunks.map ChunkHeader.wire := by
  obtain ⟨back, hBack⟩ := hStream
  have hAll := (receive_encoded version behind chunks hSizes (reads ++ [back])
    (by rw [List.flatten_append, List.flatten_singleton, hBack])).1
  rw [Vst.receive, Framing.feed_append, List.map_append] at hAll
  exact ⟨_, hAll⟩

section Machine

variable {platform : Platform} {configuration : Configuration}
  {c : Config (Shared × List Observation) Frame}

end Machine

end Fuerte.Vst.Connection

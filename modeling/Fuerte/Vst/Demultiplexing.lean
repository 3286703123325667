import Mathlib.Data.List.Induction
import Fuerte.Vst.ProcessChunk

/-! # Demultiplexing of interleaved responses

The chunks of many responses arrive interleaved, those of one response in any
order. Each prefix of the arrivals has completed exactly the requests whose
chunks are all in it.
-/

namespace Fuerte.Vst

set_option autoImplicit false

/-- The item of a request that waits for its response. -/
structure Outstanding (inflight : Inflight) (id : MessageID) (item : RequestItem) : Prop where
  items : inflight.items id = some item
  messageID : item.messageID = id
  fresh : item.Fresh
  invoked : item.callback.invoked = false

/-- The chunks that carry a number, in order of arrival. -/
def chunksOf (id : MessageID) (chunks : List ChunkHeader) : List ChunkHeader :=
  chunks.filter fun c => c.messageID.toNat = id

def completion (platform : Platform) (item : RequestItem) (header : MessageHeader × Nat)
    (message : List UInt8) : Invocation where
  item := item.messageID
  owner := item.callback.cb
  error := 0
  request := item.request
  response := some ({ Response.ofHeader header.1 platform.uninitialised with
    messageID := item.messageID }.setPayload message header.2)
  held := []

theorem createResponse_ok {platform : Platform} {messageID : MessageID} {message : List UInt8}
    {header : MessageHeader × Nat}
    (h : validateAndExtractMessageHeader platform.vpack platform.assertions 1 message = .ok header) :
    createResponse platform messageID message = .ok ({ Response.ofHeader header.1
      platform.uninitialised with messageID }.setPayload message header.2) := by
  rw [createResponse, h]
  rfl

theorem chunksOf_append (id : MessageID) (front back : List ChunkHeader) :
    chunksOf id (front ++ back) = chunksOf id front ++ chunksOf id back := List.filter_append ..

theorem chunksOf_eq_nil {id : MessageID} {chunks : List ChunkHeader} :
    chunksOf id chunks = [] ↔ ∀ c ∈ chunks, c.messageID.toNat ≠ id := by
  simp [chunksOf]

theorem chunksOf_singleton (id : MessageID) (c : ChunkHeader) :
    chunksOf id [c] = if c.messageID.toNat = id then [c] else [] := by
  simp [chunksOf, List.filter_cons]

section Responses

variable (platform : Platform) (start : Inflight) (header : MessageID → MessageHeader × Nat)
  (messages : MessageID → List ChunkHeader)

/-- Where the request with number `id` stands when `arrived` has been processed
and `rest` is still to come. -/
structure Standing (arrived rest : List ChunkHeader) (now : Inflight) (id : MessageID) : Prop where
  waiting : ∀ item, id ∈ start.messageStore → Outstanding start id item → chunksOf id rest ≠ [] →
    id ∈ now.messageStore ∧ now.items id = some (item.addChunks (chunksOf id arrived)) ∧
      now.callsOf id = start.callsOf id
  completed : ∀ item, id ∈ start.messageStore → Outstanding start id item → chunksOf id rest = [] →
    id ∉ now.messageStore ∧ now.callsOf id = start.callsOf id ++
      [completion platform item (header id) (dataBytes (messages id))]
  unknown : id ∉ start.messageStore →
    id ∉ now.messageStore ∧ now.items id = start.items id ∧ now.callsOf id = start.callsOf id

/-- The interleaved chunks of one well-formed response for every stored request. -/
structure Responses (chunks : List ChunkHeader) : Prop where
  outstanding : ∀ id ∈ start.messageStore, ∃ item, Outstanding start id item
  nonempty : ∀ id ∈ start.messageStore, messages id ≠ []
  numbered : ∀ id ∈ start.messageStore, Numbered (messages id)
  header : ∀ id ∈ start.messageStore, validateAndExtractMessageHeader platform.vpack
    platform.assertions 1 (dataBytes (messages id)) = .ok (header id)
  interleaved : ∀ id ∈ start.messageStore, (chunksOf id chunks).Perm (messages id)

variable {platform start header messages} {arrived rest : List ChunkHeader} {now next : Inflight}
  {chunk : ChunkHeader} {id : MessageID}

theorem Standing.initial {chunks : List ChunkHeader}
    (hChunks : Responses platform start header messages chunks) (id : MessageID) :
    Standing platform start header messages [] chunks start id := by
  refine ⟨?_, ?_, fun hid => ⟨hid, rfl, rfl⟩⟩
  · intro item hid hItem _
    exact ⟨hid, hItem.items, rfl⟩
  · intro item hid _ hEmpty
    have hPerm := hChunks.interleaved id hid
    rw [hEmpty] at hPerm
    exact absurd hPerm.nil_eq.symm (hChunks.nonempty id hid)

/-- A step leaves a request where it is if it does not touch its number. -/
theorem Standing.frame (hid : chunk.messageID.toNat ≠ id)
    (h : Standing platform start header messages arrived (chunk :: rest) now id)
    (hStore : id ∈ next.messageStore ↔ id ∈ now.messageStore)
    (hItems : next.items id = now.items id) (hCalls : next.callsOf id = now.callsOf id) :
    Standing platform start header messages (arrived ++ [chunk]) rest next id := by
  have hArrived : chunksOf id (arrived ++ [chunk]) = chunksOf id arrived := by
    rw [chunksOf_append, chunksOf_singleton, if_neg hid, List.append_nil]
  have hRest : chunksOf id (chunk :: rest) = chunksOf id rest := by
    rw [← List.singleton_append, chunksOf_append, chunksOf_singleton, if_neg hid,
      List.nil_append]
  obtain ⟨hWaiting, hCompleted, hUnknown⟩ := h
  rw [hRest] at hWaiting hCompleted
  constructor
  · rwa [hArrived, hStore, hItems, hCalls]
  · rwa [hStore, hCalls]
  · rwa [hStore, hItems, hCalls]

theorem Responses.collected {item : RequestItem}
    (hChunks : Responses platform start header messages (arrived ++ chunk :: rest))
    (hid : id ∈ start.messageStore) (hItem : Outstanding start id item)
    (hChunk : chunk.messageID.toNat = id) :
    RequestItem.Collected (messages id).length
      ((item.addChunks (chunksOf id arrived)).addChunk chunk) (chunksOf id arrived ++ [chunk]) ∧
    (chunksOf id arrived ++ chunk :: chunksOf id rest).Perm (messages id) := by
  have hPerm : (chunksOf id arrived ++ chunk :: chunksOf id rest).Perm (messages id) := by
    have hInterleaved := hChunks.interleaved id hid
    rwa [chunksOf_append, ← List.singleton_append, chunksOf_append, chunksOf_singleton,
      if_pos hChunk, List.singleton_append] at hInterleaved
  have hNumber : ∀ c ∈ chunksOf id arrived ++ [chunk],
      c.isFirst = true → c.numberOfChunks.toNat = (messages id).length := by
    intro c hc
    refine (hChunks.numbered id hid).numberOfChunks c (hPerm.mem_iff.mp ?_)
    simp only [List.mem_append, List.mem_cons, List.not_mem_nil, or_false] at hc ⊢
    rcases hc with hc | hc
    · exact .inl hc
    · exact .inr (.inl hc)
  refine ⟨?_, hPerm⟩
  have hAdded := (hItem.fresh.collected (messages id).length).addChunks
    (chunksOf id arrived ++ [chunk]) hNumber
  rwa [List.nil_append, RequestItem.addChunks_append] at hAdded

/-- One more chunk brings every request to where it stands afterwards. -/
theorem Standing.step
    (hChunks : Responses platform start header messages (arrived ++ chunk :: rest))
    (h : ∀ id, Standing platform start header messages arrived (chunk :: rest) now id) :
    ∃ next, processChunk platform now chunk = (next, none) ∧
      ∀ id, Standing platform start header messages (arrived ++ [chunk]) rest next id := by
  by_cases hKnown : chunk.messageID.toNat ∈ start.messageStore
  · obtain ⟨item, hItem⟩ := hChunks.outstanding _ hKnown
    have hComing : chunksOf chunk.messageID.toNat (chunk :: rest) ≠ [] := by
      rw [ne_eq, chunksOf_eq_nil]
      exact fun hNone => hNone chunk List.mem_cons_self rfl
    obtain ⟨hStored, hNow, hCalls⟩ := (h _).waiting item hKnown hItem hComing
    obtain ⟨hCollected, hPerm⟩ := hChunks.collected hKnown hItem rfl
    have hFrame := RequestItem.addChunks_frame item (chunksOf chunk.messageID.toNat arrived)
    generalize hPartial : item.addChunks (chunksOf chunk.messageID.toNat arrived) = part at *
    have hArrived : chunksOf chunk.messageID.toNat (arrived ++ [chunk]) =
        chunksOf chunk.messageID.toNat arrived ++ [chunk] := by
      rw [chunksOf_append, chunksOf_singleton, if_pos rfl]
    have hID : part.messageID = chunk.messageID.toNat := hFrame.2.2.trans hItem.messageID
    by_cases hRest : chunksOf chunk.messageID.toNat rest = []
    · -- nothing is missing any more
      rw [hRest] at hPerm
      have hLength := List.length_pos_iff.mpr (hChunks.nonempty _ hKnown)
      obtain ⟨kept, hComplete⟩ := RequestItem.assemble_of_all platform (hChunks.numbered _ hKnown)
        hLength hCollected hPerm
      obtain ⟨done, hProcessed⟩ := processChunk_of_complete (hID ▸ hStored) (hID ▸ hNow) hID.symm
        (hFrame.2.1 ▸ hItem.invoked) hComplete ⟨rfl, rfl, rfl⟩
        (createResponse_ok (hChunks.header _ hKnown))
      refine ⟨_, hProcessed, fun id => ?_⟩
      rw [hID]
      by_cases hid : chunk.messageID.toNat = id
      · subst hid
        refine ⟨fun _ _ _ hMore => absurd hRest hMore, ?_, fun hUnknown => absurd hKnown hUnknown⟩
        intro other _ hOther _
        obtain rfl : item = other := Option.some.inj (hItem.items.symm.trans hOther.items)
        refine ⟨by simp, ?_⟩
        rw [← hCalls]
        simp only [Inflight.callsOf, List.filter_append, completion, hFrame.1, hFrame.2.1,
          hItem.messageID]
        rw [List.filter_cons_of_pos (by simp), List.filter_nil]
      · refine (h id).frame hid ?_ ?_ ?_
        · simp [Ne.symm hid]
        · exact Function.update_of_ne (Ne.symm hid) _ _
        · simp [Inflight.callsOf, hid]
    · -- another chunk is still to come
      have hMissing := RequestItem.assemble_of_missing platform hCollected (by
        rw [← hPerm.length_eq]
        simp only [List.length_append, List.length_cons, List.length_nil]
        have := List.length_pos_iff.mpr hRest
        omega)
      have hProcessed := processChunk_of_missing (hID ▸ hStored) (hID ▸ hNow) hID.symm hMissing
      refine ⟨_, hProcessed, fun id => ?_⟩
      rw [hID]
      by_cases hid : chunk.messageID.toNat = id
      · subst hid
        refine ⟨?_, fun _ _ _ hNone => absurd hNone hRest, fun hUnknown => absurd hKnown hUnknown⟩
        intro other _ hOther _
        obtain rfl : item = other := Option.some.inj (hItem.items.symm.trans hOther.items)
        refine ⟨hStored, ?_, hCalls⟩
        rw [hArrived, RequestItem.addChunks_append, hPartial]
        exact Function.update_self ..
      · refine (h id).frame hid Iff.rfl ?_ rfl
        exact Function.update_of_ne (Ne.symm hid) _ _
  · refine ⟨now, processChunk_of_unknown ((h _).unknown hKnown).1, fun id => ?_⟩
    by_cases hid : chunk.messageID.toNat = id
    · subst hid
      exact ⟨fun _ hStore => absurd hStore hKnown, fun _ hStore => absurd hStore hKnown,
        (h _).unknown⟩
    · exact (h id).frame hid Iff.rfl rfl rfl

theorem processChunks_standing {chunks : List ChunkHeader}
    (hChunks : Responses platform start header messages chunks) (arrived rest : List ChunkHeader)
    (hSplit : chunks = arrived ++ rest) :
    ∃ now, processChunks platform start arrived = (now, none) ∧
      ∀ id, Standing platform start header messages arrived rest now id := by
  induction arrived using List.reverseRecOn generalizing rest with
  | nil =>
    rw [List.nil_append] at hSplit
    exact ⟨start, rfl, fun id => hSplit ▸ Standing.initial hChunks id⟩
  | append_singleton arrived chunk ih =>
    rw [List.append_assoc, List.singleton_append] at hSplit
    obtain ⟨now, hNow, hStanding⟩ := ih (chunk :: rest) hSplit
    obtain ⟨next, hNext, hAfter⟩ := Standing.step (hSplit ▸ hChunks) hStanding
    exact ⟨next, (processChunks_append_singleton hNow chunk).trans hNext, hAfter⟩

end Responses

/-- Whatever the interleaving of the chunks of all responses, after each of its
prefixes `arrived` exactly the requests without a chunk in `rest` have been
completed, each by one call with its own response, and no other number has been
touched. -/
theorem demultiplexing (platform : Platform) (start : Inflight)
    (header : MessageID → MessageHeader × Nat) (messages : MessageID → List ChunkHeader)
    (arrived rest : List ChunkHeader)
    (hChunks : Responses platform start header messages (arrived ++ rest)) :
    ∃ now, processChunks platform start arrived = (now, none) ∧
      (∀ id ∈ start.messageStore, ∃ item, start.items id = some item ∧
        if ∃ c ∈ rest, c.messageID.toNat = id then
          id ∈ now.messageStore ∧ now.callsOf id = start.callsOf id
        else
          id ∉ now.messageStore ∧ now.callsOf id = start.callsOf id ++
            [completion platform item (header id) (dataBytes (messages id))]) ∧
      (∀ id, id ∉ start.messageStore → id ∉ now.messageStore ∧ now.items id = start.items id ∧
        now.callsOf id = start.callsOf id) ∧
      ∀ chunk : ChunkHeader, chunk.messageID.toNat ∉ now.messageStore →
        processChunk platform now chunk = (now, none) := by
  obtain ⟨now, hNow, hStanding⟩ := processChunks_standing hChunks arrived rest rfl
  refine ⟨now, hNow, fun id hid => ?_, fun id hid => (hStanding id).unknown hid,
    fun chunk hUnknown => processChunk_of_unknown hUnknown⟩
  obtain ⟨item, hItem⟩ := hChunks.outstanding id hid
  refine ⟨item, hItem.items, ?_⟩
  have hNone : chunksOf id rest = [] ↔ ¬ ∃ c ∈ rest, c.messageID.toNat = id := by
    rw [chunksOf_eq_nil]
    push Not
    exact Iff.rfl
  split
  · rename_i hComing
    obtain ⟨hStore, _, hCalls⟩ :=
      (hStanding id).waiting item hid hItem fun hEmpty => hNone.mp hEmpty hComing
    exact ⟨hStore, hCalls⟩
  · rename_i hComing
    exact (hStanding id).completed item hid hItem (hNone.mpr hComing)

/-- A chunk as a server sends it. -/
def serverChunk (messageID : UInt64) (chunkX : UInt32) (data : List UInt8) : ChunkHeader :=
  { chunkX, messageID, data := ConstBuffer.ofList data }

/-- The header of a response with code 200, and nothing behind it. -/
def okMessage : List UInt8 := VelocyPack.short.build (.array [.int 1, .int 2, .uint 200])

/-- Two requests wait for their responses. -/
def twoRequests : Inflight where
  items id := if id = 1 ∨ id = 2 then some { versionItem with messageID := id } else none
  messageStore := [1, 2]
  calls := []

/-- Their responses, the first one in two chunks. -/
def twoResponses (id : MessageID) : List ChunkHeader :=
  if id = 1 then [serverChunk 1 5 (okMessage.take 4), serverChunk 1 2 (okMessage.drop 4)]
  else [serverChunk 2 3 okMessage]

/-- The second chunk of the first response overtakes the first one, and the other
response comes in between. -/
def twoResponsesInterleaved : List ChunkHeader :=
  [serverChunk 1 2 (okMessage.drop 4), serverChunk 2 3 okMessage,
    serverChunk 1 5 (okMessage.take 4)]

def okHeader : MessageHeader × Nat :=
  (validateAndExtractMessageHeader .short true 1 okMessage).toOption.getD ({}, 0)

theorem responses_twoRequests :
    Responses shortPlatform twoRequests (fun _ => okHeader) twoResponses twoResponsesInterleaved := by
  have hCases : ∀ id ∈ twoRequests.messageStore, id = 1 ∨ id = 2 := by
    intro id hid
    simpa [twoRequests] using hid
  constructor <;> intro id hid <;> rcases hCases id hid with rfl | rfl
  · exact ⟨{ versionItem with messageID := 1 }, rfl, rfl, ⟨rfl, rfl, rfl⟩, rfl⟩
  · exact ⟨{ versionItem with messageID := 2 }, rfl, rfl, ⟨rfl, rfl, rfl⟩, rfl⟩
  · exact List.cons_ne_nil _ _
  · exact List.cons_ne_nil _ _
  · rintro (_ | _ | k) hk
    · rfl
    · rfl
    · exact absurd hk (Nat.not_lt.mpr (Nat.le_add_left 2 k))
  · rintro (_ | k) hk
    · rfl
    · exact absurd hk (Nat.not_lt.mpr (Nat.le_add_left 1 k))
  · rfl
  · rfl
  · exact List.Perm.swap _ _ _
  · exact List.Perm.refl _

theorem demultiplexing_two_requests :
    ∃ now, processChunks shortPlatform twoRequests twoResponsesInterleaved = (now, none) ∧
      ∀ id ∈ twoRequests.messageStore, id ∉ now.messageStore := by
  obtain ⟨now, hNow, hCompleted, -⟩ := demultiplexing shortPlatform twoRequests (fun _ => okHeader)
    twoResponses twoResponsesInterleaved [] (by
      rw [List.append_nil]
      exact responses_twoRequests)
  refine ⟨now, hNow, fun id hid => ?_⟩
  obtain ⟨item, _, hDone⟩ := hCompleted id hid
  rw [if_neg (by simp)] at hDone
  exact hDone.1

end Fuerte.Vst

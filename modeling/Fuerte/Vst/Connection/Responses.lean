import Fuerte.Vst.Demultiplexing
import Fuerte.Vst.Connection.Items
import Fuerte.Vst.Connection.Peer
import Fuerte.Vst.Connection.ReceivedStream

/-! # Where responses come from

A response that a callback gets has been assembled from chunks of the streams with the
number of its request. From a server that numbers its chunks as the driver does and sends
none of them twice, every callback thus gets what the server has sent for its request.
-/

namespace Fuerte.Vst

set_option autoImplicit false

/-! ## Items and the chunks they have seen -/

/-- The number of chunks that the last first chunk among these announces. -/
def announced (arrived : List ChunkHeader) : Nat :=
  arrived.foldl (fun number chunk =>
    if chunk.isFirst then chunk.numberOfChunks.toNat else number) 0

theorem announced_append_singleton (arrived : List ChunkHeader) (chunk : ChunkHeader) :
    announced (arrived ++ [chunk]) =
      if chunk.isFirst then chunk.numberOfChunks.toNat else announced arrived := by
  rw [announced, List.foldl_append]
  rfl

theorem exists_of_announced {arrived : List ChunkHeader} (h : announced arrived ≠ 0) :
    ∃ chunk ∈ arrived, chunk.isFirst = true ∧ announced arrived = chunk.numberOfChunks.toNat := by
  induction arrived using List.reverseRecOn with
  | nil => exact absurd rfl h
  | append_singleton arrived chunk ih =>
    rw [announced_append_singleton] at h ⊢
    split at h
    · rename_i hFirst
      exact ⟨chunk, by simp, hFirst, if_pos hFirst⟩
    · rename_i hFirst
      obtain ⟨other, hOther, hOtherFirst, hNumber⟩ := ih h
      exact ⟨other, by simp [hOther], hOtherFirst, (if_neg hFirst).trans hNumber⟩

/-- The item has seen these chunks, and keeps them in any order. -/
structure RequestItem.Gathered (item : RequestItem) (arrived : List ChunkHeader) : Prop where
  stored : ∃ order : List ChunkHeader, order.Perm arrived ∧
    List.Forall₂ (Stored item.responseChunkContent) item.responseChunks order
  number : item.responseNumberOfChunks = announced arrived

/-- There is a first chunk, and there are as many chunks as it announces. -/
def Ready (arrived : List ChunkHeader) : Prop :=
  announced arrived ≠ 0 ∧ announced arrived ≤ arrived.length

/-- A message made of these chunks. -/
structure Assembled (arrived : List ChunkHeader) (buffer : List UInt8) : Prop where
  ready : Ready arrived
  content : ∃ order : List ChunkHeader, order.Perm arrived ∧
    (order.Pairwise fun a b => a.key ≤ b.key) ∧ buffer = dataBytes order

section Items

variable {item after : RequestItem} {arrived : List ChunkHeader} {chunk : ChunkHeader}

theorem RequestItem.Fresh.gathered (h : item.Fresh) : item.Gathered [] := by
  obtain ⟨hChunks, -, hNumber⟩ := h
  refine ⟨⟨[], .nil, ?_⟩, hNumber⟩
  rw [hChunks]
  exact .nil

/-- What an item keeps of the chunks it has seen. -/
structure RequestItem.SameChunks (item after : RequestItem) : Prop where
  chunks : after.responseChunks = item.responseChunks
  content : after.responseChunkContent = item.responseChunkContent
  number : after.responseNumberOfChunks = item.responseNumberOfChunks

theorem RequestItem.Gathered.of_same (h : item.Gathered arrived) (hSame : item.SameChunks after) :
    after.Gathered arrived := by
  obtain ⟨hChunks, hContent, hNumber⟩ := hSame
  constructor
  · rw [hChunks, hContent]
    exact h.stored
  · rw [hNumber]
    exact h.number

theorem RequestItem.Gathered.addChunk (h : item.Gathered arrived) (chunk : ChunkHeader) :
    (item.addChunk chunk).Gathered (arrived ++ [chunk]) := by
  obtain ⟨⟨order, hPerm, hStored⟩, hNumber⟩ := h
  constructor
  · exact ⟨order ++ [chunk], hPerm.append_right _, stored_addChunk hStored chunk⟩
  · rw [announced_append_singleton]
    simp only [RequestItem.addChunk, hNumber]

theorem RequestItem.Gathered.assemble (h : item.Gathered arrived) (platform : Platform) :
    (item.assemble platform).2.Gathered arrived ∧
      (Ready arrived → (item.assemble platform).1 ≠ none) ∧
      ∀ buffer, (item.assemble platform).1 = some buffer → Assembled arrived buffer := by
  obtain ⟨⟨order, hPerm, hStored⟩, hNumber⟩ := h
  have hSame : item.Gathered arrived := ⟨⟨order, hPerm, hStored⟩, hNumber⟩
  have hLength : item.responseChunks.length = arrived.length :=
    hStored.length_eq.trans hPerm.length_eq
  rw [RequestItem.assemble]
  split
  · rename_i hNone
    rw [hNumber] at hNone
    exact ⟨hSame, fun hReady => absurd hNone hReady.1, by simp⟩
  · rename_i hKnown
    rw [hNumber] at hKnown
    split
    · rename_i hFew
      rw [hNumber, hLength] at hFew
      exact ⟨hSame, fun hReady => absurd hReady.2 (Nat.not_le_of_lt hFew), by simp⟩
    · rename_i hComplete
      rw [hNumber, hLength] at hComplete
      obtain ⟨sorted, hKept, hSorted⟩ :
          Relation.Comp (List.Forall₂ (Stored item.responseChunkContent)) List.Perm
            (platform.sort.run item.responseChunks) order := by
        rw [List.forall₂_comp_perm_eq_perm_comp_forall₂]
        exact ⟨item.responseChunks, platform.sort.perm _, hStored⟩
      refine ⟨⟨⟨sorted, hSorted.trans hPerm, hKept⟩, hNumber⟩, fun _ => Option.some_ne_none _, ?_⟩
      rintro buffer ⟨⟩
      constructor
      · exact ⟨hKnown, Nat.le_of_not_lt hComplete⟩
      · refine ⟨sorted, hSorted.trans hPerm, ?_, flatMap_stored hKept⟩
        have hKeys := List.pairwise_map.mpr (platform.sort.sorted item.responseChunks)
        rw [map_key_of_stored hKept] at hKeys
        exact List.pairwise_map.mp hKeys

end Items

/-! ## A message from a numbered list of chunks -/

section Numbered

variable {arrived messages : List ChunkHeader} {buffer : List UInt8}

theorem exists_perm_of_wires (h : (arrived.map ChunkHeader.wire).Perm (messages.map ChunkHeader.wire)) :
    ∃ order : List ChunkHeader, order.Perm arrived ∧
      order.map ChunkHeader.wire = messages.map ChunkHeader.wire := by
  have hSame (l : List ChunkHeader) :
      List.Forall₂ (fun chunk wire => ChunkHeader.wire chunk = wire) l (l.map ChunkHeader.wire) := by
    rw [List.forall₂_map_right_iff]
    exact List.forall₂_same.mpr fun _ _ => rfl
  obtain ⟨order, hPerm, hWires⟩ :
      Relation.Comp List.Perm (List.Forall₂ fun chunk wire => ChunkHeader.wire chunk = wire)
        arrived (messages.map ChunkHeader.wire) := by
    rw [← List.forall₂_comp_perm_eq_perm_comp_forall₂]
    exact ⟨arrived.map ChunkHeader.wire, hSame arrived, h⟩
  refine ⟨order, hPerm.symm, ?_⟩
  rw [← List.forall₂_eq_eq_eq, List.forall₂_map_left_iff]
  exact hWires

theorem announced_of_wires (hNumbered : Numbered messages) (hKnown : announced arrived ≠ 0)
    (hFrom : ∀ chunk ∈ arrived, chunk.wire ∈ messages.map ChunkHeader.wire) :
    announced arrived = messages.length := by
  obtain ⟨chunk, hChunk, hFirst, hNumber⟩ := exists_of_announced hKnown
  obtain ⟨sent, hSent, hWire⟩ := List.mem_map.mp (hFrom chunk hChunk)
  have hChunkX : sent.chunkX = chunk.chunkX := congrArg WireChunk.chunkX hWire
  have hSentFirst : sent.isFirst = true := by
    rwa [ChunkHeader.isFirst, hChunkX]
  have hSentNumber := hNumbered.numberOfChunks sent hSent hSentFirst
  rw [hNumber, ← hSentNumber, ChunkHeader.numberOfChunks, ChunkHeader.numberOfChunks, hChunkX]

/-- Chunks that come from a numbered list, each at most once, are assembled only when all
are there, and then into the message of the list. -/
theorem Assembled.eq_dataBytes (h : Assembled arrived buffer) (hNumbered : Numbered messages)
    (hFrom : (arrived.map ChunkHeader.wire).Subperm (messages.map ChunkHeader.wire)) :
    buffer = dataBytes messages := by
  obtain ⟨⟨hKnown, hComplete⟩, order, hOrder, hSorted, rfl⟩ := h
  have hNumber := announced_of_wires hNumbered hKnown fun chunk hChunk =>
    hFrom.subset (List.mem_map_of_mem hChunk)
  have hAll : (arrived.map ChunkHeader.wire).Perm (messages.map ChunkHeader.wire) := by
    apply hFrom.perm_of_length_le
    rw [List.length_map, List.length_map]
    omega
  obtain ⟨target, hTarget, hWires⟩ := exists_perm_of_wires hAll
  obtain ⟨hTargetNumbered, hData, -⟩ := hNumbered.of_wire hWires
  rw [← hData, Sorting.eq_of_perm (hOrder.trans hTarget.symm) hSorted hTargetNumbered.pairwise_key]

end Numbered

end Fuerte.Vst

namespace Fuerte.Vst.Connection

set_option autoImplicit false

open Interleaving

/-! ## Chunks on their way to an item -/

def Receipt.added? : Receipt → Option ChunkHeader
  | .added chunk => some chunk
  | _ => none

/-- The chunks with this number that have been added to its item. -/
def addedTo (id : MessageID) (notes : List Receipt) : List ChunkHeader :=
  chunksOf id (notes.filterMap Receipt.added?)

/-- The chunks that any loop has found. -/
def allFound (notes : List Receipt) : List ChunkHeader :=
  (notes.filterMap Receipt.find?).map Prod.snd

@[simp] theorem addedTo_append (id : MessageID) (notes more : List Receipt) :
    addedTo id (notes ++ more) = addedTo id notes ++ addedTo id more := by
  rw [addedTo, List.filterMap_append, chunksOf_append]
  rfl

@[simp] theorem allFound_append (notes more : List Receipt) :
    allFound (notes ++ more) = allFound notes ++ allFound more := by
  simp [allFound]

theorem addedTo_added (id : MessageID) (chunk : ChunkHeader) :
    addedTo id [.added chunk] = if chunk.messageID.toNat = id then [chunk] else [] :=
  chunksOf_singleton id chunk

/-- The chunk that `processChunk` is at. -/
def inHand : Frame → Option ChunkHeader
  | .findItem chunk | .addChunk _ chunk => some chunk
  | _ => none

/-- No chunk is handled that has not been found, and none is handled twice. -/
def Handled (frames : Multiset Frame) (notes : List Receipt) : Prop :=
  (↑(notes.filterMap Receipt.added?) : Multiset ChunkHeader) + carried inHand frames ≤ ↑(allFound notes)

/-- The message has been assembled from chunks added to the item. -/
def CompletedBy (id : MessageID) (notes : List Receipt) (buffer : List UInt8) : Prop :=
  ∃ arrived, arrived <+: addedTo id notes ∧ Assembled arrived buffer

/-- The response has been made of a message assembled from chunks added to the item. -/
def AnsweredBy (platform : Platform) (id : MessageID) (notes : List Receipt) (response : Response) :
    Prop :=
  ∃ buffer, CompletedBy id notes buffer ∧ Vst.createResponse platform id buffer = .ok response

/-- What a frame that completes a request relies on. -/
def Warranted (platform : Platform) (notes : List Receipt) : Frame → Prop
  | .addChunk id chunk => chunk.messageID.toNat = id
  | .removeCompleted id buffer | .createResponse id buffer => CompletedBy id notes buffer
  | .moveRequest id error (some response) | .invoke id error _ (some response) =>
    error = .noError ∧ AnsweredBy platform id notes response
  | _ => True

/-- The frames that lead to the callback of an item. -/
def leadsToCallback (id : MessageID) : Frame → Nat
  | .removeCompleted v _ | .createResponse v _ | .moveRequest v _ _ | .invoke v _ _ _ =>
    if v = id then 1 else 0
  | _ => 0

structure Responds (platform : Platform) (s : Shared) (frames : Multiset Frame)
    (notes : List Receipt) : Prop where
  fresh : ∀ id, s.items id = none → addedTo id notes = []
  items : ∀ id item, s.items id = some item → item.Gathered (addedTo id notes)
  warranted : ∀ frame ∈ frames, Warranted platform notes frame
  calls : ∀ call ∈ s.calls, ∀ response, call.response = some response →
    call.error = 0 ∧ AnsweredBy platform call.item notes response
  completed : ∀ id item, s.items id = some item → Ready (addedTo id notes) →
    item.callback.invoked = true ∨ 0 < load (leadsToCallback id) frames

section Steps

variable {platform : Platform} {configuration : Configuration} {thread : Nat} {frame : Frame}
  {choice : Choice} {s s' : Shared} {rest before after : Multiset Frame} {frames : List Frame}
  {spawned : List (List Frame)} {notes more : List Receipt} {id : MessageID}

theorem CompletedBy.mono {buffer : List UInt8} (h : CompletedBy id notes buffer) (more : List Receipt) :
    CompletedBy id (notes ++ more) buffer := by
  obtain ⟨arrived, hFront, hAssembled⟩ := h
  refine ⟨arrived, ?_, hAssembled⟩
  rw [addedTo_append]
  exact hFront.trans (List.prefix_append _ _)

theorem AnsweredBy.mono {response : Response} (h : AnsweredBy platform id notes response)
    (more : List Receipt) : AnsweredBy platform id (notes ++ more) response := by
  obtain ⟨buffer, hCompleted, hResponse⟩ := h
  exact ⟨buffer, hCompleted.mono more, hResponse⟩

theorem Warranted.mono (h : Warranted platform notes frame) (more : List Receipt) :
    Warranted platform (notes ++ more) frame := by
  cases frame <;> simp only [Warranted] at h ⊢
  case addChunk => exact h
  case removeCompleted | createResponse => exact h.mono more
  case moveRequest id error response | invoke id error request response =>
    cases response with
    | none => trivial
    | some response => exact ⟨h.1, h.2.mono more⟩

theorem Warranted.invoke {error : ErrorCondition} {response : Option Response}
    (h : Warranted platform notes (.moveRequest id error response)) (request : Option Request) :
    Warranted platform notes (.invoke id error request response) := by
  cases response <;> exact h

/-! ## What a step does to the chunks of an item -/

theorem prepareForNetwork_sameChunks {vpack : VelocyPack} {version : VSTVersion}
    {item prepared : RequestItem} (h : item.prepareForNetwork vpack version = .ok prepared) :
    item.SameChunks prepared := by
  rw [RequestItem.prepareForNetwork] at h
  split at h
  · cases h
  · obtain ⟨⟨msgHdr, slices, left⟩, -, h⟩ := exists_of_bind_ok h
    cases h
    exact ⟨rfl, rfl, rfl⟩

theorem createItem_fresh {request : Request} {cb : CallbackOwner}
    (h : createItem platform configuration s request cb = (s', .ok id)) :
    ∃ item, s'.items = Function.update s.items (s.messageID + 1) (some item) ∧ item.Fresh := by
  simp only [createItem] at h
  split at h
  · cases h
  · rename_i item hItem
    cases h
    obtain ⟨hChunks, hContent, hNumber⟩ := prepareForNetwork_sameChunks hItem
    exact ⟨item, rfl, hChunks, hContent, hNumber⟩

/-- The items keep their chunks, and a new item has none. -/
def KeepsChunks (s s' : Shared) : Prop :=
  ∀ id after, s'.items id = some after →
    (∃ item, s.items id = some item ∧ item.SameChunks after) ∨ id = s.messageID + 1 ∧ after.Fresh

theorem KeepsChunks.of_same (h : s'.items = s.items) : KeepsChunks s s' := by
  intro id after hAfter
  exact .inl ⟨after, h ▸ hAfter, rfl, rfl, rfl⟩

theorem KeepsChunks.of_update {item changed : RequestItem} (hItem : s.items id = some item)
    (hItems : s'.items = Function.update s.items id (some changed)) (hSame : item.SameChunks changed) :
    KeepsChunks s s' := by
  intro other after hAfter
  rw [hItems, Function.update_apply] at hAfter
  split at hAfter
  · rename_i hEq
    cases hAfter
    exact .inl ⟨item, hEq ▸ hItem, hSame⟩
  · exact .inl ⟨after, hAfter, rfl, rfl, rfl⟩

theorem KeepsChunks.of_created {item : RequestItem}
    (hItems : s'.items = Function.update s.items (s.messageID + 1) (some item)) (hFresh : item.Fresh) :
    KeepsChunks s s' := by
  intro other after hAfter
  rw [hItems, Function.update_apply] at hAfter
  split at hAfter
  · rename_i hEq
    cases hAfter
    exact .inr ⟨hEq, hFresh⟩
  · exact .inl ⟨after, hAfter, rfl, rfl, rfl⟩

theorem keepsChunks_of_perform
    (h : perform platform configuration thread frame choice s = some (s', frames, spawned))
    (hAdd : ∀ id chunk, frame ≠ .addChunk id chunk) : KeepsChunks s s' := by
  have hStep : Step platform configuration thread frame choice s s' frames spawned :=
    step_of_perform h
  cases frame
  case createRequestItem request =>
    simp only [perform, createRequestItem, Shared.next] at h
    split at h
    · rename_i hItem
      obtain rfl := createItem_error hItem
      cases h
      exact .of_same rfl
    · rename_i hItem
      obtain ⟨item, hItems, hFresh⟩ := createItem_fresh hItem
      cases h
      exact .of_created hItems hFresh
  case insertAuthenticationRequests =>
    simp only [perform, insertAuthenticationRequests, Shared.next, Shared.throw] at h
    split at h
    · cases h
      exact .of_same rfl
    · split at h
      · rename_i hItem
        exact absurd hItem createItem_authenticationRequest
      · rename_i hItem
        obtain ⟨item, hItems, hFresh⟩ := createItem_fresh hItem
        cases h
        exact .of_created hItems hFresh
    · cases h
      exact .of_same rfl
  case addChunk id chunk => exact absurd rfl (hAdd id chunk)
  case requestWritten w id =>
    cases hStep
    case throws => exact .of_same rfl
    intro other after hAfter
    simp only [Shared.updateItem, Shared.updateWriteLoop, Function.update_apply] at hAfter
    split at hAfter
    · rename_i hEq
      obtain ⟨item, hItem, rfl⟩ := Option.map_eq_some_iff.mp hAfter
      exact .inl ⟨item, hEq ▸ hItem, rfl, rfl, rfl⟩
    · exact .inl ⟨after, hAfter, rfl, rfl, rfl⟩
  all_goals cases hStep
  case moveRequest.moveRequest hItem | invoke.invokeUser hItem | invoke.invokeAuthentication hItem =>
    exact .of_update hItem rfl ⟨rfl, rfl, rfl⟩
  all_goals exact .of_same rfl

/-! ## One step -/

theorem Handled.of_same (hI : Handled before notes)
    (hCarried : carried inHand after ≤ carried inHand before) : Handled after notes :=
  (add_le_add_right hCarried _).trans hI

theorem Handled.noting (hI : Handled before notes) (hAdded : more.filterMap Receipt.added? = [])
    (hFound : allFound more = []) : Handled before (notes ++ more) := by
  rw [Handled, List.filterMap_append, allFound_append, hAdded, hFound, List.append_nil, List.append_nil]
  exact hI

theorem Handled.found {r : LoopID} (hI : Handled (.inspect r ::ₘ rest) notes) (v : LoopID)
    (chunk : ChunkHeader) : Handled (.findItem chunk ::ₘ rest) (notes ++ [.found v chunk]) := by
  have hAdded : [Receipt.found v chunk].filterMap Receipt.added? = [] := rfl
  have hFound : allFound [.found v chunk] = [chunk] := rfl
  have hBefore : (↑(notes.filterMap Receipt.added?) : Multiset ChunkHeader) + carried inHand rest ≤
      ↑(allFound notes) := by
    simpa [Handled, inHand] using hI
  rw [Handled, List.filterMap_append, allFound_append, hAdded, hFound, List.append_nil, carried_cons,
    ← Multiset.coe_add, add_left_comm, add_comm (↑(allFound notes) : Multiset ChunkHeader)]
  exact add_le_add_right hBefore _

theorem Handled.added {id : MessageID} {chunk : ChunkHeader}
    (hI : Handled (.addChunk id chunk ::ₘ rest) notes) : Handled rest (notes ++ [.added chunk]) := by
  have hAdded : [Receipt.added chunk].filterMap Receipt.added? = [chunk] := rfl
  have hFound : allFound [.added chunk] = [] := rfl
  rw [Handled, List.filterMap_append, allFound_append, hAdded, hFound, List.append_nil,
    ← Multiset.coe_add, add_assoc]
  rw [Handled, carried_cons] at hI
  exact hI

theorem Handled.step (hI : Handled (frame ::ₘ rest) notes)
    (h : perform platform configuration thread frame choice s = some (s', frames, spawned)) :
    Handled (↑(frames ++ spawned.flatten) + rest)
      (notes ++ receipts platform configuration frame choice s) := by
  have hStep : Step platform configuration thread frame choice s s' frames spawned :=
    step_of_perform h
  cases frame
  case inspect r =>
    simp only [perform, inspect, Shared.next] at h
    split at h
    · rename_i hNone
      cases h
      simp only [receipts, hNone, List.append_nil]
      exact hI.of_same (by simp [inHand])
    · rename_i iteration ahead hSome
      cases h
      have hNoted : receipts platform configuration (.inspect r) choice s =
          [.found r iteration.chunk] := by
        simp only [receipts, hSome]
      rw [hNoted]
      apply (hI.found r iteration.chunk).of_same
      simp [inHand]
  case awaitRead r =>
    apply Handled.noting
    · apply hI.of_same
      cases hStep <;> simp [inHand]
    · cases choice <;> rfl
    · cases choice <;> rfl
  case addChunk id chunk =>
    apply hI.added.of_same
    simp only [perform, addChunk, Shared.next] at h
    split at h
    · cases h
    · split at h <;> cases h <;> simp [inHand]
  case findItem chunk =>
    simp only [receipts, List.append_nil]
    apply hI.of_same
    cases hStep <;> simp [inHand, Multiset.le_cons_self]
  all_goals
    simp only [receipts, List.append_nil]
    apply hI.of_same
    cases hStep <;> simp [inHand]

theorem addedTo_receipts (hAdd : ∀ id chunk, frame ≠ .addChunk id chunk) (id : MessageID) :
    addedTo id (receipts platform configuration frame choice s) = [] := by
  cases frame <;> simp only [receipts]
  case awaitRead => cases choice <;> rfl
  case inspect => split <;> rfl
  case addChunk other chunk => exact absurd rfl (hAdd other chunk)
  all_goals rfl

theorem calls_of_invocation (h : Step platform configuration thread frame choice s s' frames spawned) :
    s'.calls = s.calls ∨ ∃ call id error request response, frame = .invoke id error request response ∧
      s'.calls = s.calls ++ [call] ∧ call.item = id ∧ call.error = errorToInt error ∧
      call.response = response := by
  cases h
  case invokeUser | invokeAuthentication => exact .inr ⟨_, _, _, _, _, rfl, rfl, rfl, rfl, rfl⟩
  all_goals exact .inl rfl

theorem Responds.calls_step (hI : Responds platform s (frame ::ₘ rest) notes)
    (h : Step platform configuration thread frame choice s s' frames spawned) (more : List Receipt) :
    ∀ call ∈ s'.calls, ∀ response, call.response = some response →
      call.error = 0 ∧ AnsweredBy platform call.item (notes ++ more) response := by
  have hOld : ∀ call ∈ s.calls, ∀ response, call.response = some response →
      call.error = 0 ∧ AnsweredBy platform call.item (notes ++ more) response := by
    intro call hCall response hResponse
    obtain ⟨hError, hAnswered⟩ := hI.calls call hCall response hResponse
    exact ⟨hError, hAnswered.mono more⟩
  rcases calls_of_invocation h with hSame | ⟨new, id, error, request, response, rfl, hCalls, rfl, hError, rfl⟩
  · rwa [hSame]
  · intro call hCall response hResponse
    rw [hCalls] at hCall
    rcases List.mem_append.mp hCall with hBefore | hNew
    · exact hOld call hBefore response hResponse
    · obtain rfl := List.mem_singleton.mp hNew
      have hFrame := hI.warranted _ (Multiset.mem_cons_self _ _)
      rw [hResponse] at hFrame
      obtain ⟨rfl, hAnswered⟩ := hFrame
      exact ⟨hError, hAnswered.mono more⟩

/-- The frames of a step that does not add a chunk. -/
theorem warranted_of_perform
    (h : perform platform configuration thread frame choice s = some (s', frames, spawned))
    (hAdd : ∀ id chunk, frame ≠ .addChunk id chunk) (hFrame : Warranted platform notes frame) :
    ∀ next ∈ frames ++ spawned.flatten, Warranted platform notes next := by
  have hStep : Step platform configuration thread frame choice s s' frames spawned :=
    step_of_perform h
  intro next hNext
  cases frame
  case createResponse id buffer =>
    simp only [perform, createResponseFor, Shared.next, Shared.throw] at h
    split at h
    · cases h
      rw [List.mem_singleton.mp hNext]
      exact hFrame
    · rename_i response hResponse
      cases h
      rw [List.mem_singleton.mp hNext]
      exact ⟨rfl, buffer, hFrame, hResponse⟩
  case addChunk id chunk => exact absurd rfl (hAdd id chunk)
  all_goals cases hStep
  case removeCompleted.throws | removeCompleted.removeCompleted | moveRequest.throws | invoke.throws =>
    rw [List.mem_singleton.mp hNext]
    exact hFrame
  case moveRequest.moveRequest =>
    rw [List.mem_singleton.mp hNext]
    exact hFrame.invoke _
  case findItem.findItem =>
    rw [List.mem_singleton.mp hNext]
    exact rfl
  all_goals
    simp only [List.flatten_nil, List.flatten_cons, List.append_nil, List.cons_append, List.nil_append,
      List.mem_cons, List.not_mem_nil, or_false] at hNext
  all_goals first
    | (subst hNext; exact trivial)
    | (rcases hNext with rfl | rfl <;> exact trivial)

theorem leadsToCallback_of_step (h : Step platform configuration thread frame choice s s' frames spawned)
    (hFrame : 0 < leadsToCallback id frame) :
    0 < load (leadsToCallback id) ↑(frames ++ spawned.flatten) ∨
      ∀ after, s'.items id = some after → after.callback.invoked = true := by
  cases frame <;> simp only [leadsToCallback, Nat.lt_irrefl] at hFrame
  case removeCompleted v buffer | createResponse v buffer | moveRequest v error response =>
    left
    cases h <;> simpa [leadsToCallback] using hFrame
  case invoke v error request response =>
    obtain rfl : v = id := by
      by_contra hNe
      simp [hNe] at hFrame
    cases h
    case throws => exact .inl (by simp [leadsToCallback])
    case invokeAgain =>
      right
      intro after hAfter
      simp_all
    all_goals
      right
      intro after hAfter
      simp only [Function.update_self, Option.some.injEq] at hAfter
      rw [← hAfter]

/-- What an item has seen once a chunk has been added. -/
theorem Responds.addChunk {chunk : ChunkHeader}
    (hI : Responds platform s (.addChunk id chunk ::ₘ rest) notes)
    (h : perform platform configuration thread (.addChunk id chunk) choice s =
      some (s', frames, spawned)) :
    Responds platform s' (↑(frames ++ spawned.flatten) + rest) (notes ++ [.added chunk]) := by
  have hTag : chunk.messageID.toNat = id := hI.warranted _ (Multiset.mem_cons_self _ _)
  have hCalls := hI.calls_step (step_of_perform h) [.added chunk]
  simp only [perform, Connection.addChunk, Shared.next] at h
  split at h
  · cases h
  rename_i item hItem
  obtain ⟨hGathered, hReady, hAssembled⟩ :=
    ((hI.items id item hItem).addChunk chunk).assemble platform
  have hAdded (other : MessageID) : addedTo other (notes ++ [.added chunk]) =
      addedTo other notes ++ if id = other then [chunk] else [] := by
    rw [addedTo_append, addedTo_added, hTag]
  have hOwn : addedTo id (notes ++ [.added chunk]) = addedTo id notes ++ [chunk] := by
    rw [hAdded, if_pos rfl]
  rw [← hOwn] at hGathered hReady hAssembled
  have hOld : ∀ frame ∈ rest, Warranted platform (notes ++ [.added chunk]) frame := fun frame hFrame =>
    (hI.warranted frame (Multiset.mem_cons_of_mem hFrame)).mono _
  have hFresh : ∀ other, Function.update s.items id
      (some ((item.addChunk chunk).assemble platform).2) other = none →
      addedTo other (notes ++ [.added chunk]) = [] := by
    intro other hNone
    rw [Function.update_apply] at hNone
    split at hNone
    · cases hNone
    · rename_i hOther
      rw [hAdded, if_neg (Ne.symm hOther), hI.fresh other hNone]
      rfl
  have hItems : ∀ other after, Function.update s.items id
      (some ((item.addChunk chunk).assemble platform).2) other = some after →
      after.Gathered (addedTo other (notes ++ [.added chunk])) := by
    intro other after hAfter
    rw [Function.update_apply] at hAfter
    split at hAfter
    · rename_i hEq
      cases hAfter
      exact hEq ▸ hGathered
    · rename_i hOther
      rw [hAdded, if_neg (Ne.symm hOther), List.append_nil]
      exact hI.items other after hAfter
  have hOther : ∀ other after, other ≠ id → Function.update s.items id
      (some ((item.addChunk chunk).assemble platform).2) other = some after →
      Ready (addedTo other (notes ++ [.added chunk])) →
      after.callback.invoked = true ∨ 0 < load (leadsToCallback other) rest := by
    intro other after hNe hAfter hMessage
    rw [Function.update_of_ne hNe] at hAfter
    rw [hAdded, if_neg (Ne.symm hNe), List.append_nil] at hMessage
    simpa [leadsToCallback] using hI.completed other after hAfter hMessage
  split at h
  · rename_i hNone
    cases h
    refine ⟨hFresh, hItems, fun frame hFrame => hOld frame (by simpa using hFrame), hCalls, ?_⟩
    intro other after hAfter hMessage
    by_cases hEq : other = id
    · exact absurd hNone (hReady (hEq ▸ hMessage))
    · simpa using hOther other after hEq hAfter hMessage
  · rename_i buffer hBuffer
    cases h
    refine ⟨hFresh, hItems, fun frame hFrame => ?_, hCalls, ?_⟩
    · rw [coe_singleton_add, Multiset.mem_cons] at hFrame
      rcases hFrame with rfl | hRest
      · exact ⟨_, List.prefix_refl _, hAssembled buffer hBuffer⟩
      · exact hOld frame hRest
    · intro other after hAfter hMessage
      rw [coe_singleton_add, load_cons]
      by_cases hEq : other = id
      · right
        simp only [leadsToCallback, hEq, if_true]
        omega
      · rcases hOther other after hEq hAfter hMessage with hInvoked | hPending
        · exact .inl hInvoked
        · exact .inr (Nat.add_pos_right _ hPending)

theorem Responds.completed_step (hI : Responds platform s (frame ::ₘ rest) notes)
    (h : Step platform configuration thread frame choice s s' frames spawned)
    (hKnown : ItemsKnown s (frame ::ₘ rest)) {item after : RequestItem} (hItem : s.items id = some item)
    (hAfter : s'.items id = some after) (hReady : Ready (addedTo id notes)) :
    after.callback.invoked = true ∨ 0 < load (leadsToCallback id) (↑(frames ++ spawned.flatten) + rest) := by
  obtain ⟨kept, hKept, hKeeps⟩ := keeps_of_step h hKnown.issued hItem
  obtain rfl : kept = after := Option.some.inj (hKept.symm.trans hAfter)
  rcases hI.completed id item hItem hReady with hInvoked | hPending
  · exact .inl (hKeeps.invoked hInvoked)
  · rw [load_cons] at hPending
    rw [load_add]
    by_cases hFrame : 0 < leadsToCallback id frame
    · rcases leadsToCallback_of_step h hFrame with hNext | hInvoked
      · exact .inr (Nat.add_pos_left hNext _)
      · exact .inl (hInvoked kept hAfter)
    · right
      omega

theorem Responds.step (hI : Responds platform s (frame ::ₘ rest) notes)
    (hKnown : ItemsKnown s (frame ::ₘ rest))
    (h : perform platform configuration thread frame choice s = some (s', frames, spawned)) :
    Responds platform s' (↑(frames ++ spawned.flatten) + rest)
      (notes ++ receipts platform configuration frame choice s) := by
  by_cases hAdd : ∀ id chunk, frame ≠ .addChunk id chunk
  · have hSame (id : MessageID) : addedTo id (notes ++ receipts platform configuration frame choice s) =
        addedTo id notes := by
      rw [addedTo_append, addedTo_receipts hAdd, List.append_nil]
    constructor
    · intro id hNone
      rw [hSame]
      apply hI.fresh
      by_contra hSome
      exact known_of_step (step_of_perform h) hKnown.issued hSome hNone
    · intro id after hAfter
      rw [hSame]
      rcases keepsChunks_of_perform h hAdd id after hAfter with ⟨item, hItem, hChunks⟩ | ⟨rfl, hFresh⟩
      · exact (hI.items id item hItem).of_same hChunks
      · rw [hI.fresh _ hKnown.fresh]
        exact hFresh.gathered
    · intro next hNext
      apply Warranted.mono
      rcases Multiset.mem_add.mp hNext with hNew | hOld
      · exact warranted_of_perform h hAdd (hI.warranted _ (Multiset.mem_cons_self _ _)) next
          (Multiset.mem_coe.mp hNew)
      · exact hI.warranted next (Multiset.mem_cons_of_mem hOld)
    · exact hI.calls_step (step_of_perform h) _
    · intro id after hAfter hReady
      rw [hSame] at hReady
      rcases keepsChunks_of_perform h hAdd id after hAfter with ⟨item, hItem, -⟩ | ⟨rfl, -⟩
      · exact hI.completed_step (step_of_perform h) hKnown hItem hAfter hReady
      · rw [hI.fresh _ hKnown.fresh] at hReady
        exact absurd rfl hReady.1
  · push Not at hAdd
    obtain ⟨id, chunk, rfl⟩ := hAdd
    exact hI.addChunk h

end Steps

/-! ## Every run -/

structure ResponseInvariant (platform : Platform) (s : Shared) (frames : Multiset Frame)
    (notes : List Receipt) : Prop where
  handled : Handled frames notes
  responds : Responds platform s frames notes

section Machine

variable (platform : Platform) (configuration : Configuration)

theorem responses_preserved :
    Preserved ((machine platform configuration).observed (receipts platform configuration))
      Guard.all.observed fun s frames =>
        ItemsKnown s.1 frames ∧ ResponseInvariant platform s.1 frames s.2 := by
  apply (itemsKnown_preserved platform configuration).noting
  · intro thread frame choice s rest s' frames spawned notes hKnown hNotes _ hExec
    have hPerform := perform_of_exec hExec
    exact ⟨hNotes.handled.step hPerform, hNotes.responds.step hKnown hPerform⟩
  · intro event quiet s rest s' frames notes hNotes hEnter
    obtain ⟨hHandled, hFresh, hItems, hFrames, hCalls, hCompleted⟩ := hNotes
    rcases enter_cases hEnter with ⟨_, rfl, rfl⟩ | ⟨_, _, _, _, rfl, rfl⟩ <;>
      exact ⟨hHandled.of_same (by simp [inHand]), hFresh, hItems,
        by simpa [Warranted] using hFrames, hCalls, by simpa [leadsToCallback] using hCompleted⟩

theorem responses_initial : ResponseInvariant platform initial.shared initial.frames [] := by
  constructor
  · simp [Handled, initial, Config.frames, inHand, allFound]
  · constructor <;> simp [initial, Config.frames, Warranted, addedTo, chunksOf]

variable {platform configuration} {c : Config (Shared × List Receipt) Frame}

theorem responses_of_reaches
    (h : Reaches ((machine platform configuration).observed (receipts platform configuration))
      Guard.all.observed initial.observed c) :
    ResponseInvariant platform c.shared.1 c.frames c.shared.2 :=
  (h.invariant (responses_preserved platform configuration)
    ⟨itemsKnown_initial, responses_initial platform⟩).2

theorem Handled.subperm {frames : Multiset Frame} {notes : List Receipt} (h : Handled frames notes)
    (id : MessageID) : (addedTo id notes).Subperm (chunksOf id (allFound notes)) := by
  have hAdded : (notes.filterMap Receipt.added?).Subperm (allFound notes) :=
    Multiset.coe_le.mp ((Multiset.le_add_right _ _).trans h)
  exact hAdded.filter _

/-- **Assembled responses.** In every run a callback gets a response only with the error
code for success, and the response has been made of chunks that carry the number of its
request and have been found in the streams, none of them used twice. An item that has all
of its chunks has been completed, or a thread is about to complete it. -/
theorem responses_assembled
    (h : Reaches ((machine platform configuration).observed (receipts platform configuration))
      Guard.all.observed initial.observed c) :
    (∀ id, (addedTo id c.shared.2).Subperm (chunksOf id (allFound c.shared.2))) ∧
      (∀ call ∈ c.shared.1.calls, ∀ response, call.response = some response →
        call.error = 0 ∧ AnsweredBy platform call.item c.shared.2 response) ∧
      ∀ id item, c.shared.1.items id = some item → Ready (addedTo id c.shared.2) →
        item.callback.invoked = true ∨ 0 < load (leadsToCallback id) c.frames := by
  obtain ⟨hHandled, hResponds⟩ := responses_of_reaches h
  exact ⟨hHandled.subperm, hResponds.calls, hResponds.completed⟩

/-- Two users wait for the two responses of a server, which come in two reads. The
second chunk of the first response is the first to arrive. -/
def twoAnswers : List Label :=
  let bytes := twoResponsesInterleaved.flatMap (ChunkHeader.encode .vst1_0)
  establish ++ sendFirst ++ [.enter .thread] ++ send 9 versionRequest ++ proceed 9 4 ++ proceed 8 9 ++
    receive 6 (bytes.take 50) ++ proceed 6 18 ++ receive 13 (bytes.drop 50) ++ proceed 13 8

theorem reaches_twoAnswers : ∃ c : Config (Shared × List Receipt) Frame,
    Reaches ((machine shortPlatform {}).observed (receipts shortPlatform {})) Guard.all.observed
      initial.observed c ∧
    (c.shared.1.calls.map fun call => (call.item, call.response.isSome)) = [(2, true), (1, true)] ∧
    c.shared.2.filterMap Receipt.read? =
      [(1, (twoResponsesInterleaved.flatMap (ChunkHeader.encode .vst1_0)).take 50),
        (1, (twoResponsesInterleaved.flatMap (ChunkHeader.encode .vst1_0)).drop 50)] := by
  have hRun : (((machine shortPlatform {}).observed (receipts shortPlatform {})).steps
      Guard.all.observed initial.observed twoAnswers).any
      (fun c => (c.shared.1.calls.map fun call => (call.item, call.response.isSome)) =
          [(2, true), (1, true)] ∧
        c.shared.2.filterMap Receipt.read? =
          [(1, (twoResponsesInterleaved.flatMap (ChunkHeader.encode .vst1_0)).take 50),
            (1, (twoResponsesInterleaved.flatMap (ChunkHeader.encode .vst1_0)).drop 50)]) = true := by
    decide +kernel
  obtain ⟨c, hReaches, hTest⟩ := exists_reaches_of_steps hRun
  exact ⟨c, hReaches, of_decide_eq_true hTest⟩

theorem responses_assembled_two_requests : ∃ c : Config (Shared × List Receipt) Frame,
    (c.shared.1.calls.map fun call => (call.item, call.response.isSome)) = [(2, true), (1, true)] ∧
      (∀ id, (addedTo id c.shared.2).Subperm (chunksOf id (allFound c.shared.2))) ∧
      (∀ call ∈ c.shared.1.calls, ∀ response, call.response = some response →
        call.error = 0 ∧ AnsweredBy shortPlatform call.item c.shared.2 response) ∧
      ∀ id item, c.shared.1.items id = some item → Ready (addedTo id c.shared.2) →
        item.callback.invoked = true ∨ 0 < load (leadsToCallback id) c.frames := by
  obtain ⟨c, hReaches, hCalls, -⟩ := reaches_twoAnswers
  exact ⟨c, hCalls, responses_assembled hReaches⟩

end Machine

/-! ## What a server sends -/

/-- Every loop has read the front of a stream of encoded chunks, and those with one number
are chunks of one message, sent once and on one stream. -/
structure ServedBy (configuration : Configuration) (sent : LoopID → List ChunkHeader)
    (messages : MessageID → List ChunkHeader) (notes : List Receipt) : Prop where
  streams : ∀ r, (readsOf r notes).flatten <+:
    (sent r).flatMap (ChunkHeader.encode configuration.vstVersion)
  sizes : ∀ r, ∀ chunk ∈ sent r, chunk.data.size + 24 < 2 ^ 32
  numbered : ∀ id, Numbered (messages id)
  once : ∀ id, ∃ r, (chunksOf id (sent r)).Subperm (messages id) ∧
    ∀ other, other ≠ r → chunksOf id (sent other) = []

section Served

variable {platform : Platform} {configuration : Configuration} {sent : LoopID → List ChunkHeader}
  {messages : MessageID → List ChunkHeader} {notes : List Receipt} {id : MessageID} {r : LoopID}

theorem chunksOf_map_snd (finds : List (LoopID × ChunkHeader))
    (hOther : ∀ other, other ≠ r →
      chunksOf id ((finds.filter fun find => find.1 = other).map Prod.snd) = []) :
    chunksOf id (finds.map Prod.snd) =
      chunksOf id ((finds.filter fun find => find.1 = r).map Prod.snd) := by
  induction finds with
  | nil => rfl
  | cons find finds ih =>
    have hRest := ih fun other hNe => by
      have hNone := hOther other hNe
      rw [chunksOf_eq_nil] at hNone ⊢
      intro chunk hChunk
      apply hNone
      rw [List.filter_cons]
      split
      · exact List.mem_cons_of_mem _ hChunk
      · exact hChunk
    by_cases hLoop : find.1 = r
    · simp only [chunksOf, List.map_cons, List.filter_cons, hLoop, decide_true, if_true] at hRest ⊢
      rw [hRest]
    · have hNumber : find.2.messageID.toNat ≠ id := by
        apply chunksOf_eq_nil.mp (hOther find.1 hLoop)
        simp
      simp only [chunksOf, List.map_cons, List.filter_cons, hLoop, hNumber, decide_false] at hRest ⊢
      exact hRest

theorem map_wire_chunksOf (id : MessageID) (chunks : List ChunkHeader) :
    (chunksOf id chunks).map ChunkHeader.wire =
      (chunks.map ChunkHeader.wire).filter fun wire => wire.messageID.toNat = id := by
  rw [List.filter_map]
  rfl

theorem subperm_wires {chunks more : List ChunkHeader} (h : chunks.Subperm more) :
    (chunks.map ChunkHeader.wire).Subperm (more.map ChunkHeader.wire) := by
  obtain ⟨order, hPerm, hSublist⟩ := h
  exact ⟨order.map ChunkHeader.wire, hPerm.map _, hSublist.map _⟩

/-- What a loop has found with a number is the front of what was sent with it. -/
theorem ServedBy.found (h : ServedBy configuration sent messages notes)
    (hFront : foundBy r notes <+: (Vst.receive configuration.vstVersion platform.behind
      (readsOf r notes)).1.map Iteration.chunk) (id : MessageID) :
    (chunksOf id (foundBy r notes)).map ChunkHeader.wire <+:
      (chunksOf id (sent r)).map ChunkHeader.wire := by
  have hSent := receive_front configuration.vstVersion platform.behind (sent r) (h.sizes r)
    (readsOf r notes) (h.streams r)
  have hWires := hFront.map ChunkHeader.wire
  rw [List.map_map] at hWires
  rw [map_wire_chunksOf, map_wire_chunksOf]
  exact (hWires.trans hSent).filter _

theorem ServedBy.subperm (h : ServedBy configuration sent messages notes)
    (hFront : ∀ r, foundBy r notes <+: (Vst.receive configuration.vstVersion platform.behind
      (readsOf r notes)).1.map Iteration.chunk) (id : MessageID) :
    ((chunksOf id (allFound notes)).map ChunkHeader.wire).Subperm
      ((messages id).map ChunkHeader.wire) := by
  obtain ⟨r, hMessage, hOther⟩ := h.once id
  have hOnly : chunksOf id (allFound notes) = chunksOf id (foundBy r notes) := by
    apply chunksOf_map_snd
    intro other hNe
    have hFound := h.found (hFront other) id
    rw [hOther other hNe] at hFound
    exact List.map_eq_nil_iff.mp (List.prefix_nil.mp hFound)
  rw [hOnly]
  exact (h.found (hFront r) id).sublist.subperm.trans (subperm_wires hMessage)

variable {c : Config (Shared × List Receipt) Frame}

/-- **Delivered responses.** Whatever the order of events: where a server numbers its
chunks and sends none twice, every callback that gets a response gets the one the server
has sent for its request. -/
theorem responses_delivered
    (h : Reaches ((machine platform configuration).observed (receipts platform configuration))
      Guard.all.observed initial.observed c)
    (hServed : ServedBy configuration sent messages c.shared.2) :
    ∀ call ∈ c.shared.1.calls, ∀ response, call.response = some response → call.error = 0 ∧
      Vst.createResponse platform call.item (dataBytes (messages call.item)) = .ok response := by
  intro call hCall response hResponse
  obtain ⟨hHandled, hResponds⟩ := responses_of_reaches h
  obtain ⟨hError, buffer, ⟨arrived, hArrived, hAssembled⟩, hCreated⟩ :=
    hResponds.calls call hCall response hResponse
  have hFrom : (arrived.map ChunkHeader.wire).Subperm
      ((messages call.item).map ChunkHeader.wire) := by
    have hFound := subperm_wires (hArrived.sublist.subperm.trans (hHandled.subperm call.item))
    exact hFound.trans (hServed.subperm (fun r => (receivedStream_of_reaches h r).front) call.item)
  refine ⟨hError, ?_⟩
  rw [← hAssembled.eq_dataBytes (hServed.numbered call.item) hFrom]
  exact hCreated

/-- The server has sent the two responses on the stream of loop 1. -/
theorem servedBy_twoResponses (hReads : notes.filterMap Receipt.read? =
      [(1, (twoResponsesInterleaved.flatMap (ChunkHeader.encode .vst1_0)).take 50),
        (1, (twoResponsesInterleaved.flatMap (ChunkHeader.encode .vst1_0)).drop 50)]) :
    ServedBy {} (fun r => if r = 1 then twoResponsesInterleaved else [])
      (fun id => if id = 1 ∨ id = 2 then twoResponses id else []) notes := by
  constructor
  · intro r
    by_cases hr : r = 1
    · subst hr
      simp [readsOf, hReads]
    · simp [readsOf, hReads, hr, Ne.symm hr]
  · have hSizes : ∀ chunk ∈ twoResponsesInterleaved, chunk.data.size + 24 < 2 ^ 32 := by decide
    intro r chunk hChunk
    split at hChunk
    · exact hSizes chunk hChunk
    · cases hChunk
  · intro id
    split
    · rename_i hid
      exact responses_twoRequests.numbered id (by simpa [twoRequests] using hid)
    · exact fun k hk => absurd hk (Nat.not_lt_zero k)
  · intro id
    refine ⟨1, ?_, fun other hOther => by simp [chunksOf, hOther]⟩
    rw [if_pos rfl]
    split
    · rename_i hid
      exact (responses_twoRequests.interleaved id (by simpa [twoRequests] using hid)).subperm
    · rename_i hid
      have hNumbers : ∀ chunk ∈ twoResponsesInterleaved,
          chunk.messageID.toNat = 1 ∨ chunk.messageID.toNat = 2 := by decide
      have hNone : chunksOf id twoResponsesInterleaved = [] := by
        rw [chunksOf_eq_nil]
        intro chunk hChunk hEq
        exact hid (hEq ▸ hNumbers chunk hChunk)
      exact hNone ▸ List.nil_subperm

theorem responses_delivered_two_requests : ∃ c : Config (Shared × List Receipt) Frame,
    (c.shared.1.calls.map fun call => (call.item, call.response.isSome)) = [(2, true), (1, true)] ∧
      ∀ call ∈ c.shared.1.calls, ∀ response, call.response = some response → call.error = 0 ∧
        Vst.createResponse shortPlatform call.item
          (dataBytes (if call.item = 1 ∨ call.item = 2 then twoResponses call.item else [])) =
            .ok response := by
  obtain ⟨c, hReaches, hCalls, hReads⟩ := reaches_twoAnswers
  exact ⟨c, hCalls, responses_delivered hReaches (servedBy_twoResponses hReads)⟩

end Served

end Fuerte.Vst.Connection

import Fuerte.Library.Observation
import Fuerte.Vst.RoundTrip
import Fuerte.Vst.Connection.ExclusiveSockets
import Fuerte.Vst.Connection.Handshake

/-! # What is sent on a socket

An observer notes every request that is accepted, and the bytes of every
`async_write`. On each socket he sees the protocol header and then accepted messages,
each of them as a whole and none twice.
-/

namespace Fuerte.Vst.Connection

set_option autoImplicit false

open Interleaving

/-! ## The observer -/

/-- `vstHeader1_0` and `vstHeader1_1`. -/
def vstHeader : VSTVersion → List UInt8
  | .vst1_0 => ascii "VST/1.0\r\n\r\n"
  | .vst1_1 => ascii "VST/1.1\r\n\r\n"

inductive Observation where
  /-- `createRequestItem` has prepared this item. -/
  | accepted (item : RequestItem)
  /-- The bytes have been handed to `async_write`. -/
  | written (socket : SocketID) (bytes : List UInt8)

/-- The item of a request before it is prepared. -/
def newItem (id : MessageID) (request : Request) (cb : CallbackOwner) : RequestItem where
  request := some { request with messageID := id }
  callback := { cb }
  messageID := id

section Observer

variable (platform : Platform) (configuration : Configuration)

def accepts (s : Shared) (request : Request) (cb : CallbackOwner) : List Observation :=
  let item := newItem (s.messageID + 1) request cb
  match item.prepareForNetwork platform.vpack configuration.vstVersion with
  | .ok _ => [.accepted item]
  | .error _ => []

def observe (frame : Frame) (_ : Choice) (s : Shared) : List Observation :=
  match frame with
  | .createRequestItem request => accepts platform configuration s request .user
  | .insertAuthenticationRequests =>
    match configuration.authenticationType with
    | .basic => accepts platform configuration s (authenticationRequest configuration) .authentication
    | _ => []
  | .finishInitialization =>
    match s.socket with
    | some socket => [.written socket (vstHeader configuration.vstVersion)]
    | none => []
  | .asyncWrite w id =>
    match (s.writeLoops w).socket, s.items id with
    | some socket, some item => [.written socket (item.requestBuffers.flatMap ConstBuffer.bytes)]
    | _, _ => []
  | _ => []

/-- What `prepareForNetwork` lists to be sent of an item. -/
def encoded (item : RequestItem) : List UInt8 :=
  match item.prepareForNetwork platform.vpack configuration.vstVersion with
  | .ok sent => sent.requestBuffers.flatMap ConstBuffer.bytes
  | .error _ => []

end Observer

/-- The bytes handed over for a socket, one write after the other. -/
def stream (socket : SocketID) (notes : List Observation) : List UInt8 :=
  notes.flatMap fun
    | .written other bytes => if other = socket then bytes else []
    | .accepted _ => []

def Observation.item? : Observation → Option RequestItem
  | .accepted item => some item
  | .written _ _ => none

def acceptedItems (notes : List Observation) : List RequestItem := notes.filterMap Observation.item?

def messagesOn (socket : SocketID) (messages : List (SocketID × RequestItem)) : List RequestItem :=
  (messages.filter fun message => message.1 = socket).map Prod.snd

@[simp] theorem stream_append (socket : SocketID) (notes more : List Observation) :
    stream socket (notes ++ more) = stream socket notes ++ stream socket more :=
  List.flatMap_append

@[simp] theorem acceptedItems_append (notes more : List Observation) :
    acceptedItems (notes ++ more) = acceptedItems notes ++ acceptedItems more :=
  List.filterMap_append

@[simp] theorem messagesOn_append (socket : SocketID) (messages more : List (SocketID × RequestItem)) :
    messagesOn socket (messages ++ more) = messagesOn socket messages ++ messagesOn socket more := by
  simp [messagesOn]

theorem vstHeader_ne_nil (version : VSTVersion) : vstHeader version ≠ [] := by
  cases version <;> decide

/-! ## What a step does to the items -/

section Steps

variable {platform : Platform} {configuration : Configuration} {thread : Nat} {frame : Frame}
  {choice : Choice} {s s' : Shared} {rest before after : Multiset Frame} {frames : List Frame}
  {spawned : List (List Frame)} {notes : List Observation}

/-- The step creates an item, and this is noted. -/
structure Creates (platform : Platform) (configuration : Configuration) (frame : Frame)
    (choice : Choice) (s s' : Shared) (new : RequestItem) : Prop where
  noted : observe platform configuration frame choice s = [.accepted new]
  number : new.messageID = s.messageID + 1
  last : s'.messageID = s.messageID + 1
  items : ∃ item, s'.items = Function.update s.items (s.messageID + 1) (some item) ∧
    item.requestBuffers.flatMap ConstBuffer.bytes = encoded platform configuration new

/-- The step leaves what the items have to send, but for one that has been written. -/
structure LeavesBuffers (platform : Platform) (configuration : Configuration) (frame : Frame)
    (choice : Choice) (s s' : Shared) : Prop where
  noted : acceptedItems (observe platform configuration frame choice s) = []
  last : s.messageID ≤ s'.messageID
  items : ∀ id after, s'.items id = some after → ∃ item, s.items id = some item ∧
    (after.requestBuffers = item.requestBuffers ∨ ∃ w, frame = .requestWritten w id)

theorem createItem_cases {request : Request} {cb : CallbackOwner} {id : MessageID}
    (h : createItem platform configuration s request cb = (s', .ok id)) :
    let new := newItem (s.messageID + 1) request cb
    accepts platform configuration s request cb = [.accepted new] ∧
      s'.messageID = s.messageID + 1 ∧
      ∃ item, s'.items = Function.update s.items (s.messageID + 1) (some item) ∧
        item.requestBuffers.flatMap ConstBuffer.bytes = encoded platform configuration new := by
  simp only [createItem] at h
  cases hItem : (newItem (s.messageID + 1) request cb).prepareForNetwork platform.vpack
      configuration.vstVersion with
  | error fault =>
    have hPrepared := hItem
    simp only [newItem] at hPrepared
    rw [hPrepared] at h
    cases h
  | ok item =>
    have hPrepared := hItem
    simp only [newItem] at hPrepared
    rw [hPrepared] at h
    cases h
    refine ⟨by simp only [accepts, hItem], rfl, item, rfl, ?_⟩
    simp only [encoded, hItem]

theorem createItem_rejects {request : Request} {cb : CallbackOwner} {fault : Fault}
    (h : createItem platform configuration s request cb = (s', .error fault)) :
    accepts platform configuration s request cb = [] := by
  simp only [createItem] at h
  cases hItem : (newItem (s.messageID + 1) request cb).prepareForNetwork platform.vpack
      configuration.vstVersion with
  | error fault => simp only [accepts, hItem]
  | ok item =>
    simp only [newItem] at hItem
    rw [hItem] at h
    cases h

theorem LeavesBuffers.of_same (hNoted : acceptedItems (observe platform configuration frame choice s) = [])
    (hLast : s'.messageID = s.messageID) (hItems : s'.items = s.items) :
    LeavesBuffers platform configuration frame choice s s' :=
  ⟨hNoted, hLast.ge, fun _ after hAfter => ⟨after, hItems ▸ hAfter, .inl rfl⟩⟩

theorem LeavesBuffers.of_update {id : MessageID} {item changed : RequestItem}
    (hNoted : acceptedItems (observe platform configuration frame choice s) = [])
    (hItem : s.items id = some item) (hLast : s'.messageID = s.messageID)
    (hItems : s'.items = Function.update s.items id (some changed))
    (hBuffers : changed.requestBuffers = item.requestBuffers) :
    LeavesBuffers platform configuration frame choice s s' := by
  refine ⟨hNoted, hLast.ge, fun other after hAfter => ?_⟩
  rw [hItems, Function.update_apply] at hAfter
  split at hAfter
  · rename_i hEq
    cases hAfter
    exact ⟨item, hEq ▸ hItem, .inl hBuffers⟩
  · exact ⟨after, hAfter, .inl rfl⟩

theorem leavesBuffers_addChunk {id : MessageID} {chunk : ChunkHeader}
    (h : addChunk platform id chunk s = some (s', frames, spawned)) :
    LeavesBuffers platform configuration (.addChunk id chunk) choice s s' := by
  simp only [addChunk, Shared.next] at h
  split at h
  · cases h
  · rename_i item hItem
    cases h
    refine .of_update rfl hItem rfl rfl ?_
    simp only [RequestItem.assemble]
    split
    · rfl
    · split <;> rfl

/-- A step creates one item, or leaves what there is to be sent. -/
theorem items_of_perform
    (h : perform platform configuration thread frame choice s = some (s', frames, spawned)) :
    (∃ new, Creates platform configuration frame choice s s' new) ∨
      LeavesBuffers platform configuration frame choice s s' := by
  have hStep : Step platform configuration thread frame choice s s' frames spawned :=
    step_of_perform h
  cases frame
  case createRequestItem request =>
    simp only [perform, createRequestItem, Shared.next] at h
    split at h
    · rename_i hItem
      have hNone := createItem_rejects hItem
      obtain rfl := createItem_error hItem
      cases h
      refine .inr ⟨by simp only [observe, hNone]; rfl, Nat.le_succ _, fun id after hAfter => ?_⟩
      exact ⟨after, hAfter, .inl rfl⟩
    · rename_i hItem
      obtain ⟨hNoted, hLast, hItems⟩ := createItem_cases hItem
      cases h
      exact .inl ⟨_, hNoted, rfl, hLast, hItems⟩
  case insertAuthenticationRequests =>
    simp only [perform, insertAuthenticationRequests, Shared.next, Shared.throw] at h
    split at h
    · rename_i hType
      cases h
      exact .inr (.of_same (by simp only [observe, hType]; rfl) rfl rfl)
    · rename_i hType
      split at h
      · rename_i hItem
        exact absurd hItem createItem_authenticationRequest
      · rename_i hItem
        obtain ⟨hNoted, hLast, hItems⟩ := createItem_cases hItem
        cases h
        exact .inl ⟨_, by simp only [observe, hType, hNoted], rfl, hLast, hItems⟩
    · rename_i hType
      cases h
      exact .inr (.of_same (by simp only [observe, hType]; rfl) rfl rfl)
  case addChunk id chunk => exact .inr (leavesBuffers_addChunk h)
  case requestWritten w id =>
    cases hStep
    case throws => exact .inr (.of_same rfl rfl rfl)
    refine .inr ⟨rfl, Nat.le_refl _, fun other after hAfter => ?_⟩
    simp only [Shared.updateItem, Shared.updateWriteLoop, Function.update_apply] at hAfter
    split at hAfter
    · rename_i hEq
      subst hEq
      obtain ⟨item, hItem, -⟩ := Option.map_eq_some_iff.mp hAfter
      exact ⟨item, hItem, .inr ⟨w, rfl⟩⟩
    · exact ⟨after, hAfter, .inl rfl⟩
  all_goals right
  case finishInitialization =>
    cases hStep <;> exact .of_same (by simp only [observe]; split <;> rfl) rfl rfl
  case asyncWrite =>
    cases hStep <;> exact .of_same (by simp only [observe]; split <;> rfl) rfl rfl
  all_goals cases hStep
  case moveRequest.moveRequest hItem | invoke.invokeUser hItem | invoke.invokeAuthentication hItem =>
    exact .of_update rfl hItem rfl rfl rfl
  all_goals exact .of_same rfl rfl rfl

/-! ## What loops write to -/

/-- The frames of an attempt that has a socket and has not handed over the header. -/
def beforeHeader : Frame → Nat
  | .awaitConnect _ | .startSSLHandshake | .awaitHandshake _ | .finishInitialization => 1
  | _ => 0

def LoopsHeaded (s : Shared) : Prop :=
  ∀ w socket, (s.writeLoops w).socket = some socket → (s.sockets socket).headerWritten = true

/-- The item of a write that has been started. -/
def writtenItem : Frame → Option MessageID
  | .awaitWrite _ id | .requestWritten _ id => some id
  | _ => none

def WritesIssued (s : Shared) (frames : Multiset Frame) : Prop :=
  ∀ frame ∈ frames, ∀ id, writtenItem frame = some id → id ∈ s.history.writes.map Prod.snd

theorem headerWritten_closeSocket (socket : SocketID) :
    ((closeSocket s).sockets socket).headerWritten = (s.sockets socket).headerWritten := by
  rw [closeSocket]
  cases s.socket with
  | none => rfl
  | some id =>
    dsimp only
    by_cases hEq : socket = id
    · rw [hEq, Function.update_self]
    · rw [Function.update_of_ne hEq]

/-- A header is written once its write has ended, and stays written. -/
theorem headerWritten_of_step
    (h : Step platform configuration thread frame choice s s' frames spawned) (socket : SocketID) :
    (s'.sockets socket).headerWritten = (s.sockets socket).headerWritten ∨
      frame = .awaitHeader socket ∧ (s'.sockets socket).headerWritten = true := by
  cases h
  case connectedSSL id _ | connectedTCP id _ =>
    left
    simp only [Shared.updateSocket, Function.update_apply]
    split
    · rename_i hEq
      rw [hEq]
    · rfl
  case headerWritten id =>
    by_cases hEq : socket = id
    · subst hEq
      exact .inr ⟨rfl, by simp [Shared.updateSocket]⟩
    · exact .inl (by simp [Shared.updateSocket, hEq])
  case handshakeFailed | shutdownSocket => exact .inl (headerWritten_closeSocket socket)
  all_goals exact .inl rfl

/-- Only a new loop has another socket, the one of the connection. -/
theorem writeSocket_of_step
    (h : Step platform configuration thread frame choice s s' frames spawned) (w : LoopID) :
    (s'.writeLoops w).socket = (s.writeLoops w).socket ∨
      frame = .startWriting ∧ createsLoop s frame = true ∧ (s'.writeLoops w).socket = s.socket := by
  cases h
  case startWriting hNone =>
    by_cases hEq : w = s.writeLoopCount
    · subst hEq
      exact .inr ⟨rfl, by simp [createsLoop, hNone], by simp⟩
    · exact .inl (by simp [hEq])
  case setWriteDeadline v _ =>
    exact .inl (socket_updateWriteLoop s v w (fun loop => { loop with deadline := some s.timerCount, owned := true }) rfl)
  case requestWritten v _ =>
    exact .inl (socket_updateWriteLoop s v w (fun loop => { loop with deadline := none }) rfl)
  all_goals first
    | exact .inl rfl
    | exact .inl (socket_updateWriteLoop _ _ _ _ rfl)

theorem LoopsHeaded.step (hI : LoopsHeaded s) (hE : Established s (frame ::ₘ rest))
    (hGuard : loopsWhileUp.run thread frame choice s (frame ::ₘ rest))
    (h : Step platform configuration thread frame choice s s' frames spawned) : LoopsHeaded s' := by
  intro w socket hSocket
  have hBefore : (s.sockets socket).headerWritten = true := by
    rcases writeSocket_of_step h w with hSame | ⟨_, hCreates, hNew⟩
    · exact hI w socket (hSame ▸ hSocket)
    · obtain ⟨current, hCurrent, hReady⟩ := (hE.sockets.up (hGuard hCreates)).2
      obtain rfl : current = socket := Option.some.inj (hCurrent.symm.trans (hNew.symm.trans hSocket))
      exact hReady.headerWritten
  rcases headerWritten_of_step h socket with hSame | ⟨_, hWritten⟩
  · rw [hSame, hBefore]
  · exact hWritten

theorem writes_of_step (h : Step platform configuration thread frame choice s s' frames spawned) :
    (∃ w id socket, frame = .asyncWrite w id ∧ (s.writeLoops w).socket = some socket ∧
      s'.history.writes = s.history.writes ++ [(socket, id)]) ∨
      s'.history.writes = s.history.writes := by
  cases h
  case asyncWrite w id socket hSocket => exact .inl ⟨w, id, socket, rfl, hSocket, rfl⟩
  all_goals exact .inr rfl

theorem WritesIssued.step (hI : WritesIssued s (frame ::ₘ rest))
    (h : Step platform configuration thread frame choice s s' frames spawned) :
    WritesIssued s' (↑(frames ++ spawned.flatten) + rest) := by
  have hMore : ∀ id ∈ s.history.writes.map Prod.snd, id ∈ s'.history.writes.map Prod.snd := by
    intro id hid
    rcases writes_of_step h with ⟨_, _, _, _, _, hWrites⟩ | hWrites
    · rw [hWrites, List.map_append]
      exact List.mem_append_left _ hid
    · rwa [hWrites]
  intro next hNext id hid
  rcases Multiset.mem_add.mp hNext with hNew | hOld
  · have hOwn := hI frame (Multiset.mem_cons_self _ _)
    cases h
    case throws =>
      obtain rfl := List.mem_singleton.mp (by simpa using hNew)
      exact hOwn id hid
    case asyncWrite w written socket _ =>
      obtain rfl : next = .awaitWrite w written := by simpa using hNew
      obtain rfl : written = id := Option.some.inj hid
      simp [Shared.transfer]
    case requestSent w written =>
      obtain rfl : next = .requestWritten w written := by simpa using hNew
      exact hOwn id hid
    all_goals
      have hNone : ∀ (l : List Frame), (∀ other ∈ l, writtenItem other = none) → next ∉ l :=
        fun l hl hMem => by simp [hl next hMem] at hid
      exact absurd (Multiset.mem_coe.mp hNew) (hNone _ (by simp [writtenItem]))
  · exact hMore id (hI next (Multiset.mem_cons_of_mem hOld) id hid)

/-! ## What has been noted -/

theorem stream_written (socket other : SocketID) (bytes : List UInt8) :
    stream socket [.written other bytes] = if other = socket then bytes else [] := by
  simp [stream]

theorem stream_accepts (s : Shared) (request : Request) (cb : CallbackOwner) (socket : SocketID) :
    stream socket (accepts platform configuration s request cb) = [] := by
  simp only [accepts]
  split <;> rfl

/-- The step hands nothing over. -/
structure Quiet (platform : Platform) (configuration : Configuration) (frame : Frame)
    (choice : Choice) (s : Shared) : Prop where
  noted : ∀ socket, stream socket (observe platform configuration frame choice s) = []
  header : frame = .finishInitialization → s.socket = none
  request : ∀ w id, frame = .asyncWrite w id → (s.writeLoops w).socket = none ∨ s.items id = none

/-- Only the protocol header and requests are handed over. -/
theorem observe_cases (platform : Platform) (configuration : Configuration) (frame : Frame)
    (choice : Choice) (s : Shared) :
    (∃ socket, frame = .finishInitialization ∧ s.socket = some socket ∧
      observe platform configuration frame choice s =
        [.written socket (vstHeader configuration.vstVersion)]) ∨
    (∃ w id socket item, frame = .asyncWrite w id ∧ (s.writeLoops w).socket = some socket ∧
      s.items id = some item ∧ observe platform configuration frame choice s =
        [.written socket (item.requestBuffers.flatMap ConstBuffer.bytes)]) ∨
    Quiet platform configuration frame choice s := by
  cases frame
  case finishInitialization =>
    cases hSocket : s.socket with
    | none => exact .inr (.inr ⟨fun _ => by simp only [observe, hSocket]; rfl, fun _ => hSocket, nofun⟩)
    | some socket => exact .inl ⟨socket, rfl, rfl, by simp only [observe, hSocket]⟩
  case asyncWrite w id =>
    right
    cases hSocket : (s.writeLoops w).socket with
    | none =>
      refine .inr ⟨fun _ => by simp only [observe, hSocket]; rfl, nofun, ?_⟩
      rintro w id ⟨⟩
      exact .inl hSocket
    | some socket =>
      cases hItem : s.items id with
      | none =>
        refine .inr ⟨fun _ => by simp only [observe, hSocket, hItem]; rfl, nofun, ?_⟩
        rintro w id ⟨⟩
        exact .inr hItem
      | some item =>
        exact .inl ⟨w, id, socket, item, rfl, hSocket, hItem, by simp only [observe, hSocket, hItem]⟩
  case createRequestItem request =>
    exact .inr (.inr ⟨stream_accepts s request .user, nofun, nofun⟩)
  case insertAuthenticationRequests =>
    refine .inr (.inr ⟨fun socket => ?_, nofun, nofun⟩)
    simp only [observe]
    split
    · exact stream_accepts s _ _ socket
    · rfl
  all_goals exact .inr (.inr ⟨fun _ => rfl, nofun, nofun⟩)

/-- Every item was noted when it was created, and until it is written it has all of
its bytes. -/
structure ItemsNoted (platform : Platform) (configuration : Configuration) (s : Shared)
    (notes : List Observation) : Prop where
  buffers : ∀ id item, s.items id = some item → ∃ new ∈ acceptedItems notes, new.messageID = id ∧
    (id ∉ s.history.writes.map Prod.snd →
      item.requestBuffers.flatMap ConstBuffer.bytes = encoded platform configuration new)
  numbered : ((acceptedItems notes).map RequestItem.messageID).Pairwise (· < ·)
  issued : ∀ new ∈ acceptedItems notes, new.messageID ≤ s.messageID

theorem mem_writes_of_step
    (h : Step platform configuration thread frame choice s s' frames spawned) {id : MessageID}
    (hid : id ∈ s.history.writes.map Prod.snd) : id ∈ s'.history.writes.map Prod.snd := by
  rcases writes_of_step h with ⟨_, _, _, _, _, hWrites⟩ | hWrites
  · rw [hWrites, List.map_append]
    exact List.mem_append_left _ hid
  · rwa [hWrites]

theorem ItemsNoted.step (hI : ItemsNoted platform configuration s notes)
    (hIssued : WritesIssued s (frame ::ₘ rest))
    (h : perform platform configuration thread frame choice s = some (s', frames, spawned)) :
    ItemsNoted platform configuration s'
      (notes ++ observe platform configuration frame choice s) := by
  have hWrites (id : MessageID) (hid : id ∈ s.history.writes.map Prod.snd) :
      id ∈ s'.history.writes.map Prod.snd := mem_writes_of_step (step_of_perform h) hid
  rcases items_of_perform h with ⟨new, hNoted, hNumber, hLast, created, hItems, hBytes⟩ |
      ⟨hNoted, hLast, hItems⟩
  · -- the new item has the highest number so far
    have hAccepted : acceptedItems (notes ++ observe platform configuration frame choice s) =
        acceptedItems notes ++ [new] := by
      rw [acceptedItems_append, hNoted]
      rfl
    constructor
    · intro id item hItem
      rw [hItems, Function.update_apply] at hItem
      rw [hAccepted]
      split at hItem
      · rename_i hEq
        obtain rfl := Option.some.inj hItem
        exact ⟨new, by simp, hNumber.trans hEq.symm, fun _ => hBytes⟩
      · obtain ⟨old, hOld, hID, hSame⟩ := hI.buffers id item hItem
        exact ⟨old, List.mem_append_left _ hOld, hID, fun hNot => hSame (mt (hWrites id) hNot)⟩
    · rw [hAccepted, List.map_append, List.pairwise_append]
      refine ⟨hI.numbered, List.pairwise_singleton _ _, fun id hid other hOther => ?_⟩
      obtain ⟨old, hOld, rfl⟩ := List.mem_map.mp hid
      obtain rfl : other = new.messageID := by simpa using hOther
      rw [hNumber]
      exact Nat.lt_succ_of_le (hI.issued old hOld)
    · intro old hOld
      rw [hAccepted] at hOld
      rw [hLast]
      rcases List.mem_append.mp hOld with hOld | hNew
      · exact Nat.le_succ_of_le (hI.issued old hOld)
      · rw [List.mem_singleton.mp hNew, hNumber]
  · have hAccepted : acceptedItems (notes ++ observe platform configuration frame choice s) =
        acceptedItems notes := by
      rw [acceptedItems_append, hNoted, List.append_nil]
    constructor
    · intro id after hAfter
      rw [hAccepted]
      obtain ⟨item, hItem, hSame⟩ := hItems id after hAfter
      obtain ⟨new, hNew, hID, hBytes⟩ := hI.buffers id item hItem
      refine ⟨new, hNew, hID, fun hNot => ?_⟩
      have hBefore := mt (hWrites id) hNot
      rcases hSame with hSame | ⟨w, rfl⟩
      · rw [hSame]
        exact hBytes hBefore
      · exact absurd (hIssued _ (Multiset.mem_cons_self _ _) id rfl) hBefore
    · rw [hAccepted]
      exact hI.numbered
    · intro new hNew
      rw [hAccepted] at hNew
      exact (hI.issued new hNew).trans hLast

/-- Nothing is handed over for a socket before the header, and the header before it
counts as written. -/
structure HeadersNoted (s : Shared) (frames : Multiset Frame) (notes : List Observation) : Prop where
  fresh : ∀ socket, s.socketCount ≤ socket → stream socket notes = []
  blank : ∀ socket, s.socket = some socket → 0 < load beforeHeader frames → stream socket notes = []
  pending : ∀ socket, .awaitHeader socket ∈ frames → stream socket notes ≠ []
  headed : ∀ socket, (s.sockets socket).headerWritten = true → stream socket notes ≠ []

theorem HeadersNoted.of_same (h : HeadersNoted s before notes) {more : List Observation}
    (hStream : ∀ socket, stream socket more = stream socket notes)
    (hCount : s.socketCount ≤ s'.socketCount)
    (hSocket : ∀ socket, s'.socket = some socket → s.socket = some socket)
    (hBefore : load beforeHeader after ≤ load beforeHeader before)
    (hPending : ∀ socket, .awaitHeader socket ∈ after → .awaitHeader socket ∈ before)
    (hHeaded : ∀ socket, (s'.sockets socket).headerWritten = (s.sockets socket).headerWritten ∨
      .awaitHeader socket ∈ before) : HeadersNoted s' after more := by
  constructor <;> simp only [hStream]
  · exact fun socket hFresh => h.fresh socket (hCount.trans hFresh)
  · exact fun socket hOwn hPos => h.blank socket (hSocket socket hOwn) (hPos.trans_le hBefore)
  · exact fun socket hMem => h.pending socket (hPending socket hMem)
  · intro socket hWritten
    rcases hHeaded socket with hSame | hMem
    · exact h.headed socket (hSame ▸ hWritten)
    · exact h.pending socket hMem

theorem beforeHeader_le_attempt (frame : Frame) : beforeHeader frame ≤ attempt frame := by
  cases frame <;> simp [beforeHeader, attempt]

theorem HeadersNoted.of_quiet (hI : HeadersNoted s (frame ::ₘ rest) notes) {more : List Observation}
    (hQuiet : ∀ socket, stream socket more = stream socket notes)
    (hFinish : frame = .finishInitialization → s.socket = none)
    (h : Step platform configuration thread frame choice s s' frames spawned) :
    HeadersNoted s' (↑(frames ++ spawned.flatten) + rest) more := by
  have hHeaded : ∀ socket, (s'.sockets socket).headerWritten = (s.sockets socket).headerWritten ∨
      .awaitHeader socket ∈ frame ::ₘ rest := by
    intro socket
    rcases headerWritten_of_step h socket with hSame | ⟨rfl, -⟩
    · exact .inl hSame
    · exact .inr (Multiset.mem_cons_self _ _)
  cases h
  case finishInitialization hSocket => simp [hFinish] at hSocket
  case initSocket =>
    constructor <;> simp only [hQuiet]
    · exact fun socket hFresh => hI.fresh socket (Nat.le_of_succ_le hFresh)
    · rintro socket ⟨⟩ -
      exact hI.fresh _ (Nat.le_refl _)
    · exact fun socket hMem => hI.pending socket (by simpa using hMem)
    · exact hI.headed
  all_goals
    refine hI.of_same hQuiet (Nat.le_refl _) ?_ ?_ ?_ hHeaded
    · first
        | exact fun _ hSocket => hSocket
        | simp [closeSocket]
    · simp [beforeHeader]
    · simp +contextual

theorem finishInitialization_of_socket {socket : SocketID} (hSocket : s.socket = some socket)
    (h : perform platform configuration thread .finishInitialization choice s =
      some (s', frames, spawned)) :
    s' = s.transfer .tcp socket ∧ frames = [] ∧ spawned = [[.awaitHeader socket]] := by
  simp only [perform, finishInitialization, hSocket, Shared.async] at h
  cases h
  exact ⟨rfl, rfl, rfl⟩

theorem asyncWrite_of_socket {w : LoopID} {id : MessageID} {socket : SocketID}
    (hSocket : (s.writeLoops w).socket = some socket)
    (h : perform platform configuration thread (.asyncWrite w id) choice s =
      some (s', frames, spawned)) :
    s' = { s with history := { s.history with
        writes := s.history.writes ++ [(socket, id)] } }.transfer .tcp socket ∧
      frames = [] ∧ spawned = [[.awaitWrite w id]] := by
  simp only [perform, asyncWrite, hSocket, Shared.async] at h
  cases h
  exact ⟨rfl, rfl, rfl⟩

theorem stream_append_ne_nil {socket : SocketID} (h : stream socket notes ≠ [])
    (more : List Observation) : stream socket (notes ++ more) ≠ [] := by
  rw [stream_append]
  exact List.append_ne_nil_of_left_ne_nil h _

theorem stream_append_written {socket other : SocketID} (hNe : other ≠ socket) (bytes : List UInt8) :
    stream other (notes ++ [.written socket bytes]) = stream other notes := by
  rw [stream_append, stream_written, if_neg (Ne.symm hNe), List.append_nil]

theorem HeadersNoted.step (hI : HeadersNoted s (frame ::ₘ rest) notes)
    (hE : Established s (frame ::ₘ rest)) (hLoops : LoopsHeaded s)
    (h : perform platform configuration thread frame choice s = some (s', frames, spawned)) :
    HeadersNoted s' (↑(frames ++ spawned.flatten) + rest)
      (notes ++ observe platform configuration frame choice s) := by
  rcases observe_cases platform configuration frame choice s with
    ⟨socket, rfl, hSocket, hNoted⟩ | ⟨w, id, socket, item, rfl, hSocket, hItem, hNoted⟩ | hQuiet
  · -- the attempt that hands over the header is the only one
    obtain ⟨rfl, rfl, rfl⟩ := finishInitialization_of_socket hSocket h
    obtain ⟨hFresh, hBlank, hPending, hHeaded⟩ := hI
    have hAlone := load_le_load beforeHeader_le_attempt rest
    rw [(hE.loops.of_attempt rfl).2.2] at hAlone
    have hKnown : socket < s.socketCount := hE.sockets.issued socket hSocket
    rw [hNoted]
    constructor
    · intro other hOther
      have hNe : other ≠ socket := Nat.ne_of_gt (Nat.lt_of_lt_of_le hKnown hOther)
      rw [stream_append_written hNe]
      exact hFresh other hOther
    · intro other _ hPos
      simp [beforeHeader, Nat.le_zero.mp hAlone] at hPos
    · intro other hMem
      by_cases hEq : other = socket
      · subst hEq
        rw [stream_append, stream_written, if_pos rfl]
        exact List.append_ne_nil_of_right_ne_nil _ (vstHeader_ne_nil _)
      · exact stream_append_ne_nil (hPending other (by simpa [hEq] using hMem)) _
    · exact fun other hWritten => stream_append_ne_nil (hHeaded other hWritten) _
  · -- the socket of a loop has its header
    obtain ⟨rfl, rfl, rfl⟩ := asyncWrite_of_socket hSocket h
    obtain ⟨hFresh, hBlank, hPending, hHeaded⟩ := hI
    have hNotBlank := hHeaded socket (hLoops w socket hSocket)
    have hSame : ∀ other, stream other notes = [] →
        stream other (notes ++ [.written socket (item.requestBuffers.flatMap ConstBuffer.bytes)]) =
          [] := by
      intro other hNone
      have hNe : other ≠ socket := by
        rintro rfl
        exact hNotBlank hNone
      rw [stream_append_written hNe]
      exact hNone
    rw [hNoted]
    constructor
    · exact fun other hOther => hSame other (hFresh other hOther)
    · intro other hOwn hPos
      refine hSame other (hBlank other hOwn ?_)
      simpa [beforeHeader] using hPos
    · exact fun other hMem => stream_append_ne_nil (hPending other (by simpa using hMem)) _
    · exact fun other hWritten => stream_append_ne_nil (hHeaded other hWritten) _
  · exact hI.of_quiet (fun socket => by rw [stream_append, hQuiet.noted, List.append_nil])
      hQuiet.header (step_of_perform h)

/-- The messages that have been handed over, each with its socket. -/
structure HandedTo (platform : Platform) (configuration : Configuration)
    (messages : List (SocketID × RequestItem)) (notes : List Observation) : Prop where
  accepted : ∀ message ∈ messages, message.2 ∈ acceptedItems notes
  streams : ∀ socket, stream socket notes = [] ∧ messagesOn socket messages = [] ∨
    stream socket notes = vstHeader configuration.vstVersion ++
      (messagesOn socket messages).flatMap (encoded platform configuration)

/-- They are what the history says has been written. -/
def MessagesNoted (platform : Platform) (configuration : Configuration) (s : Shared)
    (notes : List Observation) : Prop :=
  ∃ messages, HandedTo platform configuration messages notes ∧
    messages.map (fun message => (message.1, message.2.messageID)) = s.history.writes

theorem HandedTo.of_quiet {messages : List (SocketID × RequestItem)} {more : List Observation}
    (h : HandedTo platform configuration messages notes) (hQuiet : ∀ socket, stream socket more = []) :
    HandedTo platform configuration messages (notes ++ more) := by
  refine ⟨fun message hMessage => ?_, fun socket => ?_⟩
  · rw [acceptedItems_append]
    exact List.mem_append_left _ (h.accepted message hMessage)
  · rw [stream_append, hQuiet, List.append_nil]
    exact h.streams socket

theorem HandedTo.header {messages : List (SocketID × RequestItem)} {socket : SocketID}
    (h : HandedTo platform configuration messages notes) (hBlank : stream socket notes = []) :
    HandedTo platform configuration messages
      (notes ++ [.written socket (vstHeader configuration.vstVersion)]) := by
  refine ⟨fun message hMessage => ?_, fun other => ?_⟩
  · rw [acceptedItems_append]
    exact List.mem_append_left _ (h.accepted message hMessage)
  · by_cases hEq : other = socket
    · subst hEq
      have hNone : messagesOn other messages = [] := by
        rcases h.streams other with ⟨-, hNone⟩ | hHeaded
        · exact hNone
        · rw [hBlank] at hHeaded
          exact absurd (List.append_eq_nil_iff.mp hHeaded.symm).1 (vstHeader_ne_nil _)
      right
      rw [stream_append, hBlank, hNone, stream_written, if_pos rfl, List.nil_append,
        List.flatMap_nil, List.append_nil]
    · rw [stream_append_written hEq]
      exact h.streams other

theorem HandedTo.message {messages : List (SocketID × RequestItem)} {socket : SocketID}
    {new : RequestItem} (h : HandedTo platform configuration messages notes)
    (hNew : new ∈ acceptedItems notes) (hHeaded : stream socket notes ≠ []) :
    HandedTo platform configuration (messages ++ [(socket, new)])
      (notes ++ [.written socket (encoded platform configuration new)]) := by
  refine ⟨fun message hMessage => ?_, fun other => ?_⟩
  · rw [acceptedItems_append]
    rcases List.mem_append.mp hMessage with hOld | hLast
    · exact List.mem_append_left _ (h.accepted message hOld)
    · rw [List.mem_singleton.mp hLast]
      exact List.mem_append_left _ hNew
  · by_cases hEq : other = socket
    · subst hEq
      rcases h.streams other with ⟨hNone, -⟩ | hStream
      · exact absurd hNone hHeaded
      · right
        rw [stream_append, hStream, stream_written, if_pos rfl, messagesOn_append,
          List.flatMap_append, List.append_assoc]
        simp [messagesOn]
    · have hOther : messagesOn other [(socket, new)] = [] := by
        simp [messagesOn, Ne.symm hEq]
      rw [stream_append_written hEq, messagesOn_append, hOther, List.append_nil]
      exact h.streams other

theorem Accounted.not_written {w : LoopID} {id : MessageID}
    (h : Accounted s (.asyncWrite w id ::ₘ rest)) : id ∉ s.history.writes.map Prod.snd := by
  have hWritten := h.written id
  have hOnce := h.once id
  have hHanded : s.history.handedOver.count id ≤ s.history.enqueued.count id := by
    rw [← h.complete.count_eq, List.count_append]
    exact Nat.le_add_right _ _
  simp only [load_cons, delivering, if_true] at hWritten
  refine List.count_eq_zero.mp ?_
  omega

theorem MessagesNoted.step (hI : MessagesNoted platform configuration s notes)
    (hItems : ItemsKnown s (frame ::ₘ rest)) (hAccounted : Accounted s (frame ::ₘ rest))
    (hLoops : LoopsHeaded s) (hNoted : ItemsNoted platform configuration s notes)
    (hHeaders : HeadersNoted s (frame ::ₘ rest) notes)
    (h : perform platform configuration thread frame choice s = some (s', frames, spawned)) :
    MessagesNoted platform configuration s'
      (notes ++ observe platform configuration frame choice s) := by
  obtain ⟨messages, hHanded, hWrites⟩ := hI
  rcases observe_cases platform configuration frame choice s with
    ⟨socket, rfl, hSocket, hObserved⟩ | ⟨w, id, socket, item, rfl, hSocket, hItem, hObserved⟩ | hQuiet
  · obtain ⟨rfl, rfl, rfl⟩ := finishInitialization_of_socket hSocket h
    rw [hObserved]
    refine ⟨messages, hHanded.header (hHeaders.blank socket hSocket ?_), hWrites⟩
    rw [load_cons]
    exact Nat.lt_of_lt_of_le Nat.zero_lt_one (Nat.le_add_right _ _)
  · -- the item has not been written, so its buffers are as they were prepared
    obtain ⟨rfl, rfl, rfl⟩ := asyncWrite_of_socket hSocket h
    obtain ⟨new, hNew, rfl, hBytes⟩ := hNoted.buffers id item hItem
    rw [hObserved, hBytes hAccounted.not_written]
    refine ⟨messages ++ [(socket, new)],
      hHanded.message hNew (hHeaders.headed socket (hLoops w socket hSocket)), ?_⟩
    rw [List.map_append, hWrites]
    rfl
  · refine ⟨messages, hHanded.of_quiet hQuiet.noted, hWrites.trans ?_⟩
    rcases writes_of_step (step_of_perform h) with ⟨w, id, socket, rfl, hSocket, -⟩ | hSame
    · rcases hQuiet.request w id rfl with hNone | hNone
      · simp [hNone] at hSocket
      · exact absurd hNone (hItems.inFrames _ (Multiset.mem_cons_self _ _) id (List.mem_singleton_self _))
    · exact hSame.symm

end Steps

/-! ## Every run -/

/-- What the bytes of a run depend on. -/
structure SendInvariant (s : Shared) (frames : Multiset Frame) : Prop where
  loops : LoopInvariant s frames
  established : Established s frames
  items : ItemsKnown s frames
  peeked : PeekedFirst s frames
  accounted : Accounted s frames
  headed : LoopsHeaded s
  issued : WritesIssued s frames

/-- What is known of the notes of a run. -/
structure NotesInvariant (platform : Platform) (configuration : Configuration) (s : Shared)
    (frames : Multiset Frame) (notes : List Observation) : Prop where
  items : ItemsNoted platform configuration s notes
  headers : HeadersNoted s frames notes
  messages : MessagesNoted platform configuration s notes

section Machine

variable (platform : Platform) (configuration : Configuration)

theorem send_preserved : Preserved (machine platform configuration) loopsWhileUp SendInvariant where
  exec _ _ _ _ _ _ _ _ h hGuard hExec := by
    have hStep := step_of_exec hExec
    exact ⟨(loopInvariant_preserved platform configuration).exec _ _ _ _ _ _ _ _ h.loops trivial hExec,
      (established_preserved platform configuration).exec _ _ _ _ _ _ _ _ h.established hGuard hExec,
      h.items.step hStep,
      h.peeked.step h.loops.write (taking_of_insertion h.established.loops h.loops.write) hStep,
      h.accounted.step h.items h.peeked hStep, h.headed.step h.established hGuard hStep,
      h.issued.step hStep⟩
  enter _ _ _ _ _ _ h hQuiet hGuard hEnter := by
    have hLoops := (loopInvariant_preserved platform configuration).enter _ _ _ _ _ _ h.loops hQuiet
      trivial hEnter
    have hEstablished := (established_preserved platform configuration).enter _ _ _ _ _ _
      h.established hQuiet hGuard hEnter
    have hItems := (itemsKnown_preserved platform configuration).enter _ _ _ _ _ _ h.items hQuiet
      trivial hEnter
    obtain ⟨-, -, -, hPeeked, hAccounted, hHeaded, hIssued⟩ := h
    rcases enter_cases hEnter with ⟨_, rfl, rfl⟩ | ⟨_, _, _, _, rfl, rfl⟩ <;>
      exact ⟨hLoops, hEstablished, hItems, by simpa [PeekedFirst, peeked] using hPeeked,
        hAccounted.of_same rfl ⟨rfl, rfl, rfl⟩ (by simp [entering]) (by simp [delivering]), hHeaded,
        by simpa [WritesIssued, writtenItem] using hIssued⟩

theorem notes_preserved :
    Preserved ((machine platform configuration).observed (observe platform configuration))
      loopsWhileUp.observed fun s frames =>
        SendInvariant s.1 frames ∧ NotesInvariant platform configuration s.1 frames s.2 := by
  refine (send_preserved platform configuration).noting ?_ ?_
  · intro thread frame choice s rest s' frames spawned notes h hNotes _ hExec
    have hPerform := perform_of_exec hExec
    exact ⟨hNotes.items.step h.issued hPerform, hNotes.headers.step h.established h.headed hPerform,
      hNotes.messages.step h.items h.accounted h.headed hNotes.items hNotes.headers hPerform⟩
  · intro event quiet s rest s' frames notes hNotes hEnter
    obtain ⟨⟨hBuffers, hNumbered, hIssued⟩, hHeaders, hMessages⟩ := hNotes
    rcases enter_cases hEnter with ⟨_, rfl, rfl⟩ | ⟨_, _, _, _, rfl, rfl⟩ <;>
      exact ⟨⟨hBuffers, hNumbered, hIssued⟩, hHeaders.of_same (fun _ => rfl) (Nat.le_refl _)
        (fun _ hSocket => hSocket) (by simp [beforeHeader]) (by simp) (fun _ => .inl rfl), hMessages⟩

theorem notes_initial : NotesInvariant platform configuration initial.shared initial.frames [] := by
  constructor
  · constructor <;> simp [initial, acceptedItems]
  · constructor <;> simp [initial, Config.frames, stream]
  · refine ⟨[], ⟨?_, ?_⟩, ?_⟩ <;> simp [initial, stream, messagesOn]

variable {platform configuration} {c : Config (Shared × List Observation) Frame}

end Machine

end Fuerte.Vst.Connection

import Mathlib.Logic.Function.Basic
import Fuerte.MessageStore
import Fuerte.Vst.Reassembly

/-! # From incoming chunks to responses

Every chunk is handed to the item whose number it carries. The chunk that makes
the message complete takes the item out of the store and completes its request.
-/

namespace Fuerte.Vst

set_option autoImplicit false

inductive Mutex where
  | messageStore
  | sendQueue
  | readLoop
  | writeLoop
  | socket
  deriving DecidableEq, Repr

/-- A call of a request's callback, with the mutexes the calling thread holds. -/
structure Invocation where
  item : MessageID
  owner : CallbackOwner
  error : Nat
  request : Option Request
  response : Option Response
  held : List Mutex
  deriving DecidableEq

/-- The items that exist, those in the message store, and the calls made so far. -/
structure Inflight where
  items : MessageID → Option RequestItem
  messageStore : MessageStore
  calls : List Invocation

namespace Inflight

def findByID (inflight : Inflight) (id : MessageID) : Option RequestItem :=
  if id ∈ inflight.messageStore then inflight.items id else none

def setItem (inflight : Inflight) (id : MessageID) (item : RequestItem) : Inflight :=
  { inflight with items := Function.update inflight.items id (some item) }

def removeByID (inflight : Inflight) (id : MessageID) : Inflight :=
  { inflight with messageStore := inflight.messageStore.removeByID id }

/-- `std::move(item->_request)` for the item with this number. -/
def takeRequest (inflight : Inflight) (id : MessageID) : Inflight :=
  match inflight.items id with
  | none => inflight
  | some item => inflight.setItem id { item with request := none }

/-- `CallOnceRequestCallback::invoke` on the callback of an item: the exchange of
the flag, and the call if the flag was not set before. -/
def invoke (inflight : Inflight) (id : MessageID) (error : ErrorCondition)
    (request : Option Request) (response : Option Response) (held : List Mutex) : Inflight :=
  match inflight.items id with
  | none => inflight
  | some item =>
    if item.callback.invoked then inflight
    else
      let call : Invocation :=
        ⟨id, item.callback.cb, errorToInt error, request, response, held⟩
      { inflight.setItem id { item with callback := { item.callback with invoked := true } } with
        calls := inflight.calls ++ [call] }

def callsOf (inflight : Inflight) (id : MessageID) : List Invocation :=
  inflight.calls.filter fun call => call.item = id

end Inflight

def createResponse (platform : Platform) (messageID : MessageID) (responseBuffer : List UInt8) :
    Except Fault Response := do
  let (messageHeader, messageHeaderLength) ←
    validateAndExtractMessageHeader platform.vpack platform.assertions 1 responseBuffer
  let response := Response.ofHeader messageHeader platform.uninitialised
  return { response with messageID }.setPayload responseBuffer messageHeaderLength

/-- What `processChunk` leaves behind, and the exception it ends with, if any. -/
def processChunk (platform : Platform) (inflight : Inflight) (chunk : ChunkHeader) :
    Inflight × Option Fault :=
  match inflight.findByID chunk.messageID.toNat with
  | none => (inflight, none)
  | some item =>
    let (completeBuffer, item) := (item.addChunk chunk).assemble platform
    let inflight := inflight.setItem item.messageID item
    match completeBuffer with
    | none => (inflight, none)
    | some buffer =>
      let inflight := inflight.removeByID item.messageID
      match createResponse platform item.messageID buffer with
      | .error fault => (inflight, some fault)
      | .ok response =>
        ((inflight.takeRequest item.messageID).invoke item.messageID .noError item.request
          (some response) [], none)

/-- `processChunk` for one chunk after the other, up to the first exception. -/
def processChunks (platform : Platform) : Inflight → List ChunkHeader → Inflight × Option Fault
  | inflight, [] => (inflight, none)
  | inflight, chunk :: chunks =>
    match processChunk platform inflight chunk with
    | (inflight, some fault) => (inflight, some fault)
    | (inflight, none) => processChunks platform inflight chunks

theorem processChunks_append_singleton {platform : Platform} {inflight after : Inflight}
    {chunks : List ChunkHeader} (h : processChunks platform inflight chunks = (after, none))
    (chunk : ChunkHeader) :
    processChunks platform inflight (chunks ++ [chunk]) = processChunk platform after chunk := by
  induction chunks generalizing inflight with
  | nil =>
    cases h
    rw [List.nil_append, processChunks]
    cases hOnly : processChunk platform after chunk with
    | mk next fault => cases fault <;> rfl
  | cons first chunks ih =>
    rw [List.cons_append]
    simp only [processChunks] at h ⊢
    cases hFirst : processChunk platform inflight first with
    | mk next fault =>
      rw [hFirst] at h
      cases fault with
      | some fault => cases h
      | none => exact ih h

section OneChunk

variable {platform : Platform} {inflight : Inflight} {chunk : ChunkHeader} {item : RequestItem}

theorem processChunk_of_unknown (h : chunk.messageID.toNat ∉ inflight.messageStore) :
    processChunk platform inflight chunk = (inflight, none) := by
  rw [processChunk, Inflight.findByID, if_neg h]

/-- A chunk of a stored item that does not complete its message only adds to the item. -/
theorem processChunk_of_missing (hStore : item.messageID ∈ inflight.messageStore)
    (hItem : inflight.items item.messageID = some item)
    (hChunk : chunk.messageID.toNat = item.messageID)
    (hMissing : (item.addChunk chunk).assemble platform = (none, item.addChunk chunk)) :
    processChunk platform inflight chunk =
      (inflight.setItem item.messageID (item.addChunk chunk), none) := by
  rw [processChunk, hChunk, Inflight.findByID, if_pos hStore, hItem]
  simp only [hMissing]
  rfl

/-- The chunk that completes a message takes the item out of the store and
invokes its callback. -/
theorem processChunk_of_complete (hStore : item.messageID ∈ inflight.messageStore)
    (hItem : inflight.items item.messageID = some item)
    (hChunk : chunk.messageID.toNat = item.messageID) (hInvoked : item.callback.invoked = false)
    {buffer : List UInt8} {assembled : RequestItem}
    (hComplete : (item.addChunk chunk).assemble platform = (some buffer, assembled))
    (hSame : assembled.messageID = item.messageID ∧ assembled.request = item.request ∧
      assembled.callback = item.callback)
    {response : Response} (hResponse : createResponse platform item.messageID buffer = .ok response) :
    ∃ done, processChunk platform inflight chunk = (
      { items := Function.update inflight.items item.messageID (some done)
        messageStore := inflight.messageStore.removeByID item.messageID
        calls := inflight.calls ++
          [⟨item.messageID, item.callback.cb, 0, item.request, some response, []⟩] }, none) := by
  obtain ⟨hID, hRequest, hCallback⟩ := hSame
  refine ⟨{ assembled with
    request := none
    callback := { assembled.callback with invoked := true } }, ?_⟩
  rw [processChunk, hChunk, Inflight.findByID, if_pos hStore, hItem]
  simp only [hComplete, hID, hResponse, Inflight.takeRequest, Inflight.removeByID, Inflight.setItem,
    Inflight.invoke, Function.update_self, Function.update_idem, hCallback, hInvoked, hRequest]
  rfl

end OneChunk

end Fuerte.Vst

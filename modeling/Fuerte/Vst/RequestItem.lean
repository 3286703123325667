import Fuerte.Vst.BuildChunks
import Fuerte.Vst.MessageHeader

/-! # Requests in flight

An item carries a request to the network and collects the chunks of its
response. Response content is kept in order of arrival; every chunk remembers
where its own content starts.
-/

namespace Fuerte.Vst

set_option autoImplicit false

open ByteMemory

/-- Whom an item's callback belongs to: the caller of `sendRequest`, or the
connection itself for the request that authenticates it. -/
inductive CallbackOwner where
  | user
  | authentication
  deriving DecidableEq, Repr

/-- `CallOnceRequestCallback`: the callback and whether it has been invoked. -/
structure CallOnceRequestCallback where
  invoked : Bool := false
  cb : CallbackOwner

structure RequestItem where
  request : Option Request
  callback : CallOnceRequestCallback
  messageID : MessageID
  msgHdr : List UInt8 := []
  requestChunkBuffer : List UInt8 := []
  requestBuffers : List ConstBuffer := []
  responseChunks : List ChunkHeader := []
  responseChunkContent : List UInt8 := []
  /-- Zero as long as the number is not known. -/
  responseNumberOfChunks : Nat := 0

namespace RequestItem

/-- The defaults `prepareForNetwork` puts into the request's header. -/
def withDefaults (header : MessageHeader) : MessageHeader :=
  { header with
    version := some 1
    database := some (header.database.getD (ascii "_system")) }

/-- The header slice followed by the payload slices, and the request as it is
left behind. -/
def messageParts (vpack : VelocyPack) (request : Request) :
    Except Fault (List UInt8 × List VSlice × Request) := do
  let request := { request with header := withDefaults request.header }
  let value ← createVstMessageHeader request.header
  let msgHdr := vpack.build value
  let (slices, request) := request.slices vpack
  let slices ← slices
  return (msgHdr, ⟨msgHdr, vpack.byteSize msgHdr⟩ :: slices, request)

/-- What `prepareForNetwork` makes of a request. -/
def networkRequest (vpack : VelocyPack) (request : Request) : Request :=
  ({ request with header := withDefaults request.header }.slices vpack).2

/-- The loop that writes the chunk headers and lists the buffers to send. The
header buffers point into `_requestChunkBuffer`, which has been reserved in full
and does not move. -/
def writeLoop (version : VSTVersion) :
    List ChunkHeader → List UInt8 → List ConstBuffer → List UInt8 × List ConstBuffer
  | [], requestChunkBuffer, requestBuffers => (requestChunkBuffer, requestBuffers)
  | chunk :: chunks, requestChunkBuffer, requestBuffers =>
    let chunkOffset := requestChunkBuffer.length
    let requestChunkBuffer := requestChunkBuffer ++ chunk.writeHeader version
    let chunkHdrLen := requestChunkBuffer.length - chunkOffset
    let hdr : ConstBuffer :=
      ⟨Pointer.ofList requestChunkBuffer fun _ => 0, chunkOffset, chunkHdrLen⟩
    writeLoop version chunks requestChunkBuffer (requestBuffers ++ [hdr, chunk.data])

def prepareForNetwork (vpack : VelocyPack) (version : VSTVersion) (item : RequestItem) :
    Except Fault RequestItem :=
  match item.request with
  | none => .error .nullPointer
  | some request => do
    let (msgHdr, slices, request) ← messageParts vpack request
    let chunks := buildChunks (UInt64.ofNat item.messageID) defaultMaxChunkSize slices
    let (requestChunkBuffer, requestBuffers) :=
      writeLoop version chunks item.requestChunkBuffer item.requestBuffers
    return { item with request := some request, msgHdr, requestChunkBuffer, requestBuffers }

/-- `resetSendData`. -/
def resetSendData (item : RequestItem) : RequestItem :=
  { item with msgHdr := [], requestBuffers := [], requestChunkBuffer := [] }

def addChunk (item : RequestItem) (chunk : ChunkHeader) : RequestItem :=
  { item with
    responseChunkContent := item.responseChunkContent ++ chunk.data.bytes
    responseChunks := item.responseChunks ++ [{ chunk with
      responseContentLength := chunk.data.size
      responseChunkContentOffset := item.responseChunkContent.length
      data := ConstBuffer.empty }]
    responseNumberOfChunks :=
      if chunk.isFirst then chunk.numberOfChunks.toNat else item.responseNumberOfChunks }

/-- The assembled message, if all chunks seem to be there, and the item with its
chunks sorted. -/
def assemble (platform : Platform) (item : RequestItem) : Option (List UInt8) × RequestItem :=
  if item.responseNumberOfChunks = 0 then (none, item)
  else if item.responseChunks.length < item.responseNumberOfChunks then (none, item)
  else
    let responseChunks := platform.sort.run item.responseChunks
    let buffer := responseChunks.flatMap fun c =>
      (item.responseChunkContent.drop c.responseChunkContentOffset).take c.responseContentLength
    (some buffer, { item with responseChunks })

end RequestItem

/-- A platform on which short messages can be run. -/
def shortPlatform : Platform where
  vpack := .short
  sort := .insertion ChunkHeader.key
  assertions := true
  behind := fun _ => 0
  uninitialised := 0

/-- `GET /_api/version` without a payload. -/
def versionRequest : Request where
  header := {
    type := some .request
    restVerb := some .get
    path := some (ascii "/_api/version")
    parameters := some []
    metadata := some [] }

def versionItem : RequestItem where
  request := some versionRequest
  callback := { cb := .user }
  messageID := 1

end Fuerte.Vst

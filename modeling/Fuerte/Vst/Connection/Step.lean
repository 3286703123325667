import Fuerte.Library.Interleaving
import Fuerte.Vst.Connection.State

/-! # The steps of a VST connection

Every frame of a function of the connection is executed by one definition. A
frame that waits for a mutex, or for an operation to end as chosen, has no step.
-/

namespace Fuerte.Vst.Connection

set_option autoImplicit false

/-- The state after a step, the frames that replace the executed one, and the
threads it starts. -/
abbrev Outcome := Shared × List Frame × List (List Frame)

namespace Shared

/-- Go on with these frames. -/
def next (s : Shared) (frames : List Frame) : Option Outcome := some (s, frames, [])

/-- Start an asynchronous operation and go on with these frames. -/
def async (s : Shared) (operation : Frame) (frames : List Frame) : Option Outcome :=
  some (s, frames, [[operation]])

/-- The process ends in this frame. -/
def throw (s : Shared) (fault : Fault) (frame : Frame) : Option Outcome :=
  some ({ s with fault := some fault }, [frame], [])

def setInflight (s : Shared) (inflight : Inflight) : Shared := { s with toInflight := inflight }

def updateItem (s : Shared) (id : MessageID) (change : RequestItem → RequestItem) : Shared :=
  { s with items := Function.update s.items id ((s.items id).map change) }

def updateSocket (s : Shared) (id : SocketID) (change : Socket → Socket) : Shared :=
  { s with sockets := Function.update s.sockets id (change (s.sockets id)) }

def updateReadLoop (s : Shared) (id : LoopID) (change : ReadLoop → ReadLoop) : Shared :=
  { s with readLoops := Function.update s.readLoops id (change (s.readLoops id)) }

def updateWriteLoop (s : Shared) (id : LoopID) (change : WriteLoop → WriteLoop) : Shared :=
  { s with writeLoops := Function.update s.writeLoops id (change (s.writeLoops id)) }

/-- An operation on a socket is started on this stream. -/
def transfer (s : Shared) (stream : Stream) (id : SocketID) : Shared :=
  { s with history := { s.history with transfers := s.history.transfers ++ [(stream, id)] } }

/-- `_current` owns a loop, and so do the handlers that the loop has been bound to. A thread
that has just created a loop, or runs it for the first time, does not. -/
def readLoopAlive (s : Shared) (r : LoopID) : Bool := s.readLoop = some r || (s.readLoops r).owned

def writeLoopAlive (s : Shared) (w : LoopID) : Bool :=
  s.writeLoop = some w || (s.writeLoops w).owned

/-- The mutexes a thread holds. -/
def held (s : Shared) (thread : Nat) : List Mutex :=
  (if s.messageStoreMutex = some thread then [.messageStore] else []) ++
    if s.writeLoopMutex = some thread then [.writeLoop] else []

end Shared

/-! ## Requests -/

section Requests

variable (platform : Platform) (configuration : Configuration)

/-- `createRequestItem`: the item, if `prepareForNetwork` returns, and the state
with the number used up. -/
def createItem (s : Shared) (request : Request) (cb : CallbackOwner) :
    Shared × Except Fault MessageID :=
  let id := s.messageID + 1
  let s := { s with messageID := id }
  let item : RequestItem :=
    { request := some { request with messageID := id }, callback := { cb }, messageID := id }
  match item.prepareForNetwork platform.vpack configuration.vstVersion with
  | .error fault => (s, .error fault)
  | .ok item =>
    let accepted := Function.update s.history.accepted id (some { request with messageID := id })
    ({ s.setInflight (s.toInflight.setItem id item) with
      history := { s.history with accepted } }, .ok id)

/-- An exception goes to the caller of `sendRequest`. -/
def createRequestItem (request : Request) (s : Shared) : Option Outcome :=
  match createItem platform configuration s request .user with
  | (s, .error _) => s.next []
  | (s, .ok id) => s.next [.addToQueue id]

def addToQueue (id : MessageID) (s : Shared) : Option Outcome :=
  { s with
    sendQueue := s.sendQueue ++ [id]
    history := { s.history with enqueued := s.history.enqueued ++ [id] } }.next [.testConnected]

def testConnected (s : Shared) : Option Outcome :=
  s.next (if s.connected then [.startWriting] else [])

def userCode (choice : Choice) (s : Shared) : Option Outcome :=
  match choice with
  | .proceed => s.next []
  | .sendRequest request => s.next [.createRequestItem request, .userCode]
  | .requestsLeft => s.next [.requestsLeftQueue, .userCode]
  | _ => none

def requestsLeftStore (s : Shared) : Option Outcome :=
  if s.messageStoreMutex.isSome then none else s.next []

/-! ## Completing a request -/

def moveRequest (id : MessageID) (error : ErrorCondition) (response : Option Response)
    (s : Shared) : Option Outcome :=
  match s.items id with
  | none => none
  | some item =>
    (s.setInflight (s.toInflight.takeRequest id)).next [.invoke id error item.request response]

def invoke (thread : Nat) (id : MessageID) (error : ErrorCondition) (request : Option Request)
    (response : Option Response) (s : Shared) : Option Outcome :=
  match s.items id with
  | none => none
  | some item =>
    (s.setInflight (s.toInflight.invoke id error request response (s.held thread))).next
      (if item.callback.invoked then []
      else match item.callback.cb with
        | .user => [.userCode]
        | .authentication => [.authenticationCallback error])

def authenticationCallback (error : ErrorCondition) (s : Shared) : Option Outcome :=
  if errorToInt error ≠ 0 then { s with permanentFailure := true }.next [.onFailure error]
  else s.next []

def onFailure (thread : Nat) (error : ErrorCondition) (s : Shared) : Option Outcome :=
  if configuration.onFailure then
    { s with history := { s.history with
      failures := s.history.failures ++ [(errorToInt error, s.held thread)] } }.next [.userCode]
  else s.next []

/-! ## Connecting -/

def startResolveHost (s : Shared) : Option Outcome := s.async .awaitResolve []

def awaitResolve (choice : Choice) (s : Shared) : Option Outcome :=
  match choice with
  | .proceed => s.next [.initSocket]
  | .failed | .noEndpoints => s.next [.onFailure .couldNotConnect]
  | _ => none

def initSocket (s : Shared) : Option Outcome :=
  if platform.assertions && (s.socket.isSome || s.sslSocket.isSome) then
    s.throw .assertion .initSocket
  else
    { s with
      socket := some s.socketCount
      sslSocket := some s.socketCount
      socketCount := s.socketCount + 1 }.async (.awaitConnect s.socketCount) []

def awaitConnect (id : SocketID) (choice : Choice) (s : Shared) : Option Outcome :=
  match choice with
  | .proceed =>
    (s.updateSocket id fun socket => { socket with connected := true }).next
      [if configuration.ssl then .startSSLHandshake else .finishInitialization]
  | .failed => s.next [.stopWriting .canceledDuringReset .connectFailed]
  | _ => none

def startSSLHandshake (s : Shared) : Option Outcome :=
  match s.sslSocket with
  | none => s.throw .nullPointer .startSSLHandshake
  | some id => s.async (.awaitHandshake id) []

def awaitHandshake (choice : Choice) (s : Shared) : Option Outcome :=
  match choice with
  | .proceed => s.next [.finishInitialization]
  | .failed => s.next [.handshakeFailed]
  | _ => none

/-- The effect of `shutdownSocket`. -/
def closeSocket (s : Shared) : Shared :=
  { s with
    sockets := match s.socket with
      | none => s.sockets
      | some id => Function.update s.sockets id { s.sockets id with closed := true }
    socket := none
    sslSocket := none }

def handshakeFailed (s : Shared) : Option Outcome :=
  (closeSocket s).next [.onFailure .couldNotConnect]

def finishInitialization (s : Shared) : Option Outcome :=
  match s.socket with
  | none => s.throw .nullPointer .finishInitialization
  | some id => (s.transfer .tcp id).async (.awaitHeader id) []

def awaitHeader (id : SocketID) (choice : Choice) (s : Shared) : Option Outcome :=
  match choice with
  | .proceed =>
    (s.updateSocket id fun socket => { socket with headerWritten := true }).next
      [.insertAuthenticationRequests]
  | .failed => s.next [.initializationFailed]
  | _ => none

def initializationFailed (s : Shared) : Option Outcome :=
  { s with connected := false }.next [.stopWriting .canceledDuringReset .connectFailed]

def authenticationRequest : Request where
  header := {
    type := some .authentication
    encryption := some (ascii "plain")
    user := some configuration.user
    password := some configuration.password }

def insertAuthenticationRequests (s : Shared) : Option Outcome :=
  match configuration.authenticationType with
  | .none => s.next [.setConnected]
  | .basic =>
    match createItem platform configuration s (authenticationRequest configuration)
      .authentication with
    | (s, .error fault) => s.throw fault .insertAuthenticationRequests
    | (s, .ok id) => s.next [.insertIntoQueue id]
  | .jwt => s.throw (.invalidArgument "JWT authentication not yet implemented")
      .insertAuthenticationRequests

def insertIntoQueue (id : MessageID) (s : Shared) : Option Outcome :=
  { s with
    sendQueue := id :: s.sendQueue
    history := { s.history with enqueued := s.history.enqueued ++ [id] } }.next [.setConnected]

def setConnected (s : Shared) : Option Outcome :=
  { s with connected := true }.next [.startWriting, .startReading]

/-! ## Disconnecting -/

def restartConnection (error : ErrorCondition) (s : Shared) : Option Outcome :=
  if platform.assertions && (s.readLoop.isSome || s.writeLoop.isSome) then
    s.throw .assertion (.restartConnection error)
  else
    { s with history := { s.history with
      restarts := s.history.restarts ++ [s.socket] } }.next [.stopWriting error .reconnect]

def stopWriting (error : ErrorCondition) (after : AfterShutdown) (s : Shared) : Option Outcome :=
  if s.writeLoopMutex.isSome then none
  else { s with writeLoop := none }.next [.stopReading error after]

def stopReading (error : ErrorCondition) (after : AfterShutdown) (s : Shared) : Option Outcome :=
  { s with readLoop := none }.next [.shutdownSocket error after]

def shutdownSocket (error : ErrorCondition) (after : AfterShutdown) (s : Shared) : Option Outcome :=
  (closeSocket s).next [.cancelAll error after]

def cancelAll (thread : Nat) (error : ErrorCondition) (after : AfterShutdown) (s : Shared) :
    Option Outcome :=
  if s.messageStoreMutex.isSome then none
  else { s with messageStoreMutex := some thread }.next [.cancelItems error after s.messageStore]

/-- The loop of `cancelAll`, and its end with the map cleared and the mutex released. -/
def cancelItems (error : ErrorCondition) (after : AfterShutdown) (todo : List MessageID)
    (s : Shared) : Option Outcome :=
  match todo with
  | id :: todo => s.next [.moveRequest id error none, .cancelItems error after todo]
  | [] =>
    { s with messageStore := [], messageStoreMutex := none }.next
      (match after with
      | .reconnect => [.reconnect]
      | .connectFailed => [.onFailure .couldNotConnect]
      | .destroyed => [])

def reconnect (s : Shared) : Option Outcome :=
  s.next (if s.permanentFailure then [] else [.startResolveHost])

end Requests

/-! ## Reading -/

section Reading

variable (platform : Platform) (configuration : Configuration)

/-- The new read loop, if there is none. -/
def startReading (s : Shared) : Shared × List Frame :=
  match s.readLoop with
  | some _ => (s, [])
  | none =>
    ({ s with
      readLoops := Function.update s.readLoops s.readLoopCount { socket := s.socket }
      readLoop := some s.readLoopCount
      readLoopCount := s.readLoopCount + 1 }, [.readLoopStart s.readLoopCount])

def readLoopStart (r : LoopID) (s : Shared) : Option Outcome :=
  if s.readLoopAlive r = false then s.throw .useAfterFree (.readLoopStart r)
  else if (s.readLoops r).started then s.next []
  else (s.updateReadLoop r fun loop => { loop with started := true }).next [.readNextBytes r]

/-- `readNextBytes` up to the answer of `shouldStopReading`, which looks at the
request of every stored item to find the smallest timeout. -/
def readNextBytes (r : LoopID) (choice : Choice) (s : Shared) : Option Outcome :=
  if s.messageStoreMutex.isSome then none
  -- a loop that is gone by now may still have been there when `_connection` was read; but the
  -- current loop may have its address
  else if choice = .dangling ∧ s.readLoopAlive r = false then
    s.throw .useAfterFree (.readNextBytes r)
  else if s.readLoop ≠ some r then s.next []
  else if s.permanentFailure then s.next []
  else if s.messageStore = [] ∧ s.sendQueue = [] then { s with readLoop := none }.next []
  else if s.messageStore.any fun id => ((s.items id).bind RequestItem.request).isNone then
    s.throw .nullPointer (.readNextBytes r)
  else s.next [.setReadDeadline r]

/-- The first thing is `shared_from_this()`. -/
def setReadDeadline (r : LoopID) (s : Shared) : Option Outcome :=
  if s.readLoopAlive r = false then s.throw .useAfterFree (.setReadDeadline r)
  else
    { s.updateReadLoop r fun loop => { loop with deadline := some s.timerCount, owned := true } with
      timerCount := s.timerCount + 1 }.async (.awaitReadDeadline r s.timerCount) [.asyncRead r]

def asyncRead (r : LoopID) (s : Shared) : Option Outcome :=
  match (s.readLoops r).socket with
  | none => s.throw .nullPointer (.asyncRead r)
  | some socket => (s.transfer .tcp socket).async (.awaitRead r) []

def awaitRead (r : LoopID) (choice : Choice) (s : Shared) : Option Outcome :=
  match choice with
  | .received bytes =>
    if bytes = [] then none
    else (s.updateReadLoop r fun loop =>
      { loop with receiveBuffer := loop.receiveBuffer ++ bytes }).next [.bytesReceived r]
  | .failed => s.next [.readFailed r]
  | _ => none

def bytesReceived (r : LoopID) (s : Shared) : Option Outcome :=
  (s.updateReadLoop r fun loop => { loop with deadline := none }).next [.inspect r]

def readFailed (r : LoopID) (s : Shared) : Option Outcome :=
  (s.updateReadLoop r fun loop => { loop with deadline := none }).next
    [.restartReading r .vstReadError none]

def inspect (r : LoopID) (s : Shared) : Option Outcome :=
  match nextChunk configuration.vstVersion platform.behind (s.readLoops r).receiveBuffer with
  | none => s.next [.readNextBytes r]
  | some (iteration, _) =>
    s.next [.findItem iteration.chunk, .consume r iteration.chunk.chunkLength.toNat]

def consume (r : LoopID) (length : Nat) (s : Shared) : Option Outcome :=
  (s.updateReadLoop r fun loop =>
    { loop with receiveBuffer := loop.receiveBuffer.drop length }).next [.inspect r]

/-- `processChunk` up to the answer of `findByID`. -/
def findItem (chunk : ChunkHeader) (s : Shared) : Option Outcome :=
  if s.messageStoreMutex.isSome then none
  else s.next
    (if chunk.messageID.toNat ∈ s.messageStore then [.addChunk chunk.messageID.toNat chunk] else [])

def addChunk (id : MessageID) (chunk : ChunkHeader) (s : Shared) : Option Outcome :=
  match s.items id with
  | none => none
  | some item =>
    let (completeBuffer, item) := (item.addChunk chunk).assemble platform
    (s.setInflight (s.toInflight.setItem id item)).next
      (match completeBuffer with
      | none => []
      | some buffer => [.removeCompleted id buffer])

def removeCompleted (id : MessageID) (buffer : List UInt8) (s : Shared) : Option Outcome :=
  if s.messageStoreMutex.isSome then none
  else (s.setInflight (s.toInflight.removeByID id)).next [.createResponse id buffer]

def createResponseFor (id : MessageID) (buffer : List UInt8) (s : Shared) : Option Outcome :=
  match Vst.createResponse platform id buffer with
  | .error fault => s.throw fault (.createResponse id buffer)
  | .ok response => s.next [.moveRequest id .noError (some response)]

/-- `restartConnection(const ReadLoop*, ...)`. -/
def restartReading (r : LoopID) (error : ErrorCondition) (s : Shared) : Option Outcome :=
  if s.writeLoopMutex.isSome then none
  else if s.readLoop ≠ some r then s.next []
  else { s with readLoop := none, writeLoop := none }.next [.restartConnection error]

/-- A wait that has been cancelled ends without effect. -/
def awaitReadDeadline (r : LoopID) (timer : TimerID) (choice : Choice) (s : Shared) :
    Option Outcome :=
  match choice with
  | .expired =>
    if (s.readLoops r).deadline = some timer then s.next [.restartReading r .timeout (some timer)]
    else none
  | .proceed => if (s.readLoops r).deadline = some timer then none else s.next []
  | _ => none

end Reading

/-! ## Writing -/

section Writing

variable (platform : Platform)

def startWriting (s : Shared) : Option Outcome :=
  if s.writeLoopMutex.isSome then none
  else match s.writeLoop with
    | some _ => s.next []
    | none =>
      { s with
        writeLoops := Function.update s.writeLoops s.writeLoopCount { socket := s.socket }
        writeLoop := some s.writeLoopCount
        writeLoopCount := s.writeLoopCount + 1 }.next [.writeLoopStart s.writeLoopCount]

def writeLoopStart (w : LoopID) (s : Shared) : Option Outcome :=
  if s.writeLoopAlive w = false then s.throw .useAfterFree (.writeLoopStart w)
  else if (s.writeLoops w).started then s.next []
  else (s.updateWriteLoop w fun loop => { loop with started := true }).next [.sendNextRequest w]

/-- `getNextRequestToSend` up to the tests whether to go on; from there on it
keeps the mutex. -/
def sendNextRequest (thread : Nat) (w : LoopID) (choice : Choice) (s : Shared) : Option Outcome :=
  if s.writeLoopMutex.isSome then none
  else if choice = .dangling ∧ s.writeLoopAlive w = false then
    s.throw .useAfterFree (.sendNextRequest w)
  else if s.writeLoop ≠ some w then s.next []
  else if s.permanentFailure then s.next []
  else { s with writeLoopMutex := some thread }.next [.queueFront w]

def queueFront (w : LoopID) (s : Shared) : Option Outcome :=
  match s.sendQueue with
  | [] => s.next [.stopLoop w]
  | id :: _ => s.next [.addToStore w id]

def stopLoop (s : Shared) : Option Outcome :=
  { s with writeLoop := none, writeLoopMutex := none }.next []

def addToStore (w : LoopID) (id : MessageID) (s : Shared) : Option Outcome :=
  if s.messageStoreMutex.isSome then none
  else { s with messageStore := s.messageStore.add id }.next [.removeFromQueue w id]

def removeFromQueue (w : LoopID) (id : MessageID) (s : Shared) : Option Outcome :=
  match s.sendQueue with
  | [] => s.throw .emptyQueue (.removeFromQueue w id)
  | _ :: sendQueue =>
    { s with
      sendQueue
      writeLoopMutex := none
      history := { s.history with handedOver := s.history.handedOver ++ [id] } }.next [.listen w id]

def listen (w : LoopID) (id : MessageID) (choice : Choice) (s : Shared) : Option Outcome :=
  if choice = .dangling ∧ s.writeLoopAlive w = false then s.throw .useAfterFree (.listen w id)
  else
    let (s, frames) := startReading s
    s.next (frames ++ [.setWriteDeadline w id])

/-- The first thing is `shared_from_this()`. -/
def setWriteDeadline (w : LoopID) (id : MessageID) (s : Shared) : Option Outcome :=
  if s.writeLoopAlive w = false then s.throw .useAfterFree (.setWriteDeadline w id)
  else match s.items id with
  | none => none
  | some item =>
    if platform.assertions && item.requestBuffers.isEmpty then
      s.throw .assertion (.setWriteDeadline w id)
    else if item.request.isNone then s.throw .nullPointer (.setWriteDeadline w id)
    else
      { s.updateWriteLoop w fun loop =>
          { loop with deadline := some s.timerCount, owned := true } with
        timerCount := s.timerCount + 1 }.async (.awaitWriteDeadline w s.timerCount)
          [.asyncWrite w id]

def asyncWrite (w : LoopID) (id : MessageID) (s : Shared) : Option Outcome :=
  match (s.writeLoops w).socket with
  | none => s.throw .nullPointer (.asyncWrite w id)
  | some socket =>
    ({ s with history := { s.history with
      writes := s.history.writes ++ [(socket, id)] } }.transfer .tcp socket).async
        (.awaitWrite w id) []

def awaitWrite (w : LoopID) (id : MessageID) (choice : Choice) (s : Shared) : Option Outcome :=
  match choice with
  | .proceed => s.next [.requestWritten w id]
  | .failed => s.next [.writeFailed w id]
  | _ => none

def requestWritten (w : LoopID) (id : MessageID) (s : Shared) : Option Outcome :=
  ((s.updateWriteLoop w fun loop => { loop with deadline := none }).updateItem id
    RequestItem.resetSendData).next [.sendNextRequest w]

def writeFailed (w : LoopID) (id : MessageID) (s : Shared) : Option Outcome :=
  (s.updateWriteLoop w fun loop => { loop with deadline := none }).next [.removeFailed w id]

def removeFailed (w : LoopID) (id : MessageID) (s : Shared) : Option Outcome :=
  if s.messageStoreMutex.isSome then none
  else (s.setInflight (s.toInflight.removeByID id)).next
    [.moveRequest id .vstWriteError none, .restartWriting w .vstWriteError none]

/-- `restartConnection(const WriteLoop*, ...)`. -/
def restartWriting (w : LoopID) (error : ErrorCondition) (s : Shared) : Option Outcome :=
  if s.writeLoopMutex.isSome then none
  else if s.writeLoop ≠ some w then s.next []
  else { s with readLoop := none, writeLoop := none }.next [.restartConnection error]

def awaitWriteDeadline (w : LoopID) (timer : TimerID) (choice : Choice) (s : Shared) :
    Option Outcome :=
  match choice with
  | .expired =>
    if (s.writeLoops w).deadline = some timer then s.next [.restartWriting w .timeout (some timer)]
    else none
  | .proceed => if (s.writeLoops w).deadline = some timer then none else s.next []
  | _ => none

end Writing

/-! ## The machine -/

section Machine

variable (platform : Platform) (configuration : Configuration)

def perform (thread : Nat) (frame : Frame) (choice : Choice) : Shared → Option Outcome :=
  match frame with
  | .userCode => userCode choice
  | .createRequestItem request => createRequestItem platform configuration request
  | .addToQueue id => addToQueue id
  | .testConnected => testConnected
  | .requestsLeftQueue => fun s => s.next [.requestsLeftStore]
  | .requestsLeftStore => requestsLeftStore
  | .startResolveHost => startResolveHost
  | .awaitResolve => awaitResolve choice
  | .initSocket => initSocket platform
  | .awaitConnect id => awaitConnect configuration id choice
  | .startSSLHandshake => startSSLHandshake
  | .awaitHandshake _ => awaitHandshake choice
  | .handshakeFailed => handshakeFailed
  | .finishInitialization => finishInitialization
  | .awaitHeader id => awaitHeader id choice
  | .initializationFailed => initializationFailed
  | .insertAuthenticationRequests => insertAuthenticationRequests platform configuration
  | .insertIntoQueue id => insertIntoQueue id
  | .setConnected => setConnected
  | .onFailure error => onFailure configuration thread error
  | .restartConnection error => restartConnection platform error
  | .stopWriting error after => stopWriting error after
  | .stopReading error after => stopReading error after
  | .shutdownSocket error after => shutdownSocket error after
  | .cancelAll error after => cancelAll thread error after
  | .cancelItems error after todo => cancelItems error after todo
  | .reconnect => reconnect
  | .startReading => fun s => (startReading s).1.next (startReading s).2
  | .readLoopStart r => readLoopStart r
  | .readNextBytes r => readNextBytes r choice
  | .setReadDeadline r => setReadDeadline r
  | .asyncRead r => asyncRead r
  | .awaitRead r => awaitRead r choice
  | .bytesReceived r => bytesReceived r
  | .readFailed r => readFailed r
  | .inspect r => inspect platform configuration r
  | .consume r length => consume r length
  | .findItem chunk => findItem chunk
  | .addChunk id chunk => addChunk platform id chunk
  | .removeCompleted id buffer => removeCompleted id buffer
  | .createResponse id buffer => createResponseFor platform id buffer
  | .restartReading r error _ => restartReading r error
  | .awaitReadDeadline r timer => awaitReadDeadline r timer choice
  | .startWriting => startWriting
  | .writeLoopStart w => writeLoopStart w
  | .sendNextRequest w => sendNextRequest thread w choice
  | .queueFront w => queueFront w
  | .stopLoop _ => stopLoop
  | .addToStore w id => addToStore w id
  | .removeFromQueue w id => removeFromQueue w id
  | .listen w id => listen w id choice
  | .setWriteDeadline w id => setWriteDeadline platform w id
  | .asyncWrite w id => asyncWrite w id
  | .awaitWrite w id => awaitWrite w id choice
  | .requestWritten w id => requestWritten w id
  | .writeFailed w id => writeFailed w id
  | .removeFailed w id => removeFailed w id
  | .restartWriting w error _ => restartWriting w error
  | .awaitWriteDeadline w timer => awaitWriteDeadline w timer choice
  | .moveRequest id error response => moveRequest id error response
  | .invoke id error request response => invoke thread id error request response
  | .authenticationCallback error => authenticationCallback error

/-- A thread of the user, or the destructor: the loops refer to the connection,
so it lives as long as one of them is current. -/
def enter (event : Event) (quiet : Bool) (s : Shared) : Option (Shared × List Frame) :=
  match event with
  | .thread => if s.destroyed then none else some (s, [.userCode])
  | .destroy =>
    if quiet && s.readLoop.isNone && s.writeLoop.isNone && !s.destroyed then
      some ({ s with destroyed := true }, [.stopWriting .canceledDuringReset .destroyed])
    else none

def machine : Interleaving.Machine Shared Frame Choice Event where
  exec thread frame choice s :=
    if s.fault.isSome then none else perform platform configuration thread frame choice s
  enter event quiet s := if s.fault.isSome then none else enter event quiet s

/-- A connection right after its construction: `start` has been called. -/
def initial : Interleaving.Config Shared Frame where
  shared := { items := fun _ => none, messageStore := [], calls := [] }
  threads := [[.startResolveHost]]

end Machine

/-! ## Runs -/

abbrev Label := Interleaving.Label Choice Event

/-- The next steps of a thread, none of them failing. -/
def proceed (thread steps : Nat) : List Label := List.replicate steps (.run thread .proceed)

/-- A thread in user code sends a request. -/
def send (thread : Nat) (request : Request) : List Label := [.run thread (.sendRequest request)]

/-- The operation a thread waits for fails. -/
def fail (thread : Nat) : List Label := [.run thread .failed]

/-- The response of a server, in one chunk and without a payload. -/
def answer (messageID : UInt64) (status : Nat) : List UInt8 :=
  let header := VelocyPack.short.build (.array [.int 1, .int 2, .uint status])
  ({ chunkX := 3, messageID, data := .ofList header } : ChunkHeader).encode .vst1_0

/-- A thread that waits for a read gets these bytes. -/
def receive (thread : Nat) (bytes : List UInt8) : List Label := [.run thread (.received bytes)]

/-- The deadline a thread waits for expires. -/
def expire (thread : Nat) : List Label := [.run thread .expired]

def basicAuthentication : Configuration where
  authenticationType := .basic
  user := ascii "root"

/-- A connection without TLS and authentication is set up for the first time. -/
def establish : List Label := proceed 0 1 ++ proceed 1 2 ++ proceed 2 2 ++ proceed 3 11

/-- Thread 4 sends a first request, up to where threads 5 to 8 wait for the
deadline and the end of the read and of the write. -/
def sendFirst : List Label := [.enter .thread] ++ send 4 versionRequest ++ proceed 4 17

end Fuerte.Vst.Connection

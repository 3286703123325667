import Fuerte.Vst.Connection.Step

/-! # What a single step can do

One rule for every branch of every frame: when it can be taken, the state it
leaves and how it goes on. All invariants are proved from these rules.
-/

namespace Fuerte.Vst.Connection

set_option autoImplicit false

inductive Step (platform : Platform) (configuration : Configuration) (thread : Nat) :
    Frame → Choice → Shared → Shared → List Frame → List (List Frame) → Prop where
  | throws {frame : Frame} {choice : Choice} {s : Shared} (fault : Fault) :
    Step platform configuration thread frame choice s { s with fault := some fault } [frame] []
  -- user code and requests
  | userReturns {s : Shared} : Step platform configuration thread .userCode .proceed s s [] []
  | userSends {s : Shared} (request : Request) :
    Step platform configuration thread .userCode (.sendRequest request) s s
      [.createRequestItem request, .userCode] []
  | userAsks {s : Shared} : Step platform configuration thread .userCode .requestsLeft s s
      [.requestsLeftQueue, .userCode] []
  | rejectRequest {s : Shared} {choice : Choice} (request : Request) :
    Step platform configuration thread (.createRequestItem request) choice s
      { s with messageID := s.messageID + 1 } [] []
  | createRequestItem {s : Shared} {choice : Choice} (request left : Request) (item : RequestItem)
    (hRequest : item.request = some left)
    (hLeft : left = RequestItem.networkRequest platform.vpack
      { request with messageID := s.messageID + 1 })
    (hCallback : item.callback = { cb := .user }) :
    Step platform configuration thread (.createRequestItem request) choice s
      { s with
        messageID := s.messageID + 1
        items := Function.update s.items (s.messageID + 1) (some item)
        history := { s.history with
          accepted := Function.update s.history.accepted (s.messageID + 1)
            (some { request with messageID := s.messageID + 1 }) } }
      [.addToQueue (s.messageID + 1)] []
  | addToQueue {s : Shared} {choice : Choice} (id : MessageID) :
    Step platform configuration thread (.addToQueue id) choice s
      { s with
        sendQueue := s.sendQueue ++ [id]
        history := { s.history with enqueued := s.history.enqueued ++ [id] } } [.testConnected] []
  | testConnected {s : Shared} {choice : Choice} (h : s.connected = true) :
    Step platform configuration thread .testConnected choice s s [.startWriting] []
  | testNotConnected {s : Shared} {choice : Choice} (h : s.connected = false) :
    Step platform configuration thread .testConnected choice s s [] []
  | requestsLeftQueue {s : Shared} {choice : Choice} :
    Step platform configuration thread .requestsLeftQueue choice s s [.requestsLeftStore] []
  | requestsLeftStore {s : Shared} {choice : Choice} (hMutex : s.messageStoreMutex = none) :
    Step platform configuration thread .requestsLeftStore choice s s [] []
  -- completing a request
  | moveRequest {s : Shared} {choice : Choice} (id : MessageID) (error : ErrorCondition)
    (response : Option Response) (item : RequestItem) (hItem : s.items id = some item) :
    Step platform configuration thread (.moveRequest id error response) choice s
      { s with items := Function.update s.items id (some { item with request := none }) }
      [.invoke id error item.request response] []
  | invokeAgain {s : Shared} {choice : Choice} (id : MessageID) (error : ErrorCondition)
    (request : Option Request) (response : Option Response) (item : RequestItem)
    (hItem : s.items id = some item) (hInvoked : item.callback.invoked = true) :
    Step platform configuration thread (.invoke id error request response) choice s s [] []
  | invokeUser {s : Shared} {choice : Choice} (id : MessageID) (error : ErrorCondition)
    (request : Option Request) (response : Option Response) (item : RequestItem)
    (hItem : s.items id = some item) (hInvoked : item.callback.invoked = false)
    (hOwner : item.callback.cb = .user) :
    Step platform configuration thread (.invoke id error request response) choice s
      { s with
        items := Function.update s.items id
          (some { item with callback := ⟨true, item.callback.cb⟩ })
        calls := s.calls ++
          [⟨id, item.callback.cb, errorToInt error, request, response, s.held thread⟩] }
      [.userCode] []
  | invokeAuthentication {s : Shared} {choice : Choice} (id : MessageID) (error : ErrorCondition)
    (request : Option Request) (response : Option Response) (item : RequestItem)
    (hItem : s.items id = some item) (hInvoked : item.callback.invoked = false)
    (hOwner : item.callback.cb = .authentication) :
    Step platform configuration thread (.invoke id error request response) choice s
      { s with
        items := Function.update s.items id
          (some { item with callback := ⟨true, item.callback.cb⟩ })
        calls := s.calls ++
          [⟨id, item.callback.cb, errorToInt error, request, response, s.held thread⟩] }
      [.authenticationCallback error] []
  | authenticated {s : Shared} {choice : Choice} :
    Step platform configuration thread (.authenticationCallback .noError) choice s s [] []
  | authenticationFailed {s : Shared} {choice : Choice} (error : ErrorCondition)
    (h : error ≠ .noError) :
    Step platform configuration thread (.authenticationCallback error) choice s
      { s with permanentFailure := true } [.onFailure error] []
  | failureIgnored {s : Shared} {choice : Choice} (error : ErrorCondition) :
    Step platform configuration thread (.onFailure error) choice s s [] []
  | failureReported {s : Shared} {choice : Choice} (error : ErrorCondition)
    (h : configuration.onFailure = true) :
    Step platform configuration thread (.onFailure error) choice s
      { s with history := { s.history with
        failures := s.history.failures ++ [(errorToInt error, s.held thread)] } } [.userCode] []
  -- connecting
  | startResolveHost {s : Shared} {choice : Choice} :
    Step platform configuration thread .startResolveHost choice s s [] [[.awaitResolve]]
  | resolved {s : Shared} :
    Step platform configuration thread .awaitResolve .proceed s s [.initSocket] []
  | notResolved {s : Shared} {choice : Choice} (h : choice = .failed ∨ choice = .noEndpoints) :
    Step platform configuration thread .awaitResolve choice s s [.onFailure .couldNotConnect] []
  | initSocket {s : Shared} {choice : Choice} :
    Step platform configuration thread .initSocket choice s
      { s with
        socket := some s.socketCount
        sslSocket := some s.socketCount
        socketCount := s.socketCount + 1 } [] [[.awaitConnect s.socketCount]]
  | connectedSSL {s : Shared} (id : SocketID) (h : configuration.ssl = true) :
    Step platform configuration thread (.awaitConnect id) .proceed s
      (s.updateSocket id fun socket => { socket with connected := true }) [.startSSLHandshake] []
  | connectedTCP {s : Shared} (id : SocketID) (h : configuration.ssl = false) :
    Step platform configuration thread (.awaitConnect id) .proceed s
      (s.updateSocket id fun socket => { socket with connected := true }) [.finishInitialization] []
  | notConnected {s : Shared} (id : SocketID) :
    Step platform configuration thread (.awaitConnect id) .failed s s
      [.stopWriting .canceledDuringReset .connectFailed] []
  | startSSLHandshake {s : Shared} {choice : Choice} (id : SocketID) (h : s.sslSocket = some id) :
    Step platform configuration thread .startSSLHandshake choice s s [] [[.awaitHandshake id]]
  | handshakeDone {s : Shared} (id : SocketID) :
    Step platform configuration thread (.awaitHandshake id) .proceed s s [.finishInitialization] []
  | handshakeRefused {s : Shared} (id : SocketID) :
    Step platform configuration thread (.awaitHandshake id) .failed s s [.handshakeFailed] []
  | handshakeFailed {s : Shared} {choice : Choice} :
    Step platform configuration thread .handshakeFailed choice s (closeSocket s)
      [.onFailure .couldNotConnect] []
  | finishInitialization {s : Shared} {choice : Choice} (id : SocketID) (h : s.socket = some id) :
    Step platform configuration thread .finishInitialization choice s (s.transfer .tcp id) []
      [[.awaitHeader id]]
  | headerWritten {s : Shared} (id : SocketID) :
    Step platform configuration thread (.awaitHeader id) .proceed s
      (s.updateSocket id fun socket => { socket with headerWritten := true })
      [.insertAuthenticationRequests] []
  | headerNotWritten {s : Shared} (id : SocketID) :
    Step platform configuration thread (.awaitHeader id) .failed s s [.initializationFailed] []
  | initializationFailed {s : Shared} {choice : Choice} :
    Step platform configuration thread .initializationFailed choice s { s with connected := false }
      [.stopWriting .canceledDuringReset .connectFailed] []
  | noAuthentication {s : Shared} {choice : Choice}
    (h : configuration.authenticationType = .none) :
    Step platform configuration thread .insertAuthenticationRequests choice s s [.setConnected] []
  | insertAuthenticationRequests {s : Shared} {choice : Choice} (left : Request)
    (item : RequestItem) (h : configuration.authenticationType = .basic)
    (hRequest : item.request = some left)
    (hLeft : left = RequestItem.networkRequest platform.vpack
      { authenticationRequest configuration with messageID := s.messageID + 1 })
    (hCallback : item.callback = { cb := .authentication }) :
    Step platform configuration thread .insertAuthenticationRequests choice s
      { s with
        messageID := s.messageID + 1
        items := Function.update s.items (s.messageID + 1) (some item)
        history := { s.history with
          accepted := Function.update s.history.accepted (s.messageID + 1)
            (some { authenticationRequest configuration with messageID := s.messageID + 1 }) } }
      [.insertIntoQueue (s.messageID + 1)] []
  | insertIntoQueue {s : Shared} {choice : Choice} (id : MessageID) :
    Step platform configuration thread (.insertIntoQueue id) choice s
      { s with
        sendQueue := id :: s.sendQueue
        history := { s.history with enqueued := s.history.enqueued ++ [id] } } [.setConnected] []
  | setConnected {s : Shared} {choice : Choice} :
    Step platform configuration thread .setConnected choice s { s with connected := true }
      [.startWriting, .startReading] []
  -- disconnecting
  | restartConnection {s : Shared} {choice : Choice} (error : ErrorCondition) :
    Step platform configuration thread (.restartConnection error) choice s
      { s with history := { s.history with restarts := s.history.restarts ++ [s.socket] } }
      [.stopWriting error .reconnect] []
  | stopWriting {s : Shared} {choice : Choice} (error : ErrorCondition) (after : AfterShutdown)
    (hMutex : s.writeLoopMutex = none) :
    Step platform configuration thread (.stopWriting error after) choice s
      { s with writeLoop := none } [.stopReading error after] []
  | stopReading {s : Shared} {choice : Choice} (error : ErrorCondition) (after : AfterShutdown) :
    Step platform configuration thread (.stopReading error after) choice s
      { s with readLoop := none } [.shutdownSocket error after] []
  | shutdownSocket {s : Shared} {choice : Choice} (error : ErrorCondition) (after : AfterShutdown) :
    Step platform configuration thread (.shutdownSocket error after) choice s (closeSocket s)
      [.cancelAll error after] []
  | cancelAll {s : Shared} {choice : Choice} (error : ErrorCondition) (after : AfterShutdown)
    (hMutex : s.messageStoreMutex = none) :
    Step platform configuration thread (.cancelAll error after) choice s
      { s with messageStoreMutex := some thread } [.cancelItems error after s.messageStore] []
  | cancelItem {s : Shared} {choice : Choice} (error : ErrorCondition) (after : AfterShutdown)
    (id : MessageID) (todo : List MessageID) :
    Step platform configuration thread (.cancelItems error after (id :: todo)) choice s s
      [.moveRequest id error none, .cancelItems error after todo] []
  | cancelledForReconnect {s : Shared} {choice : Choice} (error : ErrorCondition) :
    Step platform configuration thread (.cancelItems error .reconnect []) choice s
      { s with messageStore := [], messageStoreMutex := none } [.reconnect] []
  | cancelledForFailure {s : Shared} {choice : Choice} (error : ErrorCondition) :
    Step platform configuration thread (.cancelItems error .connectFailed []) choice s
      { s with messageStore := [], messageStoreMutex := none } [.onFailure .couldNotConnect] []
  | cancelledForDestruction {s : Shared} {choice : Choice} (error : ErrorCondition) :
    Step platform configuration thread (.cancelItems error .destroyed []) choice s
      { s with messageStore := [], messageStoreMutex := none } [] []
  | reconnect {s : Shared} {choice : Choice} (h : s.permanentFailure = false) :
    Step platform configuration thread .reconnect choice s s [.startResolveHost] []
  | giveUp {s : Shared} {choice : Choice} (h : s.permanentFailure = true) :
    Step platform configuration thread .reconnect choice s s [] []
  -- reading
  | alreadyReading {s : Shared} {choice : Choice} (r : LoopID) (h : s.readLoop = some r) :
    Step platform configuration thread .startReading choice s s [] []
  | startReading {s : Shared} {choice : Choice} (h : s.readLoop = none) :
    Step platform configuration thread .startReading choice s
      { s with
        readLoops := Function.update s.readLoops s.readLoopCount { socket := s.socket }
        readLoop := some s.readLoopCount
        readLoopCount := s.readLoopCount + 1 } [.readLoopStart s.readLoopCount] []
  | readLoopStarted {s : Shared} {choice : Choice} (r : LoopID)
    (h : (s.readLoops r).started = true) :
    Step platform configuration thread (.readLoopStart r) choice s s [] []
  | readLoopStart {s : Shared} {choice : Choice} (r : LoopID)
    (h : (s.readLoops r).started = false) :
    Step platform configuration thread (.readLoopStart r) choice s
      (s.updateReadLoop r fun loop => { loop with started := true }) [.readNextBytes r] []
  | readLoopEnds {s : Shared} {choice : Choice} (r : LoopID)
    (hMutex : s.messageStoreMutex = none)
    (h : s.readLoop ≠ some r ∨ s.permanentFailure = true) :
    Step platform configuration thread (.readNextBytes r) choice s s [] []
  | nothingToRead {s : Shared} {choice : Choice} (r : LoopID)
    (hMutex : s.messageStoreMutex = none) (hCurrent : s.readLoop = some r)
    (hStore : s.messageStore = []) (hQueue : s.sendQueue = []) :
    Step platform configuration thread (.readNextBytes r) choice s { s with readLoop := none } [] []
  | readNextBytes {s : Shared} {choice : Choice} (r : LoopID)
    (hMutex : s.messageStoreMutex = none) (hCurrent : s.readLoop = some r)
    (h : s.permanentFailure = false) :
    Step platform configuration thread (.readNextBytes r) choice s s [.setReadDeadline r] []
  | setReadDeadline {s : Shared} {choice : Choice} (r : LoopID) :
    Step platform configuration thread (.setReadDeadline r) choice s
      { s.updateReadLoop r fun loop =>
          { loop with deadline := some s.timerCount, owned := true } with
        timerCount := s.timerCount + 1 } [.asyncRead r] [[.awaitReadDeadline r s.timerCount]]
  | asyncRead {s : Shared} {choice : Choice} (r : LoopID) (socket : SocketID)
    (h : (s.readLoops r).socket = some socket) :
    Step platform configuration thread (.asyncRead r) choice s (s.transfer .tcp socket) []
      [[.awaitRead r]]
  | received {s : Shared} (r : LoopID) (bytes : List UInt8) :
    Step platform configuration thread (.awaitRead r) (.received bytes) s
      (s.updateReadLoop r fun loop => { loop with receiveBuffer := loop.receiveBuffer ++ bytes })
      [.bytesReceived r] []
  | readError {s : Shared} (r : LoopID) :
    Step platform configuration thread (.awaitRead r) .failed s s [.readFailed r] []
  | bytesReceived {s : Shared} {choice : Choice} (r : LoopID) :
    Step platform configuration thread (.bytesReceived r) choice s
      (s.updateReadLoop r fun loop => { loop with deadline := none }) [.inspect r] []
  | readFailed {s : Shared} {choice : Choice} (r : LoopID) :
    Step platform configuration thread (.readFailed r) choice s
      (s.updateReadLoop r fun loop => { loop with deadline := none })
      [.restartReading r .vstReadError none] []
  | inspected {s : Shared} {choice : Choice} (r : LoopID) :
    Step platform configuration thread (.inspect r) choice s s [.readNextBytes r] []
  | inspect {s : Shared} {choice : Choice} (r : LoopID) (chunk : ChunkHeader) :
    Step platform configuration thread (.inspect r) choice s s
      [.findItem chunk, .consume r chunk.chunkLength.toNat] []
  | consume {s : Shared} {choice : Choice} (r : LoopID) (length : Nat) :
    Step platform configuration thread (.consume r length) choice s
      (s.updateReadLoop r fun loop => { loop with receiveBuffer := loop.receiveBuffer.drop length })
      [.inspect r] []
  | unknownItem {s : Shared} {choice : Choice} (chunk : ChunkHeader)
    (hMutex : s.messageStoreMutex = none) (h : chunk.messageID.toNat ∉ s.messageStore) :
    Step platform configuration thread (.findItem chunk) choice s s [] []
  | findItem {s : Shared} {choice : Choice} (chunk : ChunkHeader)
    (hMutex : s.messageStoreMutex = none) (h : chunk.messageID.toNat ∈ s.messageStore) :
    Step platform configuration thread (.findItem chunk) choice s s
      [.addChunk chunk.messageID.toNat chunk] []
  | addChunk {s : Shared} {choice : Choice} (id : MessageID) (chunk : ChunkHeader)
    (item after : RequestItem) (hItem : s.items id = some item)
    (hRequest : after.request = item.request) (hCallback : after.callback = item.callback) :
    Step platform configuration thread (.addChunk id chunk) choice s
      { s with items := Function.update s.items id (some after) } [] []
  | lastChunk {s : Shared} {choice : Choice} (id : MessageID) (chunk : ChunkHeader)
    (buffer : List UInt8) (item after : RequestItem) (hItem : s.items id = some item)
    (hRequest : after.request = item.request) (hCallback : after.callback = item.callback) :
    Step platform configuration thread (.addChunk id chunk) choice s
      { s with items := Function.update s.items id (some after) } [.removeCompleted id buffer] []
  | removeCompleted {s : Shared} {choice : Choice} (id : MessageID) (buffer : List UInt8)
    (hMutex : s.messageStoreMutex = none) :
    Step platform configuration thread (.removeCompleted id buffer) choice s
      { s with messageStore := s.messageStore.removeByID id } [.createResponse id buffer] []
  | createResponse {s : Shared} {choice : Choice} (id : MessageID) (buffer : List UInt8)
    (response : Response) (h : response.messageID = id) :
    Step platform configuration thread (.createResponse id buffer) choice s s
      [.moveRequest id .noError (some response)] []
  | ignoreReadFailure {s : Shared} {choice : Choice} (r : LoopID) (error : ErrorCondition)
    (deadline : Option TimerID) (hMutex : s.writeLoopMutex = none) (h : s.readLoop ≠ some r) :
    Step platform configuration thread (.restartReading r error deadline) choice s s [] []
  | restartReading {s : Shared} {choice : Choice} (r : LoopID) (error : ErrorCondition)
    (deadline : Option TimerID) (hMutex : s.writeLoopMutex = none) (h : s.readLoop = some r) :
    Step platform configuration thread (.restartReading r error deadline) choice s
      { s with readLoop := none, writeLoop := none } [.restartConnection error] []
  | readDeadlineExpired {s : Shared} (r : LoopID) (timer : TimerID)
    (h : (s.readLoops r).deadline = some timer) :
    Step platform configuration thread (.awaitReadDeadline r timer) .expired s s
      [.restartReading r .timeout (some timer)] []
  | readDeadlineCancelled {s : Shared} (r : LoopID) (timer : TimerID) :
    Step platform configuration thread (.awaitReadDeadline r timer) .proceed s s [] []
  -- writing
  | alreadyWriting {s : Shared} {choice : Choice} (w : LoopID) (hMutex : s.writeLoopMutex = none)
    (h : s.writeLoop = some w) :
    Step platform configuration thread .startWriting choice s s [] []
  | startWriting {s : Shared} {choice : Choice} (hMutex : s.writeLoopMutex = none)
    (h : s.writeLoop = none) :
    Step platform configuration thread .startWriting choice s
      { s with
        writeLoops := Function.update s.writeLoops s.writeLoopCount { socket := s.socket }
        writeLoop := some s.writeLoopCount
        writeLoopCount := s.writeLoopCount + 1 } [.writeLoopStart s.writeLoopCount] []
  | writeLoopStarted {s : Shared} {choice : Choice} (w : LoopID)
    (h : (s.writeLoops w).started = true) :
    Step platform configuration thread (.writeLoopStart w) choice s s [] []
  | writeLoopStart {s : Shared} {choice : Choice} (w : LoopID)
    (h : (s.writeLoops w).started = false) :
    Step platform configuration thread (.writeLoopStart w) choice s
      (s.updateWriteLoop w fun loop => { loop with started := true }) [.sendNextRequest w] []
  | writeLoopEnds {s : Shared} {choice : Choice} (w : LoopID) (hMutex : s.writeLoopMutex = none)
    (h : s.writeLoop ≠ some w ∨ s.permanentFailure = true) :
    Step platform configuration thread (.sendNextRequest w) choice s s [] []
  | sendNextRequest {s : Shared} {choice : Choice} (w : LoopID) (hMutex : s.writeLoopMutex = none)
    (hCurrent : s.writeLoop = some w) (h : s.permanentFailure = false) :
    Step platform configuration thread (.sendNextRequest w) choice s
      { s with writeLoopMutex := some thread } [.queueFront w] []
  | queueEmpty {s : Shared} {choice : Choice} (w : LoopID) (h : s.sendQueue = []) :
    Step platform configuration thread (.queueFront w) choice s s [.stopLoop w] []
  | queueFront {s : Shared} {choice : Choice} (w : LoopID) (id : MessageID)
    (queue : List MessageID) (h : s.sendQueue = id :: queue) :
    Step platform configuration thread (.queueFront w) choice s s [.addToStore w id] []
  | stopLoop {s : Shared} {choice : Choice} (w : LoopID) :
    Step platform configuration thread (.stopLoop w) choice s
      { s with writeLoop := none, writeLoopMutex := none } [] []
  | addToStore {s : Shared} {choice : Choice} (w : LoopID) (id : MessageID)
    (hMutex : s.messageStoreMutex = none) :
    Step platform configuration thread (.addToStore w id) choice s
      { s with messageStore := s.messageStore.add id } [.removeFromQueue w id] []
  | removeFromQueue {s : Shared} {choice : Choice} (w : LoopID) (id first : MessageID)
    (queue : List MessageID) (h : s.sendQueue = first :: queue) :
    Step platform configuration thread (.removeFromQueue w id) choice s
      { s with
        sendQueue := queue
        writeLoopMutex := none
        history := { s.history with handedOver := s.history.handedOver ++ [id] } } [.listen w id] []
  | alreadyListening {s : Shared} {choice : Choice} (w : LoopID) (id : MessageID) (r : LoopID)
    (h : s.readLoop = some r) :
    Step platform configuration thread (.listen w id) choice s s [.setWriteDeadline w id] []
  | listen {s : Shared} {choice : Choice} (w : LoopID) (id : MessageID) (h : s.readLoop = none) :
    Step platform configuration thread (.listen w id) choice s
      { s with
        readLoops := Function.update s.readLoops s.readLoopCount { socket := s.socket }
        readLoop := some s.readLoopCount
        readLoopCount := s.readLoopCount + 1 }
      [.readLoopStart s.readLoopCount, .setWriteDeadline w id] []
  | setWriteDeadline {s : Shared} {choice : Choice} (w : LoopID) (id : MessageID) :
    Step platform configuration thread (.setWriteDeadline w id) choice s
      { s.updateWriteLoop w fun loop =>
          { loop with deadline := some s.timerCount, owned := true } with
        timerCount := s.timerCount + 1 } [.asyncWrite w id] [[.awaitWriteDeadline w s.timerCount]]
  | asyncWrite {s : Shared} {choice : Choice} (w : LoopID) (id : MessageID) (socket : SocketID)
    (h : (s.writeLoops w).socket = some socket) :
    Step platform configuration thread (.asyncWrite w id) choice s
      ({ s with history := { s.history with
        writes := s.history.writes ++ [(socket, id)] } }.transfer .tcp socket) [] [[.awaitWrite w id]]
  | requestSent {s : Shared} (w : LoopID) (id : MessageID) :
    Step platform configuration thread (.awaitWrite w id) .proceed s s [.requestWritten w id] []
  | writeError {s : Shared} (w : LoopID) (id : MessageID) :
    Step platform configuration thread (.awaitWrite w id) .failed s s [.writeFailed w id] []
  | requestWritten {s : Shared} {choice : Choice} (w : LoopID) (id : MessageID) :
    Step platform configuration thread (.requestWritten w id) choice s
      ((s.updateWriteLoop w fun loop => { loop with deadline := none }).updateItem id
        RequestItem.resetSendData) [.sendNextRequest w] []
  | writeFailed {s : Shared} {choice : Choice} (w : LoopID) (id : MessageID) :
    Step platform configuration thread (.writeFailed w id) choice s
      (s.updateWriteLoop w fun loop => { loop with deadline := none }) [.removeFailed w id] []
  | removeFailed {s : Shared} {choice : Choice} (w : LoopID) (id : MessageID)
    (hMutex : s.messageStoreMutex = none) :
    Step platform configuration thread (.removeFailed w id) choice s
      { s with messageStore := s.messageStore.removeByID id }
      [.moveRequest id .vstWriteError none, .restartWriting w .vstWriteError none] []
  | ignoreWriteFailure {s : Shared} {choice : Choice} (w : LoopID) (error : ErrorCondition)
    (deadline : Option TimerID) (hMutex : s.writeLoopMutex = none) (h : s.writeLoop ≠ some w) :
    Step platform configuration thread (.restartWriting w error deadline) choice s s [] []
  | restartWriting {s : Shared} {choice : Choice} (w : LoopID) (error : ErrorCondition)
    (deadline : Option TimerID) (hMutex : s.writeLoopMutex = none) (h : s.writeLoop = some w) :
    Step platform configuration thread (.restartWriting w error deadline) choice s
      { s with readLoop := none, writeLoop := none } [.restartConnection error] []
  | writeDeadlineExpired {s : Shared} (w : LoopID) (timer : TimerID)
    (h : (s.writeLoops w).deadline = some timer) :
    Step platform configuration thread (.awaitWriteDeadline w timer) .expired s s
      [.restartWriting w .timeout (some timer)] []
  | writeDeadlineCancelled {s : Shared} (w : LoopID) (timer : TimerID) :
    Step platform configuration thread (.awaitWriteDeadline w timer) .proceed s s [] []

theorem createResponse_messageID {platform : Platform} {id : MessageID} {buffer : List UInt8}
    {response : Response} (h : Vst.createResponse platform id buffer = .ok response) :
    response.messageID = id := by
  obtain ⟨_, _, h⟩ := exists_of_bind_ok h
  cases h
  rfl

theorem prepareForNetwork_frame {vpack : VelocyPack} {version : VSTVersion}
    {item prepared : RequestItem} {request : Request} (hRequest : item.request = some request)
    (h : item.prepareForNetwork vpack version = .ok prepared) :
    prepared.callback = item.callback ∧
      prepared.request = some (RequestItem.networkRequest vpack request) := by
  rw [RequestItem.prepareForNetwork, hRequest] at h
  obtain ⟨⟨msgHdr, slices, left⟩, hParts, h⟩ := exists_of_bind_ok h
  cases h
  obtain ⟨_, _, hParts⟩ := exists_of_bind_ok hParts
  obtain ⟨_, _, hParts⟩ := exists_of_bind_ok hParts
  cases hParts
  exact ⟨rfl, rfl⟩

theorem createItem_ok {platform : Platform} {configuration : Configuration} {s s' : Shared}
    {request : Request} {cb : CallbackOwner} {id : MessageID}
    (h : createItem platform configuration s request cb = (s', .ok id)) :
    ∃ item, item.request = some (RequestItem.networkRequest platform.vpack
        { request with messageID := s.messageID + 1 }) ∧
      item.callback = { cb } ∧ id = s.messageID + 1 ∧
      s' = { s with
        messageID := s.messageID + 1
        items := Function.update s.items (s.messageID + 1) (some item)
        history := { s.history with
          accepted := Function.update s.history.accepted (s.messageID + 1)
            (some { request with messageID := s.messageID + 1 }) } } := by
  simp only [createItem] at h
  split at h
  · cases h
  · rename_i item hItem
    obtain ⟨hCallback, hRequest⟩ := prepareForNetwork_frame rfl hItem
    cases h
    exact ⟨item, hRequest, hCallback, rfl, rfl⟩

theorem createItem_error {platform : Platform} {configuration : Configuration} {s s' : Shared}
    {request : Request} {cb : CallbackOwner} {fault : Fault}
    (h : createItem platform configuration s request cb = (s', .error fault)) :
    s' = { s with messageID := s.messageID + 1 } := by
  simp only [createItem] at h
  split at h
  · cases h
    rfl
  · cases h

/-- The request that authenticates the connection can always be prepared. -/
theorem createItem_authenticationRequest {platform : Platform} {configuration : Configuration}
    {s s' : Shared} {fault : Fault} :
    createItem platform configuration s (authenticationRequest configuration) .authentication ≠
      (s', .error fault) := by
  intro h
  simp only [createItem] at h
  split at h
  · rename_i hItem
    cases hItem
  · cases h

section Rules

variable {platform : Platform} {configuration : Configuration} {thread : Nat} {frame : Frame}
  {choice : Choice} {s s' : Shared} {frames : List Frame} {spawned : List (List Frame)}

theorem step_createRequestItem {request : Request}
    (h : createRequestItem platform configuration request s = some (s', frames, spawned)) :
    Step platform configuration thread (.createRequestItem request) choice s s' frames spawned := by
  simp only [createRequestItem, Shared.next] at h
  split at h
  · rename_i hItem
    cases h
    rw [createItem_error hItem]
    exact .rejectRequest request
  · rename_i hItem
    cases h
    obtain ⟨item, hRequest, hCallback, rfl, rfl⟩ := createItem_ok hItem
    exact .createRequestItem request _ item hRequest rfl hCallback

theorem step_insertAuthenticationRequests
    (h : insertAuthenticationRequests platform configuration s = some (s', frames, spawned)) :
    Step platform configuration thread .insertAuthenticationRequests choice s s' frames spawned := by
  simp only [insertAuthenticationRequests, Shared.next, Shared.throw] at h
  split at h
  · rename_i hType
    cases h
    exact .noAuthentication hType
  · rename_i hType
    split at h
    · rename_i hItem
      exact absurd hItem createItem_authenticationRequest
    · rename_i hItem
      cases h
      obtain ⟨item, hRequest, hCallback, rfl, rfl⟩ := createItem_ok hItem
      exact .insertAuthenticationRequests _ item hType hRequest rfl hCallback
  · cases h
    exact .throws _

theorem step_addChunk {id : MessageID} {chunk : ChunkHeader}
    (h : addChunk platform id chunk s = some (s', frames, spawned)) :
    Step platform configuration thread (.addChunk id chunk) choice s s' frames spawned := by
  simp only [addChunk, Shared.next] at h
  split at h
  · cases h
  · rename_i item hItem
    obtain ⟨hRequest, hCallback, _⟩ := RequestItem.assemble_frame platform (item.addChunk chunk)
    split at h
    · cases h
      exact .addChunk id chunk item _ hItem hRequest hCallback
    · cases h
      exact .lastChunk id chunk _ item _ hItem hRequest hCallback

theorem step_moveRequest {id : MessageID} {error : ErrorCondition} {response : Option Response}
    (h : moveRequest id error response s = some (s', frames, spawned)) :
    Step platform configuration thread (.moveRequest id error response) choice s s' frames
      spawned := by
  simp only [moveRequest, Shared.next] at h
  split at h
  · cases h
  · rename_i item hItem
    cases h
    simp only [Inflight.takeRequest, hItem]
    exact .moveRequest id error response item hItem

theorem step_invoke {id : MessageID} {error : ErrorCondition} {request : Option Request}
    {response : Option Response}
    (h : invoke thread id error request response s = some (s', frames, spawned)) :
    Step platform configuration thread (.invoke id error request response) choice s s' frames
      spawned := by
  simp only [invoke, Shared.next] at h
  split at h
  · cases h
  · rename_i item hItem
    cases h
    by_cases hInvoked : item.callback.invoked = true
    · simp only [Inflight.invoke, hItem, hInvoked, if_true]
      exact .invokeAgain id error request response item hItem hInvoked
    · have hFirst := Bool.eq_false_iff.mpr hInvoked
      simp only [Inflight.invoke, hItem, if_neg hInvoked]
      cases hOwner : item.callback.cb with
      | user =>
        have hStep : Step platform configuration thread _ choice s _ _ _ :=
          .invokeUser id error request response item hItem hFirst hOwner
        rw [hOwner] at hStep
        exact hStep
      | authentication =>
        have hStep : Step platform configuration thread _ choice s _ _ _ :=
          .invokeAuthentication id error request response item hItem hFirst hOwner
        rw [hOwner] at hStep
        exact hStep

theorem step_authenticationCallback {error : ErrorCondition}
    (h : authenticationCallback error s = some (s', frames, spawned)) :
    Step platform configuration thread (.authenticationCallback error) choice s s' frames
      spawned := by
  simp only [authenticationCallback, Shared.next, ne_eq, errorToInt_eq_zero_iff] at h
  split at h
  · rename_i hError
    cases h
    exact .authenticationFailed error hError
  · rename_i hError
    cases h
    rw [Decidable.not_not.mp hError]
    exact .authenticated

theorem step_of_perform (h : perform platform configuration thread frame choice s =
    some (s', frames, spawned)) :
    Step platform configuration thread frame choice s s' frames spawned := by
  cases frame
  case createRequestItem => exact step_createRequestItem h
  case insertAuthenticationRequests => exact step_insertAuthenticationRequests h
  case addChunk => exact step_addChunk h
  case moveRequest => exact step_moveRequest h
  case invoke => exact step_invoke h
  case authenticationCallback => exact step_authenticationCallback h
  case createResponse id buffer =>
    simp only [perform, createResponseFor, Shared.next, Shared.throw] at h
    split at h
    · cases h
      exact .throws _
    · rename_i response hResponse
      cases h
      exact .createResponse id buffer response (createResponse_messageID hResponse)
  -- what is left has a rule of its own for every branch
  all_goals simp only [perform, userCode, addToQueue, testConnected, requestsLeftStore, onFailure,
    startResolveHost, awaitResolve, initSocket, awaitConnect, startSSLHandshake, awaitHandshake,
    handshakeFailed, finishInitialization, awaitHeader, initializationFailed, insertIntoQueue,
    setConnected, restartConnection, stopWriting, stopReading, shutdownSocket, cancelAll,
    cancelItems, reconnect, startReading, readLoopStart, readNextBytes, setReadDeadline, asyncRead,
    awaitRead, bytesReceived, readFailed, inspect, consume, findItem, removeCompleted,
    restartReading, awaitReadDeadline, startWriting, writeLoopStart, sendNextRequest, queueFront,
    stopLoop, addToStore, removeFromQueue, listen, setWriteDeadline, asyncWrite, awaitWrite,
    requestWritten, writeFailed, removeFailed, restartWriting, awaitWriteDeadline, Shared.next,
    Shared.async, Shared.throw] at h
  all_goals (repeat' split at h)
  all_goals (try cases h)
  all_goals first
    | exact .throws _
    | (constructor <;> first | assumption | simp_all)

end Rules

end Fuerte.Vst.Connection

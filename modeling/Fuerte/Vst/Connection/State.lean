import Fuerte.Vst.ProcessChunk
import Fuerte.Vst.Receive

/-! # The state of a VST connection

The members of the connection, the objects its shared pointers lead to, and the
mutexes that a thread keeps over more than one step. All other sections under a
mutex are single steps.
-/

namespace Fuerte.Vst.Connection

set_option autoImplicit false

abbrev SocketID := Nat

abbrev LoopID := Nat

abbrev TimerID := Nat

structure Configuration where
  vstVersion : VSTVersion := .vst1_0
  ssl : Bool := false
  authenticationType : AuthenticationType := .none
  user : ByteString := []
  password : ByteString := []
  /-- Whether a `ConnectionFailureCallback` has been set. -/
  onFailure : Bool := false

structure Socket where
  connected : Bool := false
  /-- The VST protocol header has been written completely. -/
  headerWritten : Bool := false
  closed : Bool := false

/-- `deadline` is the wait that the timer of the loop has pending, and `owned` says that
`shared_from_this()` has been called: from then on the handlers keep the loop alive. -/
structure ReadLoop where
  socket : Option SocketID := none
  receiveBuffer : List UInt8 := []
  started : Bool := false
  deadline : Option TimerID := none
  owned : Bool := false

structure WriteLoop where
  socket : Option SocketID := none
  started : Bool := false
  deadline : Option TimerID := none
  owned : Bool := false

/-- What a byte is handed to, or taken from. -/
inductive Stream where
  | tcp
  | ssl
  deriving DecidableEq, Repr

/-- What nobody reads but the properties are about. -/
structure History where
  /-- The requests that items have been created for, as they were when they got their number. -/
  accepted : MessageID → Option Request := fun _ => none
  /-- The items that have entered the send queue. -/
  enqueued : List MessageID := []
  /-- The items that `getNextRequestToSend` has returned. -/
  handedOver : List MessageID := []
  /-- The socket and item of every `async_write` of a request. -/
  writes : List (SocketID × MessageID) := []
  /-- The stream and socket of every `async_write` and `async_read`. -/
  transfers : List (Stream × SocketID) := []
  /-- The socket found at every entry of the unguarded `restartConnection`. -/
  restarts : List (Option SocketID) := []
  /-- The calls of the failure callback: error, and mutexes held. -/
  failures : List (Nat × List Mutex) := []

structure Shared extends Inflight where
  messageID : MessageID := 0
  connected : Bool := false
  permanentFailure : Bool := false
  socket : Option SocketID := none
  sslSocket : Option SocketID := none
  readLoop : Option LoopID := none
  writeLoop : Option LoopID := none
  sendQueue : List MessageID := []
  sockets : SocketID → Socket := fun _ => {}
  socketCount : Nat := 0
  readLoops : LoopID → ReadLoop := fun _ => {}
  readLoopCount : Nat := 0
  writeLoops : LoopID → WriteLoop := fun _ => {}
  writeLoopCount : Nat := 0
  timerCount : Nat := 0
  /-- The thread inside `getNextRequestToSend`. -/
  writeLoopMutex : Option Nat := none
  /-- The thread inside `cancelAll`. -/
  messageStoreMutex : Option Nat := none
  /-- The exception, failed assertion or undefined access that ended the process. -/
  fault : Option Fault := none
  destroyed : Bool := false
  history : History := {}

/-- What runs after `shutdownConnection` has returned. -/
inductive AfterShutdown where
  | reconnect
  | connectFailed
  | destroyed
  deriving DecidableEq, Repr

/-- The next atomic step of a function. Frames named `await…` stand for pending
asynchronous operations; they continue with the completion handler. -/
inductive Frame where
  /-- A user's thread or callback. -/
  | userCode
  | createRequestItem (request : Request)
  | addToQueue (item : MessageID)
  | testConnected
  | requestsLeftQueue
  | requestsLeftStore
  -- setting up the connection
  | startResolveHost
  | awaitResolve
  | initSocket
  | awaitConnect (socket : SocketID)
  | startSSLHandshake
  | awaitHandshake (socket : SocketID)
  | handshakeFailed
  | finishInitialization
  | awaitHeader (socket : SocketID)
  | initializationFailed
  | insertAuthenticationRequests
  | insertIntoQueue (item : MessageID)
  | setConnected
  | onFailure (error : ErrorCondition)
  -- tearing it down
  | restartConnection (error : ErrorCondition)
  | stopWriting (error : ErrorCondition) (after : AfterShutdown)
  | stopReading (error : ErrorCondition) (after : AfterShutdown)
  | shutdownSocket (error : ErrorCondition) (after : AfterShutdown)
  | cancelAll (error : ErrorCondition) (after : AfterShutdown)
  | cancelItems (error : ErrorCondition) (after : AfterShutdown) (todo : List MessageID)
  | reconnect
  -- reading
  | startReading
  | readLoopStart (loop : LoopID)
  | readNextBytes (loop : LoopID)
  | setReadDeadline (loop : LoopID)
  | asyncRead (loop : LoopID)
  | awaitRead (loop : LoopID)
  | bytesReceived (loop : LoopID)
  | readFailed (loop : LoopID)
  | inspect (loop : LoopID)
  | consume (loop : LoopID) (length : Nat)
  | findItem (chunk : ChunkHeader)
  | addChunk (item : MessageID) (chunk : ChunkHeader)
  | removeCompleted (item : MessageID) (buffer : List UInt8)
  | createResponse (item : MessageID) (buffer : List UInt8)
  /-- With the deadline that has expired, if this is the reason. -/
  | restartReading (loop : LoopID) (error : ErrorCondition) (deadline : Option TimerID)
  | awaitReadDeadline (loop : LoopID) (timer : TimerID)
  -- writing
  | startWriting
  | writeLoopStart (loop : LoopID)
  | sendNextRequest (loop : LoopID)
  | queueFront (loop : LoopID)
  | stopLoop (loop : LoopID)
  | addToStore (loop : LoopID) (item : MessageID)
  | removeFromQueue (loop : LoopID) (item : MessageID)
  | listen (loop : LoopID) (item : MessageID)
  | setWriteDeadline (loop : LoopID) (item : MessageID)
  | asyncWrite (loop : LoopID) (item : MessageID)
  | awaitWrite (loop : LoopID) (item : MessageID)
  | requestWritten (loop : LoopID) (item : MessageID)
  | writeFailed (loop : LoopID) (item : MessageID)
  | removeFailed (loop : LoopID) (item : MessageID)
  | restartWriting (loop : LoopID) (error : ErrorCondition) (deadline : Option TimerID)
  | awaitWriteDeadline (loop : LoopID) (timer : TimerID)
  -- completing a request
  /-- `std::move(item->_request)` into the argument of `invoke`. -/
  | moveRequest (item : MessageID) (error : ErrorCondition) (response : Option Response)
  /-- The exchange of the flag in `invoke`, and the call. -/
  | invoke (item : MessageID) (error : ErrorCondition) (request : Option Request)
      (response : Option Response)
  | authenticationCallback (error : ErrorCondition)

/-- How an asynchronous operation ends, or what user code does next. -/
inductive Choice where
  | proceed
  | failed
  /-- A thread that has only a pointer to a loop follows it after the loop's destruction. -/
  | dangling
  | noEndpoints
  | received (bytes : List UInt8)
  | expired
  | sendRequest (request : Request)
  | requestsLeft
  deriving DecidableEq

inductive Event where
  /-- A thread of the user comes along. -/
  | thread
  /-- The last reference to the connection goes away. -/
  | destroy
  deriving DecidableEq, Repr

end Fuerte.Vst.Connection

import Fuerte.Http.QueryString
import Fuerte.Http.Result
import Fuerte.Library.Interleaving
import Fuerte.Vst.ProcessChunk

/-! # The steps of an HTTP connection

Curl carries out the requests. What is left to the connection is to keep the
items of the requests curl works on, and to complete them. Pending requests do
not keep the connection alive: what is completed after its destructor uses freed memory.
-/

namespace Fuerte.Http.Connection

set_option autoImplicit false

open Interleaving

structure ConnectionConfiguration extends Configuration where
  authenticationType : AuthenticationType := .none
  /-- Whether a `ConnectionFailureCallback` has been set. -/
  onFailure : Bool := false

structure RequestItem where
  destination : ByteString
  request : Option Request
  callback : Vst.CallOnceRequestCallback

inductive CURLcode where
  | ok
  | couldntConnect
  | sslConnectError
  | couldntResolveHost
  | urlMalformat
  | sendError
  | operationTimedout
  | recvError
  | gotNothing
  | other (code : Nat)
  deriving DecidableEq, Repr

/-- What curl has collected for a request that is done. -/
structure Transfer where
  rc : CURLcode
  httpStatusCode : Nat := 200
  responseHeaders : StringMap := []
  responseBody : ByteString := []
  deriving DecidableEq

structure Shared where
  /-- `ticketId`, which all connections share. -/
  ticketID : MessageID := 0
  items : MessageID → Option RequestItem := fun _ => none
  messageStore : MessageStore := []
  /-- The thread inside `cancelAll`. -/
  messageStoreMutex : Option Nat := none
  /-- The last reference has gone away. -/
  destroyed : Bool := false
  /-- The destructor has returned. -/
  freed : Bool := false
  fault : Option Fault := none
  /-- The calls of the requests' callbacks, and those of the failure callback. -/
  calls : List Vst.Invocation := []
  failures : List (Nat × List Vst.Mutex) := []

inductive Frame where
  | userCode
  | sendRequest (request : Request)
  | addToStore (item : MessageID)
  | addRequest (item : MessageID)
  /-- Curl works on the request. -/
  | awaitDone (item : MessageID)
  | handleResult (item : MessageID) (result : Transfer)
  | onFailure (error : ErrorCondition)
  | invoke (item : MessageID) (error : ErrorCondition) (response : Option Response)
  | removeByID (item : MessageID)
  | cancelAll
  | cancelItems (todo : List MessageID)

/-- What user code does next, or what curl reports. -/
inductive Choice where
  | proceed
  | sendRequest (request : Request)
  | requestsLeft
  /-- The last reference to the connection goes away. -/
  | release
  | done (result : Transfer)

/-- A thread of the user comes along. -/
inductive Event where
  | thread

abbrev Outcome := Shared × List Frame × List (List Frame)

namespace Shared

def next (s : Shared) (frames : List Frame) : Option Outcome := some (s, frames, [])

def held (s : Shared) (thread : Nat) : List Vst.Mutex :=
  if s.messageStoreMutex = some thread then [.messageStore] else []

end Shared

section Steps

variable (configuration : ConnectionConfiguration) (uninitialised : Nat)

/-- A function of a connection that has gone is not called any more. -/
def userCode (choice : Choice) (s : Shared) : Option Outcome :=
  match choice with
  | .proceed => s.next []
  | .sendRequest request => if s.destroyed then none else s.next [.sendRequest request, .userCode]
  | .requestsLeft => if s.destroyed then none else s.next [.userCode]
  | .release =>
    if s.destroyed then none else { s with destroyed := true }.next [.cancelAll, .userCode]
  | .done _ => none

/-- `createRequestItem` as far as it decides whether the item is stored. -/
def createRequestItem (destination : ByteString) (request : Request) :
    Except Fault RequestItem :=
  match request.header.restVerb, configuration.authenticationType with
  | none, _ => .error .emptyOptional
  | some .illegal, _ => .error (.runtimeError "Invalid request type illegal")
  | some _, .jwt => .error (.invalidArgument "Jwt authentication is not yet support")
  | some _, _ => .ok { destination, request := some request, callback := { cb := .user } }

/-- An exception goes to the caller. -/
def sendRequest (request : Request) (s : Shared) : Option Outcome :=
  match destination configuration.toConfiguration request.header with
  | .error _ => s.next []
  | .ok destination =>
    let id := s.ticketID + 1
    let s := { s with ticketID := id }
    match createRequestItem configuration destination { request with messageID := id } with
    | .error _ => s.next []
    | .ok item => { s with items := Function.update s.items id (some item) }.next [.addToStore id]

def addToStore (id : MessageID) (s : Shared) : Option Outcome :=
  if s.messageStoreMutex.isSome then none
  else { s with messageStore := s.messageStore.add id }.next [.addRequest id]

def addRequest (id : MessageID) (s : Shared) : Option Outcome := some (s, [], [[.awaitDone id]])

def awaitDone (id : MessageID) (choice : Choice) (s : Shared) : Option Outcome :=
  match choice with
  | .done result => s.next [.handleResult id result]
  | _ => none

def handleResult (id : MessageID) (result : Transfer) (s : Shared) : Option Outcome :=
  match (s.items id).bind RequestItem.request with
  | none => some ({ s with fault := some .nullPointer }, [.handleResult id result], [])
  | some request =>
    s.next (match result.rc with
      | .ok =>
        let response := Http.handleResult request.messageID result.httpStatusCode
          result.responseHeaders result.responseBody uninitialised
        [.invoke id .noError (some response), .removeByID id]
      | .couldntConnect | .sslConnectError | .couldntResolveHost =>
        [.onFailure .couldNotConnect, .invoke id .couldNotConnect none, .removeByID id]
      | .urlMalformat => [.invoke id .malformedURL none, .removeByID id]
      | .sendError => [.invoke id .couldNotConnect none, .removeByID id]
      | .operationTimedout | .recvError | .gotNothing =>
        [.invoke id .timeout none, .removeByID id]
      | .other _ => [.onFailure .curlError, .invoke id .curlError none, .removeByID id])

def onFailure (thread : Nat) (error : ErrorCondition) (s : Shared) : Option Outcome :=
  if configuration.onFailure then
    { s with failures := s.failures ++ [(errorToInt error, s.held thread)] }.next [.userCode]
  else s.next []

/-- The request is moved into the argument; the flag is exchanged. -/
def invoke (thread : Nat) (id : MessageID) (error : ErrorCondition) (response : Option Response)
    (s : Shared) : Option Outcome :=
  match s.items id with
  | none => none
  | some item =>
    let after := { item with request := none, callback := { item.callback with invoked := true } }
    let call : Vst.Invocation :=
      ⟨id, item.callback.cb, errorToInt error, item.request, response, s.held thread⟩
    let s := { s with items := Function.update s.items id (some after) }
    if item.callback.invoked then s.next []
    else { s with calls := s.calls ++ [call] }.next [.userCode]

def removeByID (id : MessageID) (s : Shared) : Option Outcome :=
  if s.messageStoreMutex.isSome then none
  else { s with messageStore := s.messageStore.removeByID id }.next []

def cancelAll (thread : Nat) (s : Shared) : Option Outcome :=
  if s.messageStoreMutex.isSome then none
  else { s with messageStoreMutex := some thread }.next [.cancelItems s.messageStore]

/-- The destructor returns when everything has been cancelled. -/
def cancelItems (todo : List MessageID) (s : Shared) : Option Outcome :=
  match todo with
  | id :: todo => s.next [.invoke id .canceledDuringReset none, .cancelItems todo]
  | [] => { s with messageStore := [], messageStoreMutex := none, freed := true }.next []

def perform (thread : Nat) (frame : Frame) (choice : Choice) : Shared → Option Outcome :=
  match frame with
  | .userCode => userCode choice
  | .sendRequest request => sendRequest configuration request
  | .addToStore id => addToStore id
  | .addRequest id => addRequest id
  | .awaitDone id => awaitDone id choice
  | .handleResult id result => handleResult uninitialised id result
  | .onFailure error => onFailure configuration thread error
  | .invoke id error response => invoke thread id error response
  | .removeByID id => removeByID id
  | .cancelAll => cancelAll thread
  | .cancelItems todo => cancelItems todo

/-- `handleResult` and what it calls. -/
def completes : Frame → Bool
  | .handleResult _ _ | .onFailure _ | .invoke _ _ _ | .removeByID _ => true
  | _ => false

/-- A completion has a raw pointer to the connection, and to the item. -/
def exec (thread : Nat) (frame : Frame) (choice : Choice) (s : Shared) : Option Outcome :=
  if completes frame && s.freed then some ({ s with fault := some .useAfterFree }, [frame], [])
  else perform configuration uninitialised thread frame choice s

def machine : Machine Shared Frame Choice Event where
  exec thread frame choice s :=
    if s.fault.isSome then none else exec configuration uninitialised thread frame choice s
  enter _ _ s := if s.fault.isSome || s.destroyed then none else some (s, [.userCode])

/-- A connection right after its construction. -/
def initial : Config Shared Frame where
  shared := {}
  threads := []

variable {configuration uninitialised}

theorem exec_cases {thread : Nat} {frame : Frame} {choice : Choice} {s s' : Shared}
    {frames : List Frame} {spawned : List (List Frame)}
    (h : exec configuration uninitialised thread frame choice s = some (s', frames, spawned)) :
    ((completes frame && s.freed) = true ∧ s' = { s with fault := some .useAfterFree } ∧
        frames = [frame] ∧ spawned = []) ∨
      (completes frame && s.freed) = false ∧
        perform configuration uninitialised thread frame choice s = some (s', frames, spawned) := by
  rw [exec] at h
  split at h
  · rename_i hFreed
    cases h
    exact .inl ⟨hFreed, rfl, rfl, rfl⟩
  · rename_i hAlive
    exact .inr ⟨Bool.eq_false_iff.mpr hAlive, h⟩

theorem exec_of_not_freed {thread : Nat} {frame : Frame} {choice : Choice} {s : Shared}
    (h : s.freed = false) : exec configuration uninitialised thread frame choice s =
      perform configuration uninitialised thread frame choice s := by
  rw [exec, h, Bool.and_false, if_neg Bool.false_ne_true]

end Steps

end Fuerte.Http.Connection

import Fuerte.Library.Interleaving
import Mathlib.Logic.Function.Basic

/-! # Socket events between curl and the event loop

Curl says for every socket in which direction it wants to wait; the driver waits
on the event loop and reports to curl. A wait ends with one report. The timer may
expire at any time, and curl may call back whatever it likes while it runs, but
`socket_cb` only when it wants something else than before.
-/

namespace Fuerte.Http

set_option autoImplicit false

abbrev CurlSocket := Nat

inductive Direction where
  | read
  | write
  deriving DecidableEq, Repr

/-- `CURL_POLL_NONE` to `CURL_POLL_REMOVE`. -/
inductive Action where
  | none
  | pollIn
  | pollOut
  | pollInOut
  | remove
  deriving DecidableEq, Repr

def Action.directions : Action → List Direction
  | none => []
  | pollIn => [.read]
  | pollOut => [.write]
  | pollInOut => [.read, .write]
  | remove => []

namespace CurlMultiAsio

structure Shared where
  /-- The sockets in `_socket_map`. -/
  isOpen : CurlSocket → Bool := fun _ => false
  /-- How often the waits of a socket have been cancelled. -/
  cancelled : CurlSocket → Nat := fun _ => 0
  /-- The `SocketInfo` that has been assigned to a socket. -/
  socketInfo : CurlSocket → Option Action := fun _ => none
  /-- What curl has asked for last. -/
  requested : CurlSocket → Option Action := fun _ => none
  multiMutex : Bool := false

inductive Frame where
  | addRequest
  | timerCb
  /-- A pending `async_read_some` or `async_write_some`. -/
  | awaitEvent (socket : CurlSocket) (cancelled : Nat) (direction : Direction)
  | eventCb (socket : CurlSocket) (direction : Direction)
  /-- Curl runs, to handle an event of a socket; `answered` says whether it has
  called `socket_cb` for this socket. -/
  | multi (event : Option (CurlSocket × Direction)) (answered : Bool)
  | checkMultiInfo
  deriving DecidableEq, Repr

inductive Choice where
  | proceed
  | openSocket (socket : CurlSocket)
  | socketCb (socket : CurlSocket) (what : Action)
  | closeSocket (socket : CurlSocket)
  | done
  deriving DecidableEq, Repr

inductive Event where
  | addRequest
  | timer
  deriving DecidableEq, Repr

abbrev Outcome := Shared × List Frame × List (List Frame)

namespace Shared

/-- `tcp_socket->cancel()`, if the socket is known. -/
def cancel (s : Shared) (socket : CurlSocket) : Shared :=
  if s.isOpen socket then
    { s with cancelled := Function.update s.cancelled socket (s.cancelled socket + 1) }
  else s

end Shared

/-- The waits that are started. -/
def setSocket (socket : CurlSocket) (action : Action) (s : Shared) : Shared × List (List Frame) :=
  if s.isOpen socket then
    ({ s with socketInfo := Function.update s.socketInfo socket (some action) },
      action.directions.map fun direction => [.awaitEvent socket (s.cancelled socket) direction])
  else (s, [])

def addSocket (socket : CurlSocket) (action : Action) (s : Shared) : Shared × List (List Frame) :=
  setSocket socket action
    { s with socketInfo := Function.update s.socketInfo socket (some .none) }

def removeSocket (socket : CurlSocket) (s : Shared) : Shared :=
  { s with socketInfo := Function.update s.socketInfo socket none }.cancel socket

def socketCb (socket : CurlSocket) (what : Action) (s : Shared) : Shared × List (List Frame) :=
  if what = .remove then (removeSocket socket s, [])
  else
    match s.socketInfo socket with
    | none => addSocket socket what s
    | some _ => setSocket socket what s

/-- The handle of a socket that has just been opened is not in the map. -/
def openSocket (socket : CurlSocket) (s : Shared) : Shared :=
  { s with
    isOpen := Function.update s.isOpen socket true
    requested := Function.update s.requested socket none }

def closeSocket (socket : CurlSocket) (s : Shared) : Shared :=
  { s.cancel socket with isOpen := Function.update s.isOpen socket false }

/-- A callback of curl, or its return. -/
def multi (event : Option (CurlSocket × Direction)) (answered : Bool) (choice : Choice)
    (s : Shared) : Option Outcome :=
  match choice with
  | .proceed => some ({ s with multiMutex := false }, [], [])
  | .openSocket socket =>
    if s.isOpen socket then none else some (openSocket socket s, [.multi event answered], [])
  | .socketCb socket what =>
    if s.requested socket = some what then none
    else
      let (s, waits) := socketCb socket what
        { s with requested := Function.update s.requested socket (some what) }
      some (s, [.multi event (answered || event.any fun e => e.1 == socket)], waits)
  | .closeSocket socket => some (closeSocket socket s, [.multi event answered], [])
  | .done => none

/-- Curl runs under the mutex. -/
def runMulti (event : Option (CurlSocket × Direction)) (after : List Frame) (s : Shared) :
    Option Outcome :=
  if s.multiMutex then none
  else some ({ s with multiMutex := true }, .multi event false :: after, [])

def checkMultiInfo (choice : Choice) (s : Shared) : Option Outcome :=
  match choice with
  | .done => runMulti none [.checkMultiInfo] s
  | .proceed => some (s, [], [])
  | _ => none

def perform (frame : Frame) (choice : Choice) (s : Shared) : Option Outcome :=
  match frame with
  | .addRequest => runMulti none [] s
  | .timerCb => runMulti none [.checkMultiInfo] s
  | .awaitEvent socket _ direction => some (s, [.eventCb socket direction], [])
  | .eventCb socket direction => runMulti (some (socket, direction)) [.checkMultiInfo] s
  | .multi event answered => multi event answered choice s
  | .checkMultiInfo => checkMultiInfo choice s

def enter (event : Event) (s : Shared) : Option (Shared × List Frame) :=
  match event with
  | .addRequest => some (s, [.addRequest])
  | .timer => some (s, [.timerCb])

def machine : Interleaving.Machine Shared Frame Choice Event where
  exec _ frame choice s := perform frame choice s
  enter event _ s := enter event s

def initial : Interleaving.Config Shared Frame where
  shared := {}
  threads := []

end CurlMultiAsio

end Fuerte.Http

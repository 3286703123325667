import Fuerte.Vst.Connection.Loops

/-! # Loops of an established connection

`_connected` says that there has been a connection, not that there is one. What
the loops rely on is that they are created while the connection is up; runs with
that property keep loops and connection attempts apart.
-/

namespace Fuerte.Vst.Connection

set_option autoImplicit false

open Interleaving

/-- There is a socket, and nobody is setting it up or tearing it down. -/
def Up (s : Shared) (frames : Multiset Frame) : Prop := load attempt frames = 0 ∧ s.socket ≠ none

instance (s : Shared) (frames : Multiset Frame) : Decidable (Up s frames) :=
  inferInstanceAs (Decidable (_ ∧ _))

/-- The execution of the frame creates a read or write loop. -/
def createsLoop (s : Shared) : Frame → Bool
  | .startWriting => s.writeLoop.isNone
  | .startReading | .listen _ _ => s.readLoop.isNone
  | _ => false

/-- Loops are created only while the connection is up. -/
def loopsWhileUp : Guard Shared Frame Choice Event where
  run _ frame _ s frames := createsLoop s frame = true → Up s frames
  enter _ _ _ := True

instance (thread : Nat) (frame : Frame) (choice : Choice) (s : Shared) (frames : Multiset Frame) :
    Decidable (loopsWhileUp.run thread frame choice s frames) :=
  inferInstanceAs (Decidable (_ → _))

instance (event : Event) (s : Shared) (frames : Multiset Frame) :
    Decidable (loopsWhileUp.enter event s frames) :=
  inferInstanceAs (Decidable True)

/-- The execution of the frame follows a pointer to a loop that has been destroyed. -/
def dangles (s : Shared) (choice : Choice) : Frame → Bool
  | .readLoopStart r | .setReadDeadline r => !s.readLoopAlive r
  | .writeLoopStart w | .setWriteDeadline w _ => !s.writeLoopAlive w
  -- the pointer may have been read in time: then it is only compared with the current one
  | .readNextBytes r => choice = .dangling && !s.readLoopAlive r
  | .sendNextRequest w | .listen w _ => choice = .dangling && !s.writeLoopAlive w
  | _ => false

/-- No thread uses a loop after it has been destroyed. -/
def loopsOwned : Guard Shared Frame Choice Event where
  run _ frame choice s _ := dangles s choice frame = false
  enter _ _ _ := True

instance (thread : Nat) (frame : Frame) (choice : Choice) (s : Shared) (frames : Multiset Frame) :
    Decidable (loopsOwned.run thread frame choice s frames) :=
  inferInstanceAs (Decidable (_ = _))

instance (event : Event) (s : Shared) (frames : Multiset Frame) :
    Decidable (loopsOwned.enter event s frames) :=
  inferInstanceAs (Decidable True)

/-- The step that uses a destroyed loop is the last one. -/
theorem fault_of_dangles {platform : Platform} {configuration : Configuration} {thread : Nat}
    {frame : Frame} {choice : Choice} {s s' : Shared} {frames : List Frame}
    {spawned : List (List Frame)} (hDangles : dangles s choice frame = true)
    (h : (machine platform configuration).exec thread frame choice s = some (s', frames, spawned)) :
    s'.fault = some .useAfterFree := by
  have hPerform := perform_of_exec h
  cases frame with
  | readLoopStart r | setReadDeadline r =>
    have hGone : s.readLoopAlive r = false := by simpa [dangles] using hDangles
    simp only [perform, readLoopStart, setReadDeadline, if_pos hGone] at hPerform
    cases hPerform
    rfl
  | writeLoopStart w | setWriteDeadline w id =>
    have hGone : s.writeLoopAlive w = false := by simpa [dangles] using hDangles
    simp only [perform, writeLoopStart, setWriteDeadline, if_pos hGone] at hPerform
    cases hPerform
    rfl
  | readNextBytes r =>
    have hGone : choice = .dangling ∧ s.readLoopAlive r = false := by simpa [dangles] using hDangles
    simp only [perform, readNextBytes, if_pos hGone] at hPerform
    split at hPerform <;> cases hPerform
    rfl
  | sendNextRequest w =>
    have hGone : choice = .dangling ∧ s.writeLoopAlive w = false := by simpa [dangles] using hDangles
    simp only [perform, sendNextRequest, if_pos hGone] at hPerform
    split at hPerform <;> cases hPerform
    rfl
  | listen w id =>
    have hGone : choice = .dangling ∧ s.writeLoopAlive w = false := by simpa [dangles] using hDangles
    simp only [perform, listen, if_pos hGone] at hPerform
    cases hPerform
    rfl
  | _ => cases hDangles

/-- At most one attempt is in progress, none while a loop is current, and the
current loops use the current socket. -/
structure LoopsUp (s : Shared) (frames : Multiset Frame) : Prop where
  attempts : load attempt frames ≤ 1
  read : s.readLoop ≠ none → Up s frames
  write : s.writeLoop ≠ none → Up s frames
  readSocket : ∀ r, s.readLoop = some r → (s.readLoops r).socket = s.socket
  writeSocket : ∀ w, s.writeLoop = some w → (s.writeLoops w).socket = s.socket

section Steps

variable {platform : Platform} {configuration : Configuration} {thread : Nat} {frame : Frame}
  {choice : Choice} {s s' : Shared} {rest before after : Multiset Frame} {frames : List Frame}
  {spawned : List (List Frame)}

theorem LoopsUp.of_same (h : LoopsUp s before) (hSocket : s'.socket = s.socket)
    (hRead : s'.readLoop = s.readLoop) (hWrite : s'.writeLoop = s.writeLoop)
    (hReadLoops : ∀ r, (s'.readLoops r).socket = (s.readLoops r).socket)
    (hWriteLoops : ∀ w, (s'.writeLoops w).socket = (s.writeLoops w).socket)
    (hAttempt : load attempt after = load attempt before) : LoopsUp s' after := by
  constructor <;> simp only [Up, hSocket, hRead, hWrite, hReadLoops, hWriteLoops, hAttempt]
  · exact h.attempts
  · exact h.read
  · exact h.write
  · exact h.readSocket
  · exact h.writeSocket

theorem socket_updateReadLoop (s : Shared) (r v : LoopID) (change : ReadLoop → ReadLoop)
    (h : (change (s.readLoops r)).socket = (s.readLoops r).socket) :
    ((s.updateReadLoop r change).readLoops v).socket = (s.readLoops v).socket := by
  simp only [Shared.updateReadLoop, Function.update_apply]
  split
  · rename_i hv
    rw [h, hv]
  · rfl

theorem socket_updateWriteLoop (s : Shared) (w v : LoopID) (change : WriteLoop → WriteLoop)
    (h : (change (s.writeLoops w)).socket = (s.writeLoops w).socket) :
    ((s.updateWriteLoop w change).writeLoops v).socket = (s.writeLoops v).socket := by
  simp only [Shared.updateWriteLoop, Function.update_apply]
  split
  · rename_i hv
    rw [h, hv]
  · rfl

/-- While an attempt is in progress there are no loops, and no other attempt. -/
theorem LoopsUp.of_attempt (h : LoopsUp s (frame ::ₘ rest)) (hFrame : attempt frame = 1) :
    s.readLoop = none ∧ s.writeLoop = none ∧ load attempt rest = 0 := by
  have hAttempts := h.attempts
  rw [load_cons, hFrame] at hAttempts
  have hNotUp : ¬ Up s (frame ::ₘ rest) := by
    rintro ⟨hNone, -⟩
    rw [load_cons, hFrame] at hNone
    omega
  refine ⟨?_, ?_, by omega⟩
  · by_contra hLoop
    exact hNotUp (h.read hLoop)
  · by_contra hLoop
    exact hNotUp (h.write hLoop)

theorem LoopsUp.of_none (hRead : s'.readLoop = none) (hWrite : s'.writeLoop = none)
    (hAttempts : load attempt after ≤ 1) : LoopsUp s' after where
  attempts := hAttempts
  read hLoop := absurd hRead hLoop
  write hLoop := absurd hWrite hLoop
  readSocket r hr := by
    rw [hRead] at hr
    cases hr
  writeSocket w hw := by
    rw [hWrite] at hw
    cases hw

theorem LoopsUp.of_readLoop (h : LoopsUp s before) (hUp : Up s before) {r : LoopID}
    (hLoop : s'.readLoop = some r) (hNew : (s'.readLoops r).socket = s.socket)
    (hSocket : s'.socket = s.socket) (hWrite : s'.writeLoop = s.writeLoop)
    (hWriteLoops : s'.writeLoops = s.writeLoops)
    (hAttempt : load attempt after = load attempt before) : LoopsUp s' after := by
  have hAfter : Up s' after := by
    rw [Up, hAttempt, hSocket]
    exact hUp
  refine ⟨hAttempt ▸ h.attempts, fun _ => hAfter, fun _ => hAfter, fun v hv => ?_, ?_⟩
  · obtain rfl := Option.some.inj (hLoop.symm.trans hv)
    rw [hNew, hSocket]
  · rw [hWrite, hWriteLoops, hSocket]
    exact h.writeSocket

theorem LoopsUp.of_writeLoop (h : LoopsUp s before) (hUp : Up s before) {w : LoopID}
    (hLoop : s'.writeLoop = some w) (hNew : (s'.writeLoops w).socket = s.socket)
    (hSocket : s'.socket = s.socket) (hRead : s'.readLoop = s.readLoop)
    (hReadLoops : s'.readLoops = s.readLoops)
    (hAttempt : load attempt after = load attempt before) : LoopsUp s' after := by
  have hAfter : Up s' after := by
    rw [Up, hAttempt, hSocket]
    exact hUp
  refine ⟨hAttempt ▸ h.attempts, fun _ => hAfter, fun _ => hAfter, ?_, fun v hv => ?_⟩
  · rw [hRead, hReadLoops, hSocket]
    exact h.readSocket
  · obtain rfl := Option.some.inj (hLoop.symm.trans hv)
    rw [hNew, hSocket]

theorem LoopsUp.step (hI : LoopsUp s (frame ::ₘ rest))
    (hGuard : loopsWhileUp.run thread frame choice s (frame ::ₘ rest))
    (h : Step platform configuration thread frame choice s s' frames spawned) :
    LoopsUp s' (↑(frames ++ spawned.flatten) + rest) := by
  cases h
  all_goals try (
    refine hI.of_same rfl rfl rfl (fun r => ?_) (fun w => ?_) ?_ <;>
      first
        | rfl
        | exact socket_updateReadLoop _ _ _ _ rfl
        | exact socket_updateWriteLoop _ _ _ _ rfl
        | simp [attempt]
    done)
  -- a loop is created, with the current socket, or updated, with the one it has
  case startReading hNone | listen hNone =>
    have hUp := hGuard (by simp [createsLoop, hNone])
    exact hI.of_readLoop hUp rfl (by simp) rfl rfl rfl (by simp [attempt])
  case startWriting hNone =>
    have hUp := hGuard (by simp [createsLoop, hNone])
    exact hI.of_writeLoop hUp rfl (by simp) rfl rfl rfl (by simp [attempt])
  case setReadDeadline r =>
    refine hI.of_same rfl rfl rfl (fun v => socket_updateReadLoop s r v
      (fun loop => { loop with deadline := some s.timerCount, owned := true }) rfl) (fun _ => rfl) ?_
    simp [attempt]
  case setWriteDeadline w _ =>
    refine hI.of_same rfl rfl rfl (fun _ => rfl) (fun v => socket_updateWriteLoop s w v
      (fun loop => { loop with deadline := some s.timerCount, owned := true }) rfl) ?_
    simp [attempt]
  case requestWritten w _ =>
    refine hI.of_same rfl rfl rfl (fun _ => rfl) (fun v => socket_updateWriteLoop s w v
      (fun loop => { loop with deadline := none }) rfl) ?_
    simp [attempt]
  case notResolved | initSocket | handshakeFailed | setConnected | stopWriting | stopReading
      | shutdownSocket | cancelledForFailure | cancelledForDestruction | giveUp =>
    obtain ⟨hRead, hWrite, hRest⟩ := hI.of_attempt rfl
    refine .of_none ?_ ?_ (by simp [attempt, hRest])
    all_goals first | rfl | exact hRead | exact hWrite
  -- an attempt starts with the loops cleared
  case restartReading hCurrent =>
    have hRest : load attempt rest = 0 := by simpa [attempt] using (hI.read (by simp [hCurrent])).1
    exact .of_none rfl rfl (by simp [attempt, hRest])
  case restartWriting hCurrent =>
    have hRest : load attempt rest = 0 := by simpa [attempt] using (hI.write (by simp [hCurrent])).1
    exact .of_none rfl rfl (by simp [attempt, hRest])
  case nothingToRead =>
    exact ⟨by simpa [attempt] using hI.attempts, by simp, by simpa [Up, attempt] using hI.write,
      by simp, hI.writeSocket⟩
  case stopLoop =>
    exact ⟨by simpa [attempt] using hI.attempts, by simpa [Up, attempt] using hI.read, by simp,
      hI.readSocket, by simp⟩

end Steps

/-! ## The socket during an attempt -/

/-- The socket is there, and what has been done with it so far is `progress`. -/
def HasSocket (s : Shared) (progress : Socket → Prop) : Prop :=
  ∃ id, s.socket = some id ∧ progress (s.sockets id)

/-- The socket is connected, and the protocol header has been written on it. -/
structure Socket.Ready (socket : Socket) : Prop where
  connected : socket.connected = true
  headerWritten : socket.headerWritten = true
  notClosed : socket.closed = false

/-- What is known of the current socket while an attempt has come to this frame. -/
def Phase (s : Shared) : Frame → Prop
  | .startResolveHost | .awaitResolve | .initSocket | .cancelAll _ _ | .cancelItems _ _ _
  | .reconnect => s.socket = none
  | .awaitConnect id => s.socket = some id ∧ (s.sockets id).closed = false
  | .startSSLHandshake | .awaitHandshake _ | .finishInitialization =>
    HasSocket s fun socket => socket.connected = true ∧ socket.closed = false
  | .awaitHeader id =>
    s.socket = some id ∧ (s.sockets id).connected = true ∧ (s.sockets id).closed = false
  | .insertAuthenticationRequests | .insertIntoQueue _ | .setConnected | .restartConnection _ =>
    HasSocket s Socket.Ready
  | _ => True

theorem phase_of_attempt_eq_zero (s : Shared) {frame : Frame} (h : attempt frame = 0) :
    Phase s frame := by
  cases frame <;> first | exact trivial | cases h

theorem Phase.of_same {s s' : Shared} {frame : Frame} (h : Phase s frame)
    (hSocket : s'.socket = s.socket) (hSockets : s'.sockets = s.sockets) : Phase s' frame := by
  cases frame <;> simp only [Phase, HasSocket, hSocket, hSockets] at h ⊢ <;> exact h

/-- The sockets of a connection, along its attempts and in between. -/
structure Sockets (s : Shared) (frames : Multiset Frame) : Prop where
  phases : ∀ frame ∈ frames, Phase s frame
  up : Up s frames → s.connected = true ∧ HasSocket s Socket.Ready
  ssl : s.sslSocket = s.socket
  fresh : ∀ id, s.socketCount ≤ id → s.sockets id = {}
  issued : ∀ id, s.socket = some id → id < s.socketCount

section Steps

variable {platform : Platform} {configuration : Configuration} {thread : Nat} {frame : Frame}
  {choice : Choice} {s s' : Shared} {rest before after : Multiset Frame} {frames : List Frame}
  {spawned : List (List Frame)}

theorem Sockets.of_same (h : Sockets s (frame ::ₘ rest)) (hSocket : s'.socket = s.socket)
    (hSockets : s'.sockets = s.sockets) (hSsl : s'.sslSocket = s.sslSocket)
    (hCount : s'.socketCount = s.socketCount) (hConnected : s'.connected = s.connected)
    (hPhases : ∀ next ∈ frames, Phase s next)
    (hAttempt : attempt frame ≤ load attempt ↑frames) : Sockets s' (↑frames + rest) := by
  refine ⟨?_, ?_, ?_, ?_, ?_⟩
  · intro next hNext
    have hPhase : Phase s next := by
      rcases Multiset.mem_add.mp hNext with hNew | hOld
      · exact hPhases next (Multiset.mem_coe.mp hNew)
      · exact h.phases next (Multiset.mem_cons_of_mem hOld)
    exact hPhase.of_same hSocket hSockets
  · simp only [Up, HasSocket, hSocket, hSockets, hConnected, load_add]
    rintro ⟨hNone, hSome⟩
    refine h.up ⟨?_, hSome⟩
    rw [load_cons]
    omega
  · rw [hSsl, hSocket]
    exact h.ssl
  · rw [hSockets, hCount]
    exact h.fresh
  · rw [hSocket, hCount]
    exact h.issued

theorem phases_after_attempt (hAlone : load attempt rest = 0)
    (hPhases : ∀ next ∈ frames, Phase s next) : ∀ next ∈ ↑frames + rest, Phase s next := by
  intro next hNext
  rcases Multiset.mem_add.mp hNext with hNew | hOld
  · exact hPhases next (Multiset.mem_coe.mp hNew)
  · exact phase_of_attempt_eq_zero s ((load_eq_zero_iff attempt).mp hAlone next hOld)

theorem fresh_updateSocket {id : SocketID} (change : Socket → Socket)
    (hFresh : ∀ other, s.socketCount ≤ other → s.sockets other = {}) (h : id < s.socketCount) :
    ∀ other, s.socketCount ≤ other → (s.updateSocket id change).sockets other = {} := by
  intro other hOther
  have hNe : other ≠ id := fun hEq => absurd h (Nat.not_lt.mpr (hEq ▸ hOther))
  simp only [Shared.updateSocket, Function.update_of_ne hNe]
  exact hFresh other hOther

theorem fresh_closeSocket (hFresh : ∀ id, s.socketCount ≤ id → s.sockets id = {})
    (hIssued : ∀ id, s.socket = some id → id < s.socketCount) :
    ∀ id, s.socketCount ≤ id → (closeSocket s).sockets id = {} := by
  intro id hid
  rw [closeSocket]
  cases hSocket : s.socket with
  | none => exact hFresh id hid
  | some current =>
    have hNe : id ≠ current := fun hEq =>
      absurd (hIssued current hSocket) (Nat.not_lt.mpr (hEq ▸ hid))
    simp only [Function.update_of_ne hNe]
    exact hFresh id hid

theorem Sockets.step (hI : Sockets s (frame ::ₘ rest)) (hLoops : LoopsUp s (frame ::ₘ rest))
    (h : Step platform configuration thread frame choice s s' frames spawned) :
    Sockets s' (↑(frames ++ spawned.flatten) + rest) := by
  have hPhase := hI.phases frame (Multiset.mem_cons_self frame rest)
  cases h
  all_goals try (
    refine hI.of_same rfl rfl rfl rfl rfl ?_ ?_ <;> simp [attempt, Phase] <;> try exact hPhase
    done)
  -- the only attempt in progress takes a step
  all_goals
    have hAttempts := hLoops.attempts
    obtain ⟨-, hUp, hSsl, hFresh, hIssued⟩ := hI
    simp only [load_cons, attempt, Nat.zero_add] at hAttempts
  case initSocket =>
    have hAlone : load attempt rest = 0 := by omega
    refine ⟨phases_after_attempt hAlone ?_, ?_, rfl, ?_, ?_⟩
    · simp [Phase, hFresh]
    · simp [Up, attempt]
    · exact fun id hid => hFresh id (Nat.le_of_succ_le hid)
    · rintro id ⟨⟩
      exact Nat.lt_succ_self _
  case connectedSSL id _ | connectedTCP id _ =>
    obtain ⟨hSocket, hProgress⟩ := hPhase
    have hAlone : load attempt rest = 0 := by omega
    refine ⟨phases_after_attempt hAlone ?_, ?_, hSsl, fresh_updateSocket _ hFresh (hIssued id hSocket),
      hIssued⟩
    · rintro next hNext
      obtain rfl := List.mem_singleton.mp hNext
      refine ⟨id, hSocket, ?_⟩
      simpa [Shared.updateSocket] using hProgress
    · simp [Up, attempt]
  case headerWritten id =>
    obtain ⟨hSocket, hConnected, hOpen⟩ := hPhase
    have hAlone : load attempt rest = 0 := by omega
    refine ⟨phases_after_attempt hAlone ?_, ?_, hSsl, fresh_updateSocket _ hFresh (hIssued id hSocket),
      hIssued⟩
    · rintro next hNext
      obtain rfl := List.mem_singleton.mp hNext
      refine ⟨id, hSocket, ?_⟩
      constructor <;> simp [Shared.updateSocket, hConnected, hOpen]
    · simp [Up, attempt]
  case finishInitialization id hSocket =>
    have hAlone : load attempt rest = 0 := by omega
    obtain ⟨other, hOther, hProgress⟩ := hPhase
    obtain rfl : other = id := Option.some.inj (hOther.symm.trans hSocket)
    refine ⟨phases_after_attempt hAlone ?_, ?_, hSsl, hFresh, hIssued⟩
    · simpa [Phase] using ⟨hSocket, hProgress⟩
    · simp [Up, attempt]
  case initializationFailed =>
    refine ⟨phases_after_attempt (by omega) (by simp [Phase]), ?_, hSsl, hFresh, hIssued⟩
    simp [Up, attempt]
  case setConnected =>
    refine ⟨phases_after_attempt (by omega) (by simp [Phase]), ?_, hSsl, hFresh, hIssued⟩
    exact fun _ => ⟨rfl, hPhase⟩
  -- the attempt ends without a socket
  case notResolved | cancelledForFailure | cancelledForDestruction | giveUp =>
    refine ⟨phases_after_attempt (by omega) (by simp [Phase]), ?_, hSsl, hFresh, hIssued⟩
    exact fun hUp' => absurd hPhase hUp'.2
  case handshakeFailed | shutdownSocket =>
    refine ⟨phases_after_attempt (by omega) ?_, ?_, rfl, ?_, ?_⟩
    · simp [Phase, closeSocket]
    · simp [Up, closeSocket]
    · exact fresh_closeSocket (s := s) hFresh hIssued
    · simp [closeSocket]
  -- the next attempt starts with the socket of the loops
  case restartReading r error deadline _ hLoop =>
    obtain ⟨hAlone, hSocket⟩ := hLoops.read (by simp [hLoop])
    rw [load_cons] at hAlone
    refine ⟨phases_after_attempt (by omega) ?_, ?_, hSsl, hFresh, hIssued⟩
    · rintro next hNext
      obtain rfl := List.mem_singleton.mp hNext
      exact (hUp ⟨by rw [load_cons]; exact hAlone, hSocket⟩).2
    · simp [Up, attempt]
  case restartWriting w error deadline _ hLoop =>
    obtain ⟨hAlone, hSocket⟩ := hLoops.write (by simp [hLoop])
    rw [load_cons] at hAlone
    refine ⟨phases_after_attempt (by omega) ?_, ?_, hSsl, hFresh, hIssued⟩
    · rintro next hNext
      obtain rfl := List.mem_singleton.mp hNext
      exact (hUp ⟨by rw [load_cons]; exact hAlone, hSocket⟩).2
    · simp [Up, attempt]

end Steps

/-! ## Every run -/

/-- What holds in every run in which loops are created only while the connection is up. -/
structure Established (s : Shared) (frames : Multiset Frame) : Prop where
  loops : LoopsUp s frames
  sockets : Sockets s frames

section Machine

variable (platform : Platform) (configuration : Configuration)

theorem established_preserved :
    Preserved (machine platform configuration) loopsWhileUp Established where
  exec _ _ _ _ _ _ _ _ h hGuard hExec :=
    ⟨h.loops.step hGuard (step_of_exec hExec), h.sockets.step h.loops (step_of_exec hExec)⟩
  enter event quiet s rest s' frames h hQuiet _ hEnter := by
    obtain ⟨hLoops, hSockets⟩ := h
    rcases enter_cases hEnter with ⟨_, rfl, rfl⟩ | ⟨_, hIdle, hRead, hWrite, rfl, rfl⟩
    · refine ⟨hLoops.of_same rfl rfl rfl (fun _ => rfl) (fun _ => rfl) (by simp [attempt]), ?_⟩
      obtain ⟨hPhases, hUp, hSsl, hFresh, hIssued⟩ := hSockets
      refine ⟨?_, ?_, hSsl, hFresh, hIssued⟩
      · simpa [Phase] using hPhases
      · simpa [Up, attempt] using hUp
    -- the destructor runs alone
    · obtain rfl := hQuiet hIdle
      constructor
      · constructor <;> simp [hRead, hWrite, attempt]
      · exact ⟨by simp [Phase], by simp [Up, attempt], hSockets.ssl, hSockets.fresh, hSockets.issued⟩

theorem established_initial : Established initial.shared initial.frames := by
  constructor
  · constructor <;> simp [initial, Config.frames, attempt]
  · constructor <;> simp [initial, Config.frames, Phase, Up, attempt]

end Machine

end Fuerte.Vst.Connection

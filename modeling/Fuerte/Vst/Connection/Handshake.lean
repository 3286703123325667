import Fuerte.Vst.Connection.Established
import Fuerte.Vst.Connection.Handover

/-! # The handshake comes before all traffic

A loop that reads or writes does so on a socket that is connected and carries
the protocol header, and the first request on it is the one that authenticates.
-/

namespace Fuerte.Vst.Connection

set_option autoImplicit false

open Interleaving

/-- Write loop `w` has been told to go on and has yet to start its write. -/
def issuingWrite (w : LoopID) : Frame → Nat
  | .listen v _ | .setWriteDeadline v _ | .asyncWrite v _ => if v = w then 1 else 0
  | _ => 0

/-- Read loop `r` has been told to go on and has yet to start its read. -/
def issuingRead (r : LoopID) : Frame → Nat
  | .setReadDeadline v | .asyncRead v => if v = r then 1 else 0
  | _ => 0

def issuing : Frame → Nat
  | .listen _ _ | .setWriteDeadline _ _ | .asyncWrite _ _ | .setReadDeadline _ | .asyncRead _ => 1
  | _ => 0

/-- The frames of a restart up to the one that closes the socket. -/
def breaking : Frame → Nat
  | .restartConnection _ | .stopWriting _ .reconnect | .stopReading _ .reconnect
  | .shutdownSocket _ .reconnect => 1
  | _ => 0

def shutsDown : Frame → Bool
  | .shutdownSocket _ _ => true
  | _ => false

/-- The socket is closed only while no loop is about to read or write. -/
def shutdownsApart : Guard Shared Frame Choice Event where
  run _ frame _ _ frames := shutsDown frame = true → load issuing frames = 0
  enter _ _ _ := True

instance (thread : Nat) (frame : Frame) (choice : Choice) (s : Shared) (frames : Multiset Frame) :
    Decidable ((loopsWhileUp.inf shutdownsApart).run thread frame choice s frames) :=
  inferInstanceAs (Decidable ((_ → _) ∧ (_ → _)))

instance (event : Event) (s : Shared) (frames : Multiset Frame) :
    Decidable ((loopsWhileUp.inf shutdownsApart).enter event s frames) :=
  inferInstanceAs (Decidable (True ∧ True))

/-- Loops about to read or write use the current socket, and it is ready. -/
structure Issuing (s : Shared) (frames : Multiset Frame) : Prop where
  write : ∀ w, 0 < load (issuingWrite w) frames → (s.writeLoops w).socket = s.socket ∧
    (s.writeLoop = some w ∨ 0 < load breaking frames)
  read : ∀ r, 0 < load (issuingRead r) frames → (s.readLoops r).socket = s.socket ∧
    (s.readLoop = some r ∨ 0 < load breaking frames)
  ready : 0 < load issuing frames → HasSocket s Socket.Ready

section Steps

variable {platform : Platform} {configuration : Configuration} {thread : Nat} {frame : Frame}
  {choice : Choice} {s s' : Shared} {rest before after : Multiset Frame} {frames : List Frame}
  {spawned : List (List Frame)}

theorem breaking_le_attempt (frame : Frame) : breaking frame ≤ attempt frame := by
  cases frame with
  | stopWriting _ after | stopReading _ after | shutdownSocket _ after =>
    cases after <;> simp [breaking, attempt]
  | _ => simp [breaking, attempt]

theorem issuingWrite_le (w : LoopID) (frame : Frame) : issuingWrite w frame ≤ issuing frame := by
  cases frame <;> simp only [issuingWrite, issuing] <;> first | omega | (split <;> omega)

theorem issuingRead_le (r : LoopID) (frame : Frame) : issuingRead r frame ≤ issuing frame := by
  cases frame <;> simp only [issuingRead, issuing] <;> first | omega | (split <;> omega)

theorem issuingWrite_le_chain (w : LoopID) (frame : Frame) :
    issuingWrite w frame ≤ writeChain w frame := by
  cases frame <;> simp [issuingWrite, writeChain]

theorem issuingRead_le_chain (r : LoopID) (frame : Frame) :
    issuingRead r frame ≤ readChain r frame := by
  cases frame <;> simp [issuingRead, readChain]

theorem Issuing.of_none (h : load issuing after = 0) : Issuing s' after where
  write w hw := by
    have := load_le_load (issuingWrite_le w) after
    omega
  read r hr := by
    have := load_le_load (issuingRead_le r) after
    omega
  ready hPos := by omega

theorem Issuing.of_same (h : Issuing s before) (hSocket : s'.socket = s.socket)
    (hSockets : s'.sockets = s.sockets) (hWrite : s'.writeLoop = s.writeLoop)
    (hRead : s'.readLoop = s.readLoop)
    (hWriteLoops : ∀ w, (s'.writeLoops w).socket = (s.writeLoops w).socket)
    (hReadLoops : ∀ r, (s'.readLoops r).socket = (s.readLoops r).socket)
    (hBreaking : load breaking before ≤ load breaking after)
    (hIssuingWrite : ∀ w, load (issuingWrite w) after ≤ load (issuingWrite w) before)
    (hIssuingRead : ∀ r, load (issuingRead r) after ≤ load (issuingRead r) before)
    (hIssuing : load issuing after ≤ load issuing before) : Issuing s' after := by
  constructor
  · intro w hw
    rw [hSocket, hWrite, hWriteLoops]
    exact (h.write w (hw.trans_le (hIssuingWrite w))).imp_right
      (Or.imp_right fun hPos => hPos.trans_le hBreaking)
  · intro r hr
    rw [hSocket, hRead, hReadLoops]
    exact (h.read r (hr.trans_le (hIssuingRead r))).imp_right
      (Or.imp_right fun hPos => hPos.trans_le hBreaking)
  · intro hPos
    simpa only [HasSocket, hSocket, hSockets] using h.ready (hPos.trans_le hIssuing)

theorem Issuing.of_breaking (h : Issuing s before) (hSocket : s'.socket = s.socket)
    (hSockets : s'.sockets = s.sockets)
    (hWriteLoops : ∀ w, (s'.writeLoops w).socket = (s.writeLoops w).socket)
    (hReadLoops : ∀ r, (s'.readLoops r).socket = (s.readLoops r).socket)
    (hBreaking : 0 < load breaking after)
    (hIssuingWrite : ∀ w, load (issuingWrite w) after ≤ load (issuingWrite w) before)
    (hIssuingRead : ∀ r, load (issuingRead r) after ≤ load (issuingRead r) before)
    (hIssuing : load issuing after ≤ load issuing before) : Issuing s' after := by
  constructor
  · intro w hw
    rw [hSocket, hWriteLoops]
    exact ⟨(h.write w (hw.trans_le (hIssuingWrite w))).1, .inr hBreaking⟩
  · intro r hr
    rw [hSocket, hReadLoops]
    exact ⟨(h.read r (hr.trans_le (hIssuingRead r))).1, .inr hBreaking⟩
  · intro hPos
    simpa only [HasSocket, hSocket, hSockets] using h.ready (hPos.trans_le hIssuing)

theorem Issuing.of_newReadLoop (h : Issuing s before) (hNone : s.readLoop = none)
    (hFresh : load (issuingRead s.readLoopCount) after = 0)
    (hBreaking : load breaking before ≤ load breaking after)
    (hIssuingWrite : ∀ w, load (issuingWrite w) after ≤ load (issuingWrite w) before)
    (hIssuingRead : ∀ r, load (issuingRead r) after ≤ load (issuingRead r) before)
    (hIssuing : load issuing after ≤ load issuing before) :
    Issuing { s with
      readLoops := Function.update s.readLoops s.readLoopCount { socket := s.socket }
      readLoop := some s.readLoopCount
      readLoopCount := s.readLoopCount + 1 } after := by
  refine ⟨fun w hw => ?_, fun r hr => ?_, fun hPos => h.ready (hPos.trans_le hIssuing)⟩
  · exact (h.write w (hw.trans_le (hIssuingWrite w))).imp_right
      (Or.imp_right fun hPos => hPos.trans_le hBreaking)
  · have hOther : r ≠ s.readLoopCount := by
      rintro rfl
      omega
    obtain ⟨hSocket, hCurrent | hPos⟩ := h.read r (hr.trans_le (hIssuingRead r))
    · rw [hNone] at hCurrent
      cases hCurrent
    · refine ⟨?_, .inr (hPos.trans_le hBreaking)⟩
      simpa only [Function.update_of_ne hOther] using hSocket

theorem Issuing.of_newWriteLoop (h : Issuing s before) (hNone : s.writeLoop = none)
    (hFresh : load (issuingWrite s.writeLoopCount) after = 0)
    (hBreaking : load breaking before ≤ load breaking after)
    (hIssuingWrite : ∀ w, load (issuingWrite w) after ≤ load (issuingWrite w) before)
    (hIssuingRead : ∀ r, load (issuingRead r) after ≤ load (issuingRead r) before)
    (hIssuing : load issuing after ≤ load issuing before) :
    Issuing { s with
      writeLoops := Function.update s.writeLoops s.writeLoopCount { socket := s.socket }
      writeLoop := some s.writeLoopCount
      writeLoopCount := s.writeLoopCount + 1 } after := by
  refine ⟨fun w hw => ?_, fun r hr => ?_, fun hPos => h.ready (hPos.trans_le hIssuing)⟩
  · have hOther : w ≠ s.writeLoopCount := by
      rintro rfl
      omega
    obtain ⟨hSocket, hCurrent | hPos⟩ := h.write w (hw.trans_le (hIssuingWrite w))
    · rw [hNone] at hCurrent
      cases hCurrent
    · refine ⟨?_, .inr (hPos.trans_le hBreaking)⟩
      simpa only [Function.update_of_ne hOther] using hSocket
  · exact (h.read r (hr.trans_le (hIssuingRead r))).imp_right
      (Or.imp_right fun hPos => hPos.trans_le hBreaking)

/-- A loop that stops itself is not about to do anything else. -/
theorem Issuing.of_readLoopStopped {r : LoopID} (h : Issuing s before) (hLoop : s.readLoop = some r)
    (hNone : load (issuingRead r) after = 0) (hSocket : s'.socket = s.socket)
    (hSockets : s'.sockets = s.sockets) (hWrite : s'.writeLoop = s.writeLoop)
    (hWriteLoops : s'.writeLoops = s.writeLoops) (hReadLoops : s'.readLoops = s.readLoops)
    (hBreaking : load breaking before ≤ load breaking after)
    (hIssuingWrite : ∀ w, load (issuingWrite w) after ≤ load (issuingWrite w) before)
    (hIssuingRead : ∀ r, load (issuingRead r) after ≤ load (issuingRead r) before)
    (hIssuing : load issuing after ≤ load issuing before) : Issuing s' after := by
  refine ⟨fun w hw => ?_, fun v hv => ?_, fun hPos => ?_⟩
  · rw [hSocket, hWrite, hWriteLoops]
    exact (h.write w (hw.trans_le (hIssuingWrite w))).imp_right
      (Or.imp_right fun hPos => hPos.trans_le hBreaking)
  · obtain ⟨hSame, hCurrent | hPos⟩ := h.read v (hv.trans_le (hIssuingRead v))
    · obtain rfl : r = v := Option.some.inj (hLoop.symm.trans hCurrent)
      omega
    · rw [hSocket, hReadLoops]
      exact ⟨hSame, .inr (hPos.trans_le hBreaking)⟩
  · simpa only [HasSocket, hSocket, hSockets] using h.ready (hPos.trans_le hIssuing)

theorem Issuing.of_writeLoopStopped {w : LoopID} (h : Issuing s before)
    (hLoop : s.writeLoop = some w) (hNone : load (issuingWrite w) after = 0)
    (hSocket : s'.socket = s.socket) (hSockets : s'.sockets = s.sockets)
    (hRead : s'.readLoop = s.readLoop) (hWriteLoops : s'.writeLoops = s.writeLoops)
    (hReadLoops : s'.readLoops = s.readLoops)
    (hBreaking : load breaking before ≤ load breaking after)
    (hIssuingWrite : ∀ w, load (issuingWrite w) after ≤ load (issuingWrite w) before)
    (hIssuingRead : ∀ r, load (issuingRead r) after ≤ load (issuingRead r) before)
    (hIssuing : load issuing after ≤ load issuing before) : Issuing s' after := by
  refine ⟨fun v hv => ?_, fun r hr => ?_, fun hPos => ?_⟩
  · obtain ⟨hSame, hCurrent | hPos⟩ := h.write v (hv.trans_le (hIssuingWrite v))
    · obtain rfl : w = v := Option.some.inj (hLoop.symm.trans hCurrent)
      omega
    · rw [hSocket, hWriteLoops]
      exact ⟨hSame, .inr (hPos.trans_le hBreaking)⟩
  · rw [hSocket, hRead, hReadLoops]
    exact (h.read r (hr.trans_le (hIssuingRead r))).imp_right
      (Or.imp_right fun hPos => hPos.trans_le hBreaking)
  · simpa only [HasSocket, hSocket, hSockets] using h.ready (hPos.trans_le hIssuing)

/-- While a connection is set up, or after its socket has been closed, no loop is
about to read or write. -/
theorem issuing_of_attempt (hI : Issuing s before) (hLoops : LoopsUp s before)
    (hAttempt : 0 < load attempt before) (hBreaking : load breaking before = 0) :
    load issuing before = 0 := by
  have hNotUp : ¬Up s before := fun hUp => by
    have := hUp.1
    omega
  refine (load_eq_zero_iff issuing).mpr fun frame hFrame => ?_
  by_contra hIssuing
  have hWrite : ∀ w, load (issuingWrite w) before = 0 := by
    intro w
    by_contra hw
    rcases (hI.write w (Nat.pos_of_ne_zero hw)).2 with hLoop | hPos
    · exact hNotUp (hLoops.write (by simp [hLoop]))
    · omega
  have hRead : ∀ r, load (issuingRead r) before = 0 := by
    intro r
    by_contra hr
    rcases (hI.read r (Nat.pos_of_ne_zero hr)).2 with hLoop | hPos
    · exact hNotUp (hLoops.read (by simp [hLoop]))
    · omega
  cases frame with
  | listen w id | setWriteDeadline w id | asyncWrite w id =>
    have := (load_eq_zero_iff _).mp (hWrite w) _ hFrame
    simp [issuingWrite] at this
  | setReadDeadline r | asyncRead r =>
    have := (load_eq_zero_iff _).mp (hRead r) _ hFrame
    simp [issuingRead] at this
  | _ => exact hIssuing rfl

theorem Issuing.step (hI : Issuing s (frame ::ₘ rest)) (hE : Established s (frame ::ₘ rest))
    (hLoops : LoopInvariant s (frame ::ₘ rest))
    (hGuard : (loopsWhileUp.inf shutdownsApart).run thread frame choice s (frame ::ₘ rest))
    (h : Step platform configuration thread frame choice s s' frames spawned) :
    Issuing s' (↑(frames ++ spawned.flatten) + rest) := by
  -- during an attempt that is not about to close the socket nothing is issued
  have hSetup : attempt frame = 1 → breaking frame = 0 → load issuing rest = 0 := by
    intro hAttempt hBreaking
    have hOne := hE.loops.attempts
    have hLe := load_le_load breaking_le_attempt rest
    rw [load_cons] at hOne
    have hNone := issuing_of_attempt hI hE.loops (by rw [load_cons]; omega)
      (by rw [load_cons]; omega)
    rw [load_cons] at hNone
    omega
  cases h
  all_goals try (
    refine hI.of_same rfl rfl rfl rfl (fun w => ?_) (fun r => ?_) ?_ (fun w => ?_) (fun r => ?_) ?_ <;>
      first
        | rfl
        | exact socket_updateReadLoop _ _ _ _ rfl
        | exact socket_updateWriteLoop _ _ _ _ rfl
        | simp [breaking, issuingWrite, issuingRead, issuing]
    done)
  all_goals try (
    refine Issuing.of_none ?_
    have := hSetup rfl rfl
    simpa [issuing] using this)
  case shutdownSocket =>
    refine Issuing.of_none ?_
    have := hGuard.2 rfl
    simpa [issuing] using this
  -- the loops are cleared on the way to closing the socket
  case stopWriting error after _ | stopReading error after =>
    cases after with
    | reconnect =>
      refine hI.of_breaking rfl rfl (fun _ => rfl) (fun _ => rfl) ?_ (fun w => ?_) (fun r => ?_) ?_ <;>
        simp [breaking, issuingWrite, issuingRead, issuing, Nat.pos_iff_ne_zero]
    | _ =>
      refine Issuing.of_none ?_
      have := hSetup rfl rfl
      simpa [issuing] using this
  case restartReading | restartWriting =>
    refine hI.of_breaking rfl rfl (fun _ => rfl) (fun _ => rfl) ?_ (fun w => ?_) (fun r => ?_) ?_ <;>
      simp [breaking, issuingWrite, issuingRead, issuing, Nat.pos_iff_ne_zero]
  -- a deadline is set or cancelled
  case setReadDeadline r =>
    refine hI.of_same rfl rfl rfl rfl (fun _ => rfl)
      (fun v => socket_updateReadLoop s r v (fun loop => { loop with deadline := some s.timerCount, owned := true })
        rfl) ?_ (fun w => ?_) (fun v => ?_) ?_ <;>
      simp [breaking, issuingWrite, issuingRead, issuing]
  case setWriteDeadline w id =>
    refine hI.of_same rfl rfl rfl rfl (fun v => socket_updateWriteLoop s w v
      (fun loop => { loop with deadline := some s.timerCount, owned := true }) rfl) (fun _ => rfl) ?_ (fun v => ?_) (fun r => ?_) ?_ <;>
      simp [breaking, issuingWrite, issuingRead, issuing]
  case requestWritten w id =>
    refine hI.of_same rfl rfl rfl rfl (fun v => socket_updateWriteLoop s w v
      (fun loop => { loop with deadline := none }) rfl) (fun _ => rfl) ?_ (fun v => ?_) (fun r => ?_) ?_ <;>
      simp [breaking, issuingWrite, issuingRead, issuing]
  case nothingToRead r _ hLoop _ _ =>
    have hNone : load (issuingRead r) rest = 0 := by
      have hOnce := hLoops.read.once r
      have hLe := load_le_load (issuingRead_le_chain r) rest
      simp only [load_cons, readChain, if_true] at hOnce
      omega
    refine hI.of_readLoopStopped hLoop (by simpa using hNone) rfl rfl rfl rfl rfl ?_ (fun w => ?_)
      (fun v => ?_) ?_ <;> simp [breaking, issuingWrite, issuingRead, issuing]
  case stopLoop w =>
    have hLoop : s.writeLoop = some w :=
      hLoops.write.sectionCurrent w (by simp only [load_cons, inSectionOf, if_true]; omega)
    have hNone : load (issuingWrite w) rest = 0 := by
      have hOnce := hLoops.write.once w
      have hLe := load_le_load (issuingWrite_le_chain w) rest
      simp only [load_cons, writeChain, if_true] at hOnce
      omega
    refine hI.of_writeLoopStopped hLoop (by simpa using hNone) rfl rfl rfl rfl rfl ?_ (fun v => ?_)
      (fun r => ?_) ?_ <;> simp [breaking, issuingWrite, issuingRead, issuing]
  case startReading hNone | listen hNone =>
    have hFresh : load (issuingRead s.readLoopCount) rest = 0 := by
      have hChain := hLoops.read.fresh s.readLoopCount (Nat.le_refl _)
      have hLe := load_le_load (issuingRead_le_chain s.readLoopCount) rest
      simp only [load_cons, readChain] at hChain
      omega
    refine hI.of_newReadLoop hNone (by simpa [issuingRead] using hFresh) ?_ (fun w => ?_)
      (fun r => ?_) ?_ <;> simp [breaking, issuingWrite, issuingRead, issuing]
  case startWriting _ hNone =>
    have hFresh : load (issuingWrite s.writeLoopCount) rest = 0 := by
      have hChain := hLoops.write.fresh s.writeLoopCount (Nat.le_refl _)
      have hLe := load_le_load (issuingWrite_le_chain s.writeLoopCount) rest
      simp only [load_cons, writeChain] at hChain
      omega
    refine hI.of_newWriteLoop hNone (by simpa [issuingWrite] using hFresh) ?_ (fun w => ?_)
      (fun r => ?_) ?_ <;> simp [breaking, issuingWrite, issuingRead, issuing]
  -- the current loop goes on, and it has the current socket
  case readNextBytes r _ hLoop _ =>
    have hHere := hE.loops.read (by simp [hLoop])
    have hSame := hE.loops.readSocket r hLoop
    have hNow := (hE.sockets.up hHere).2
    refine ⟨fun w hw => ?_, fun v hv => ?_, fun _ => hNow⟩
    · simpa [breaking] using hI.write w (by simpa [issuingWrite] using hw)
    · by_cases hEq : r = v
      · exact hEq ▸ ⟨hSame, .inl hLoop⟩
      · simpa [breaking] using hI.read v (by simpa [issuingRead, hEq] using hv)
  case removeFromQueue w id first queue hQueue =>
    have hLoop : s.writeLoop = some w :=
      hLoops.write.sectionCurrent w (by simp only [load_cons, inSectionOf, if_true]; omega)
    have hHere := hE.loops.write (by simp [hLoop])
    have hSame := hE.loops.writeSocket w hLoop
    have hNow := (hE.sockets.up hHere).2
    refine ⟨fun v hv => ?_, fun r hr => ?_, fun _ => hNow⟩
    · by_cases hEq : w = v
      · exact hEq ▸ ⟨hSame, .inl hLoop⟩
      · simpa [breaking] using hI.write v (by simpa [issuingWrite, hEq] using hv)
    · simpa [breaking] using hI.read r (by simpa [issuingRead] using hr)

/-! ## Authentication -/

def Authenticates (s : Shared) (id : MessageID) : Prop :=
  ∃ item, s.items id = some item ∧ item.callback.cb = .authentication

/-- The first request written on a socket. -/
def firstWrite (s : Shared) (socket : SocketID) : Option (SocketID × MessageID) :=
  s.history.writes.find? fun write => write.1 = socket

/-- The frames of an attempt up to the insertion of the authentication request,
or to the end of one that has failed. -/
def beforeInsertion : Frame → Nat
  | .awaitConnect _ | .startSSLHandshake | .awaitHandshake _ | .handshakeFailed
  | .finishInitialization | .awaitHeader _ | .initializationFailed | .insertAuthenticationRequests
  | .insertIntoQueue _ | .stopWriting _ .connectFailed | .stopReading _ .connectFailed
  | .shutdownSocket _ .connectFailed => 1
  | _ => 0

/-- The frames that carry an item from the queue to the network. -/
def sending : Frame → Nat
  | .listen _ _ | .setWriteDeadline _ _ | .asyncWrite _ _ => 1
  | _ => 0

/-- With a socket on which no request has been written goes an authentication
request, at the front of the queue or on its way to the network. -/
structure AuthenticationFirst (s : Shared) (frames : Multiset Frame) : Prop where
  inserted : ∀ frame ∈ frames, inserts frame = true → ∀ id ∈ mentioned frame, Authenticates s id
  written : ∀ socket write, firstWrite s socket = some write → Authenticates s write.2
  sent : ∀ socket, s.socket = some socket → firstWrite s socket = none →
    load beforeInsertion frames = 0 →
    ∀ frame ∈ frames, sending frame = 1 → ∀ id ∈ mentioned frame, Authenticates s id
  queued : ∀ socket, s.socket = some socket → firstWrite s socket = none →
    load beforeInsertion frames = 0 → load sending frames = 0 →
    ∃ id, s.sendQueue.head? = some id ∧ Authenticates s id

theorem Authenticates.of_step (h : Step platform configuration thread frame choice s s' frames spawned)
    (hItems : ItemsKnown s before) {id : MessageID} (hid : Authenticates s id) :
    Authenticates s' id := by
  obtain ⟨item, hItem, hOwner⟩ := hid
  obtain ⟨after, hAfter, hKeeps⟩ := keeps_of_step h hItems.issued hItem
  exact ⟨after, hAfter, hKeeps.owner.trans hOwner⟩

theorem AuthenticationFirst.of_same (h : AuthenticationFirst s (frame ::ₘ rest))
    (hAuth : ∀ id, Authenticates s id → Authenticates s' id) (hSocket : s'.socket = s.socket)
    (hWrites : s'.history.writes = s.history.writes)
    (hHead : ∀ id, s.sendQueue.head? = some id → s'.sendQueue.head? = some id)
    (hInsert : ∀ next ∈ frames, inserts next = true → inserts frame = true ∧
      mentioned next = mentioned frame)
    (hBefore : beforeInsertion frame ≤ load beforeInsertion ↑frames)
    (hSending : sending frame ≤ load sending ↑frames)
    (hSent : ∀ next ∈ frames, sending next = 1 → sending frame = 1 ∧
      mentioned next = mentioned frame) : AuthenticationFirst s' (↑frames + rest) := by
  have hFirst : ∀ socket, firstWrite s' socket = firstWrite s socket := by
    intro socket
    rw [firstWrite, hWrites, firstWrite]
  constructor
  · intro next hNext hInserts id hid
    rcases Multiset.mem_add.mp hNext with hNew | hOld
    · obtain ⟨hSame, hMentioned⟩ := hInsert next (Multiset.mem_coe.mp hNew) hInserts
      exact hAuth id (h.inserted frame (Multiset.mem_cons_self _ _) hSame id (hMentioned ▸ hid))
    · exact hAuth id (h.inserted next (Multiset.mem_cons_of_mem hOld) hInserts id hid)
  · intro socket write hWrite
    rw [hFirst] at hWrite
    exact hAuth _ (h.written socket write hWrite)
  · intro socket hs hf hb next hNext hSends id hid
    rw [hSocket] at hs
    rw [hFirst] at hf
    rw [load_add] at hb
    have hb' : load beforeInsertion (frame ::ₘ rest) = 0 := by
      rw [load_cons]
      omega
    rcases Multiset.mem_add.mp hNext with hNew | hOld
    · obtain ⟨hSame, hMentioned⟩ := hSent next (Multiset.mem_coe.mp hNew) hSends
      exact hAuth id (h.sent socket hs hf hb' frame (Multiset.mem_cons_self _ _) hSame id
        (hMentioned ▸ hid))
    · exact hAuth id (h.sent socket hs hf hb' next (Multiset.mem_cons_of_mem hOld) hSends id hid)
  · intro socket hs hf hb hn
    rw [hSocket] at hs
    rw [hFirst] at hf
    rw [load_add] at hb hn
    obtain ⟨id, hFront, hid⟩ := h.queued socket hs hf (by rw [load_cons]; omega)
      (by rw [load_cons]; omega)
    exact ⟨id, hHead id hFront, hAuth id hid⟩

/-- Without a socket, or before the insertion, nothing is claimed of the queue. -/
theorem AuthenticationFirst.of_vacuous (h : AuthenticationFirst s (frame ::ₘ rest))
    (hAuth : ∀ id, Authenticates s id → Authenticates s' id)
    (hWrites : s'.history.writes = s.history.writes)
    (hInsert : ∀ next ∈ frames, inserts next = true → ∀ id ∈ mentioned next, Authenticates s' id)
    (hVacuous : s'.socket = none ∨ 0 < load beforeInsertion (↑frames : Multiset Frame)) :
    AuthenticationFirst s' (↑frames + rest) := by
  have hNever : ∀ socket, s'.socket = some socket →
      load beforeInsertion (↑frames + rest) ≠ 0 := by
    intro socket hSocket
    rw [load_add]
    rcases hVacuous with hNone | hPos
    · simp [hNone] at hSocket
    · omega
  refine ⟨?_, ?_, fun socket hs _ hb => absurd hb (hNever socket hs),
    fun socket hs _ hb => absurd hb (hNever socket hs)⟩
  · intro next hNext hInserts id hid
    rcases Multiset.mem_add.mp hNext with hNew | hOld
    · exact hInsert next (Multiset.mem_coe.mp hNew) hInserts id hid
    · exact hAuth id (h.inserted next (Multiset.mem_cons_of_mem hOld) hInserts id hid)
  · intro socket write hWrite
    rw [firstWrite, hWrites] at hWrite
    exact hAuth _ (h.written socket write hWrite)

theorem beforeInsertion_add_breaking_le (frame : Frame) :
    beforeInsertion frame + breaking frame ≤ attempt frame := by
  cases frame with
  | stopWriting _ after | stopReading _ after | shutdownSocket _ after =>
    cases after <;> simp [beforeInsertion, breaking, attempt]
  | _ => simp [beforeInsertion, breaking, attempt]

theorem sending_le_issuing (frame : Frame) : sending frame ≤ issuing frame := by
  cases frame <;> simp [sending, issuing]

theorem inSectionOf_add_issuingWrite_le (w : LoopID) (frame : Frame) :
    inSectionOf w frame + issuingWrite w frame ≤ writeChain w frame := by
  cases frame <;> simp [inSectionOf, issuingWrite, writeChain]

/-- A loop that is about to read or write has not been created before the
insertion. -/
theorem beforeInsertion_of_issuing (hIssuing : Issuing s before) (hLoops : LoopsUp s before)
    (h : 0 < load issuing before) : load beforeInsertion before = 0 := by
  by_contra hPos
  have hOne := hLoops.attempts
  have hLe := load_le_load beforeInsertion_add_breaking_le before
  rw [load_fun_add] at hLe
  have := issuing_of_attempt hIssuing hLoops (by omega) (by omega)
  omega

/-- While a request is taken from the queue no other one is on its way to the network. -/
theorem sending_of_section (hIssuing : Issuing s before) (hE : LoopsUp s before)
    (hWrite : WriteChains s before) {w : LoopID} (h : 0 < load (inSectionOf w) before) :
    load sending before = 0 := by
  have hLoop := hWrite.sectionCurrent w h
  have hUp := hE.write (by simp [hLoop])
  have hBreaking := load_le_load breaking_le_attempt before
  have hOnly : ∀ v, load (issuingWrite v) before = 0 := by
    intro v
    by_contra hv
    rcases (hIssuing.write v (Nat.pos_of_ne_zero hv)).2 with hOther | hPos
    · obtain rfl : w = v := Option.some.inj (hLoop.symm.trans hOther)
      have hOnce := hWrite.once w
      have hLe := load_le_load (inSectionOf_add_issuingWrite_le w) before
      rw [load_fun_add] at hLe
      omega
    · have := hUp.1
      omega
  refine (load_eq_zero_iff sending).mpr fun frame hFrame => ?_
  cases frame with
  | listen v id | setWriteDeadline v id | asyncWrite v id =>
    have := (load_eq_zero_iff _).mp (hOnly v) _ hFrame
    simp [issuingWrite] at this
  | _ => rfl

theorem AuthenticationFirst.step (hI : AuthenticationFirst s (frame ::ₘ rest))
    (hBasic : configuration.authenticationType = .basic) (hE : Established s (frame ::ₘ rest))
    (hLoops : LoopInvariant s (frame ::ₘ rest)) (hItems : ItemsKnown s (frame ::ₘ rest))
    (hPeeked : PeekedFirst s (frame ::ₘ rest)) (hIssuing : Issuing s (frame ::ₘ rest))
    (h : Step platform configuration thread frame choice s s' frames spawned) :
    AuthenticationFirst s' (↑(frames ++ spawned.flatten) + rest) := by
  have hAuth : ∀ id, Authenticates s id → Authenticates s' id := fun _ => Authenticates.of_step h hItems
  cases h
  all_goals try (
    refine hI.of_same hAuth rfl rfl (fun _ hid => hid) ?_ ?_ ?_ ?_ <;>
      simp [inserts, beforeInsertion, sending, mentioned]; done)
  case addToQueue id =>
    refine hI.of_same hAuth rfl rfl (fun other hHead => ?_) ?_ ?_ ?_ ?_
    · rw [List.head?_append, hHead]
      rfl
    all_goals simp [inserts, beforeInsertion, sending]
  case initSocket =>
    exact hI.of_vacuous hAuth rfl (by simp [inserts]) (.inr (by simp [beforeInsertion]))
  case handshakeFailed | shutdownSocket =>
    exact hI.of_vacuous hAuth rfl (by simp [inserts]) (.inl rfl)
  case noAuthentication hNone => exact absurd hBasic (by simp [hNone])
  case insertAuthenticationRequests item hCallback _ =>
    refine hI.of_vacuous hAuth rfl ?_ (.inr (by simp [beforeInsertion]))
    simp [inserts, mentioned, Authenticates, hCallback]
  case stopWriting error after _ | stopReading error after =>
    cases after <;> refine hI.of_same hAuth rfl rfl (fun _ hid => hid) ?_ ?_ ?_ ?_ <;>
      simp [inserts, beforeInsertion, sending]
  -- the request just created goes to the front, and no other is on its way
  case insertIntoQueue id =>
    have hid : Authenticates s id := hI.inserted _ (Multiset.mem_cons_self _ _) rfl id
      (by simp [mentioned])
    have hSending : load sending rest = 0 := by
      have hOne := hE.loops.attempts
      have hBreaking := load_le_load breaking_le_attempt rest
      rw [load_cons] at hOne
      have hNone := issuing_of_attempt hIssuing hE.loops
        (by rw [load_cons]; simp only [attempt]; omega)
        (by rw [load_cons]; simp only [breaking, attempt] at *; omega)
      have hLe := load_le_load sending_le_issuing rest
      rw [load_cons] at hNone
      omega
    refine ⟨?_, fun socket write hWrite => hAuth _ (hI.written socket write hWrite), ?_,
      fun _ _ _ _ _ => ⟨id, rfl, hAuth id hid⟩⟩
    · intro next hNext hInserts other hOther
      rcases Multiset.mem_add.mp hNext with hNew | hOld
      · obtain rfl : next = .setConnected := by simpa using hNew
        cases hInserts
      · exact hAuth other (hI.inserted next (Multiset.mem_cons_of_mem hOld) hInserts other hOther)
    · intro socket _ _ _ next hNext hSends
      rcases Multiset.mem_add.mp hNext with hNew | hOld
      · obtain rfl : next = .setConnected := by simpa using hNew
        cases hSends
      · have := (load_eq_zero_iff sending).mp hSending next hOld
        omega
  -- the queue's first request is removed, and no other is on its way
  case removeFromQueue w id first queue hQueue =>
    have hNone := sending_of_section hIssuing hE.loops hLoops.write (w := w)
      (by rw [load_cons]; simp only [inSectionOf, if_true]; omega)
    have hFirst : first = id := by
      have := hPeeked (.removeFromQueue w id) (Multiset.mem_cons_self _ _) id rfl
      simpa [hQueue] using this
    have hBefore : load beforeInsertion
        (↑([Frame.listen w id] ++ ([] : List (List Frame)).flatten) + rest) =
        load beforeInsertion (Frame.removeFromQueue w id ::ₘ rest) := by
      simp [beforeInsertion]
    refine ⟨?_, fun socket write hWrite => hAuth _ (hI.written socket write hWrite), ?_, ?_⟩
    · intro next hNext hInserts other hOther
      rcases Multiset.mem_add.mp hNext with hNew | hOld
      · obtain rfl : next = .listen w id := by simpa using hNew
        cases hInserts
      · exact hAuth other (hI.inserted next (Multiset.mem_cons_of_mem hOld) hInserts other hOther)
    · intro socket hs hf hb next hNext hSends other hOther
      rcases Multiset.mem_add.mp hNext with hNew | hOld
      · obtain rfl : next = .listen w id := by simpa using hNew
        obtain rfl : other = id := by simpa [mentioned] using hOther
        obtain ⟨front, hFront, hFrontAuth⟩ := hI.queued socket hs hf (hBefore ▸ hb) hNone
        rw [hQueue, hFirst] at hFront
        cases hFront
        exact hAuth _ hFrontAuth
      · have := (load_eq_zero_iff sending).mp hNone next (Multiset.mem_cons_of_mem hOld)
        omega
    · intro socket _ _ _ hSending
      simp [sending] at hSending
  -- the first request on this socket, or not the first one
  case asyncWrite w id socket hSocket =>
    have hCurrent : s.socket = some socket := by
      rw [← (hIssuing.write w (by simp only [load_cons, issuingWrite, if_true]; omega)).1]
      exact hSocket
    have hBefore := beforeInsertion_of_issuing hIssuing hE.loops
      (by simp only [load_cons, issuing]; omega)
    have hOwn : firstWrite s socket = none → Authenticates s id := fun hNone =>
      hI.sent socket hCurrent hNone hBefore _ (Multiset.mem_cons_self _ _) rfl id (by simp [mentioned])
    have hWritten : ∀ other, s.socket = some other →
        (s.history.writes ++ [(socket, id)]).find? (fun write => write.1 = other) ≠ none := by
      intro other hOther hNone
      obtain rfl : socket = other := Option.some.inj (hCurrent.symm.trans hOther)
      exact List.find?_eq_none.mp hNone (socket, id) (by simp) (by simp)
    refine ⟨?_, ?_, fun other hs hf => absurd hf (hWritten other hs),
      fun other hs hf => absurd hf (hWritten other hs)⟩
    · intro next hNext hInserts other hOther
      rcases Multiset.mem_add.mp hNext with hNew | hOld
      · obtain rfl : next = .awaitWrite w id := by simpa using hNew
        cases hInserts
      · exact hAuth other (hI.inserted next (Multiset.mem_cons_of_mem hOld) hInserts other hOther)
    · intro other write hWrite
      simp only [firstWrite, Shared.transfer, List.find?_append, Option.or_eq_some_iff] at hWrite
      rcases hWrite with hOld | ⟨hNone, hNew⟩
      · exact hAuth _ (hI.written other write hOld)
      · obtain ⟨hEq, rfl⟩ : socket = other ∧ (socket, id) = write := by
          simpa [List.find?_singleton] using hNew
        exact hAuth _ (hOwn (hEq ▸ hNone))

/-- Authentication requests are inserted while there is no write loop. -/
theorem taking_of_insertion (hLoops : LoopsUp s (frame ::ₘ rest))
    (hWrite : WriteChains s (frame ::ₘ rest)) (h : inserts frame = true) :
    load taking rest = 0 := by
  have hSection : ∀ w, load (inSectionOf w) (frame ::ₘ rest) = 0 := by
    intro w
    by_contra hw
    have hUp := hLoops.write (by simp [hWrite.sectionCurrent w (Nat.pos_of_ne_zero hw)])
    have hNone := hUp.1
    cases frame with
    | insertIntoQueue id =>
      simp only [load_cons, attempt] at hNone
      omega
    | _ => cases h
  refine (load_eq_zero_iff taking).mpr fun next hNext => ?_
  cases next with
  | addToStore w id | removeFromQueue w id =>
    have := (load_eq_zero_iff _).mp (hSection w) _ (Multiset.mem_cons_of_mem hNext)
    simp [inSectionOf] at this
  | _ => rfl

end Steps

/-! ## Every run -/

/-- Whatever a loop is about to read from or write to is connected, open and
carries the protocol header, and the first request written authenticates. -/
structure HandshakeDone (configuration : Configuration) (s : Shared) (frames : Multiset Frame) :
    Prop where
  write : ∀ w id, .asyncWrite w id ∈ frames →
    ∃ socket, (s.writeLoops w).socket = some socket ∧ (s.sockets socket).Ready
  read : ∀ r, .asyncRead r ∈ frames →
    ∃ socket, (s.readLoops r).socket = some socket ∧ (s.sockets socket).Ready
  authenticated : configuration.authenticationType = .basic → ∀ socket write,
    firstWrite s socket = some write → Authenticates s write.2

/-- What is kept while loops are created and sockets closed one apart from the other. -/
structure HandshakeInvariant (configuration : Configuration) (s : Shared)
    (frames : Multiset Frame) : Prop where
  loops : LoopInvariant s frames
  established : Established s frames
  items : ItemsKnown s frames
  peeked : PeekedFirst s frames
  traffic : Issuing s frames
  authentication : configuration.authenticationType = .basic → AuthenticationFirst s frames

section Machine

variable (platform : Platform) (configuration : Configuration)

theorem HandshakeInvariant.handshakeDone {configuration : Configuration} {s : Shared}
    {frames : Multiset Frame} (h : HandshakeInvariant configuration s frames) :
    HandshakeDone configuration s frames where
  write w id hFrame := by
    have hWrite : 1 ≤ load (issuingWrite w) frames := by
      simpa [issuingWrite] using le_load (issuingWrite w) hFrame
    have hIssuing : 1 ≤ load issuing frames := le_load issuing hFrame
    obtain ⟨socket, hSocket, hReady⟩ := h.traffic.ready hIssuing
    exact ⟨socket, (h.traffic.write w hWrite).1.trans hSocket, hReady⟩
  read r hFrame := by
    have hRead : 1 ≤ load (issuingRead r) frames := by
      simpa [issuingRead] using le_load (issuingRead r) hFrame
    have hIssuing : 1 ≤ load issuing frames := le_load issuing hFrame
    obtain ⟨socket, hSocket, hReady⟩ := h.traffic.ready hIssuing
    exact ⟨socket, (h.traffic.read r hRead).1.trans hSocket, hReady⟩
  authenticated hBasic socket write hWrite := (h.authentication hBasic).written socket write hWrite

variable {platform configuration}

end Machine

end Fuerte.Vst.Connection

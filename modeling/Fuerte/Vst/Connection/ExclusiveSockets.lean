import Fuerte.Vst.Connection.Established

/-! # Who uses a socket

A loop keeps the socket it was created with. Loops that are created only while
the connection is up never share one: the previous loop has ended, or its socket
has been closed and replaced.
-/

namespace Fuerte.Vst.Connection

set_option autoImplicit false

open Interleaving

def writingOn (s : Shared) (socket : SocketID) : Frame → Nat
  | .awaitHeader id => if id = socket then 1 else 0
  | .awaitWrite w _ => if (s.writeLoops w).socket = some socket then 1 else 0
  | _ => 0

def readingOn (s : Shared) (socket : SocketID) : Frame → Nat
  | .awaitRead r => if (s.readLoops r).socket = some socket then 1 else 0
  | _ => 0

structure ExclusiveSockets (s : Shared) (frames : Multiset Frame) : Prop where
  write : ∀ socket, load (writingOn s socket) frames ≤ 1
  read : ∀ socket, load (readingOn s socket) frames ≤ 1

/-! ## Loops and their sockets -/

/-- Loops that are still running have different sockets, and the one with the
current socket is the current one unless the connection is being torn down. -/
structure Exclusive (chain : LoopID → Nat) (socketOf : LoopID → Option SocketID)
    (current : Option LoopID) (socket : Option SocketID) (socketCount tearing : Nat) : Prop where
  apart : ∀ v w, 0 < chain v → 0 < chain w → socketOf v = socketOf w → socketOf v ≠ none → v = w
  current : ∀ v, 0 < chain v → socketOf v = socket → socket ≠ none → current = some v ∨ 0 < tearing
  issued : ∀ v id, 0 < chain v → socketOf v = some id → id < socketCount

section Exclusive

variable {chain chain' : LoopID → Nat} {socketOf socketOf' : LoopID → Option SocketID}
  {current current' : Option LoopID} {socket socket' : Option SocketID}
  {socketCount tearing tearing' : Nat}

theorem Exclusive.of_same (h : Exclusive chain socketOf current socket socketCount tearing)
    (hChain : ∀ v, chain' v ≤ chain v) (hSocketOf : ∀ v, socketOf' v = socketOf v)
    (hTearing : tearing ≤ tearing') :
    Exclusive chain' socketOf' current socket socketCount tearing' := by
  constructor
  · intro v w hv hw
    rw [hSocketOf, hSocketOf]
    exact h.apart v w (hv.trans_le (hChain v)) (hw.trans_le (hChain w))
  · intro v hv
    rw [hSocketOf]
    exact fun hSame hSome =>
      (h.current v (hv.trans_le (hChain v)) hSame hSome).imp_right fun hPos => hPos.trans_le hTearing
  · intro v id hv
    rw [hSocketOf]
    exact h.issued v id (hv.trans_le (hChain v))

theorem Exclusive.of_tearing (h : Exclusive chain socketOf current socket socketCount tearing)
    (hChain : ∀ v, chain' v ≤ chain v) (hTearing : 0 < tearing') :
    Exclusive chain' socketOf current' socket socketCount tearing' := by
  constructor
  · exact fun v w hv hw => h.apart v w (hv.trans_le (hChain v)) (hw.trans_le (hChain w))
  · exact fun _ _ _ _ => .inr hTearing
  · exact fun v id hv => h.issued v id (hv.trans_le (hChain v))

theorem Exclusive.of_stopped (h : Exclusive chain socketOf current socket socketCount tearing)
    (hChain : ∀ v, chain' v ≤ chain v) (hStopped : ∀ v, current = some v → chain' v = 0)
    (hTearing : tearing ≤ tearing') :
    Exclusive chain' socketOf current' socket socketCount tearing' := by
  constructor
  · exact fun v w hv hw => h.apart v w (hv.trans_le (hChain v)) (hw.trans_le (hChain w))
  · intro v hv hSame hSome
    rcases h.current v (hv.trans_le (hChain v)) hSame hSome with hCurrent | hPos
    · rw [hStopped v hCurrent] at hv
      cases hv
    · exact .inr (hPos.trans_le hTearing)
  · exact fun v id hv => h.issued v id (hv.trans_le (hChain v))

theorem Exclusive.of_closed (h : Exclusive chain socketOf current socket socketCount tearing)
    (hChain : ∀ v, chain' v ≤ chain v) :
    Exclusive chain' socketOf current' none socketCount tearing' := by
  constructor
  · exact fun v w hv hw => h.apart v w (hv.trans_le (hChain v)) (hw.trans_le (hChain w))
  · exact fun _ _ _ hNone => absurd rfl hNone
  · exact fun v id hv => h.issued v id (hv.trans_le (hChain v))

theorem Exclusive.of_newSocket (h : Exclusive chain socketOf current socket socketCount tearing)
    (hChain : ∀ v, chain' v ≤ chain v) :
    Exclusive chain' socketOf current' (some socketCount) (socketCount + 1) tearing' := by
  constructor
  · exact fun v w hv hw => h.apart v w (hv.trans_le (hChain v)) (hw.trans_le (hChain w))
  · intro v hv hSame
    exact absurd (h.issued v socketCount (hv.trans_le (hChain v)) hSame) (Nat.lt_irrefl _)
  · exact fun v id hv hSame => Nat.lt_succ_of_lt (h.issued v id (hv.trans_le (hChain v)) hSame)

/-- While no loop is current and nothing is torn down, no running loop has the
current socket. -/
theorem Exclusive.of_newLoop (h : Exclusive chain socketOf none socket socketCount 0) (new : LoopID)
    (hChain : ∀ v, v ≠ new → chain' v = chain v) (hOther : ∀ v, v ≠ new → socketOf' v = socketOf v)
    (hNew : socketOf' new = socket) (hIssued : ∀ id, socket = some id → id < socketCount) :
    Exclusive chain' socketOf' (some new) socket socketCount tearing' := by
  have hFree : ∀ v, v ≠ new → 0 < chain' v → socketOf' v = socket → socket = none := by
    intro v hv hRuns hSame
    by_contra hSome
    rw [hChain v hv] at hRuns
    rw [hOther v hv] at hSame
    rcases h.current v hRuns hSame hSome with hCurrent | hPos
    · cases hCurrent
    · cases hPos
  constructor
  · intro v w hv hw hSame hSome
    by_cases hvNew : v = new <;> by_cases hwNew : w = new
    · rw [hvNew, hwNew]
    · subst hvNew
      exact absurd (hNew.trans (hFree w hwNew hw (hSame ▸ hNew))) hSome
    · subst hwNew
      exact absurd (hSame.trans (hNew.trans (hFree v hvNew hv (hSame.trans hNew)))) hSome
    · rw [hOther v hvNew] at hSame hSome
      rw [hOther w hwNew] at hSame
      rw [hChain v hvNew] at hv
      rw [hChain w hwNew] at hw
      exact h.apart v w hv hw hSame hSome
  · intro v hv hSame hSome
    by_cases hvNew : v = new
    · exact .inl (by rw [hvNew])
    · exact absurd (hFree v hvNew hv hSame) hSome
  · intro v id hv hSame
    by_cases hvNew : v = new
    · subst hvNew
      exact hIssued id (hNew.symm.trans hSame)
    · rw [hOther v hvNew] at hSame
      rw [hChain v hvNew] at hv
      exact h.issued v id hv hSame

/-- What is outstanding on a socket belongs to one loop. -/
theorem Exclusive.load_le_one {chainOf : LoopID → Frame → Nat} {frames : Multiset Frame}
    {on : Frame → Nat} (id : SocketID)
    (h : Exclusive (fun v => load (chainOf v) frames) socketOf current socket socketCount tearing)
    (hOnce : ∀ v, load (chainOf v) frames ≤ 1)
    (hOn : ∀ frame ∈ frames, 0 < on frame → ∃ v, socketOf v = some id ∧ on frame ≤ chainOf v frame) :
    load on frames ≤ 1 := by
  by_cases hNone : load on frames = 0
  · exact hNone ▸ Nat.zero_le 1
  · have hRuns : ∀ v frame, frame ∈ frames → 0 < on frame → on frame ≤ chainOf v frame →
        0 < load (chainOf v) frames := fun v frame hFrame hPos hLe =>
      (hPos.trans_le hLe).trans_le (le_load (chainOf v) hFrame)
    obtain ⟨frame, hFrame, hPos⟩ := exists_of_load_pos _ (Nat.pos_of_ne_zero hNone)
    obtain ⟨v, hSocket, hLe⟩ := hOn frame hFrame hPos
    refine (load_mono (chainOf v) fun other hOther => ?_).trans (hOnce v)
    rcases Nat.eq_zero_or_pos (on other) with hZero | hOtherPos
    · exact hZero ▸ Nat.zero_le _
    · obtain ⟨w, hOtherSocket, hOtherLe⟩ := hOn other hOther hOtherPos
      have hSame : w = v := by
        apply h.apart w v (hRuns w other hOther hOtherPos hOtherLe) (hRuns v frame hFrame hPos hLe)
        · rw [hOtherSocket, hSocket]
        · rw [hOtherSocket]
          nofun
      exact hSame ▸ hOtherLe

end Exclusive

/-- The frames that tear a connection down, up to the one that closes the socket. -/
def tearing : Frame → Nat
  | .restartConnection _ | .stopWriting _ _ | .stopReading _ _ | .shutdownSocket _ _ => 1
  | _ => 0

theorem tearing_le_attempt (frame : Frame) : tearing frame ≤ attempt frame := by
  cases frame <;> simp [tearing, attempt]

abbrev WritersApart (s : Shared) (frames : Multiset Frame) : Prop :=
  Exclusive (fun w => load (writeChain w) frames) (fun w => (s.writeLoops w).socket) s.writeLoop
    s.socket s.socketCount (load tearing frames)

abbrev ReadersApart (s : Shared) (frames : Multiset Frame) : Prop :=
  Exclusive (fun r => load (readChain r) frames) (fun r => (s.readLoops r).socket) s.readLoop
    s.socket s.socketCount (load tearing frames)

section Steps

variable {platform : Platform} {configuration : Configuration} {thread : Nat} {frame : Frame}
  {choice : Choice} {s s' : Shared} {rest : Multiset Frame} {frames : List Frame}
  {spawned : List (List Frame)}

theorem tearing_eq_zero (hUp : Up s rest) : load tearing rest = 0 :=
  Nat.le_zero.mp (hUp.1 ▸ load_le_load tearing_le_attempt rest)

theorem writersApart_step (hI : WritersApart s (frame ::ₘ rest))
    (hChains : WriteChains s (frame ::ₘ rest)) (hSockets : Sockets s (frame ::ₘ rest))
    (hGuard : loopsWhileUp.run thread frame choice s (frame ::ₘ rest))
    (h : Step platform configuration thread frame choice s s' frames spawned) :
    WritersApart s' (↑(frames ++ spawned.flatten) + rest) := by
  cases h
  all_goals try (
    refine hI.of_same (fun w => ?_) (fun w => ?_) ?_ <;>
      first
        | rfl
        | exact socket_updateWriteLoop _ _ _ _ rfl
        | simp [writeChain, tearing]
    done)
  case setWriteDeadline w _ =>
    let change (loop : WriteLoop) : WriteLoop := { loop with deadline := some s.timerCount, owned := true }
    refine hI.of_same (fun v => ?_) (fun v => socket_updateWriteLoop s w v change rfl) ?_ <;>
      simp [writeChain, tearing]
  case requestWritten w _ =>
    let change (loop : WriteLoop) : WriteLoop := { loop with deadline := none }
    refine hI.of_same (fun v => ?_) (fun v => socket_updateWriteLoop s w v change rfl) ?_ <;>
      simp [writeChain, tearing]
  case initSocket => exact hI.of_newSocket fun w => by simp [writeChain]
  case handshakeFailed | shutdownSocket => exact hI.of_closed fun w => by simp [writeChain]
  case stopWriting | restartReading | restartWriting =>
    refine hI.of_tearing (fun w => ?_) ?_
    · simp [writeChain]
    · exact load_next_pos _ List.mem_cons_self (by simp [tearing]) _
  case stopLoop w =>
    refine hI.of_stopped (fun v => ?_) (fun v hv => ?_) ?_
    · simp [writeChain]
    · have hCurrent := hChains.sectionCurrent w (by
        simp only [load_cons, inSectionOf, if_pos]
        omega)
      obtain rfl : w = v := Option.some.inj (hCurrent.symm.trans hv)
      have hOnce := hChains.once w
      simp only [load_cons, writeChain, if_pos] at hOnce
      simp only [List.flatten_nil, List.append_nil, Multiset.coe_nil, zero_add]
      omega
    · simp [tearing]
  case startWriting _ hNone =>
    have hUp := hGuard (by simp [createsLoop, hNone])
    have hFresh := hChains.fresh
    simp only [load_cons, writeChain, Nat.zero_add] at hFresh
    rw [WritersApart, hNone, tearing_eq_zero hUp] at hI
    refine hI.of_newLoop s.writeLoopCount (fun w hw => ?_) (fun w hw => ?_) ?_ hSockets.issued
    · simp [writeChain, hw.symm]
    · simp [Function.update_of_ne hw]
    · simp

theorem readersApart_step (hI : ReadersApart s (frame ::ₘ rest))
    (hChains : ReadChains s (frame ::ₘ rest)) (hSockets : Sockets s (frame ::ₘ rest))
    (hGuard : loopsWhileUp.run thread frame choice s (frame ::ₘ rest))
    (h : Step platform configuration thread frame choice s s' frames spawned) :
    ReadersApart s' (↑(frames ++ spawned.flatten) + rest) := by
  cases h
  all_goals try (
    refine hI.of_same (fun r => ?_) (fun r => ?_) ?_ <;>
      first
        | rfl
        | exact socket_updateReadLoop _ _ _ _ rfl
        | simp [readChain, tearing]
    done)
  case setReadDeadline r =>
    let change (loop : ReadLoop) : ReadLoop := { loop with deadline := some s.timerCount, owned := true }
    refine hI.of_same (fun v => ?_) (fun v => socket_updateReadLoop s r v change rfl) ?_ <;>
      simp [readChain, tearing]
  case initSocket => exact hI.of_newSocket fun r => by simp [readChain]
  case handshakeFailed | shutdownSocket => exact hI.of_closed fun r => by simp [readChain]
  case stopReading | restartReading | restartWriting =>
    refine hI.of_tearing (fun r => ?_) ?_
    · simp [readChain]
    · exact load_next_pos _ List.mem_cons_self (by simp [tearing]) _
  case nothingToRead r _ hCurrent _ _ =>
    refine hI.of_stopped (fun v => ?_) (fun v hv => ?_) ?_
    · simp [readChain]
    · obtain rfl : r = v := Option.some.inj (hCurrent.symm.trans hv)
      have hOnce := hChains.once r
      simp only [load_cons, readChain, if_pos] at hOnce
      simp only [List.flatten_nil, List.append_nil, Multiset.coe_nil, zero_add]
      omega
    · simp [tearing]
  case startReading hNone | listen hNone =>
    have hUp := hGuard (by simp [createsLoop, hNone])
    have hFresh := hChains.fresh
    simp only [load_cons, readChain, Nat.zero_add] at hFresh
    rw [ReadersApart, hNone, tearing_eq_zero hUp] at hI
    refine hI.of_newLoop s.readLoopCount (fun r hr => ?_) (fun r hr => ?_) ?_ hSockets.issued
    · simp [readChain, hr.symm]
    · simp [Function.update_of_ne hr]
    · simp

end Steps

/-! ## Every run -/

structure SocketsApart (s : Shared) (frames : Multiset Frame) : Prop where
  loops : LoopInvariant s frames
  established : Established s frames
  writers : WritersApart s frames
  readers : ReadersApart s frames

namespace SocketsApart

variable {s : Shared} {frames : Multiset Frame} {socket : SocketID}

/-- While the protocol header is written, no loop is running on the socket. -/
theorem no_writer (h : SocketsApart s frames) (hHeader : .awaitHeader socket ∈ frames) {w : LoopID}
    (hRuns : 0 < load (writeChain w) frames) : (s.writeLoops w).socket ≠ some socket := by
  intro hSocket
  have hPhase : s.socket = some socket := (h.established.sockets.phases _ hHeader).1
  have hAttempts := h.established.loops.attempts
  obtain ⟨rest, rfl⟩ := Multiset.exists_cons_of_mem hHeader
  have hTearing := load_le_load tearing_le_attempt rest
  rw [load_cons, attempt] at hAttempts
  rcases h.writers.current w hRuns (hSocket.trans hPhase.symm) (by simp [hPhase]) with
    hCurrent | hPos
  · have hUp := (h.established.loops.write (by simp [hCurrent])).1
    rw [load_cons, attempt] at hUp
    omega
  · simp only [load_cons, tearing] at hPos
    omega

theorem writing_le (h : SocketsApart s frames) : load (writingOn s socket) frames ≤ 1 := by
  by_cases hHeader : .awaitHeader socket ∈ frames
  · refine (load_mono attempt fun frame hFrame => ?_).trans
      h.established.loops.attempts
    cases frame with
    | awaitWrite w id =>
      have hChain := le_load (writeChain w) hFrame
      simp only [writeChain, if_pos] at hChain
      rw [writingOn, if_neg (h.no_writer hHeader hChain)]
      exact Nat.zero_le _
    | awaitHeader id =>
      simp only [writingOn, attempt]
      split <;> omega
    | _ => exact Nat.zero_le _
  · refine h.writers.load_le_one socket h.loops.write.once fun frame hFrame hPos => ?_
    cases frame with
    | awaitWrite w id =>
      have hSocket : (s.writeLoops w).socket = some socket := by
        by_contra hNot
        simp [writingOn, hNot] at hPos
      exact ⟨w, hSocket, by simp [writingOn, writeChain, hSocket]⟩
    | awaitHeader id =>
      have hEq : id = socket := by
        by_contra hNot
        simp [writingOn, hNot] at hPos
      exact absurd (hEq ▸ hFrame) hHeader
    | _ => cases hPos

theorem reading_le (h : SocketsApart s frames) : load (readingOn s socket) frames ≤ 1 := by
  refine h.readers.load_le_one socket h.loops.read.once fun frame _ hPos => ?_
  cases frame with
  | awaitRead r =>
    have hSocket : (s.readLoops r).socket = some socket := by
      by_contra hNot
      simp [readingOn, hNot] at hPos
    exact ⟨r, hSocket, by simp [readingOn, readChain, hSocket]⟩
  | _ => cases hPos

end SocketsApart

section Machine

variable {platform : Platform} {configuration : Configuration} {c : Config Shared Frame}

theorem socketsApart_preserved :
    Preserved (machine platform configuration) loopsWhileUp SocketsApart where
  exec _ _ _ _ _ _ _ _ h hGuard hExec := by
    have hStep := step_of_exec hExec
    obtain ⟨hLoops, hEstablished, hWriters, hReaders⟩ := h
    exact ⟨(loopInvariant_preserved platform configuration).exec _ _ _ _ _ _ _ _ hLoops trivial hExec,
      (established_preserved platform configuration).exec _ _ _ _ _ _ _ _ hEstablished hGuard hExec,
      writersApart_step hWriters hLoops.write hEstablished.sockets hGuard hStep,
      readersApart_step hReaders hLoops.read hEstablished.sockets hGuard hStep⟩
  enter _ _ _ _ _ _ h hQuiet hGuard hEnter := by
    obtain ⟨hLoops, hEstablished, hWriters, hReaders⟩ := h
    refine ⟨(loopInvariant_preserved platform configuration).enter _ _ _ _ _ _ hLoops hQuiet trivial
      hEnter, (established_preserved platform configuration).enter _ _ _ _ _ _ hEstablished hQuiet
      hGuard hEnter, ?_, ?_⟩
    all_goals
      rcases enter_cases hEnter with ⟨_, rfl, rfl⟩ | ⟨_, _, _, _, rfl, rfl⟩
    · exact hWriters.of_same (fun _ => by simp [writeChain]) (fun _ => rfl) (by simp [tearing])
    · exact hWriters.of_same (fun _ => by simp [writeChain]) (fun _ => rfl) (by simp [tearing])
    · exact hReaders.of_same (fun _ => by simp [readChain]) (fun _ => rfl) (by simp [tearing])
    · exact hReaders.of_same (fun _ => by simp [readChain]) (fun _ => rfl) (by simp [tearing])

theorem socketsApart_initial : SocketsApart initial.shared initial.frames := by
  refine ⟨loopInvariant_initial, established_initial, ?_, ?_⟩
  · constructor <;> simp [initial, Config.frames, writeChain]
  · constructor <;> simp [initial, Config.frames, readChain]

/-- **Exclusive use of sockets**, in every run in which loops are created only
while the connection is up, and none is used after its destruction. -/
theorem exclusive_sockets
    (h : Reaches (machine platform configuration) (loopsWhileUp.inf loopsOwned) initial c) :
    ExclusiveSockets c.shared c.frames := by
  have hApart := h.invariant (socketsApart_preserved.inf_left loopsOwned) socketsApart_initial
  exact ⟨fun _ => hApart.writing_le, fun _ => hApart.reading_le⟩

/-- A read and a write are outstanding on the same socket, one of each. -/
theorem exclusive_sockets_first_request :
    ∃ c, Reaches (machine shortPlatform {}) (loopsWhileUp.inf loopsOwned) initial c ∧
      load (writingOn c.shared 0) c.frames = 1 ∧ load (readingOn c.shared 0) c.frames = 1 ∧
      ExclusiveSockets c.shared c.frames := by
  have hRun : ((machine shortPlatform {}).steps (loopsWhileUp.inf loopsOwned) initial
      (establish ++ sendFirst)).any
      (fun c => load (writingOn c.shared 0) c.frames = 1 ∧
        load (readingOn c.shared 0) c.frames = 1) = true := by
    decide +kernel
  obtain ⟨c, hReaches, hTest⟩ := exists_reaches_of_steps hRun
  obtain ⟨hWriting, hReading⟩ := of_decide_eq_true hTest
  exact ⟨c, hReaches, hWriting, hReading, exclusive_sockets hReaches⟩

/-- The read has failed and the loops have been cleared, but the first request is
still being written when another thread starts a write loop on the same socket. -/
theorem two_writes_at_once :
    ¬ ∀ c, Reaches (machine shortPlatform {}) .all initial c → ExclusiveSockets c.shared c.frames := by
  intro hAll
  have hRun : ((machine shortPlatform {}).steps .all initial
      (establish ++ sendFirst ++ fail 6 ++ proceed 6 2 ++ [.enter .thread] ++
        send 9 versionRequest ++ proceed 9 16)).any
      (fun c => load (writingOn c.shared 0) c.frames = 2 ∧ (c.shared.sockets 0).closed = false) =
        true := by
    decide +kernel
  obtain ⟨c, hReaches, hTest⟩ := exists_reaches_of_steps hRun
  obtain ⟨hTwo, -⟩ := of_decide_eq_true hTest
  have hOne := (hAll c hReaches).write 0
  omega

/-- Loops that are created only while the connection is up can still be used too late: the
read fails and clears a write loop between its creation and its start. -/
theorem writeLoop_outlived :
    ∃ c, Reaches (machine shortPlatform {}) loopsWhileUp initial c ∧
      c.shared.fault = some .useAfterFree := by
  have hRun : ((machine shortPlatform {}).steps loopsWhileUp initial
      (establish ++ sendFirst ++ proceed 8 5 ++ [.enter .thread] ++
        send 9 versionRequest ++ proceed 9 4 ++ fail 6 ++ proceed 6 2 ++ proceed 9 1)).any
      (fun c => c.shared.fault = some .useAfterFree) = true := by
    decide +kernel
  obtain ⟨c, hReaches, hTest⟩ := exists_reaches_of_steps hRun
  exact ⟨c, hReaches, of_decide_eq_true hTest⟩

end Machine

end Fuerte.Vst.Connection

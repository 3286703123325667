import Fuerte.Vst.Connection.CallbackContract
import Fuerte.Vst.Connection.Handshake
import Fuerte.Vst.Connection.LostWakeup

/-! # No request is abandoned

When a connection attempt ends without a connection, `cancelAll` has completed
what is stored, but nobody looks at the queue, neither then nor later.
-/

namespace Fuerte.Vst.Connection

set_option autoImplicit false

open Interleaving

/-- The execution of the frame ends the attempt, and there is no connection. -/
def endsAttempt (s : Shared) (choice : Choice) : Frame → Bool
  | .awaitResolve => choice = .failed || choice = .noEndpoints
  | .handshakeFailed => true
  | .cancelItems _ after [] => after ≠ .reconnect
  | .reconnect => s.permanentFailure
  | _ => false

def enqueues : Frame → Bool
  | .addToQueue _ => true
  | _ => false

def connects : Frame → Bool
  | .setConnected => true
  | _ => false

/-- The callback of the authentication request with an error. -/
def isRefused : Frame → Bool
  | .authenticationCallback error => error ≠ .noError
  | _ => false

def restartPending (w : LoopID) : Frame → Nat
  | .restartWriting v .vstWriteError _ => if v = w then 1 else 0
  | _ => 0

/-- The current write loop will restart the connection. -/
def Restarting (s : Shared) (frames : Multiset Frame) : Prop :=
  ∃ w ∈ s.writeLoop, 0 < load (restartPending w) frames

instance (s : Shared) (frames : Multiset Frame) : Decidable (Restarting s frames) :=
  inferInstanceAs (Decidable (∃ w ∈ s.writeLoop, _))

/-- Attempts that fail find the queue empty, requests are queued while there is a
connection or an attempt, and a refused authentication stops the connection. -/
def queueServed : Guard Shared Frame Choice Event where
  run _ frame choice s frames :=
    (endsAttempt s choice frame = true → s.sendQueue = []) ∧
      (enqueues frame = true → 0 < load attempt frames ∨ s.socket ≠ none) ∧
      (connects frame = true → s.permanentFailure = false) ∧
      (isRefused frame = true → Up s frames → Restarting s frames)
  enter _ _ _ := True

instance (thread : Nat) (frame : Frame) (choice : Choice) (s : Shared) (frames : Multiset Frame) :
    Decidable (queueServed.run thread frame choice s frames) :=
  inferInstanceAs (Decidable (_ ∧ _ ∧ _ ∧ _))

instance (event : Event) (s : Shared) (frames : Multiset Frame) :
    Decidable (queueServed.enter event s frames) :=
  inferInstanceAs (Decidable True)

/-! ## After a refused authentication -/

/-- A connection that has been refused is not used any more. -/
def Refused (s : Shared) (frames : Multiset Frame) : Prop :=
  s.permanentFailure = true → Up s frames → Restarting s frames

section Steps

variable {platform : Platform} {configuration : Configuration} {thread : Nat} {frame : Frame}
  {choice : Choice} {s s' : Shared} {rest before after : Multiset Frame} {frames : List Frame}
  {spawned : List (List Frame)}

theorem restartPending_le_writeChain (w : LoopID) (frame : Frame) :
    restartPending w frame ≤ writeChain w frame := by
  cases frame
  case restartWriting v error deadline =>
    cases error <;> simp [restartPending, writeChain]
  all_goals exact Nat.zero_le _

theorem Refused.of_same (h : Refused s before) (hFailure : s'.permanentFailure = s.permanentFailure)
    (hSocket : s'.socket = s.socket) (hLoop : s'.writeLoop = s.writeLoop)
    (hAttempt : load attempt after = load attempt before)
    (hPending : ∀ w, load (restartPending w) before ≤ load (restartPending w) after) :
    Refused s' after := by
  intro hRefused hUp
  simp only [Up, hSocket, hAttempt] at hUp
  obtain ⟨w, hw, hPos⟩ := h (hFailure ▸ hRefused) hUp
  exact ⟨w, hLoop ▸ hw, hPos.trans_le (hPending w)⟩

theorem Refused.of_attempt (h : 0 < load attempt after) : Refused s' after := by
  rintro - ⟨hNone, -⟩
  omega

theorem Refused.of_down (h : s'.socket = none) : Refused s' after :=
  fun _ hUp => absurd h hUp.2

theorem Refused.step (hI : Refused s (frame ::ₘ rest)) (hLoops : LoopInvariant s (frame ::ₘ rest))
    (hEstablished : Established s (frame ::ₘ rest))
    (hGuard : queueServed.run thread frame choice s (frame ::ₘ rest))
    (h : Step platform configuration thread frame choice s s' frames spawned) :
    Refused s' (↑(frames ++ spawned.flatten) + rest) := by
  have hPhase := hEstablished.sockets.phases frame (Multiset.mem_cons_self _ _)
  have hOnce := hLoops.write.once
  have hLe := fun w => load_le_load (restartPending_le_writeChain w) rest
  cases h
  all_goals try (
    refine hI.of_same rfl rfl rfl ?_ (fun w => ?_) <;>
      simp only [List.flatten_nil, List.flatten_cons, List.append_nil, List.nil_append,
        List.cons_append, load_add, load_coe, load_cons, List.map_cons, List.map_nil,
        List.sum_cons, List.sum_nil, attempt, restartPending, Nat.zero_add, Nat.add_zero,
        Nat.le_refl]; done)
  case removeFailed v id hMutex =>
    exact hI.of_same rfl rfl rfl (by simp [attempt]) fun w => by simp [restartPending]
  case ignoreWriteFailure v error deadline hMutex hOther =>
    intro hRefused hUp
    obtain ⟨w, hw, hPos⟩ := hI hRefused (by simpa [Up, attempt] using hUp)
    have hNe : v ≠ w := fun h => hOther (h ▸ hw)
    refine ⟨w, hw, ?_⟩
    cases error <;> simpa [restartPending, hNe] using hPos
  -- an attempt is in progress
  case initSocket | stopWriting | restartReading | restartWriting | shutdownSocket =>
    apply Refused.of_attempt
    exact load_next_pos _ List.mem_cons_self (by simp [attempt]) _
  -- the attempt ends without a socket
  case handshakeFailed => exact .of_down rfl
  case notResolved | cancelledForFailure | cancelledForDestruction | giveUp => exact .of_down hPhase
  case setConnected =>
    have hAccepted := hGuard.2.2.1 rfl
    exact fun hRefused => absurd (hAccepted.symm.trans hRefused) Bool.false_ne_true
  case authenticationFailed error hError =>
    intro _ hUp
    obtain ⟨w, hw, hPos⟩ := hGuard.2.2.2 (by simp [isRefused, hError])
      (by simpa [Up, attempt] using hUp)
    exact ⟨w, hw, by simpa [restartPending] using hPos⟩
  -- the connection has not been refused: its loop would be about to restart it
  case startWriting hMutex hNone =>
    intro hRefused hUp
    obtain ⟨w, hw, -⟩ := hI hRefused (by simpa [Up, attempt] using hUp)
    rw [hNone] at hw
    cases hw
  case stopLoop v =>
    intro hRefused hUp
    obtain ⟨w, hw, hPos⟩ := hI hRefused (by simpa [Up, attempt] using hUp)
    have hCurrent := hLoops.write.sectionCurrent v
      (by simp only [load_cons, inSectionOf, if_true]; omega)
    obtain rfl : v = w := Option.some.inj (hCurrent.symm.trans hw)
    have hChain := hOnce v
    have := hLe v
    simp only [load_cons, writeChain, restartPending, if_true] at hChain hPos
    omega

end Steps

/-! ## The current loops run -/

/-- The current write loop has not come to its end, and neither has the current
read loop, unless the connection has been refused. -/
structure Running (s : Shared) (frames : Multiset Frame) : Prop where
  write : ∀ w, s.writeLoop = some w → load (writeChain w) frames = 1
  read : ∀ r, s.readLoop = some r → load (readChain r) frames = 1 ∨ s.permanentFailure = true

section Steps

variable {platform : Platform} {configuration : Configuration} {thread : Nat} {frame : Frame}
  {choice : Choice} {s s' : Shared} {rest before after : Multiset Frame} {frames : List Frame}
  {spawned : List (List Frame)}

theorem Running.of_same (h : Running s before) (hWrite : s'.writeLoop = s.writeLoop)
    (hRead : s'.readLoop = s.readLoop)
    (hFailure : s.permanentFailure = true → s'.permanentFailure = true)
    (hWriteChain : ∀ w, load (writeChain w) after = load (writeChain w) before)
    (hReadChain : ∀ r, load (readChain r) after = load (readChain r) before) :
    Running s' after := by
  constructor
  · intro w hw
    rw [hWriteChain]
    exact h.write w (hWrite ▸ hw)
  · intro r hr
    rw [hReadChain]
    exact (h.read r (hRead ▸ hr)).imp_right hFailure

/-- A write loop does not see a refusal as long as it is current. -/
theorem not_refused_of_current {w : LoopID} (hRefused : Refused s (.sendNextRequest w ::ₘ rest))
    (hLoops : LoopInvariant s (.sendNextRequest w ::ₘ rest))
    (hEstablished : Established s (.sendNextRequest w ::ₘ rest)) (hCurrent : s.writeLoop = some w) :
    s.permanentFailure = false := by
  by_contra hFailure
  have hUp := hEstablished.loops.write (by simp [hCurrent])
  obtain ⟨v, hv, hPos⟩ := hRefused (by simpa using hFailure) hUp
  obtain rfl : w = v := Option.some.inj (hCurrent.symm.trans hv)
  have hOnce := hLoops.write.once w
  have hLe := load_le_load (restartPending_le_writeChain w) rest
  simp only [load_cons, writeChain, restartPending, if_true] at hOnce hPos
  omega

theorem Running.step (hI : Running s (frame ::ₘ rest)) (hRefused : Refused s (frame ::ₘ rest))
    (hLoops : LoopInvariant s (frame ::ₘ rest)) (hEstablished : Established s (frame ::ₘ rest))
    (h : Step platform configuration thread frame choice s s' frames spawned) :
    Running s' (↑(frames ++ spawned.flatten) + rest) := by
  have hWriteStarts := hLoops.starts.write
  have hReadStarts := hLoops.starts.read
  have hWriteFresh := hLoops.write.fresh
  have hReadFresh := hLoops.read.fresh
  cases h
  all_goals try (
    refine hI.of_same rfl rfl id (fun w => ?_) (fun r => ?_) <;>
      simp only [List.flatten_nil, List.flatten_cons, List.append_nil, List.nil_append,
        List.cons_append, load_add, load_coe, load_cons, List.map_cons, List.map_nil,
        List.sum_cons, List.sum_nil, writeChain, readChain, Nat.zero_add, Nat.add_zero]; done)
  case authenticationFailed =>
    exact hI.of_same rfl rfl (fun _ => rfl) (fun w => by simp [writeChain])
      fun r => by simp [readChain]
  all_goals
    obtain ⟨hWrite, hRead⟩ := hI
  case stopWriting | stopLoop =>
    exact ⟨by simp, fun r hr => by simpa [readChain] using hRead r hr⟩
  case stopReading | nothingToRead =>
    exact ⟨fun w hw => by simpa [writeChain] using hWrite w hw, by simp⟩
  case restartReading | restartWriting => exact ⟨by simp, by simp⟩
  case startReading | listen =>
    refine ⟨fun w hw => by simpa [writeChain] using hWrite w hw, ?_⟩
    rintro r hr
    obtain rfl := Option.some.inj hr
    have hFresh := hReadFresh s.readLoopCount (Nat.le_refl _)
    simp only [load_cons, readChain, Nat.zero_add] at hFresh
    exact .inl (by simp [readChain, hFresh])
  case startWriting =>
    refine ⟨?_, fun r hr => by simpa [readChain] using hRead r hr⟩
    rintro w hw
    obtain rfl := Option.some.inj hw
    have hFresh := hWriteFresh s.writeLoopCount (Nat.le_refl _)
    simp only [load_cons, writeChain, Nat.zero_add] at hFresh
    simp [writeChain, hFresh]
  -- no loop is started twice
  case readLoopStarted r hStarted =>
    have hNotStarted := hReadStarts r (by simp only [load_cons, startingRead, if_true]; omega)
    exact absurd (hStarted.symm.trans hNotStarted) Bool.noConfusion
  case writeLoopStarted w hStarted =>
    have hNotStarted := hWriteStarts w (by simp only [load_cons, startingWrite, if_true]; omega)
    exact absurd (hStarted.symm.trans hNotStarted) Bool.noConfusion
  case readLoopEnds v hMutex hEnd =>
    refine ⟨fun w hw => by simpa [writeChain] using hWrite w hw, fun r hr => ?_⟩
    by_cases hEq : v = r
    · exact .inr (hEnd.resolve_left fun hOther => hOther (hEq ▸ hr))
    · simpa [readChain, hEq] using hRead r hr
  case writeLoopEnds v hMutex hEnd =>
    refine ⟨fun w hw => ?_, fun r hr => by simpa [readChain] using hRead r hr⟩
    by_cases hEq : v = w
    · have hAccepted := not_refused_of_current hRefused hLoops hEstablished (hEq ▸ hw)
      exact absurd (hEnd.resolve_left fun hOther => hOther (hEq ▸ hw)) (by simp [hAccepted])
    · simpa [writeChain, hEq] using hWrite w hw
  case ignoreReadFailure v error deadline hMutex hOther =>
    refine ⟨fun w hw => by simpa [writeChain] using hWrite w hw, fun r hr => ?_⟩
    have hNe : v ≠ r := fun h => hOther (h ▸ hr)
    have hChain := hRead r hr
    cases error <;> simpa [readChain, hNe] using hChain
  case ignoreWriteFailure v error deadline hMutex hOther =>
    refine ⟨fun w hw => ?_, fun r hr => by simpa [readChain] using hRead r hr⟩
    have hNe : v ≠ w := fun h => hOther (h ▸ hw)
    have hChain := hWrite w hw
    cases error <;> simpa [writeChain, hNe] using hChain

end Steps

/-! ## The queue -/

/-- Somebody will look at the queue: the current attempt when it succeeds, the
current write loop, or a thread that will look for one. -/
structure QueueServed (s : Shared) (frames : Multiset Frame) : Prop where
  queued : s.sendQueue ≠ [] → 0 < load attempt frames ∨
    (∃ w, s.writeLoop = some w ∧ 0 < load (writeWork w) frames) ∨ 0 < load beforeStartWriting frames
  down : load attempt frames = 0 → s.socket = none → s.sendQueue = []

section Steps

variable {platform : Platform} {configuration : Configuration} {thread : Nat} {frame : Frame}
  {choice : Choice} {s s' : Shared} {rest before after : Multiset Frame} {frames : List Frame}
  {spawned : List (List Frame)}

theorem QueueServed.of_same (h : QueueServed s before) (hQueue : s'.sendQueue = s.sendQueue)
    (hSocket : s'.socket = s.socket) (hLoop : s'.writeLoop = s.writeLoop)
    (hAttempt : load attempt after = load attempt before)
    (hWork : ∀ w, load (writeWork w) before ≤ load (writeWork w) after)
    (hStart : load beforeStartWriting after = load beforeStartWriting before) :
    QueueServed s' after := by
  constructor <;> simp only [hQueue, hSocket, hLoop, hAttempt, hStart]
  · intro hQueued
    rcases h.queued hQueued with hAttempt | ⟨w, hw, hPos⟩ | hStart
    · exact .inl hAttempt
    · exact .inr (.inl ⟨w, hw, hPos.trans_le (hWork w)⟩)
    · exact .inr (.inr hStart)
  · exact h.down

theorem QueueServed.of_attempt (h : 0 < load attempt after) : QueueServed s' after :=
  ⟨fun _ => .inl h, fun hNone => by omega⟩

theorem QueueServed.of_empty (h : s'.sendQueue = []) : QueueServed s' after :=
  ⟨fun hQueue => absurd h hQueue, fun _ _ => h⟩

theorem QueueServed.step (hI : QueueServed s (frame ::ₘ rest)) (hRunning : Running s (frame ::ₘ rest))
    (hRefused : Refused s (frame ::ₘ rest)) (hLoops : LoopInvariant s (frame ::ₘ rest))
    (hEstablished : Established s (frame ::ₘ rest))
    (hGuard : queueServed.run thread frame choice s (frame ::ₘ rest))
    (h : Step platform configuration thread frame choice s s' frames spawned) :
    QueueServed s' (↑(frames ++ spawned.flatten) + rest) := by
  have hQueued := hI.queued
  have hDown := hI.down
  have hSection := hLoops.write.mutex
  have hWorking := fun w => writeWork_add_stopping w rest
  have hStopping := fun w => load_le_load (stopping_le_inSection w) rest
  cases h
  all_goals try (
    refine hI.of_same rfl rfl rfl ?_ (fun w => ?_) ?_ <;>
      simp only [List.flatten_nil, List.flatten_cons, List.append_nil, List.nil_append,
        List.cons_append, load_add, load_coe, load_cons, List.map_cons, List.map_nil,
        List.sum_cons, List.sum_nil, attempt, writeWork, writeChain, beforeStartWriting,
        Nat.zero_add, Nat.add_zero, Nat.le_refl]; done)
  case notResolved hChoice =>
    exact .of_empty (hGuard.1 (by rcases hChoice with rfl | rfl <;> rfl))
  case handshakeFailed | cancelledForFailure | cancelledForDestruction =>
    exact .of_empty (hGuard.1 rfl)
  case giveUp hFailure => exact .of_empty (hGuard.1 hFailure)
  case queueEmpty hQueue => exact .of_empty hQueue
  case initSocket | insertIntoQueue | stopWriting | shutdownSocket | restartReading
      | restartWriting =>
    apply QueueServed.of_attempt
    exact load_next_pos _ List.mem_cons_self (by simp [attempt]) _
  all_goals
    simp only [load_cons, attempt, Nat.zero_add] at hDown
  case addToQueue id =>
    have hAlive := hGuard.2.1 rfl
    refine ⟨fun _ => .inr (.inr ?_), fun hNone hSocket => ?_⟩
    · exact load_next_pos _ List.mem_cons_self (by simp [beforeStartWriting]) _
    · simp only [List.flatten_nil, List.append_nil, load_add, load_coe, List.map_cons, List.map_nil,
        List.sum_cons, List.sum_nil, attempt, load_cons] at hNone hAlive
      exact absurd hSocket (hAlive.resolve_left (by omega))
  case setConnected =>
    obtain ⟨id, hSocket, -⟩ := hEstablished.sockets.phases _ (Multiset.mem_cons_self _ _)
    refine ⟨fun _ => .inr (.inr ?_), fun _ hNone => ?_⟩
    · exact load_next_pos _ List.mem_cons_self (by simp [beforeStartWriting]) _
    · rw [hSocket] at hNone
      cases hNone
  -- without a connection there is an attempt, or nothing is queued
  case testNotConnected hNot =>
    refine ⟨fun hQueue => .inl ?_, by simpa [attempt] using hDown⟩
    simp only [List.flatten_nil, List.append_nil, Multiset.coe_nil, zero_add]
    by_contra hAttempt
    have hSocket : s.socket ≠ none := fun hNone => hQueue (hDown (by omega) hNone)
    have hUp := hEstablished.sockets.up ⟨by simp only [load_cons, attempt]; omega, hSocket⟩
    rw [hNot] at hUp
    cases hUp.1
  -- a thread that holds the mutex would be stopping the current loop
  case alreadyWriting w hMutex hLoop =>
    refine ⟨fun _ => .inr (.inl ⟨w, hLoop, ?_⟩), by simpa [attempt] using hDown⟩
    have hChain := hRunning.write w hLoop
    have hBoth := hWorking w
    have hStop := hStopping w
    rw [hMutex] at hSection
    simp only [load_cons, inSection, writeChain, Nat.zero_add, Option.isSome_none,
      Bool.false_eq_true, if_false] at hSection hChain
    simp only [List.flatten_nil, List.append_nil, Multiset.coe_nil, zero_add]
    omega
  case startWriting =>
    refine ⟨fun _ => .inr (.inl ⟨s.writeLoopCount, rfl, ?_⟩), by simpa [attempt] using hDown⟩
    exact load_next_pos _ List.mem_cons_self (by simp [writeWork, writeChain]) _
  case writeLoopStarted w hStarted =>
    have hNotStarted := hLoops.starts.write w
      (by simp only [load_cons, startingWrite, if_true]; omega)
    exact absurd (hStarted.symm.trans hNotStarted) Bool.noConfusion
  -- a loop that ends without having seen the queue empty is not the current one
  case writeLoopEnds w hMutex hEnd =>
    refine ⟨fun hQueue => ?_, by simpa [attempt] using hDown⟩
    rcases hQueued hQueue with hAttempt | ⟨v, hv, hPos⟩ | hStart
    · exact .inl (by simpa [attempt] using hAttempt)
    · refine .inr (.inl ⟨v, hv, ?_⟩)
      have hNe : w ≠ v := by
        rintro rfl
        have hAccepted := not_refused_of_current hRefused hLoops hEstablished hv
        rcases hEnd with hOther | hFailure
        · exact hOther hv
        · rw [hAccepted] at hFailure
          cases hFailure
      simpa [writeWork, writeChain, hNe] using hPos
    · exact .inr (.inr (by simpa [beforeStartWriting] using hStart))
  -- the current loop stops: whoever has added to the queue since then starts a new one
  case stopLoop w =>
    refine ⟨fun hQueue => ?_, by simpa [attempt] using hDown⟩
    rcases hQueued hQueue with hAttempt | ⟨v, hv, hPos⟩ | hStart
    · exact .inl (by simpa [attempt] using hAttempt)
    · have hCurrent := hLoops.write.sectionCurrent w
        (by simp only [load_cons, inSectionOf, if_true]; omega)
      obtain rfl : w = v := Option.some.inj (hCurrent.symm.trans hv)
      have hChain := hRunning.write w hv
      have hBoth := hWorking w
      simp only [load_cons, writeChain, writeWork, if_true] at hPos hChain
      omega
    · exact .inr (.inr (by simpa [beforeStartWriting] using hStart))
  case removeFromQueue w id first queue hQueue =>
    refine ⟨fun _ => ?_, fun hNone hSocket => ?_⟩
    · rcases hQueued (by simp [hQueue]) with hAttempt | ⟨v, hv, hPos⟩ | hStart
      · exact .inl (by simpa [attempt] using hAttempt)
      · exact .inr (.inl ⟨v, hv, by simpa [writeWork, writeChain] using hPos⟩)
      · exact .inr (.inr (by simpa [beforeStartWriting] using hStart))
    · have hEmpty := hDown (by simpa [attempt] using hNone) hSocket
      rw [hQueue] at hEmpty
      cases hEmpty
  case ignoreWriteFailure w error deadline hMutex hOther =>
    refine ⟨fun hQueue => ?_, by simpa [attempt] using hDown⟩
    rcases hQueued hQueue with hAttempt | ⟨v, hv, hPos⟩ | hStart
    · exact .inl (by simpa [attempt] using hAttempt)
    · have hNe : w ≠ v := fun h => hOther (h ▸ hv)
      refine .inr (.inl ⟨v, hv, ?_⟩)
      cases error <;> simpa [writeWork, writeChain, hNe] using hPos
    · exact .inr (.inr (by simpa [beforeStartWriting] using hStart))

end Steps

/-! ## The store -/

/-- From the restart of the connection to the end of `cancelAll`. -/
def clearing : Frame → Nat
  | .restartConnection _ | .stopWriting _ _ | .stopReading _ _ | .shutdownSocket _ _
  | .cancelAll _ _ | .cancelItems _ _ _ => 1
  | _ => 0

/-- What is stored is waited for by a read loop, or about to be, or cancelled. -/
def StoreServed (s : Shared) (frames : Multiset Frame) : Prop :=
  s.messageStore ≠ [] → s.readLoop ≠ none ∨ 0 < load beforeListening frames ∨
    0 < load clearing frames

section Steps

variable {platform : Platform} {configuration : Configuration} {thread : Nat} {frame : Frame}
  {choice : Choice} {s s' : Shared} {rest before after : Multiset Frame} {frames : List Frame}
  {spawned : List (List Frame)}

theorem StoreServed.of_same (h : StoreServed s before)
    (hStore : s'.messageStore ≠ [] → s.messageStore ≠ []) (hLoop : s'.readLoop = s.readLoop)
    (hListening : load beforeListening after = load beforeListening before)
    (hClearing : load clearing after = load clearing before) : StoreServed s' after := by
  intro hStored
  rw [hLoop, hListening, hClearing]
  exact h (hStore hStored)

theorem StoreServed.step (hI : StoreServed s (frame ::ₘ rest))
    (h : Step platform configuration thread frame choice s s' frames spawned) :
    StoreServed s' (↑(frames ++ spawned.flatten) + rest) := by
  cases h
  all_goals try (
    refine hI.of_same id rfl ?_ ?_ <;>
      simp only [List.flatten_nil, List.flatten_cons, List.append_nil, List.nil_append,
        List.cons_append, load_add, load_coe, load_cons, List.map_cons, List.map_nil,
        List.sum_cons, List.sum_nil, beforeListening, clearing, Nat.zero_add, Nat.add_zero]; done)
  case removeCompleted | removeFailed =>
    refine hI.of_same (fun hStored hNone => hStored (by rw [hNone]; rfl)) rfl ?_ ?_ <;>
      simp [beforeListening, clearing]
  case cancelledForReconnect | cancelledForFailure | cancelledForDestruction =>
    exact fun hStored => absurd rfl hStored
  case nothingToRead hStore _ => exact fun hStored => absurd hStore hStored
  case startReading | listen => exact fun _ => .inl (by simp)
  case alreadyListening hLoop => exact fun _ => .inl (by simp [hLoop])
  case addToStore =>
    refine fun _ => .inr (.inl ?_)
    exact load_next_pos _ List.mem_cons_self (by simp [beforeListening]) _
  case notConnected | initializationFailed | stopReading | restartReading | restartWriting =>
    refine fun _ => .inr (.inr ?_)
    exact load_next_pos _ List.mem_cons_self (by simp [clearing]) _

/-! ## The items -/

/-- The frame takes the item out of the store to complete it. -/
def completing (id : MessageID) : Frame → Nat
  | .createResponse other _ | .moveRequest other _ _ | .invoke other _ _ _ =>
    if other = id then 1 else 0
  | _ => 0

/-- The callback of the item has been called, or is about to be. -/
def Completed (s : Shared) (frames : Multiset Frame) (id : MessageID) : Prop :=
  (∃ call ∈ s.calls, call.item = id) ∨ 0 < load (completing id) frames

/-- Every item that has entered the queue is queued, stored or completed. -/
structure Tracked (s : Shared) (frames : Multiset Frame) : Prop where
  enqueued : ∀ id ∈ s.history.enqueued,
    id ∈ s.sendQueue ∨ id ∈ s.messageStore ∨ Completed s frames id
  taken : ∀ w id, .removeFromQueue w id ∈ frames → id ∈ s.messageStore ∨ Completed s frames id
  cancelled : ∀ error after todo, .cancelItems error after todo ∈ frames →
    ∀ id ∈ s.messageStore, id ∈ todo ∨ Completed s frames id
  called : ∀ id, s.invoked id = true → ∃ call ∈ s.calls, call.item = id

theorem calls_of_step (h : Step platform configuration thread frame choice s s' frames spawned)
    {call : Invocation} (hCall : call ∈ s.calls) : call ∈ s'.calls := by
  cases h
  case invokeUser | invokeAuthentication => exact List.mem_append_left _ hCall
  all_goals exact hCall

theorem Completed.step (hCalled : ∀ id, s.invoked id = true → ∃ call ∈ s.calls, call.item = id)
    (h : Step platform configuration thread frame choice s s' frames spawned) {id : MessageID}
    (hCompleted : Completed s (frame ::ₘ rest) id) :
    Completed s' (↑(frames ++ spawned.flatten) + rest) id := by
  rcases hCompleted with ⟨call, hCall, hItem⟩ | hPos
  · exact .inl ⟨call, calls_of_step h hCall, hItem⟩
  · rw [load_cons] at hPos
    cases h
    all_goals try (
      refine .inr ?_
      simp only [completing, Nat.zero_add] at hPos
      simp only [load_add]
      omega)
    case throws => exact .inr (by simpa using hPos)
    case createResponse | moveRequest => exact .inr (by simpa [completing] using hPos)
    case invokeAgain other error request response item hItem hInvoked =>
      by_cases hEq : other = id
      · exact .inl (hCalled id (by simp [Shared.invoked, ← hEq, hItem, hInvoked]))
      · exact .inr (by simpa [completing, hEq] using hPos)
    case invokeUser other error request response item hInvoked hOwner hItem =>
      by_cases hEq : other = id
      · exact .inl ⟨_, List.mem_append_right _ (List.mem_singleton_self _), hEq⟩
      · exact .inr (by simpa [completing, hEq] using hPos)
    case invokeAuthentication other error request response item hInvoked hOwner hItem =>
      by_cases hEq : other = id
      · exact .inl ⟨_, List.mem_append_right _ (List.mem_singleton_self _), hEq⟩
      · exact .inr (by simpa [completing, hEq] using hPos)

theorem Tracked.kept (hI : Tracked s (frame ::ₘ rest))
    (h : Step platform configuration thread frame choice s s' frames spawned) {id : MessageID}
    (hid : id ∈ s.messageStore ∨ Completed s (frame ::ₘ rest) id) :
    id ∈ s'.messageStore ∨ Completed s' (↑(frames ++ spawned.flatten) + rest) id := by
  have hStep : Completed s (frame ::ₘ rest) id →
      Completed s' (↑(frames ++ spawned.flatten) + rest) id := fun hid => hid.step hI.called h
  rcases hid with hStored | hCompleted
  · have hCancelled := hI.cancelled
    cases h
    case addToStore => exact .inl ((MessageStore.mem_add _ _ _).mpr (.inr hStored))
    case removeCompleted other buffer hMutex | removeFailed w other hMutex =>
      by_cases hEq : id = other
      · refine .inr (.inr ?_)
        exact load_next_pos _ List.mem_cons_self (by simp [completing, hEq]) _
      · exact .inl ((MessageStore.mem_removeByID _ _ _).mpr ⟨hStored, hEq⟩)
    case cancelledForReconnect | cancelledForFailure | cancelledForDestruction =>
      have hDone := hCancelled _ _ [] (Multiset.mem_cons_self _ _) id hStored
      exact .inr (hStep (hDone.resolve_left List.not_mem_nil))
    all_goals exact .inl hStored
  · exact .inr (hStep hCompleted)

/-- Only `getNextRequestToSend` removes from the queue. -/
theorem queued_of_step (h : Step platform configuration thread frame choice s s' frames spawned)
    (hPeeked : PeekedFirst s (frame ::ₘ rest)) {id : MessageID} (hQueued : id ∈ s.sendQueue) :
    id ∈ s'.sendQueue ∨ ∃ w, frame = .removeFromQueue w id := by
  cases h
  case addToQueue => exact .inl (List.mem_append_left _ hQueued)
  case insertIntoQueue => exact .inl (List.mem_cons_of_mem _ hQueued)
  case removeFromQueue w taken first queue hQueue =>
    have hHead := hPeeked _ (Multiset.mem_cons_self _ _) taken rfl
    rw [hQueue] at hHead hQueued
    obtain rfl : first = taken := Option.some.inj hHead
    rcases List.mem_cons.mp hQueued with rfl | hRest
    · exact .inr ⟨w, rfl⟩
    · exact .inl hRest
  all_goals exact .inl hQueued

theorem enqueued_of_step (h : Step platform configuration thread frame choice s s' frames spawned)
    {id : MessageID} (hEnqueued : id ∈ s'.history.enqueued) :
    id ∈ s.history.enqueued ∨ id ∈ s'.sendQueue := by
  cases h
  case addToQueue new =>
    rcases List.mem_append.mp hEnqueued with hOld | hNew
    · exact .inl hOld
    · exact .inr (List.mem_append_right _ hNew)
  case insertIntoQueue new =>
    rcases List.mem_append.mp hEnqueued with hOld | hNew
    · exact .inl hOld
    · exact .inr (List.mem_cons.mpr (.inl (List.mem_singleton.mp hNew)))
  all_goals exact .inl hEnqueued

/-- Nothing is stored while the stored items are cancelled. -/
theorem stored_while_cancelling (hMutex : StoreMutex s (frame ::ₘ rest)) {error : ErrorCondition}
    {after : AfterShutdown} {todo : List MessageID} (hCancel : .cancelItems error after todo ∈ rest)
    (h : Step platform configuration thread frame choice s s' frames spawned) {id : MessageID}
    (hStored : id ∈ s'.messageStore) : id ∈ s.messageStore := by
  cases h
  case addToStore w new hFree =>
    have hPos := le_load cancelling hCancel
    rw [StoreMutex, hFree, load_cons] at hMutex
    simp only [cancelling, Option.isSome_none, Bool.false_eq_true, if_false] at hMutex hPos
    omega
  case removeCompleted | removeFailed => exact ((MessageStore.mem_removeByID _ _ _).mp hStored).1
  case cancelledForReconnect | cancelledForFailure | cancelledForDestruction => cases hStored
  all_goals exact hStored

theorem invoked_update {id other : MessageID} {item : RequestItem}
    (h : s'.items = Function.update s.items other (some item)) (hInvoked : s'.invoked id = true) :
    s.invoked id = true ∨ id = other ∧ item.callback.invoked = true := by
  by_cases hEq : id = other
  · refine .inr ⟨hEq, ?_⟩
    simpa [Shared.invoked, h, hEq] using hInvoked
  · refine .inl ?_
    simpa [Shared.invoked, h, Function.update_of_ne hEq] using hInvoked

theorem invoked_of_step (h : Step platform configuration thread frame choice s s' frames spawned)
    {id : MessageID} (hInvoked : s'.invoked id = true) :
    s.invoked id = true ∨ ∃ call ∈ s'.calls, call.item = id := by
  cases h
  all_goals try exact .inl hInvoked
  case createRequestItem left item hRequest hCallback hLeft
      | insertAuthenticationRequests left item hType hRequest hCallback hLeft =>
    rcases invoked_update rfl hInvoked with hOld | ⟨-, hNew⟩
    · exact .inl hOld
    · rw [hCallback] at hNew
      cases hNew
  case invokeUser item hFirst hOwner hItem | invokeAuthentication item hFirst hOwner hItem =>
    rcases invoked_update rfl hInvoked with hOld | ⟨hEq, -⟩
    · exact .inl hOld
    · exact .inr ⟨_, List.mem_append_right _ (List.mem_singleton_self _), hEq.symm⟩
  case moveRequest item hItem =>
    rcases invoked_update rfl hInvoked with hOld | ⟨rfl, hSame⟩
    · exact .inl hOld
    · exact .inl (by simpa [Shared.invoked, hItem] using hSame)
  case addChunk item after hRequest hCallback hItem | lastChunk item after hRequest hCallback hItem =>
    rcases invoked_update rfl hInvoked with hOld | ⟨rfl, hSame⟩
    · exact .inl hOld
    · exact .inl (by simpa [Shared.invoked, hItem, hCallback] using hSame)
  case requestWritten w written =>
    refine .inl ?_
    by_cases hEq : id = written
    · simpa [Shared.invoked, Shared.updateItem, Shared.updateWriteLoop, hEq, Option.any_map,
        RequestItem.resetSendData, Function.comp_def] using hInvoked
    · simpa [Shared.invoked, Shared.updateItem, Shared.updateWriteLoop,
        Function.update_of_ne hEq] using hInvoked

theorem Tracked.step (hI : Tracked s (frame ::ₘ rest)) (hMutex : StoreMutex s (frame ::ₘ rest))
    (hPeeked : PeekedFirst s (frame ::ₘ rest))
    (h : Step platform configuration thread frame choice s s' frames spawned) :
    Tracked s' (↑(frames ++ spawned.flatten) + rest) := by
  have hKept : ∀ id, id ∈ s.messageStore ∨ Completed s (frame ::ₘ rest) id →
      id ∈ s'.messageStore ∨ Completed s' (↑(frames ++ spawned.flatten) + rest) id :=
    fun _ => hI.kept h
  have hStep : ∀ id, Completed s (frame ::ₘ rest) id →
      Completed s' (↑(frames ++ spawned.flatten) + rest) id := fun _ hid => hid.step hI.called h
  refine ⟨?_, ?_, ?_, ?_⟩
  · intro id hid
    rcases enqueued_of_step h hid with hOld | hQueued
    · rcases hI.enqueued id hOld with hQueued | hKnown
      · rcases queued_of_step h hPeeked hQueued with hQueued | ⟨w, rfl⟩
        · exact .inl hQueued
        · exact .inr (hKept id (hI.taken w id (Multiset.mem_cons_self _ _)))
      · exact .inr (hKept id hKnown)
    · exact .inl hQueued
  · intro w id hNext
    have hTaken := hI.taken
    rcases Multiset.mem_add.mp hNext with hNew | hOld
    · cases h
      case addToStore v taken hFree =>
        obtain ⟨-, rfl⟩ : w = v ∧ id = taken := by simpa using hNew
        exact .inl ((MessageStore.mem_add _ _ _).mpr (.inl rfl))
      case throws =>
        obtain rfl : Frame.removeFromQueue w id = _ := by simpa using hNew
        exact hKept id (hTaken w id (Multiset.mem_cons_self _ _))
      all_goals simp at hNew
    · exact hKept id (hTaken w id (Multiset.mem_cons_of_mem hOld))
  · intro error after todo hNext id hStored
    have hCancelled := hI.cancelled
    rcases Multiset.mem_add.mp hNext with hNew | hOld
    · cases h
      case cancelAll =>
        obtain ⟨-, -, rfl⟩ : error = _ ∧ after = _ ∧ todo = s.messageStore := by simpa using hNew
        exact .inl hStored
      case cancelItem other left =>
        obtain ⟨rfl, rfl, rfl⟩ : error = _ ∧ after = _ ∧ todo = left := by simpa using hNew
        rcases hCancelled _ _ _ (Multiset.mem_cons_self _ _) id hStored with hTodo | hCompleted
        · rcases List.mem_cons.mp hTodo with rfl | hLeft
          · refine .inr (.inr ?_)
            exact load_next_pos _ List.mem_cons_self (by simp [completing]) _
          · exact .inl hLeft
        · exact .inr (hStep id hCompleted)
      case throws =>
        obtain rfl : Frame.cancelItems error after todo = _ := by simpa using hNew
        exact (hCancelled _ _ _ (Multiset.mem_cons_self _ _) id hStored).imp_right (hStep id)
      all_goals simp at hNew
    · have hBefore : id ∈ s.messageStore := stored_while_cancelling hMutex hOld h hStored
      exact (hCancelled _ _ _ (Multiset.mem_cons_of_mem hOld) id hBefore).imp_right (hStep id)
  · intro id hInvoked
    rcases invoked_of_step h hInvoked with hBefore | hCall
    · obtain ⟨call, hCall, hItem⟩ := hI.called id hBefore
      exact ⟨call, calls_of_step h hCall, hItem⟩
    · exact hCall

theorem Tracked.enter {event : Event} {quiet : Bool} (hI : Tracked s rest)
    (h : (machine platform configuration).enter event quiet s = some (s', frames)) :
    Tracked s' (↑frames + rest) := by
  obtain ⟨hEnqueued, hTaken, hCancelled, hCalled⟩ := hI
  rcases enter_cases h with ⟨_, rfl, rfl⟩ | ⟨_, _, _, _, rfl, rfl⟩ <;>
    constructor <;> simpa [Completed, completing]

theorem tracked_initial : Tracked initial.shared initial.frames := by
  constructor <;> simp [initial, Config.frames, Shared.invoked]

end Steps

/-! ## Every run -/

structure NothingAbandoned (s : Shared) (frames : Multiset Frame) : Prop where
  loops : LoopInvariant s frames
  established : Established s frames
  items : ItemsKnown s frames
  mutex : StoreMutex s frames
  peeked : PeekedFirst s frames
  refused : Refused s frames
  running : Running s frames
  queue : QueueServed s frames
  store : StoreServed s frames
  tracked : Tracked s frames

section Machine

variable (platform : Platform) (configuration : Configuration)

theorem nothingAbandoned_preserved :
    Preserved (machine platform configuration) (loopsWhileUp.inf queueServed) NothingAbandoned where
  exec _ _ _ _ _ _ _ _ h hGuard hExec := by
    have hStep := step_of_exec hExec
    have hTaking := taking_of_insertion h.established.loops h.loops.write
    exact {
      loops := (loopInvariant_preserved platform configuration).exec _ _ _ _ _ _ _ _ h.loops trivial hExec
      established := (established_preserved platform configuration).exec _ _ _ _ _ _ _ _
        h.established hGuard.1 hExec
      items := h.items.step hStep
      mutex := h.mutex.step hStep
      peeked := h.peeked.step h.loops.write hTaking hStep
      refused := h.refused.step h.loops h.established hGuard.2 hStep
      running := h.running.step h.refused h.loops h.established hStep
      queue := h.queue.step h.running h.refused h.loops h.established hGuard.2 hStep
      store := h.store.step hStep
      tracked := h.tracked.step h.mutex h.peeked hStep }
  enter event quiet s rest s' frames h hQuiet hGuard hEnter := by
    have hLoops := (loopInvariant_preserved platform configuration).enter _ _ _ _ _ _ h.loops hQuiet
      trivial hEnter
    have hEstablished := (established_preserved platform configuration).enter _ _ _ _ _ _
      h.established hQuiet hGuard.1 hEnter
    have hItems := (itemsKnown_preserved platform configuration).enter _ _ _ _ _ _ h.items hQuiet
      trivial hEnter
    have hMutex := (storeMutex_preserved platform configuration).enter _ _ _ _ _ _ h.mutex hQuiet
      trivial hEnter
    have hTracked := h.tracked.enter hEnter
    obtain ⟨-, -, -, -, hPeeked, hRefused, hRunning, hQueue, hStore, -⟩ := h
    rcases enter_cases hEnter with ⟨_, rfl, rfl⟩ | ⟨_, _, hRead, hWrite, rfl, rfl⟩
    · refine ⟨hLoops, hEstablished, hItems, hMutex, by simpa [PeekedFirst, peeked] using hPeeked,
        hRefused.of_same rfl rfl rfl ?_ (fun w => ?_),
        hRunning.of_same rfl rfl id (fun w => ?_) (fun r => ?_),
        hQueue.of_same rfl rfl rfl ?_ (fun w => ?_) ?_, hStore.of_same id rfl ?_ ?_, hTracked⟩
      all_goals simp [attempt, restartPending, writeChain, readChain, writeWork,
        beforeStartWriting, beforeListening, clearing]
    · refine ⟨hLoops, hEstablished, hItems, hMutex, by simpa [PeekedFirst, peeked] using hPeeked,
        .of_attempt ?_, ⟨by simp [hWrite], by simp [hRead]⟩, .of_attempt ?_,
        fun _ => .inr (.inr ?_), hTracked⟩
      all_goals
        simp only [load_add, load_coe, List.map_cons, List.map_nil, List.sum_cons, List.sum_nil,
          attempt, clearing]
        omega

theorem nothingAbandoned_initial : NothingAbandoned initial.shared initial.frames := by
  refine ⟨loopInvariant_initial, established_initial, itemsKnown_initial, storeMutex_initial,
    ?_, ?_, ?_, ?_, ?_, tracked_initial⟩
  · simp [PeekedFirst, initial, Config.frames, peeked]
  · exact fun hRefused => by cases hRefused
  · constructor <;> simp [initial]
  · exact .of_empty rfl
  · exact fun hStored => absurd rfl hStored

variable {platform configuration}

/-- **No request is abandoned.** Once nothing runs any more and no operation is
pending, every request that has been queued has had its callback called. -/
theorem nothing_abandoned {c : Config Shared Frame}
    (h : Reaches (machine platform configuration) (loopsWhileUp.inf queueServed) initial c)
    (hDone : ∀ frame ∈ c.frames, frame = .userCode) :
    c.shared.sendQueue = [] ∧ c.shared.messageStore = [] ∧
      ∀ id ∈ c.shared.history.enqueued, ∃ call ∈ c.shared.calls, call.item = id := by
  have hI := h.invariant (nothingAbandoned_preserved platform configuration) nothingAbandoned_initial
  have hNone : ∀ weight : Frame → Nat, weight .userCode = 0 → load weight c.frames = 0 :=
    fun weight hWeight => (load_eq_zero_iff weight).mpr fun frame hFrame => by
      rw [hDone frame hFrame, hWeight]
  have hQueue : c.shared.sendQueue = [] := by
    by_contra hQueued
    rcases hI.queue.queued hQueued with hPos | ⟨w, -, hPos⟩ | hPos
    all_goals
      rw [hNone _ rfl] at hPos
      exact absurd hPos (Nat.lt_irrefl 0)
  have hStore : c.shared.messageStore = [] := by
    by_contra hStored
    rcases hI.store hStored with hLoop | hPos | hPos
    · obtain ⟨r, hr⟩ := Option.ne_none_iff_exists'.mp hLoop
      have hUp := hI.established.loops.read hLoop
      rcases hI.running.read r hr with hChain | hFailure
      · rw [hNone _ rfl] at hChain
        cases hChain
      · obtain ⟨w, -, hPos⟩ := hI.refused hFailure hUp
        rw [hNone _ rfl] at hPos
        exact absurd hPos (Nat.lt_irrefl 0)
    all_goals
      rw [hNone _ rfl] at hPos
      exact absurd hPos (Nat.lt_irrefl 0)
  refine ⟨hQueue, hStore, fun id hid => ?_⟩
  rcases hI.tracked.enqueued id hid with hQueued | hStored | hCall | hPos
  · rw [hQueue] at hQueued
    cases hQueued
  · rw [hStore] at hStored
    cases hStored
  · exact hCall
  · rw [hNone _ rfl] at hPos
    exact absurd hPos (Nat.lt_irrefl 0)

/-- A read fails while a request is in flight, and then the host cannot be resolved again. -/
theorem nothing_abandoned_read_error :
    ∃ c : Config Shared Frame, c.shared.history.enqueued = [1] ∧ c.frames = 0 ∧
      c.shared.sendQueue = [] ∧ c.shared.messageStore = [] ∧
        ∀ id ∈ c.shared.history.enqueued, ∃ call ∈ c.shared.calls, call.item = id := by
  have hRun : ((machine shortPlatform {}).steps (loopsWhileUp.inf queueServed) initial
      (establish ++ sendFirst ++ fail 6 ++ proceed 6 14 ++ fail 9 ++ proceed 9 1 ++ fail 8 ++
        proceed 8 5 ++ proceed 5 1 ++ proceed 7 1)).any
      (fun c => c.shared.history.enqueued = [1] ∧ c.quiet = true) = true := by
    decide +kernel
  obtain ⟨c, hReaches, hTest⟩ := exists_reaches_of_steps hRun
  obtain ⟨hEnqueued, hQuiet⟩ := of_decide_eq_true hTest
  have hNone := c.quiet_iff.mp hQuiet
  exact ⟨c, hEnqueued, hNone, nothing_abandoned hReaches (by simp [hNone])⟩

/-- A request is sent before the host turns out to be unknown. Nothing is pending
any more, and the request stays in the queue. -/
theorem request_abandoned :
    ∃ c, Reaches (machine shortPlatform {}) .all initial c ∧ c.frames = 0 ∧
      c.shared.history.enqueued = [1] ∧ c.shared.sendQueue = [1] ∧ c.shared.calls = [] := by
  have hRun : ((machine shortPlatform {}).steps .all initial
      (proceed 0 1 ++ [.enter .thread] ++ send 2 versionRequest ++ proceed 2 4 ++ fail 1 ++
        proceed 1 1)).any
      (fun c => c.quiet = true ∧ c.shared.history.enqueued = [1] ∧ c.shared.sendQueue = [1] ∧
        c.shared.calls = []) = true := by
    decide +kernel
  obtain ⟨c, hReaches, hTest⟩ := exists_reaches_of_steps hRun
  obtain ⟨hQuiet, hAbandoned⟩ := of_decide_eq_true hTest
  exact ⟨c, hReaches, c.quiet_iff.mp hQuiet, hAbandoned⟩

end Machine

end Fuerte.Vst.Connection

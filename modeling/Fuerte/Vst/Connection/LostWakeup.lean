import Fuerte.Vst.Connection.Loops

/-! # No request is stranded

As long as nothing fails, a queued request always has a write loop at work or a
thread on its way to start one, and a stored request a read loop at work or a
write loop on its way to start one.
-/

namespace Fuerte.Vst.Connection

set_option autoImplicit false

open Interleaving

/-- No I/O error, no deadline expires, and the connection is not destroyed. -/
def undisturbed : Guard Shared Frame Choice Event where
  run _ _ choice _ _ := choice ≠ .failed ∧ choice ≠ .noEndpoints ∧ choice ≠ .expired
  enter event _ _ := event ≠ .destroy

instance (thread : Nat) (frame : Frame) (choice : Choice) (s : Shared) (frames : Multiset Frame) :
    Decidable (undisturbed.run thread frame choice s frames) :=
  inferInstanceAs (Decidable (_ ∧ _ ∧ _))

instance (event : Event) (s : Shared) (frames : Multiset Frame) :
    Decidable (undisturbed.enter event s frames) :=
  inferInstanceAs (Decidable (_ ≠ _))

/-- The frames of write loop `w`, except the one that gives up because it found
the queue empty. -/
def writeWork (w : LoopID) : Frame → Nat
  | .stopLoop _ => 0
  | frame => writeChain w frame

def stopping (w : LoopID) : Frame → Nat
  | .stopLoop v => if v = w then 1 else 0
  | _ => 0

/-- Between adding to the queue, or setting `_connected`, and `startWriting`. -/
def beforeStartWriting : Frame → Nat
  | .testConnected | .startWriting => 1
  | _ => 0

/-- Between the insertion into the store and `startReading`. -/
def beforeListening : Frame → Nat
  | .removeFromQueue _ _ | .listen _ _ => 1
  | _ => 0

/-- The frames that only a failure leads to. -/
def disturbed : Frame → Nat
  | .handshakeFailed | .initializationFailed | .onFailure _ | .restartConnection _
  | .stopWriting _ _ | .stopReading _ _ | .shutdownSocket _ _ | .cancelAll _ _ | .cancelItems _ _ _
  | .reconnect | .readFailed _ | .restartReading _ _ _ | .writeFailed _ _ | .removeFailed _ _
  | .restartWriting _ _ _ => 1
  | .moveRequest _ error _ | .invoke _ error _ _ | .authenticationCallback error =>
    if error = .noError then 0 else 1
  | _ => 0

theorem stopping_le_inSection (w : LoopID) (frame : Frame) : stopping w frame ≤ inSection frame := by
  cases frame <;> simp only [stopping, inSection, Nat.le_refl] <;> first | omega | (split <;> omega)

theorem writeWork_add_stopping (w : LoopID) (frames : Multiset Frame) :
    load (writeWork w) frames + load (stopping w) frames = load (writeChain w) frames := by
  induction frames using Multiset.induction with
  | empty => rfl
  | cons frame frames ih =>
    have hFrame : writeWork w frame + stopping w frame = writeChain w frame := by
      cases frame <;> simp [writeWork, stopping, writeChain]
    simp only [load_cons]
    omega

/-- Nothing has failed. -/
structure Calm (s : Shared) (frames : Multiset Frame) : Prop where
  noFailure : load disturbed frames = 0
  permanentFailure : s.permanentFailure = false
  attempts : load attempt frames ≤ 1
  connected : s.connected = true → load attempt frames = 0
  writing : ∀ w, s.writeLoop = some w → load (writeChain w) frames = 1
  reading : ∀ r, s.readLoop = some r → load (readChain r) frames = 1

section Steps

variable {platform : Platform} {configuration : Configuration} {thread : Nat} {frame : Frame}
  {choice : Choice} {s s' : Shared} {rest before after : Multiset Frame} {frames : List Frame}
  {spawned : List (List Frame)}

theorem Calm.of_same (h : Calm s before) (hFailure : s'.permanentFailure = s.permanentFailure)
    (hConnected : s'.connected = s.connected) (hWrite : s'.writeLoop = s.writeLoop)
    (hRead : s'.readLoop = s.readLoop)
    (hDisturbed : load disturbed after = load disturbed before)
    (hAttempt : load attempt after = load attempt before)
    (hWriteChain : ∀ w, load (writeChain w) after = load (writeChain w) before)
    (hReadChain : ∀ r, load (readChain r) after = load (readChain r) before) : Calm s' after := by
  constructor <;> simp only [hFailure, hConnected, hWrite, hRead, hDisturbed, hAttempt,
    hWriteChain, hReadChain]
  · exact h.noFailure
  · exact h.permanentFailure
  · exact h.attempts
  · exact h.connected
  · exact h.writing
  · exact h.reading

theorem Calm.step (hI : Calm s (frame ::ₘ rest)) (hLoops : LoopInvariant s (frame ::ₘ rest))
    (hGuard : undisturbed.run thread frame choice s (frame ::ₘ rest))
    (h : Step platform configuration thread frame choice s s' frames spawned) :
    Calm s' (↑(frames ++ spawned.flatten) + rest) := by
  obtain ⟨hFailed, hEndpoints, hExpired⟩ := hGuard
  cases h
  all_goals try (
    refine hI.of_same rfl rfl rfl rfl ?_ ?_ (fun w => ?_) (fun r => ?_) <;>
      simp only [List.flatten_nil, List.flatten_cons, List.append_nil, List.nil_append,
        List.cons_append, load_add, load_coe, load_cons, List.map_cons, List.map_nil,
        List.sum_cons, List.sum_nil, disturbed, attempt, writeChain, readChain, Nat.zero_add,
        Nat.add_zero]; done)
  all_goals
    obtain ⟨hDisturbed, hFailure, hAttempt, hConnected, hWriting, hReading⟩ := hI
    obtain ⟨⟨hFresh, -, -, -, -⟩, ⟨hReadFresh, -, -⟩, hStarts, hReadStarts⟩ := hLoops
    simp only [load_cons, disturbed, attempt, writeChain, readChain, startingWrite, startingRead, Nat.zero_add]
      at hDisturbed hAttempt hConnected hWriting hReading hFresh hReadFresh hStarts hReadStarts
  all_goals try exact absurd rfl hFailed
  all_goals try exact absurd rfl hExpired
  -- the frames that only a failure leads to
  all_goals try (exfalso; omega)
  case authenticationFailed error hError =>
    rw [if_neg hError] at hDisturbed
    omega
  case notResolved hChoice =>
    rcases hChoice with hChoice | hChoice
    · exact absurd hChoice hFailed
    · exact absurd hChoice hEndpoints
  all_goals
    refine ⟨?_, hFailure, ?_, fun hc => ?_, fun v hv => ?_, fun v hv => ?_⟩ <;>
      simp only [List.flatten_nil, List.append_nil, load_add, load_coe, List.map_cons, List.map_nil,
        List.sum_cons, List.sum_nil, disturbed, attempt, writeChain, readChain, Nat.zero_add,
        Nat.add_zero]
  all_goals try omega
  all_goals try first | exact hConnected hc | exact hWriting v hv | exact hReading v hv
  case createResponse.refine_1 => simpa using hDisturbed
  -- a new loop has the one frame that starts it
  case startReading.refine_5 | listen.refine_5 =>
    cases hv
    rw [if_pos rfl, hReadFresh _ (Nat.le_refl _)]
  case startWriting.refine_4 =>
    cases hv
    rw [if_pos rfl, hFresh _ (Nat.le_refl _)]
  -- a loop is started only once
  case readLoopStarted r hStarted =>
    have := hReadStarts r (by rw [if_pos rfl]; omega)
    rw [hStarted] at this
    cases this
  case writeLoopStarted w hStarted =>
    have := hStarts w (by rw [if_pos rfl]; omega)
    rw [hStarted] at this
    cases this
  -- the loop that ends is not the current one, or is no longer
  case readLoopEnds r _ hEnd =>
    have hOther : s.readLoop ≠ some r := hEnd.resolve_right (by simp [hFailure])
    simpa [show r ≠ v from fun h => hOther (h ▸ hv)] using hReading v hv
  case writeLoopEnds w _ hEnd =>
    have hOther : s.writeLoop ≠ some w := hEnd.resolve_right (by simp [hFailure])
    simpa [show w ≠ v from fun h => hOther (h ▸ hv)] using hWriting v hv
  case nothingToRead | stopLoop => cases hv

/-- Queued requests of a connected connection have a write loop at work, or a
thread on its way to start one. -/
def WritesQueued (s : Shared) (frames : Multiset Frame) : Prop :=
  s.connected = true → s.sendQueue ≠ [] →
    (∃ w, s.writeLoop = some w ∧ 0 < load (writeWork w) frames) ∨
      0 < load beforeStartWriting frames

/-- While there are stored requests, a read loop is current or about to be
looked for by the write loop. -/
def ReadsStored (s : Shared) (frames : Multiset Frame) : Prop :=
  s.messageStore ≠ [] → s.readLoop ≠ none ∨ 0 < load beforeListening frames

theorem WritesQueued.of_same (h : WritesQueued s before) (hConnected : s'.connected = s.connected)
    (hQueue : s'.sendQueue = s.sendQueue) (hLoop : s'.writeLoop = s.writeLoop)
    (hWork : ∀ w, load (writeWork w) before ≤ load (writeWork w) after)
    (hStart : load beforeStartWriting before ≤ load beforeStartWriting after) :
    WritesQueued s' after := by
  intro hc hq
  rw [hConnected] at hc
  rw [hQueue] at hq
  rw [hLoop]
  rcases h hc hq with ⟨w, hw, hPos⟩ | hPos
  · exact .inl ⟨w, hw, hPos.trans_le (hWork w)⟩
  · exact .inr (hPos.trans_le hStart)

theorem ReadsStored.of_same (h : ReadsStored s before) (hStore : s'.messageStore = s.messageStore)
    (hLoop : s'.readLoop = s.readLoop)
    (hListen : load beforeListening before ≤ load beforeListening after) : ReadsStored s' after := by
  intro hNonempty
  rw [hStore] at hNonempty
  rw [hLoop]
  exact (h hNonempty).imp_right fun hPos => hPos.trans_le hListen

theorem WritesQueued.step (hI : WritesQueued s (frame ::ₘ rest)) (hCalm : Calm s (frame ::ₘ rest))
    (hLoops : LoopInvariant s (frame ::ₘ rest))
    (hGuard : undisturbed.run thread frame choice s (frame ::ₘ rest))
    (h : Step platform configuration thread frame choice s s' frames spawned) :
    WritesQueued s' (↑(frames ++ spawned.flatten) + rest) := by
  obtain ⟨hFailed, hEndpoints, hExpired⟩ := hGuard
  have hWorking := fun w => writeWork_add_stopping w rest
  have hStopping := fun w => load_le_load (stopping_le_inSection w) rest
  cases h
  all_goals try (
    refine hI.of_same rfl rfl rfl (fun w => ?_) ?_ <;>
      simp [writeWork, writeChain, beforeStartWriting]; done)
  all_goals
    obtain ⟨hDisturbed, hFailure, -, hConnected, hWriting, -⟩ := hCalm
    obtain ⟨⟨hFresh, -, -, hSection, hSectionOf⟩, -, hStarts, -⟩ := hLoops
    simp only [load_cons, disturbed, attempt, writeChain, inSection, inSectionOf, startingWrite,
      Nat.zero_add] at hDisturbed hConnected hWriting hFresh hSection hSectionOf hStarts
  case writeLoopStarted w hStarted =>
    have := hStarts w (by rw [if_pos rfl]; omega)
    rw [hStarted] at this
    cases this
  all_goals try (exfalso; simp_all; done)
  -- a thread that has added to the queue will look whether it has to start a loop
  case addToQueue | setConnected =>
    refine fun _ _ => .inr ?_
    exact load_next_pos _ List.mem_cons_self (by simp [beforeStartWriting]) _
  case testNotConnected hNot => exact fun hc => absurd hc (by simp [hNot])
  -- the connection is not connected while it is being set up
  case insertIntoQueue => exact fun hc => absurd (hConnected hc) (by omega)
  -- nobody can be about to stop the current loop while the mutex is free
  case alreadyWriting w hMutex hLoop =>
    refine fun _ _ => .inl ⟨w, hLoop, ?_⟩
    have hNone : load inSection rest = 0 := by simpa [hMutex] using hSection
    have hChain := hWriting w hLoop
    have hBoth := hWorking w
    have hStop := hStopping w
    simp only [List.flatten_nil, List.append_nil, Multiset.coe_nil, zero_add]
    omega
  case startWriting =>
    refine fun _ _ => .inl ⟨s.writeLoopCount, rfl, ?_⟩
    exact load_next_pos _ List.mem_cons_self (by simp [writeWork, writeChain]) _
  -- a loop that ends without having seen the queue empty is not the current one
  case writeLoopEnds w hMutex hEnd =>
    have hOther : s.writeLoop ≠ some w := hEnd.resolve_right (by simp [hFailure])
    intro hc hq
    obtain ⟨v, hv, hPos⟩ | hPos := hI hc hq
    · refine .inl ⟨v, hv, ?_⟩
      have hNe : w ≠ v := fun h => hOther (h ▸ hv)
      simpa [writeWork, writeChain, hNe] using hPos
    · exact .inr (by simpa [beforeStartWriting] using hPos)
  case queueEmpty hQueue => exact fun _ hq => absurd hQueue hq
  -- the current loop stops: whoever has added to the queue since then starts a new one
  case stopLoop w =>
    intro hc hq
    obtain ⟨v, hv, hPos⟩ | hPos := hI hc hq
    · have hCurrent := hSectionOf w (by rw [if_pos rfl]; omega)
      obtain rfl : w = v := Option.some.inj (hCurrent.symm.trans hv)
      have hChain := hWriting w hv
      have hBoth := hWorking w
      simp only [load_cons, writeWork, if_true] at hPos hChain
      omega
    · exact .inr (by simpa [beforeStartWriting] using hPos)
  case removeFromQueue w id first queue hQueue =>
    intro hc _
    obtain ⟨v, hv, hPos⟩ | hPos := hI hc (by simp [hQueue])
    · exact .inl ⟨v, hv, by simpa [writeWork, writeChain] using hPos⟩
    · exact .inr (by simpa [beforeStartWriting] using hPos)

theorem ReadsStored.step (hI : ReadsStored s (frame ::ₘ rest)) (hCalm : Calm s (frame ::ₘ rest))
    (h : Step platform configuration thread frame choice s s' frames spawned) :
    ReadsStored s' (↑(frames ++ spawned.flatten) + rest) := by
  have hDisturbed := hCalm.noFailure
  simp only [load_cons] at hDisturbed
  cases h
  all_goals try (refine hI.of_same rfl rfl ?_ <;> simp [beforeListening]; done)
  all_goals try (
    simp only [disturbed] at hDisturbed
    omega)
  case addToStore =>
    refine fun _ => .inr ?_
    exact load_next_pos _ List.mem_cons_self (by simp [beforeListening]) _
  case startReading | listen => exact fun _ => .inl (by simp)
  case alreadyListening hLoop => exact fun _ => .inl (by simp [hLoop])
  case nothingToRead hStore _ => exact fun hs => absurd hStore hs
  case removeCompleted id _ _ =>
    intro hs
    have hBefore : s.messageStore ≠ [] := fun h => hs (by rw [h]; rfl)
    simpa [beforeListening] using hI hBefore

end Steps

/-! ## Every run -/

structure AtWork (s : Shared) (frames : Multiset Frame) : Prop where
  calm : Calm s frames
  writes : WritesQueued s frames
  reads : ReadsStored s frames

section Machine

variable {platform : Platform} {configuration : Configuration}

theorem atWork_preserved : Preserved (machine platform configuration) undisturbed
    fun s frames => LoopInvariant s frames ∧ AtWork s frames := by
  refine ((loopInvariant_preserved platform configuration).under undisturbed).and ?_ ?_
  · intro thread frame choice s rest s' frames spawned hLoops hI hGuard hExec
    have hStep := step_of_exec hExec
    exact ⟨hI.calm.step hLoops hGuard hStep, hI.writes.step hI.calm hLoops hGuard hStep,
      hI.reads.step hI.calm hStep⟩
  · intro event quiet s rest s' frames _ hI _ hGuard hEnter
    obtain ⟨_, rfl, rfl⟩ | ⟨hDestroy, -⟩ := enter_cases hEnter
    · refine ⟨hI.calm.of_same rfl rfl rfl rfl ?_ ?_ (fun w => ?_) (fun r => ?_),
        hI.writes.of_same rfl rfl rfl (fun w => ?_) ?_, hI.reads.of_same rfl rfl ?_⟩ <;>
        simp [disturbed, attempt, writeChain, readChain, writeWork, beforeStartWriting,
          beforeListening]
    · exact absurd hDestroy hGuard

theorem atWork_initial : AtWork initial.shared initial.frames := by
  refine ⟨?_, fun h => ?_, fun h => ?_⟩
  · constructor <;> simp [initial, Config.frames, disturbed, attempt]
  · cases h
  · exact absurd rfl h

/-- **No lost wake-up.** In every state that is reached without a failure, a
queued request of a connected connection has a current write loop that is at
work, or a thread that has still to look for one; and while requests are stored
there is a current read loop at work, or the write loop has still to look for one. -/
theorem no_stranded_request {c : Config Shared Frame}
    (h : Reaches (machine platform configuration) undisturbed initial c) :
    (c.shared.connected = true → c.shared.sendQueue ≠ [] →
      (∃ w, c.shared.writeLoop = some w ∧ ∃ frame ∈ c.frames, 0 < writeWork w frame) ∨
        ∃ frame ∈ c.frames, frame = .testConnected ∨ frame = .startWriting) ∧
    (c.shared.messageStore ≠ [] →
      (∃ r, c.shared.readLoop = some r ∧ ∃ frame ∈ c.frames, 0 < readChain r frame) ∨
        ∃ w id, .removeFromQueue w id ∈ c.frames ∨ .listen w id ∈ c.frames) := by
  obtain ⟨-, hCalm, hWrites, hReads⟩ :=
    h.invariant atWork_preserved ⟨loopInvariant_initial, atWork_initial⟩
  constructor
  · intro hConnected hQueue
    obtain ⟨w, hw, hWork⟩ | hStart := hWrites hConnected hQueue
    · exact .inl ⟨w, hw, exists_of_load_pos _ hWork⟩
    · obtain ⟨frame, hFrame, hPos⟩ := exists_of_load_pos _ hStart
      refine .inr ⟨frame, hFrame, ?_⟩
      cases frame <;> simp_all [beforeStartWriting]
  · intro hStore
    obtain hLoop | hListen := hReads hStore
    · obtain ⟨r, hr⟩ := Option.ne_none_iff_exists'.mp hLoop
      exact .inl ⟨r, hr, exists_of_load_pos _ (by rw [hCalm.reading r hr]; exact Nat.one_pos)⟩
    · obtain ⟨frame, hFrame, hPos⟩ := exists_of_load_pos _ hListen
      right
      cases frame with
      | removeFromQueue w id => exact ⟨w, id, .inl hFrame⟩
      | listen w id => exact ⟨w, id, .inr hFrame⟩
      | _ => exact absurd hPos (Nat.lt_irrefl 0)

/-- Two threads send a request each; the write loop has stored the first one and
not yet looked for a read loop. -/
theorem no_stranded_request_two_senders :
    ∃ c, Reaches (machine shortPlatform {}) undisturbed initial c ∧
      c.shared.sendQueue = [2] ∧ c.shared.messageStore = [1] ∧
      ((∃ w, c.shared.writeLoop = some w ∧ ∃ frame ∈ c.frames, 0 < writeWork w frame) ∨
        ∃ frame ∈ c.frames, frame = .testConnected ∨ frame = .startWriting) ∧
      ((∃ r, c.shared.readLoop = some r ∧ ∃ frame ∈ c.frames, 0 < readChain r frame) ∨
        ∃ w id, .removeFromQueue w id ∈ c.frames ∨ .listen w id ∈ c.frames) := by
  have hRun : ((machine shortPlatform {}).steps undisturbed initial
      (establish ++ [.enter .thread, .enter .thread] ++ send 4 versionRequest ++
        send 5 versionRequest ++ proceed 4 2 ++ proceed 5 2 ++ proceed 4 7)).any
      (fun c => c.shared.sendQueue = [2] ∧ c.shared.messageStore = [1] ∧
        c.shared.connected = true) = true := by
    decide +kernel
  obtain ⟨c, hReaches, hTest⟩ := exists_reaches_of_steps hRun
  obtain ⟨hQueue, hStore, hConnected⟩ := of_decide_eq_true hTest
  obtain ⟨hWrites, hReads⟩ := no_stranded_request hReaches
  exact ⟨c, hReaches, hQueue, hStore, hWrites hConnected (by simp [hQueue]),
    hReads (by simp [hStore])⟩

end Machine

end Fuerte.Vst.Connection

import Fuerte.Library.Progress

/-! # The timer of curl

Curl asks for one timeout at a time and wants to be called when it is over. The driver
waits with a timer of the event loop, or posts the call where no time is left. When the
last transfer is done it cancels the timer, whatever curl has asked for meanwhile.
-/

namespace Fuerte.Http.CurlTimer

set_option autoImplicit false

open Interleaving

/-- The number of a call of `multi_timer_cb`. -/
abbrev TimeoutID := Nat

/-- Why curl runs: `curl_multi_add_handle`, `curl_multi_remove_handle`, or an action. -/
inductive Caller where
  | addRequest
  | removeHandle
  | timerCb
  | eventCb
  deriving DecidableEq, Repr

structure Shared where
  /-- The wait that `_timer` has pending. -/
  timer : Option TimeoutID := none
  timeoutCount : Nat := 0
  multiMutex : Bool := false
  /-- What curl has asked for last, until it is called for a timeout. -/
  wanted : Option TimeoutID := none
  /-- What curl wanted whenever `event_cb` has cancelled the timer. -/
  killed : List (Option TimeoutID) := []

inductive Frame where
  | addRequest
  /-- A pending `async_wait`. -/
  | awaitTimer (timeout : TimeoutID)
  /-- `timer_cb` without an error, after a wait or posted. -/
  | timerCb (timeout : TimeoutID)
  | eventCb
  /-- Curl runs. -/
  | multi (caller : Caller)
  | checkMultiInfo (caller : Caller) (stillRunning : Nat)
  | killTimer
  deriving DecidableEq, Repr

inductive Choice where
  | proceed
  | expired
  /-- Curl calls back. -/
  | multiTimerCb (timeoutMs : Int)
  | returns (stillRunning : Nat)
  /-- There is a message of a transfer that is done. -/
  | done
  deriving DecidableEq, Repr

inductive Event where
  | addRequest
  /-- A wait for a socket has ended. -/
  | socket
  deriving DecidableEq, Repr

abbrev Outcome := Shared × List Frame × List (List Frame)

/-- Any timer that is running is cancelled first. -/
def multiTimerCb (timeoutMs : Int) (s : Shared) : Shared × List (List Frame) :=
  let id := s.timeoutCount
  if 0 < timeoutMs then
    ({ s with timer := some id, timeoutCount := id + 1, wanted := some id }, [[.awaitTimer id]])
  else if timeoutMs = 0 then
    ({ s with timer := none, timeoutCount := id + 1, wanted := some id }, [[.timerCb id]])
  else ({ s with timer := none, timeoutCount := id + 1, wanted := none }, [])

/-- Curl runs under the mutex. -/
def runMulti (caller : Caller) (after : List Frame) (s : Shared) : Option Outcome :=
  if s.multiMutex then none else some ({ s with multiMutex := true }, .multi caller :: after, [])

/-- A wait that has been cancelled ends without effect. -/
def awaitTimer (timeout : TimeoutID) (choice : Choice) (s : Shared) : Option Outcome :=
  match choice with
  | .expired =>
    if s.timer = some timeout then some ({ s with timer := none }, [.timerCb timeout], []) else none
  | .proceed => if s.timer = some timeout then none else some (s, [], [])
  | _ => none

/-- `curl_multi_socket_action` with `CURL_SOCKET_TIMEOUT`. -/
def timerCb (s : Shared) : Option Outcome :=
  if s.multiMutex then none
  else some ({ s with multiMutex := true, wanted := none }, [.multi .timerCb], [])

def multi (caller : Caller) (choice : Choice) (s : Shared) : Option Outcome :=
  match choice with
  | .multiTimerCb timeoutMs =>
    let (s, waits) := multiTimerCb timeoutMs s
    some (s, [.multi caller], waits)
  | .returns stillRunning =>
    some ({ s with multiMutex := false },
      match caller with
      | .addRequest | .removeHandle => []
      | caller => [.checkMultiInfo caller stillRunning], [])
  | _ => none

/-- One round of the loop in `check_multi_info`, and the end of `event_cb`. -/
def checkMultiInfo (caller : Caller) (stillRunning : Nat) (choice : Choice) (s : Shared) :
    Option Outcome :=
  match choice with
  | .done => runMulti .removeHandle [.checkMultiInfo caller stillRunning] s
  | .proceed =>
    if s.multiMutex then none
    else some (s, if caller = .eventCb ∧ stillRunning ≤ 0 then [.killTimer] else [], [])
  | _ => none

def killTimer (s : Shared) : Option Outcome :=
  some ({ s with timer := none, killed := s.killed ++ [s.wanted] }, [], [])

def perform (frame : Frame) (choice : Choice) (s : Shared) : Option Outcome :=
  match frame with
  | .addRequest => runMulti .addRequest [] s
  | .awaitTimer timeout => awaitTimer timeout choice s
  | .timerCb _ => timerCb s
  | .eventCb => runMulti .eventCb [] s
  | .multi caller => multi caller choice s
  | .checkMultiInfo caller stillRunning => checkMultiInfo caller stillRunning choice s
  | .killTimer => killTimer s

def enter (event : Event) (s : Shared) : Option (Shared × List Frame) :=
  match event with
  | .addRequest => some (s, [.addRequest])
  | .socket => some (s, [.eventCb])

def machine : Machine Shared Frame Choice Event where
  exec _ frame choice s := perform frame choice s
  enter event _ s := enter event s

def initial : Config Shared Frame where
  shared := {}
  threads := []

/-! ## What a step can do -/

inductive Step : Frame → Choice → Shared → Shared → List Frame → List (List Frame) → Prop where
  | addRequest {choice : Choice} {s : Shared} (hFree : s.multiMutex = false) :
    Step .addRequest choice s { s with multiMutex := true } [.multi .addRequest] []
  | expired {s : Shared} (id : TimeoutID) (h : s.timer = some id) :
    Step (.awaitTimer id) .expired s { s with timer := none } [.timerCb id] []
  | cancelled {s : Shared} (id : TimeoutID) (h : s.timer ≠ some id) :
    Step (.awaitTimer id) .proceed s s [] []
  | timerCb {choice : Choice} {s : Shared} (id : TimeoutID) (hFree : s.multiMutex = false) :
    Step (.timerCb id) choice s { s with multiMutex := true, wanted := none } [.multi .timerCb] []
  | eventCb {choice : Choice} {s : Shared} (hFree : s.multiMutex = false) :
    Step .eventCb choice s { s with multiMutex := true } [.multi .eventCb] []
  | asks {s : Shared} (caller : Caller) (timeoutMs : Int) :
    Step (.multi caller) (.multiTimerCb timeoutMs) s (multiTimerCb timeoutMs s).1 [.multi caller]
      (multiTimerCb timeoutMs s).2
  | handed {s : Shared} (caller : Caller) (stillRunning : Nat)
    (h : caller = .addRequest ∨ caller = .removeHandle) :
    Step (.multi caller) (.returns stillRunning) s { s with multiMutex := false } [] []
  | acted {s : Shared} (caller : Caller) (stillRunning : Nat)
    (h : caller = .timerCb ∨ caller = .eventCb) :
    Step (.multi caller) (.returns stillRunning) s { s with multiMutex := false }
      [.checkMultiInfo caller stillRunning] []
  | message {s : Shared} (caller : Caller) (stillRunning : Nat) (hFree : s.multiMutex = false) :
    Step (.checkMultiInfo caller stillRunning) .done s { s with multiMutex := true }
      [.multi .removeHandle, .checkMultiInfo caller stillRunning] []
  | noMessage {s : Shared} (caller : Caller) (stillRunning : Nat) (hFree : s.multiMutex = false)
    (h : caller ≠ .eventCb ∨ 0 < stillRunning) :
    Step (.checkMultiInfo caller stillRunning) .proceed s s [] []
  | lastTransfer {s : Shared} (hFree : s.multiMutex = false) :
    Step (.checkMultiInfo .eventCb 0) .proceed s s [.killTimer] []
  | killTimer {choice : Choice} {s : Shared} :
    Step .killTimer choice s { s with timer := none, killed := s.killed ++ [s.wanted] } [] []

theorem step_of_perform {frame : Frame} {choice : Choice} {s s' : Shared} {frames : List Frame}
    {spawned : List (List Frame)} (h : perform frame choice s = some (s', frames, spawned)) :
    Step frame choice s s' frames spawned := by
  cases frame with
  | addRequest =>
    simp only [perform, runMulti] at h
    split at h
    · cases h
    · rename_i hFree
      cases h
      exact .addRequest (Bool.eq_false_iff.mpr hFree)
  | awaitTimer id =>
    cases choice <;> simp only [perform, awaitTimer] at h
    case expired =>
      split at h
      · rename_i hTimer
        cases h
        exact .expired id hTimer
      · cases h
    case proceed =>
      split at h
      · cases h
      · rename_i hTimer
        cases h
        exact .cancelled id hTimer
    all_goals cases h
  | timerCb id =>
    simp only [perform, timerCb] at h
    split at h
    · cases h
    · rename_i hFree
      cases h
      exact .timerCb id (Bool.eq_false_iff.mpr hFree)
  | eventCb =>
    simp only [perform, runMulti] at h
    split at h
    · cases h
    · rename_i hFree
      cases h
      exact .eventCb (Bool.eq_false_iff.mpr hFree)
  | multi caller =>
    cases choice <;> simp only [perform, multi] at h
    case multiTimerCb timeoutMs =>
      cases h
      exact .asks caller timeoutMs
    case returns stillRunning =>
      cases caller <;> cases h
      · exact .handed _ _ (.inl rfl)
      · exact .handed _ _ (.inr rfl)
      · exact .acted _ _ (.inl rfl)
      · exact .acted _ _ (.inr rfl)
    all_goals cases h
  | checkMultiInfo caller stillRunning =>
    cases choice <;> simp only [perform, checkMultiInfo, runMulti] at h
    case done =>
      split at h
      · cases h
      · rename_i hFree
        cases h
        exact .message caller stillRunning (Bool.eq_false_iff.mpr hFree)
    case proceed =>
      split at h
      · cases h
      · rename_i hFree
        have hFree := Bool.eq_false_iff.mpr hFree
        split at h
        · rename_i hLast
          obtain ⟨rfl, hNone⟩ := hLast
          obtain rfl := Nat.le_zero.mp hNone
          cases h
          exact .lastTransfer hFree
        · rename_i hNot
          cases h
          refine .noMessage caller stillRunning hFree ?_
          rw [not_and_or, Nat.not_le] at hNot
          exact hNot
    all_goals cases h
  | killTimer =>
    cases h
    exact .killTimer

/-! ## Where a timeout is -/

/-- A thread waits for the timeout, or is about to call curl for it. -/
def Pending (s : Shared) (frames : Multiset Frame) (id : TimeoutID) : Prop :=
  (s.timer = some id ∧ .awaitTimer id ∈ frames) ∨ .timerCb id ∈ frames

def runningCurl : Frame → Nat
  | .multi _ => 1
  | _ => 0

/-- The timer belongs to a wait, and a timeout that curl still wants is pending, or was
wanted when the timer was cancelled. -/
structure TimerKept (s : Shared) (frames : Multiset Frame) : Prop where
  waiting : ∀ id, s.timer = some id → .awaitTimer id ∈ frames
  served : ∀ id, s.wanted = some id →
    s.timer = some id ∨ .timerCb id ∈ frames ∨ some id ∈ s.killed
  mutex : load runningCurl frames = if s.multiMutex then 1 else 0

section Steps

variable {frame : Frame} {choice : Choice} {s s' : Shared} {rest : Multiset Frame}
  {frames : List Frame} {spawned : List (List Frame)}

theorem TimerKept.of_same (hI : TimerKept s (frame ::ₘ rest)) (hTimer : s'.timer = s.timer)
    (hWanted : s'.wanted = s.wanted) (hKilled : s'.killed = s.killed)
    (hAwait : ∀ id, .awaitTimer id ≠ frame) (hCall : ∀ id, .timerCb id ≠ frame)
    (hMutex : load runningCurl (↑frames + rest) = if s'.multiMutex then 1 else 0) :
    TimerKept s' (↑frames + rest) := by
  refine ⟨fun id hid => ?_, fun id hid => ?_, hMutex⟩
  · rw [hTimer] at hid
    have hMem := (Multiset.mem_cons.mp (hI.waiting id hid)).resolve_left (hAwait id)
    exact Multiset.mem_add.mpr (.inr hMem)
  · rw [hWanted] at hid
    rw [hTimer, hKilled]
    refine (hI.served id hid).imp_right fun hLater => hLater.imp_left fun hMem => ?_
    exact Multiset.mem_add.mpr (.inr ((Multiset.mem_cons.mp hMem).resolve_left (hCall id)))

/-- The new timeout is waited for, posted, or not wanted at all. -/
theorem TimerKept.asks {caller : Caller} (hI : TimerKept s (.multi caller ::ₘ rest)) (timeoutMs : Int) :
    TimerKept (multiTimerCb timeoutMs s).1
      (↑([Frame.multi caller] ++ (multiTimerCb timeoutMs s).2.flatten) + rest) := by
  have hMutex := hI.mutex
  rw [load_cons] at hMutex
  rw [multiTimerCb]
  split
  · refine ⟨?_, ?_, by simpa [runningCurl] using hMutex⟩
    · rintro id ⟨⟩
      simp
    · rintro id ⟨⟩
      exact .inl rfl
  · split
    · refine ⟨by simp, ?_, by simpa [runningCurl] using hMutex⟩
      rintro id ⟨⟩
      exact .inr (.inl (by simp))
    · exact ⟨by simp, by simp, by simpa [runningCurl] using hMutex⟩

theorem TimerKept.step (hI : TimerKept s (frame ::ₘ rest))
    (h : Step frame choice s s' frames spawned) : TimerKept s' (↑(frames ++ spawned.flatten) + rest) := by
  have hMutex := hI.mutex
  rw [load_cons] at hMutex
  cases h
  case asks caller timeoutMs => exact hI.asks timeoutMs
  case expired id hTimer =>
    refine ⟨by simp, fun other hOther => ?_, by simpa [runningCurl] using hMutex⟩
    right
    rcases hI.served other hOther with hSame | hMem | hKilled
    · obtain rfl : id = other := Option.some.inj (hTimer.symm.trans hSame)
      exact .inl (by simp)
    · have hMem := (Multiset.mem_cons.mp hMem).resolve_left (by simp)
      exact .inl (Multiset.mem_add.mpr (.inr hMem))
    · exact .inr hKilled
  case cancelled id hTimer =>
    refine ⟨fun other hOther => ?_, fun other hOther => ?_, by simpa [runningCurl] using hMutex⟩
    · have hOld : Frame.awaitTimer other ≠ .awaitTimer id := by
        rintro ⟨⟩
        exact hTimer hOther
      simpa using (Multiset.mem_cons.mp (hI.waiting other hOther)).resolve_left hOld
    · refine (hI.served other hOther).imp_right fun hLater => hLater.imp_left fun hMem => ?_
      simpa using hMem
  case timerCb id hFree =>
    rw [hFree] at hMutex
    refine ⟨fun other hOther => ?_, by simp, by simpa [runningCurl] using hMutex⟩
    simpa using hI.waiting other hOther
  case killTimer =>
    refine ⟨by simp, fun other hOther => ?_, by simpa [runningCurl] using hMutex⟩
    exact .inr (.inr (List.mem_append_right _ (List.mem_singleton.mpr hOther.symm)))
  case handed hCaller | acted hCaller =>
    have hZero : load runningCurl rest = 0 := by
      simp only [runningCurl] at hMutex
      split at hMutex <;> omega
    exact hI.of_same rfl rfl rfl (by simp) (by simp) (by simpa [runningCurl] using hZero)
  case addRequest hFree | eventCb hFree | message hFree =>
    rw [hFree] at hMutex
    exact hI.of_same rfl rfl rfl (by simp) (by simp) (by simpa [runningCurl] using hMutex)
  case noMessage | lastTransfer =>
    exact hI.of_same rfl rfl rfl (by simp) (by simp) (by simpa [runningCurl] using hMutex)

/-! ## Coming to an end -/

/-- Time passes, and curl returns without asking for anything or reporting a transfer. -/
def settling : Guard Shared Frame Choice Event where
  run _ _ choice _ _ := ∀ timeoutMs, choice ≠ .multiTimerCb timeoutMs ∧ choice ≠ .done
  enter _ _ _ := True

/-- What a frame has still to do. -/
def toDo : Frame → Nat
  | .awaitTimer _ => 5
  | .addRequest | .timerCb _ | .eventCb => 4
  | .multi _ => 3
  | .checkMultiInfo _ _ => 2
  | .killTimer => 1

theorem toDo_lower (hChoice : ∀ timeoutMs, choice ≠ .multiTimerCb timeoutMs ∧ choice ≠ .done)
    (h : Step frame choice s s' frames spawned) :
    load toDo (↑(frames ++ spawned.flatten) + rest) < load toDo (frame ::ₘ rest) := by
  cases h
  case asks timeoutMs => exact absurd rfl (hChoice timeoutMs).1
  case message => exact absurd rfl (hChoice 0).2
  all_goals simp [toDo]

end Steps

/-! ## Every run -/

section Machine

variable {c : Config Shared Frame}

theorem timerKept_preserved : Preserved machine .all TimerKept where
  exec _ _ _ _ _ _ _ _ h _ hExec := h.step (step_of_perform hExec)
  enter event _ s rest s' frames h _ _ hEnter := by
    obtain ⟨hWaiting, hServed, hMutex⟩ := h
    cases event <;> cases hEnter
    all_goals
      refine ⟨fun id hid => ?_, fun id hid => ?_, by simpa [runningCurl] using hMutex⟩
      · simpa using hWaiting id hid
      · simpa using hServed id hid

theorem timerKept_initial : TimerKept initial.shared initial.frames :=
  ⟨by simp [initial], by simp [initial], rfl⟩

theorem timerKept_of_reaches (h : Reaches machine .all initial c) : TimerKept c.shared c.frames :=
  h.invariant timerKept_preserved timerKept_initial

/-- What is below another frame is the loop of `check_multi_info`. -/
theorem covers : Covers machine fun frame => ∃ caller n, frame = .checkMultiInfo caller n where
  exec thread frame choice s s' frames spawned hExec := by
    cases step_of_perform hExec
    case asks timeoutMs =>
      refine ⟨by simp, fun new hNew below hBelow => ?_⟩
      rw [multiTimerCb] at hNew
      split at hNew
      · rw [List.mem_singleton.mp hNew] at hBelow
        cases hBelow
      · split at hNew
        · rw [List.mem_singleton.mp hNew] at hBelow
          cases hBelow
        · cases hNew
    all_goals simp
  enter event quiet s s' frames hEnter := by
    cases event <;> cases hEnter <;> simp

/-- One thread takes a step while the connection settles. -/
abbrev Settles : Config Shared Frame → Config Shared Frame → Prop :=
  Advance machine settling fun _ => true

theorem toDo_descends : Descends machine settling (fun _ => true) (· < ·) (fun _ _ => True)
    fun _ frames => load toDo frames where
  preserved := ⟨fun _ _ _ _ _ _ _ _ _ _ _ => trivial, fun _ _ _ _ _ _ _ _ _ _ => trivial⟩
  exec _ _ _ _ _ _ _ _ _ _ hChoice hExec := toDo_lower hChoice (step_of_perform hExec)

theorem killed_of_settled (h : Reaches machine .all initial c) (hSettled : ∀ next, ¬Settles c next)
    {id : TimeoutID} (hWanted : c.shared.wanted = some id) : some id ∈ c.shared.killed := by
  have hKept := timerKept_of_reaches h
  have hStuck : ∀ (frame : Frame), frame ∈ c.frames → (∀ caller n, frame ≠ .checkMultiInfo caller n) →
      ∀ choice, (∀ timeoutMs, choice ≠ .multiTimerCb timeoutMs ∧ choice ≠ .done) →
        perform frame choice c.shared = none := by
    intro frame hMem hTop choice hChoice
    obtain ⟨thread, stack, hThread⟩ := exists_thread_of_mem (h.covered covers (by simp [initial])) hMem
      fun ⟨caller, n, hEq⟩ => hTop caller n hEq
    exact stuck_of_settled hSettled hThread rfl hChoice
  have hFree : c.shared.multiMutex = false := by
    by_contra hHeld
    have hRunning := hKept.mutex
    rw [if_pos (Bool.not_eq_false _ ▸ hHeld)] at hRunning
    obtain ⟨frame, hMem, hPos⟩ := exists_of_load_pos runningCurl (by rw [hRunning]; exact Nat.one_pos)
    cases frame with
    | multi caller =>
      have hNone := hStuck (.multi caller) hMem (by simp) (.returns 0) (by simp)
      simp [perform, multi] at hNone
    | _ => cases hPos
  rcases hKept.served id hWanted with hTimer | hMem | hKilled
  · have hNone := hStuck (.awaitTimer id) (hKept.waiting id hTimer) (by simp) .expired (by simp)
    simp [perform, awaitTimer, hTimer] at hNone
  · have hNone := hStuck (.timerCb id) hMem (by simp) .proceed (by simp)
    simp [perform, timerCb, hFree] at hNone
  · exact hKilled

/-- **Timeouts of curl.** From every reachable state, once no more events come and curl asks
for nothing more, the threads come to their end in whatever order, and curl has been called
for the timeout it has asked for last, unless `event_cb` has cancelled the timer while curl
wanted it. -/
theorem timeouts_served (h : Reaches machine .all initial c) :
    Acc (fun next before => Settles before next) c ∧
      ∀ settled, Relation.ReflTransGen Settles c settled → (∀ next, ¬Settles settled next) →
        ∀ id, settled.shared.wanted = some id → some id ∈ settled.shared.killed := by
  refine ⟨toDo_descends.acc wellFounded_lt trivial, fun settled hMoves hSettled id hWanted => ?_⟩
  have hReaches : Reaches machine .all initial settled :=
    reaches_of_advances h (hMoves.lift (fun c => c) fun _ _ => Advance.all)
  exact killed_of_settled hReaches hSettled hWanted

/-- A request is added and its call posted; curl connects and wants to be called later. -/
def connecting : List (Label Choice Event) :=
  [.enter .addRequest, .run 0 .proceed, .run 0 (.multiTimerCb 0), .run 0 (.returns 1),
    .run 1 .proceed, .run 1 (.multiTimerCb 200), .run 1 (.returns 1), .run 1 .proceed]

theorem timeouts_served_connecting : ∃ c : Config Shared Frame, c.shared.wanted = some 1 ∧
    Acc (fun next before => Settles before next) c ∧
      ∀ settled, Relation.ReflTransGen Settles c settled → (∀ next, ¬Settles settled next) →
        ∀ id, settled.shared.wanted = some id → some id ∈ settled.shared.killed := by
  have hRun : (machine.steps .all initial connecting).any (fun c => c.shared.wanted = some 1) = true := by
    decide +kernel
  obtain ⟨c, hReaches, hTest⟩ := exists_reaches_of_steps hRun
  exact ⟨c, of_decide_eq_true hTest, timeouts_served hReaches⟩

/-- `event_cb` has found no transfer running, but before it cancels the timer a request is
added: nobody will call curl for its timeout. -/
theorem timeout_lost : ∃ c : Config Shared Frame, Reaches machine .all initial c ∧ c.frames = 0 ∧
    c.shared.wanted = some 1 := by
  have hRun : (machine.steps .all initial
      ([.enter .socket, .run 0 .proceed, .run 0 (.returns 0), .enter .addRequest, .run 1 .proceed,
        .run 1 (.multiTimerCb 0), .run 1 (.returns 1), .run 2 .proceed, .run 2 (.multiTimerCb 200),
        .run 2 (.returns 1), .run 2 .proceed, .run 0 .proceed, .run 0 .proceed,
        .run 3 .proceed])).any
      (fun c => c.threads = [[], [], [], []] ∧ c.shared.wanted = some 1) = true := by
    decide +kernel
  obtain ⟨c, hReaches, hTest⟩ := exists_reaches_of_steps hRun
  obtain ⟨hThreads, hWanted⟩ := of_decide_eq_true hTest
  exact ⟨c, hReaches, by rw [Config.frames, hThreads]; rfl, hWanted⟩

end Machine

/-! ## Timers cancelled in time -/

/-- `event_cb` is about to cancel the timer. -/
def aboutToKill : Frame → Nat
  | .checkMultiInfo .eventCb 0 => 1
  | .killTimer => 1
  | _ => 0

def asks : Choice → Bool
  | .multiTimerCb timeoutMs => 0 ≤ timeoutMs
  | _ => false

/-- Curl wants no timeout when it says that nothing is running, and asks for none before the
timer has been cancelled. -/
def undisturbed : Guard Shared Frame Choice Event where
  run _ frame choice s frames := (asks choice = true → load aboutToKill frames = 0) ∧
    (frame = .multi .eventCb → choice = .returns 0 → s.wanted = none)
  enter _ _ _ := True

instance (thread : Nat) (frame : Frame) (choice : Choice) (s : Shared) (frames : Multiset Frame) :
    Decidable (undisturbed.run thread frame choice s frames) := inferInstanceAs (Decidable (_ ∧ _))

instance (event : Event) (s : Shared) (frames : Multiset Frame) :
    Decidable (undisturbed.enter event s frames) := .isTrue trivial

structure KilledInTime (s : Shared) (frames : Multiset Frame) : Prop where
  unwanted : 0 < load aboutToKill frames → s.wanted = none
  killed : ∀ wanted ∈ s.killed, wanted = none

section InTime

variable {frame : Frame} {choice : Choice} {s s' : Shared} {rest : Multiset Frame}
  {frames : List Frame} {spawned : List (List Frame)}

theorem KilledInTime.of_le (hI : KilledInTime s (frame ::ₘ rest))
    (hLoad : load aboutToKill (↑frames + rest) ≤ load aboutToKill (frame ::ₘ rest))
    (hWanted : s'.wanted = s.wanted ∨ s'.wanted = none) (hKilled : s'.killed = s.killed) :
    KilledInTime s' (↑frames + rest) where
  unwanted hPos := by
    rcases hWanted with hSame | hNone
    · rw [hSame]
      exact hI.unwanted (Nat.lt_of_lt_of_le hPos hLoad)
    · exact hNone
  killed wanted hMem := hI.killed wanted (hKilled ▸ hMem)

/-- What curl asks for cannot matter where nobody is about to cancel the timer. -/
theorem KilledInTime.of_idle {caller : Caller} (hI : KilledInTime s (.multi caller ::ₘ rest))
    (hZero : load aboutToKill (.multi caller ::ₘ rest) = 0) (hKilled : s'.killed = s.killed)
    (hSpawned : (spawned.flatten.map aboutToKill).sum = 0) :
    KilledInTime s' (↑([Frame.multi caller] ++ spawned.flatten) + rest) where
  unwanted hPos := by
    rw [load_cons] at hZero
    simp only [load_add, load_coe, List.map_append, List.map_cons, List.map_nil, List.sum_append,
      List.sum_singleton, hSpawned] at hPos
    omega
  killed wanted hMem := hI.killed wanted (hKilled ▸ hMem)

/-- Curl does not ask while the timer is to be cancelled. -/
theorem KilledInTime.asks {caller : Caller} {timeoutMs : Int}
    (hI : KilledInTime s (.multi caller ::ₘ rest))
    (hNone : 0 ≤ timeoutMs → load aboutToKill (.multi caller ::ₘ rest) = 0) :
    KilledInTime (multiTimerCb timeoutMs s).1
      (↑([Frame.multi caller] ++ (multiTimerCb timeoutMs s).2.flatten) + rest) := by
  rw [multiTimerCb]
  split
  · rename_i hPos
    exact hI.of_idle (hNone (Int.le_of_lt hPos)) rfl (by simp [aboutToKill])
  · split
    · rename_i hEq
      exact hI.of_idle (hNone (Int.le_of_eq hEq.symm)) rfl (by simp [aboutToKill])
    · exact ⟨fun _ => rfl, hI.killed⟩

theorem KilledInTime.step {thread : Nat} (hI : KilledInTime s (frame ::ₘ rest))
    (hRun : undisturbed.run thread frame choice s (frame ::ₘ rest))
    (h : Step frame choice s s' frames spawned) :
    KilledInTime s' (↑(frames ++ spawned.flatten) + rest) := by
  obtain ⟨hAsks, hReturns⟩ := hRun
  cases h
  case asks caller timeoutMs => exact hI.asks fun hPos => hAsks (decide_eq_true hPos)
  case acted caller stillRunning hCaller =>
    by_cases hLast : caller = .eventCb ∧ stillRunning = 0
    · obtain ⟨rfl, rfl⟩ := hLast
      exact ⟨fun _ => hReturns rfl rfl, hI.killed⟩
    · have hNot : aboutToKill (.checkMultiInfo caller stillRunning) = 0 := by
        cases caller <;> cases stillRunning <;> simp [aboutToKill] at hLast ⊢
      exact hI.of_le (by simp [hNot]) (.inl rfl) rfl
  case killTimer =>
    have hNone : s.wanted = none := by
      apply hI.unwanted
      rw [load_cons]
      exact Nat.add_pos_left Nat.one_pos _
    refine ⟨fun _ => hNone, fun wanted hMem => ?_⟩
    rcases List.mem_append.mp hMem with hOld | hNew
    · exact hI.killed wanted hOld
    · rw [List.mem_singleton.mp hNew]
      exact hNone
  case timerCb => exact hI.of_le (by simp [aboutToKill]) (.inr rfl) rfl
  all_goals exact hI.of_le (by simp [aboutToKill]) (.inl rfl) rfl

theorem killedInTime_preserved : Preserved machine undisturbed KilledInTime where
  exec _ _ _ _ _ _ _ _ h hRun hExec := h.step hRun (step_of_perform hExec)
  enter event _ s rest s' frames h _ _ hEnter := by
    cases event <;> cases hEnter
    all_goals exact ⟨fun hPos => h.unwanted (by simpa [aboutToKill] using hPos), h.killed⟩

end InTime

/-- **Timeouts are kept.** Where curl wants no timeout once it says that nothing is running,
and asks for none before the timer has been cancelled, its last timeout is at every moment
waited for, or a thread is about to call curl for it. -/
theorem timeouts_kept {c : Config Shared Frame} (h : Reaches machine undisturbed initial c)
    {id : TimeoutID} (hWanted : c.shared.wanted = some id) : Pending c.shared c.frames id := by
  have hKept := h.invariant (timerKept_preserved.under undisturbed) timerKept_initial
  have hInTime := h.invariant killedInTime_preserved ⟨by simp [initial], by simp [initial]⟩
  rcases hKept.served id hWanted with hTimer | hMem | hKilled
  · exact .inl ⟨hTimer, hKept.waiting id hTimer⟩
  · exact .inr hMem
  · exact absurd (hInTime.killed _ hKilled) (Option.some_ne_none id)

theorem timeouts_kept_connecting : ∃ c : Config Shared Frame, c.shared.wanted = some 1 ∧
    Pending c.shared c.frames 1 := by
  have hRun : (machine.steps undisturbed initial connecting).any
      (fun c => c.shared.wanted = some 1) = true := by
    decide +kernel
  obtain ⟨c, hReaches, hTest⟩ := exists_reaches_of_steps hRun
  exact ⟨c, of_decide_eq_true hTest, timeouts_kept hReaches (of_decide_eq_true hTest)⟩

end Fuerte.Http.CurlTimer

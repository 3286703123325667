import Fuerte.Message
import Fuerte.WaitGroup

/-! # Synchronous requests

`sendRequest` sends a request asynchronously and waits for its callback, which writes
to variables of the waiting call. Any number of such calls run at the same time; a
callback is invoked by whatever thread the connection uses.
-/

namespace Fuerte.SendRequest

set_option autoImplicit false

open Interleaving Monitor

abbrev Group := WaitGroup.Group
abbrev GroupFrame := Monitor.Frame WaitGroup.Op

def valid : List ErrorCondition :=
  [.noError, .connectionError, .couldNotConnect, .timeout, .vstReadError, .vstWriteError,
    .canceledDuringReset, .malformedURL, .curlError]

/-- Numbers that are not valid become the cast error, and so does its own. -/
def intToError (integral : Nat) : ErrorCondition :=
  (valid.find? fun error => errorToInt error == integral).getD .errorCastError

inductive Outcome where
  | returned (rv : Option Response)
  | thrown (error : ErrorCondition)
  /-- The asynchronous `sendRequest` has thrown, without keeping the callback. -/
  | notSent
  deriving DecidableEq, Repr

/-- How the call ends once its variables have been written. -/
def outcome (error : Nat) (rv : Option Response) : Outcome :=
  if error = 0 then .returned rv else .thrown (intToError error)

/-- The variables of a call, as long as it is alive, and what has happened to it: the
request the connection has accepted with its callback, what the callback has been
invoked with, and how the call has ended. -/
structure Call where
  wg : Group := WaitGroup.empty
  rv : Option Response := none
  error : Nat := 0
  alive : Bool := false
  accepted : Option Request := none
  reported : Option (Nat × Option Response) := none
  outcomes : List Outcome := []
  dangling : Bool := false

/-- Where the caller is (`adding` to `finish`), and where its callback is. -/
inductive Frame where
  | adding (request : Request) (frame : GroupFrame)
  | sending (request : Request)
  | waiting (frame : GroupFrame)
  | finish
  | callback (error : Nat) (response : Option Response)
  | setError (error : Nat)
  | signalling (frame : GroupFrame)
  deriving DecidableEq

/-- How a thread on the condition variable wakes up, and whether the asynchronous
`sendRequest` throws. -/
inductive Choice where
  | proceed (wake : Monitor.Choice)
  | throws
  deriving DecidableEq, Repr

def Choice.wake : Choice → Monitor.Choice
  | .proceed wake => wake
  | .throws => .proceed

namespace Call

/-- An access to the variables of a call that is over. -/
def dangles (call : Call) : Option (Call × Option Frame) := some ({ call with dangling := true }, none)

/-- A step inside the wait group of the call; `after` is what follows the last one. -/
def onGroup (frame : GroupFrame) (wake : Monitor.Choice) (goOn : GroupFrame → Frame)
    (after : Option Frame) (call : Call) : Option (Call × Option Frame) :=
  if call.alive then
    match WaitGroup.protocol.exec frame wake call.wg with
    | some (wg, some next) => some ({ call with wg }, some (goOn next))
    | some (wg, none) => some ({ call with wg }, after)
    | none => none
  else call.dangles

def perform : Frame → Choice → Call → Option (Call × Option Frame)
  | .adding request frame, choice, call =>
    call.onGroup frame choice.wake (.adding request) (some (.sending request))
  | .sending request, .proceed _, call =>
    some ({ call with accepted := some request }, some (.waiting (.lockToWait false)))
  | .sending _, .throws, call =>
    some ({ call with alive := false, outcomes := call.outcomes ++ [.notSent] }, none)
  | .waiting frame, choice, call => call.onGroup frame choice.wake .waiting (some .finish)
  | .finish, _, call =>
    some ({ call with alive := false, outcomes := call.outcomes ++ [outcome call.error call.rv] }, none)
  | .callback error response, _, call =>
    if call.alive then some ({ call with rv := response }, some (.setError error)) else call.dangles
  | .setError error, _, call =>
    -- `WaitGroupDone` calls `done` at the end of the scope.
    if call.alive then some ({ call with error := error }, some (.signalling (.lock .done)))
    else call.dangles
  | .signalling frame, choice, call => call.onGroup frame choice.wake .signalling none

end Call

structure Shared where
  calls : Nat → Call
  started : Nat

namespace Shared

def set (s : Shared) (id : Nat) (call : Call) : Shared :=
  { s with calls := Function.update s.calls id call }

def start (s : Shared) : Shared :=
  { calls := Function.update s.calls s.started { alive := true }, started := s.started + 1 }

@[simp] theorem set_started (s : Shared) (id : Nat) (call : Call) : (s.set id call).started = s.started :=
  rfl

@[simp] theorem set_self (s : Shared) (id : Nat) (call : Call) : (s.set id call).calls id = call :=
  Function.update_self _ _ _

theorem set_other (s : Shared) {id other : Nat} (hOther : other ≠ id) (call : Call) :
    (s.set id call).calls other = s.calls other :=
  Function.update_of_ne hOther _ _

@[simp] theorem start_self (s : Shared) : s.start.calls s.started = { alive := true } :=
  Function.update_self _ _ _

theorem start_other (s : Shared) {other : Nat} (hOther : other ≠ s.started) :
    s.start.calls other = s.calls other :=
  Function.update_of_ne hOther _ _

end Shared

inductive GlobalFrame where
  | sendRequest (request : Request)
  | call (id : Nat) (frame : Frame)
  deriving DecidableEq

inductive Event where
  | sendRequest (request : Request)
  | callback (id error : Nat) (response : Option Response)

/-- Only what has been accepted can be answered. A callback that is invoked before the
asynchronous `sendRequest` returns is one of the orders of the threads. -/
def machine : Machine Shared GlobalFrame Choice Event where
  exec _ frame choice s :=
    match frame with
    | .sendRequest request =>
      some (s.start, [.call s.started (.adding request (.lock (.add 1)))], [])
    | .call id frame =>
      ((s.calls id).perform frame choice).map fun next =>
        (s.set id next.1, (next.2.map (.call id)).toList, [])
  enter event _ s :=
    match event with
    | .sendRequest request => some (s, [.sendRequest request])
    | .callback id error response =>
      if (s.calls id).accepted.isSome then
        some (s.set id { s.calls id with reported := some (error, response) },
          [.call id (.callback error response)])
      else none

def initial : Config Shared GlobalFrame := ⟨⟨fun _ => {}, 0⟩, []⟩

/-- The connection invokes a callback at most once. -/
def callsBackOnce : Guard Shared GlobalFrame Choice Event where
  run _ _ _ _ _ := True
  enter
    | .callback id _ _, s, _ => (s.calls id).reported = none
    | .sendRequest _, _, _ => True

instance decidableCallsBackOnceRun (thread : Nat) (frame : GlobalFrame) (choice : Choice) (s : Shared)
    (frames : Multiset GlobalFrame) : Decidable (callsBackOnce.run thread frame choice s frames) :=
  inferInstanceAs (Decidable True)

instance decidableCallsBackOnceEnter (event : Event) (s : Shared) (frames : Multiset GlobalFrame) :
    Decidable (callsBackOnce.enter event s frames) :=
  match event with
  | .callback _ _ _ => inferInstanceAs (Decidable (_ = _))
  | .sendRequest _ => inferInstanceAs (Decidable True)

/-! ## The life of a call -/

namespace Call

variable (call : Call)

/-- Where the callback of a waiting call is, and what it has written by then. -/
inductive Answer : Option Frame → Prop
  | awaited : call.reported = none → call.wg.value.ended = 0 → Answer none
  | callback (error : Nat) (response : Option Response) : call.reported = some (error, response) →
    call.wg.value.ended = 0 → Answer (some (.callback error response))
  | setError (error : Nat) : call.reported = some (error, call.rv) → call.wg.value.ended = 0 →
    Answer (some (.setError error))
  | telling (frame : GroupFrame) : call.reported = some (call.error, call.rv) →
    call.wg.value.ended = 0 → frame = .lock .done ∨ frame = .update .done →
    Answer (some (.signalling frame))
  | told (frame : GroupFrame) : call.reported = some (call.error, call.rv) →
    call.wg.value.ended = 1 → frame = .notifyAll ∨ frame = .unlock → Answer (some (.signalling frame))
  | complete : call.reported = some (call.error, call.rv) → call.wg.value.ended = 1 → Answer none

/-- A thread inside `wait`. -/
inductive Waits : GroupFrame → Prop
  | lockToWait : Waits (.lockToWait false)
  | check : Waits (.check false)
  | loop : Waits (.loop false)
  | asleep (ticket : Nat) : Waits (.asleep ticket false)
  | relock : Waits (.relock false)
  | leave (result : Bool) : Waits (.leave false result)

/-- What a call that is over owes its caller. -/
def Honoured (outcome : Outcome) : Prop :=
  outcome = .notSent ∧ call.accepted = none ∧ call.reported = none ∨
    call.accepted ≠ none ∧ ∃ error rv, call.reported = some (error, rv) ∧
      outcome = SendRequest.outcome error rv

/-- Where the caller and its callback are. -/
inductive Stage : Option Frame → Option Frame → Prop
  | adding (request : Request) (frame : GroupFrame) : call.alive = true → call.outcomes = [] →
    call.accepted = none → call.reported = none → call.wg.value.ended = 0 →
    call.wg.value.added = 0 ∧ (frame = .lock (.add 1) ∨ frame = .update (.add 1)) ∨
      call.wg.value.added = 1 ∧ frame = .unlock →
    Stage (some (.adding request frame)) none
  | sending (request : Request) : call.alive = true → call.outcomes = [] → call.accepted = none →
    call.reported = none → call.wg.value.ended = 0 → call.wg.value.added = 1 →
    Stage (some (.sending request)) none
  | waiting (frame : GroupFrame) (visitor : Option Frame) : call.alive = true →
    call.outcomes = [] → call.accepted ≠ none → call.wg.value.added = 1 → Waits frame →
    call.Answer visitor → Stage (some (.waiting frame)) visitor
  | finish : call.alive = true → call.outcomes = [] → call.accepted ≠ none →
    call.reported = some (call.error, call.rv) → Stage (some .finish) none
  | ended (outcome : Outcome) : call.alive = false → call.outcomes = [outcome] →
    call.Honoured outcome → Stage none none

end Call

def groupFrame : Frame → Option GroupFrame
  | .adding _ frame => some frame
  | .waiting frame => some frame
  | .signalling frame => some frame
  | _ => none

structure Lifecycle (call : Call) (own visitor : Option Frame) : Prop where
  stage : call.Stage own visitor
  dangling : call.dangling = false
  group : WaitGroup.Invariant call.wg ↑((own.toList ++ visitor.toList).filterMap groupFrame)

section Steps

variable {call call' : Call} {own visitor next : Option Frame} {choice : Choice} {frame : Frame}

theorem Lifecycle.start (request : Request) :
    Lifecycle { alive := true } (some (.adding request (.lock (.add 1)))) none where
  stage := .adding request _ rfl rfl rfl rfl rfl (.inl ⟨rfl, .inl rfl⟩)
  dangling := rfl
  group := WaitGroup.Invariant.initial.call (.update (.add 1)) ⟨Nat.one_pos, by decide⟩

theorem Lifecycle.callback (h : Lifecycle call own visitor) (hAccepted : call.accepted ≠ none)
    (hReported : call.reported = none) (error : Nat) (response : Option Response) :
    visitor = none ∧ Lifecycle { call with reported := some (error, response) } own
      (some (.callback error response)) := by
  obtain ⟨hStage, hDangling, hGroup⟩ := h
  cases hStage with
  | adding _ _ _ _ hNone => exact absurd hNone hAccepted
  | sending _ _ _ hNone => exact absurd hNone hAccepted
  | finish _ _ _ hSome => rw [hReported] at hSome; cases hSome
  | ended _ _ _ hOver =>
    rcases hOver with ⟨-, hNone, -⟩ | ⟨-, _, _, hSome, -⟩
    · exact absurd hNone hAccepted
    · rw [hReported] at hSome; cases hSome
  | waiting frame _ hAlive hOutcomes _ hAdded hWaits hAnswer =>
    cases hAnswer with
    | awaited _ hEnded =>
      exact ⟨rfl, .waiting frame _ hAlive hOutcomes hAccepted hAdded hWaits
        (.callback error response rfl hEnded), hDangling, hGroup⟩
    | complete hSome => rw [hReported] at hSome; cases hSome
    | callback _ _ hSome => rw [hReported] at hSome; cases hSome
    | setError _ hSome => rw [hReported] at hSome; cases hSome
    | telling _ hSome => rw [hReported] at hSome; cases hSome
    | told _ hSome => rw [hReported] at hSome; cases hSome

theorem exists_of_onGroup {groupFrame : GroupFrame} {wake : Monitor.Choice} {goOn : GroupFrame → Frame}
    {after : Option Frame} (hAlive : call.alive = true)
    (h : call.onGroup groupFrame wake goOn after = some (call', next)) :
    ∃ wg groupNext, WaitGroup.protocol.exec groupFrame wake call.wg = some (wg, groupNext) ∧
      call' = { call with wg } ∧ next = groupNext.elim after fun new => some (goOn new) := by
  rw [Call.onGroup, if_pos hAlive] at h
  split at h
  · rename_i wg new hExec
    cases h
    exact ⟨wg, some new, hExec, rfl, rfl⟩
  · rename_i wg hExec
    cases h
    exact ⟨wg, none, hExec, rfl, rfl⟩
  · cases h

theorem Call.Waits.exec {waiting : GroupFrame} {wake : Monitor.Choice} {wg wg' : Group}
    {groupNext : Option GroupFrame} (h : Waits waiting)
    (hExec : WaitGroup.protocol.exec waiting wake wg = some (wg', groupNext)) :
    wg'.value = wg.value ∧ groupNext.elim (∃ result, waiting = .leave false result) Waits := by
  cases h
  case asleep ticket =>
    cases wake with
    | proceed =>
      simp only [Protocol.exec] at hExec
      split at hExec
      · cases hExec
        exact ⟨rfl, .relock⟩
      · cases hExec
    | spurious =>
      cases hExec
      exact ⟨rfl, .relock⟩
    | timeout => cases hExec
  case check =>
    cases hExec
    split
    · exact ⟨rfl, .leave true⟩
    · exact ⟨rfl, .loop⟩
  case leave result =>
    cases hExec
    exact ⟨rfl, result, rfl⟩
  all_goals simp only [Protocol.exec] at hExec
  all_goals split at hExec
  all_goals cases hExec
  all_goals refine ⟨rfl, ?_⟩
  all_goals constructor

/-- What the callback has to do does not depend on where the caller is. -/
theorem Call.Answer.of_value (h : call.Answer visitor) (hReported : call'.reported = call.reported)
    (hError : call'.error = call.error) (hRv : call'.rv = call.rv)
    (hValue : call'.wg.value = call.wg.value) : call'.Answer visitor := by
  cases h with
  | awaited hNone hEnded => exact .awaited (hReported ▸ hNone) (hValue ▸ hEnded)
  | callback error response hSome hEnded =>
    exact .callback error response (hReported ▸ hSome) (hValue ▸ hEnded)
  | setError error hSome hEnded => exact .setError error (by rw [hReported, hRv, hSome]) (hValue ▸ hEnded)
  | telling frame hSome hEnded hFrame =>
    exact .telling frame (by rw [hReported, hRv, hError, hSome]) (hValue ▸ hEnded) hFrame
  | told frame hSome hEnded hFrame =>
    exact .told frame (by rw [hReported, hRv, hError, hSome]) (hValue ▸ hEnded) hFrame
  | complete hSome hEnded => exact .complete (by rw [hReported, hRv, hError, hSome]) (hValue ▸ hEnded)

/-- A step of one of two threads inside the wait group. -/
theorem group_of_exec {wg : Group} {before : GroupFrame} {groupNext : Option GroupFrame}
    {wake : Monitor.Choice} {other : Option Frame} (hFrame : groupFrame frame = some before)
    (hGroup : WaitGroup.Invariant call.wg ↑(((some frame).toList ++ other.toList).filterMap groupFrame))
    (hExec : WaitGroup.protocol.exec before wake call.wg = some (wg, groupNext))
    (hNext : next.toList.filterMap groupFrame = groupNext.toList) :
    WaitGroup.Invariant wg ↑((next.toList ++ other.toList).filterMap groupFrame) := by
  have hBefore : WaitGroup.Invariant call.wg (before ::ₘ ↑(other.toList.filterMap groupFrame)) := by
    simpa [List.filterMap_append, hFrame] using hGroup
  rw [List.filterMap_append, hNext, ← Multiset.coe_add]
  exact hBefore.exec hExec

theorem group_swap {wg : Group} :
    WaitGroup.Invariant wg ↑((own.toList ++ visitor.toList).filterMap groupFrame) ↔
      WaitGroup.Invariant wg ↑((visitor.toList ++ own.toList).filterMap groupFrame) := by
  rw [List.filterMap_append, List.filterMap_append, ← Multiset.coe_add, add_comm, Multiset.coe_add]

/-- The caller leaves `wait` only when the callback has done its work. -/
theorem Call.Answer.complete_of_leave {result : Bool} (h : call.Answer visitor)
    (hAdded : call.wg.value.added = 1)
    (hGroup : WaitGroup.Invariant call.wg
      ↑(((some (Frame.waiting (.leave false result))).toList ++ visitor.toList).filterMap groupFrame)) :
    visitor = none ∧ call.reported = some (call.error, call.rv) := by
  have hLeave : (.leave false result : GroupFrame) ∈
      ((((some (Frame.waiting (.leave false result))).toList ++ visitor.toList).filterMap groupFrame :
        List GroupFrame) : Multiset GroupFrame) := List.mem_cons_self
  have hEnded : call.wg.value.added = call.wg.value.ended := by
    rw [← hGroup.counted.holds_iff, ← hGroup.sound.truthful _ _ hLeave]
    exact hGroup.sound.untimed _ hLeave
  rw [hAdded] at hEnded
  have hSound : Sound WaitGroup.protocol call.wg
      (.leave false result ::ₘ ↑(visitor.toList.filterMap groupFrame)) := hGroup.sound
  have hAlone := (hSound.alone rfl).2
  cases h with
  | complete hReported _ => exact ⟨rfl, hReported⟩
  | told frame _ _ hFrame =>
    have hOutside := not_inside_of_holders hAlone List.mem_cons_self
    rcases hFrame with rfl | rfl <;> cases hOutside
  | awaited _ hNone => rw [hNone] at hEnded; cases hEnded
  | callback _ _ _ hNone => rw [hNone] at hEnded; cases hEnded
  | setError _ _ hNone => rw [hNone] at hEnded; cases hEnded
  | telling _ _ hNone => rw [hNone] at hEnded; cases hEnded

/-- The caller executes its frame. -/
theorem Lifecycle.own_step (h : Lifecycle call (some frame) visitor)
    (hPerform : call.perform frame choice = some (call', next)) : Lifecycle call' next visitor := by
  obtain ⟨hStage, hDangling, hGroup⟩ := h
  cases hStage with
  | adding request groupFrame hAlive hOutcomes hAccepted hReported hEnded hPhase =>
    obtain ⟨wg, groupNext, hExec, rfl, rfl⟩ := exists_of_onGroup hAlive hPerform
    have hNext : WaitGroup.Invariant wg ↑(((groupNext.elim (some (Frame.sending request))
        fun new => some (Frame.adding request new)).toList ++ []).filterMap SendRequest.groupFrame) :=
      group_of_exec rfl hGroup hExec (by cases groupNext <;> rfl)
    rcases hPhase with ⟨hAdded, rfl | rfl⟩ | ⟨hAdded, rfl⟩
    · simp only [Protocol.exec] at hExec
      split at hExec
      · cases hExec
      · cases hExec
        exact ⟨.adding request _ hAlive hOutcomes hAccepted hReported hEnded (.inl ⟨hAdded, .inr rfl⟩),
          hDangling, hNext⟩
    · cases hExec
      refine ⟨.adding request _ hAlive hOutcomes hAccepted hReported hEnded (.inr ⟨?_, rfl⟩),
        hDangling, hNext⟩
      exact congrArg (· + 1) hAdded
    · cases hExec
      exact ⟨.sending request hAlive hOutcomes hAccepted hReported hEnded hAdded, hDangling, hNext⟩
  | sending request hAlive hOutcomes hAccepted hReported hEnded hAdded =>
    cases choice with
    | proceed wake =>
      cases hPerform
      exact ⟨.waiting _ none hAlive hOutcomes (by simp) hAdded .lockToWait (.awaited hReported hEnded),
        hDangling, hGroup.call (.wait false) trivial⟩
    | throws =>
      cases hPerform
      refine ⟨.ended .notSent rfl ?_ (.inl ⟨rfl, hAccepted, hReported⟩), hDangling, hGroup⟩
      rw [hOutcomes]
      rfl
  | waiting groupFrame _ hAlive hOutcomes hAccepted hAdded hWaits hAnswer =>
    obtain ⟨wg, groupNext, hExec, rfl, rfl⟩ := exists_of_onGroup hAlive hPerform
    have hNext : WaitGroup.Invariant wg ↑(((groupNext.elim (some Frame.finish)
        fun new => some (Frame.waiting new)).toList ++ visitor.toList).filterMap SendRequest.groupFrame) :=
      group_of_exec rfl hGroup hExec (by cases groupNext <;> rfl)
    obtain ⟨hValue, hNextWaits⟩ := hWaits.exec hExec
    cases groupNext with
    | some new =>
      refine ⟨.waiting new visitor hAlive hOutcomes hAccepted (hValue ▸ hAdded) hNextWaits ?_,
        hDangling, hNext⟩
      exact hAnswer.of_value rfl rfl rfl hValue
    | none =>
      obtain ⟨result, rfl⟩ := hNextWaits
      obtain ⟨rfl, hReported⟩ := hAnswer.complete_of_leave hAdded hGroup
      exact ⟨.finish hAlive hOutcomes hAccepted hReported, hDangling, hNext⟩
  | finish hAlive hOutcomes hAccepted hReported =>
    cases hPerform
    refine ⟨.ended (outcome call.error call.rv) rfl ?_
      (.inr ⟨hAccepted, call.error, call.rv, hReported, rfl⟩), hDangling, hGroup⟩
    rw [hOutcomes]
    rfl

/-- What the callback does not change for its caller. -/
structure Call.Kept (call call' : Call) : Prop where
  alive : call'.alive = call.alive
  outcomes : call'.outcomes = call.outcomes
  accepted : call'.accepted = call.accepted
  added : call'.wg.value.added = call.wg.value.added
  dangling : call'.dangling = call.dangling

theorem Call.Waits.ending_eq_zero {waiting : GroupFrame} (h : Waits waiting) :
    WaitGroup.ending waiting = 0 := by
  cases h <;> rfl

theorem Call.Answer.step {waiting : GroupFrame} (h : call.Answer (some frame))
    (hAlive : call.alive = true) (hAdded : call.wg.value.added = 1) (hWaits : Waits waiting)
    (hGroup : WaitGroup.Invariant call.wg
      ↑(((some frame).toList ++ (some (Frame.waiting waiting)).toList).filterMap groupFrame))
    (hPerform : call.perform frame choice = some (call', next)) :
    call'.Answer next ∧ call.Kept call' ∧ WaitGroup.Invariant call'.wg
      ↑((next.toList ++ (some (Frame.waiting waiting)).toList).filterMap groupFrame) := by
  cases h with
  | callback error response hReported hEnded =>
    rw [Call.perform, if_pos hAlive] at hPerform
    cases hPerform
    exact ⟨.setError error hReported hEnded, ⟨rfl, rfl, rfl, rfl, rfl⟩, hGroup⟩
  | setError error hReported hEnded =>
    rw [Call.perform, if_pos hAlive] at hPerform
    cases hPerform
    refine ⟨.telling _ hReported hEnded (.inl rfl), ⟨rfl, rfl, rfl, rfl, rfl⟩, ?_⟩
    refine WaitGroup.Invariant.call hGroup (.update .done) ?_
    simp [WaitGroup.balanced, List.filterMap_cons, groupFrame, hEnded, hAdded, WaitGroup.total,
      hWaits.ending_eq_zero]
  | telling before hReported hEnded hBefore =>
    obtain ⟨wg, groupNext, hExec, rfl, rfl⟩ := exists_of_onGroup hAlive hPerform
    have hNext : WaitGroup.Invariant wg ↑(((groupNext.elim none
        fun new => some (Frame.signalling new)).toList ++
          (some (Frame.waiting waiting)).toList).filterMap groupFrame) :=
      group_of_exec rfl hGroup hExec (by cases groupNext <;> rfl)
    rcases hBefore with rfl | rfl
    · simp only [Protocol.exec] at hExec
      split at hExec
      · cases hExec
      · cases hExec
        exact ⟨.telling _ hReported hEnded (.inr rfl), ⟨rfl, rfl, rfl, rfl, rfl⟩, hNext⟩
    · cases hExec
      refine ⟨.told _ hReported (congrArg (· + 1) hEnded) ?_, ⟨rfl, rfl, rfl, rfl, rfl⟩, hNext⟩
      split
      · exact .inl rfl
      · exact .inr rfl
  | told before hReported hEnded hBefore =>
    obtain ⟨wg, groupNext, hExec, rfl, rfl⟩ := exists_of_onGroup hAlive hPerform
    have hNext : WaitGroup.Invariant wg ↑(((groupNext.elim none
        fun new => some (Frame.signalling new)).toList ++
          (some (Frame.waiting waiting)).toList).filterMap groupFrame) :=
      group_of_exec rfl hGroup hExec (by cases groupNext <;> rfl)
    rcases hBefore with rfl | rfl
    · cases hExec
      exact ⟨.told _ hReported hEnded (.inr rfl), ⟨rfl, rfl, rfl, rfl, rfl⟩, hNext⟩
    · cases hExec
      exact ⟨.complete hReported hEnded, ⟨rfl, rfl, rfl, rfl, rfl⟩, hNext⟩

/-- The callback executes its frame. -/
theorem Lifecycle.visitor_step (h : Lifecycle call own (some frame))
    (hPerform : call.perform frame choice = some (call', next)) : Lifecycle call' own next := by
  obtain ⟨hStage, hDangling, hGroup⟩ := h
  cases hStage with
  | waiting waiting _ hAlive hOutcomes hAccepted hAdded hWaits hAnswer =>
    obtain ⟨hAnswer, hKept, hNext⟩ :=
      hAnswer.step hAlive hAdded hWaits (group_swap.mp hGroup) hPerform
    exact ⟨.waiting waiting next (hKept.alive.trans hAlive) (hKept.outcomes.trans hOutcomes)
      (hKept.accepted ▸ hAccepted) (hKept.added.trans hAdded) hWaits hAnswer,
      hKept.dangling.trans hDangling, group_swap.mpr hNext⟩

end Steps

/-! ## All calls of a run -/

def callFrame (id : Nat) : GlobalFrame → Option Frame
  | .sendRequest _ => none
  | .call other frame => if other = id then some frame else none

/-- The frames of one call and its callback. -/
def pool (id : Nat) (frames : Multiset GlobalFrame) : Multiset Frame := frames.filterMap (callFrame id)

@[simp] theorem pool_zero (id : Nat) : pool id 0 = 0 := rfl

@[simp] theorem pool_sendRequest (id : Nat) (request : Request) (frames : Multiset GlobalFrame) :
    pool id (.sendRequest request ::ₘ frames) = pool id frames :=
  Multiset.filterMap_cons_none _ _ rfl

@[simp] theorem pool_self (id : Nat) (frame : Frame) (frames : Multiset GlobalFrame) :
    pool id (.call id frame ::ₘ frames) = frame ::ₘ pool id frames :=
  Multiset.filterMap_cons_some _ _ _ (if_pos rfl)

theorem pool_other {id other : Nat} (hOther : other ≠ id) (frame : Frame) (frames : Multiset GlobalFrame) :
    pool id (.call other frame ::ₘ frames) = pool id frames :=
  Multiset.filterMap_cons_none _ _ (if_neg hOther)

theorem pool_next (id : Nat) (next : Option Frame) (frames : Multiset GlobalFrame) :
    pool id (↑(next.map (GlobalFrame.call id)).toList + frames) =
      (next.toList : Multiset Frame) + pool id frames := by
  cases next <;> simp

theorem pool_next_other {id other : Nat} (hOther : other ≠ id) (next : Option Frame)
    (frames : Multiset GlobalFrame) :
    pool id (↑(next.map (GlobalFrame.call other)).toList + frames) = pool id frames := by
  cases next <;> simp [pool_other hOther]

def both (own visitor : Option Frame) : Multiset Frame :=
  (own.toList : Multiset Frame) + (visitor.toList : Multiset Frame)

/-- The next frame of one of two threads belongs to one of them. -/
theorem cons_eq_both {frame : Frame} {rest : Multiset Frame} {own visitor : Option Frame}
    (h : frame ::ₘ rest = both own visitor) :
    own = some frame ∧ rest = visitor.toList ∨ visitor = some frame ∧ rest = own.toList := by
  have hMem : frame ∈ both own visitor := h ▸ Multiset.mem_cons_self _ _
  rcases Multiset.mem_add.mp hMem with hOwn | hVisitor
  · obtain rfl := Option.mem_toList.mp hOwn
    refine .inl ⟨rfl, ?_⟩
    rw [both, Option.toList_some, Multiset.coe_singleton, Multiset.singleton_add] at h
    exact (Multiset.cons_inj_right _).mp h
  · obtain rfl := Option.mem_toList.mp hVisitor
    refine .inr ⟨rfl, ?_⟩
    rw [both, add_comm, Option.toList_some, Multiset.coe_singleton, Multiset.singleton_add] at h
    exact (Multiset.cons_inj_right _).mp h

/-- Every call that has begun is somewhere in its life, and the others have not begun. -/
structure Invariant (s : Shared) (frames : Multiset GlobalFrame) : Prop where
  unborn : ∀ id, s.started ≤ id → s.calls id = {} ∧ pool id frames = 0
  born : ∀ id < s.started, ∃ own visitor, pool id frames = both own visitor ∧
    Lifecycle (s.calls id) own visitor

theorem invariant_initial : Invariant initial.shared initial.frames where
  unborn _ _ := ⟨rfl, rfl⟩
  born _ h := absurd h (Nat.not_lt_zero _)

theorem Invariant.started_of_mem {s : Shared} {frames : Multiset GlobalFrame} (h : Invariant s frames)
    {id : Nat} {frame : Frame} (hMem : .call id frame ∈ frames) : id < s.started := by
  by_contra hLate
  obtain ⟨rest, rfl⟩ := Multiset.exists_cons_of_mem hMem
  have hEmpty := (h.unborn id (Nat.le_of_not_lt hLate)).2
  rw [pool_self] at hEmpty
  exact Multiset.cons_ne_zero hEmpty

theorem exec_call {thread id : Nat} {frame : Frame} {choice : Choice} {s s' : Shared}
    {frames : List GlobalFrame} {spawned : List (List GlobalFrame)}
    (h : machine.exec thread (.call id frame) choice s = some (s', frames, spawned)) :
    ∃ call' next, (s.calls id).perform frame choice = some (call', next) ∧ s' = s.set id call' ∧
      frames = (next.map (.call id)).toList ∧ spawned = [] := by
  obtain ⟨⟨call', next⟩, hPerform, hNext⟩ := Option.map_eq_some_iff.mp h
  cases hNext
  exact ⟨call', next, hPerform, rfl, rfl, rfl⟩

/-- One call goes on with its life, and the others stay where they are. -/
theorem Invariant.set {s : Shared} {frames frames' : Multiset GlobalFrame} {id : Nat} {call' : Call}
    {own visitor : Option Frame} (h : Invariant s frames) (hStarted : id < s.started)
    (hOther : ∀ other, id ≠ other → pool other frames' = pool other frames)
    (hPool : pool id frames' = both own visitor) (hLife : Lifecycle call' own visitor) :
    Invariant (s.set id call') frames' := by
  refine ⟨fun other hLate => ?_, fun other hBorn => ?_⟩
  · have hNe : id ≠ other := (hStarted.trans_le hLate).ne
    rw [s.set_other hNe.symm, hOther other hNe]
    exact h.unborn other hLate
  · by_cases hEq : id = other
    · subst hEq
      rw [s.set_self]
      exact ⟨own, visitor, hPool, hLife⟩
    · rw [s.set_other (Ne.symm hEq), hOther other hEq]
      exact h.born other hBorn

theorem Invariant.exec {s : Shared} {rest : Multiset GlobalFrame} {id : Nat} {frame : Frame}
    {choice : Choice} {call' : Call} {next : Option Frame}
    (h : Invariant s (.call id frame ::ₘ rest))
    (hPerform : (s.calls id).perform frame choice = some (call', next)) :
    Invariant (s.set id call') (↑(next.map (GlobalFrame.call id)).toList + rest) := by
  have hStarted := h.started_of_mem (Multiset.mem_cons_self _ _)
  have hOther : ∀ other, id ≠ other → pool other (↑(next.map (GlobalFrame.call id)).toList + rest) =
      pool other (.call id frame ::ₘ rest) := by
    intro other hNe
    rw [pool_next_other hNe, pool_other hNe]
  obtain ⟨own, visitor, hPool, hLife⟩ := h.born id hStarted
  rw [pool_self] at hPool
  rcases cons_eq_both hPool with ⟨rfl, hRest⟩ | ⟨rfl, hRest⟩
  · exact h.set hStarted hOther (by rw [pool_next, hRest, both]) (hLife.own_step hPerform)
  · exact h.set hStarted hOther (by rw [pool_next, hRest, both, add_comm]) (hLife.visitor_step hPerform)

theorem Invariant.start {s : Shared} {rest : Multiset GlobalFrame} {request : Request}
    (h : Invariant s (.sendRequest request ::ₘ rest)) :
    Invariant s.start (.call s.started (.adding request (.lock (.add 1))) ::ₘ rest) := by
  refine ⟨fun id hLate => ?_, fun id hStarted => ?_⟩
  · have hNe : s.started ≠ id := (Nat.lt_of_succ_le hLate).ne
    rw [s.start_other hNe.symm, pool_other hNe, ← pool_sendRequest id request]
    exact h.unborn id (Nat.le_of_succ_le hLate)
  · rcases Nat.lt_succ_iff_lt_or_eq.mp hStarted with hBefore | rfl
    · rw [s.start_other hBefore.ne, pool_other hBefore.ne', ← pool_sendRequest id request]
      exact h.born id hBefore
    · have hEmpty := (h.unborn _ le_rfl).2
      rw [pool_sendRequest] at hEmpty
      refine ⟨_, none, ?_, by rw [s.start_self]; exact Lifecycle.start request⟩
      simp [hEmpty, both]

theorem Invariant.callback {s : Shared} {rest : Multiset GlobalFrame} {id : Nat} (h : Invariant s rest)
    (hAccepted : (s.calls id).accepted ≠ none) (hReported : (s.calls id).reported = none)
    (error : Nat) (response : Option Response) :
    Invariant (s.set id { s.calls id with reported := some (error, response) })
      (.call id (.callback error response) ::ₘ rest) := by
  have hStarted : id < s.started := by
    by_contra hLate
    exact hAccepted (by rw [(h.unborn id (Nat.le_of_not_lt hLate)).1])
  obtain ⟨own, visitor, hPool, hLife⟩ := h.born id hStarted
  obtain ⟨rfl, hAnswered⟩ := hLife.callback hAccepted hReported error response
  refine h.set hStarted (fun other hNe => pool_other hNe _ _) ?_ hAnswered
  rw [pool_self, hPool, both, both, ← Multiset.singleton_add, add_comm]
  simp

theorem invariant_preserved : Preserved machine callsBackOnce Invariant where
  exec thread frame choice s rest s' frames spawned h _ hExec := by
    cases frame with
    | call id frame =>
      obtain ⟨call', next, hPerform, rfl, rfl, rfl⟩ := exec_call hExec
      simpa using h.exec hPerform
    | sendRequest request =>
      cases hExec
      exact h.start
  enter event _ s rest s' frames h _ hGuard hEnter := by
    cases event with
    | sendRequest request =>
      cases hEnter
      exact ⟨by simpa using h.unborn, by simpa using h.born⟩
    | callback id error response =>
      simp only [machine] at hEnter
      split at hEnter
      · rename_i hAccepted
        cases hEnter
        exact h.callback (Option.isSome_iff_ne_none.mp hAccepted) hGuard error response
      · cases hEnter

section Runs

variable {c : Config Shared GlobalFrame}

theorem invariant_of_reaches (h : Reaches machine callsBackOnce initial c) :
    Invariant c.shared c.frames :=
  h.invariant invariant_preserved invariant_initial

/-- A call never touches variables that are gone, and ends once: with what its own
callback was invoked with, or because its request was not sent. -/
theorem sync_call_exact (h : Reaches machine callsBackOnce initial c) (id : Nat) :
    (c.shared.calls id).dangling = false ∧ (c.shared.calls id).outcomes.length ≤ 1 ∧
      ∀ result ∈ (c.shared.calls id).outcomes, (c.shared.calls id).Honoured result := by
  have hInvariant := invariant_of_reaches h
  by_cases hStarted : id < c.shared.started
  · obtain ⟨own, visitor, -, hStage, hDangling, -⟩ := hInvariant.born id hStarted
    refine ⟨hDangling, ?_⟩
    cases hStage with
    | ended result _ hOutcomes hHonoured =>
      rw [hOutcomes]
      exact ⟨le_rfl, fun other hOther => by rw [List.mem_singleton.mp hOther]; exact hHonoured⟩
    | adding _ _ _ hNone => simp [hNone]
    | sending _ _ hNone => simp [hNone]
    | waiting _ _ _ hNone => simp [hNone]
    | finish _ hNone => simp [hNone]
  · simp [(hInvariant.unborn id (Nat.le_of_not_lt hStarted)).1]

/-- Two callers: the callback of the first reports a timeout, that of the second is
still to come. -/
def twoCallers : List (Label Choice Event) :=
  let run (thread steps : Nat) : List (Label Choice Event) :=
    List.replicate steps (.run thread (.proceed .proceed))
  .enter (.sendRequest { header := {} }) :: .enter (.sendRequest { header := {} }) ::
    run 0 8 ++ run 1 8 ++ .enter (.callback 0 1002 none) :: run 2 6 ++ run 0 5

theorem sync_call_exact_two_callers : ∃ c : Config Shared GlobalFrame,
    (c.shared.calls 0).outcomes = [.thrown .timeout] ∧ (c.shared.calls 1).outcomes = [] ∧
      c.shared.started = 2 ∧
      (c.shared.calls 0).dangling = false ∧ (c.shared.calls 0).outcomes.length ≤ 1 ∧
      ∀ result ∈ (c.shared.calls 0).outcomes, (c.shared.calls 0).Honoured result := by
  have hRun : (machine.steps callsBackOnce initial twoCallers).any
      (fun c => (c.shared.calls 0).outcomes = [.thrown .timeout] ∧ (c.shared.calls 1).outcomes = [] ∧
        c.shared.started = 2) = true := by
    decide +kernel
  obtain ⟨c, hReaches, hTest⟩ := exists_reaches_of_steps hRun
  obtain ⟨hFirst, hSecond, hStarted⟩ := of_decide_eq_true hTest
  exact ⟨c, hFirst, hSecond, hStarted, sync_call_exact hReaches 0⟩

end Runs

/-! ## Progress -/

def mayNotify : Frame → Nat
  | .adding _ frame => Monitor.mayNotify frame
  | .sending _ => 0
  | .waiting frame => Monitor.mayNotify frame
  | .finish => 0
  | .callback _ _ => 1
  | .setError _ => 1
  | .signalling frame => Monitor.mayNotify frame

/-- How many steps the caller or its callback takes at most before it is through or has
to be woken. -/
def Call.weight (call : Call) : Frame → Nat
  | .adding _ frame => Monitor.weight call.wg frame + 16
  | .sending _ => 12
  | .waiting frame => Monitor.weight call.wg frame + 1
  | .finish => 1
  | .callback _ _ => 7
  | .setError _ => 6
  | .signalling frame => Monitor.weight call.wg frame + 1

section Weights

variable {call call' : Call} {frame : Frame} {next : Option Frame} {choice : Choice}

theorem weight_of_notified (h : call'.wg.notified = call.wg.notified) (frame : Frame) :
    call'.weight frame = call.weight frame := by
  cases frame <;> simp only [Call.weight, Monitor.weight_of_notified h]

/-- Inside the wait group a thread gets closer to the end as the monitor has it. -/
theorem onGroup_lower {before : GroupFrame} {wake : Monitor.Choice} {goOn : GroupFrame → Frame}
    {after : Option Frame} {extra : Nat} (hTickets : call.wg.notified ≤ call.wg.tickets)
    (hWake : wake ≠ .spurious) (hExtra : 0 < extra)
    (hWeight : ∀ (call : Call) new, call.weight (goOn new) = Monitor.weight call.wg new + extra)
    (hNotify : ∀ new, mayNotify (goOn new) = Monitor.mayNotify new)
    (hAfter : ∀ call : Call, after.elim 0 call.weight ≤ extra) (hSilent : after.elim 0 mayNotify = 0)
    (h : call.onGroup before wake goOn after = some (call', next)) :
    next.elim 0 call'.weight < Monitor.weight call.wg before + extra ∧
      next.elim 0 mayNotify ≤ Monitor.mayNotify before ∧
      (call'.wg.notified = call.wg.notified ∨ next.elim 0 mayNotify < Monitor.mayNotify before) := by
  rw [Call.onGroup] at h
  split at h
  · split at h
    · rename_i wg new hExec
      cases h
      obtain ⟨hLower, hLess⟩ := Monitor.weight_lower hTickets hWake hExec
      simp only [Option.elim_some, hWeight, hNotify] at hLower hLess ⊢
      refine ⟨Nat.add_lt_add_right hLower _, hLess, ?_⟩
      by_cases hAll : before = .notifyAll
      · subst hAll
        cases hExec
        exact .inr Nat.one_pos
      · exact .inl (notified_of_exec hAll hExec)
    · rename_i wg hExec
      cases h
      obtain ⟨hLower, -⟩ := Monitor.weight_lower hTickets hWake hExec
      have hBefore : before ≠ .notifyAll := by
        rintro rfl
        cases hExec
      rw [hSilent]
      exact ⟨(hAfter _).trans_lt (Nat.lt_add_of_pos_left hLower), Nat.zero_le _,
        .inl (notified_of_exec hBefore hExec)⟩
    · cases h
  · cases h
    exact ⟨Nat.add_pos_right _ hExtra, Nat.zero_le _, .inl rfl⟩

theorem perform_lower (hTickets : call.wg.notified ≤ call.wg.tickets)
    (hWake : choice.wake ≠ .spurious) (h : call.perform frame choice = some (call', next)) :
    next.elim 0 call'.weight < call.weight frame ∧ next.elim 0 mayNotify ≤ mayNotify frame ∧
      (call'.wg.notified = call.wg.notified ∨ next.elim 0 mayNotify < mayNotify frame) := by
  cases frame with
  | adding request before =>
    exact onGroup_lower hTickets hWake (by decide) (fun _ _ => rfl) (fun _ => rfl) (fun _ => by
      simp [Call.weight]) rfl h
  | waiting before =>
    exact onGroup_lower hTickets hWake (by decide) (fun _ _ => rfl) (fun _ => rfl) (fun _ => le_rfl)
      rfl h
  | signalling before =>
    exact onGroup_lower hTickets hWake (by decide) (fun _ _ => rfl) (fun _ => rfl)
      (fun _ => Nat.zero_le _) rfl h
  | sending request =>
    cases choice
    all_goals cases h
    all_goals simp [Call.weight, mayNotify, Monitor.weight, Monitor.mayNotify]
  | finish =>
    cases h
    simp [Call.weight, mayNotify]
  | callback error response =>
    simp only [Call.perform, Call.dangles] at h
    split at h
    all_goals cases h
    all_goals simp [Call.weight, mayNotify]
  | setError error =>
    simp only [Call.perform, Call.dangles] at h
    split at h
    all_goals cases h
    all_goals simp [Call.weight, mayNotify, Monitor.weight, Monitor.mayNotify]

end Weights

def globalNotify : GlobalFrame → Nat
  | .sendRequest _ => 1
  | .call _ frame => mayNotify frame

def globalWeight (s : Shared) : GlobalFrame → Nat
  | .sendRequest _ => 30
  | .call id frame => (s.calls id).weight frame

def work (s : Shared) (frames : Multiset GlobalFrame) : Nat ×ₗ Nat :=
  toLex ((frames.map globalNotify).sum, (frames.map (globalWeight s)).sum)

/-- Without a notification, a thread's own weight goes down and that of the others stays. -/
theorem work_lower {s s' : Shared} {frame : GlobalFrame} {frames : List GlobalFrame}
    {rest : Multiset GlobalFrame}
    (hNotify : (frames.map globalNotify).sum ≤ globalNotify frame)
    (hWeight : (frames.map (globalWeight s')).sum < globalWeight s frame)
    (hOthers : (∀ other ∈ rest, globalWeight s' other = globalWeight s other) ∨
      (frames.map globalNotify).sum < globalNotify frame) :
    work s' ((frames : Multiset GlobalFrame) + rest) < work s (frame ::ₘ rest) := by
  rw [work, work, Prod.Lex.toLex_lt_toLex]
  simp only [Multiset.map_add, Multiset.sum_add, Multiset.map_cons, Multiset.sum_cons,
    Multiset.map_coe, Multiset.sum_coe]
  rcases hNotify.lt_or_eq with hLess | hSame
  · exact .inl (Nat.add_lt_add_right hLess _)
  · rcases hOthers with hOthers | hLess
    · rw [Multiset.map_congr rfl hOthers]
      exact .inr ⟨by rw [hSame], Nat.add_lt_add_right hWeight _⟩
    · exact absurd hSame hLess.ne

/-- No thread is woken for no reason. -/
def unprovoked : Guard Shared GlobalFrame Choice Event where
  run _ _ choice _ _ := choice.wake ≠ .spurious
  enter _ _ _ := True

theorem Invariant.tickets {s : Shared} {frames : Multiset GlobalFrame} (h : Invariant s frames)
    (id : Nat) : (s.calls id).wg.notified ≤ (s.calls id).wg.tickets := by
  by_cases hStarted : id < s.started
  · obtain ⟨own, visitor, -, hLife⟩ := h.born id hStarted
    exact hLife.group.sound.notified_le
  · rw [(h.unborn id (Nat.le_of_not_lt hStarted)).1]
    exact le_rfl

theorem descends : Descends machine (callsBackOnce.inf unprovoked) (fun _ => true) (· < ·)
    Invariant work where
  preserved := invariant_preserved.inf_left _
  exec thread frame choice s rest s' frames spawned h _ hRun hExec := by
    cases frame with
    | sendRequest request =>
      cases hExec
      refine work_lower (by simp [globalNotify, mayNotify, Monitor.mayNotify])
        (by simp [globalWeight, Call.weight, Monitor.weight]) (.inl fun other hOther => ?_)
      cases other with
      | sendRequest => rfl
      | call id frame =>
        have hNe := (h.started_of_mem (Multiset.mem_cons_of_mem hOther)).ne
        simp only [globalWeight, s.start_other hNe]
    | call id frame =>
      obtain ⟨call', next, hPerform, rfl, rfl, rfl⟩ := exec_call hExec
      obtain ⟨hWeight, hNotify, hOthers⟩ := perform_lower (h.tickets id) hRun.2 hPerform
      rw [List.flatten_nil, List.append_nil]
      have hNextNotify : (((next.map (GlobalFrame.call id)).toList).map globalNotify).sum =
          next.elim 0 mayNotify := by
        cases next <;> simp [globalNotify]
      have hNextWeight : (((next.map (GlobalFrame.call id)).toList).map
          (globalWeight (s.set id call'))).sum = next.elim 0 call'.weight := by
        cases next <;> simp [globalWeight]
      refine work_lower (hNextNotify ▸ hNotify) (hNextWeight ▸ hWeight) ?_
      refine hOthers.imp (fun hSame other _ => ?_) fun hLess => hNextNotify ▸ hLess
      cases other with
      | sendRequest => rfl
      | call other frame =>
        by_cases hEq : other = id
        · subst hEq
          simp only [globalWeight, s.set_self, weight_of_notified hSame]
        · simp only [globalWeight, s.set_other hEq]

theorem covers : Covers machine fun _ => False where
  exec thread frame choice s s' frames spawned hExec := by
    cases frame with
    | sendRequest request =>
      cases hExec
      simp
    | call id frame =>
      obtain ⟨call', next, -, -, rfl, rfl⟩ := exec_call hExec
      cases next <;> simp
  enter event _ s s' frames hEnter := by
    cases event with
    | sendRequest request =>
      cases hEnter
      simp
    | callback id error response =>
      simp only [machine] at hEnter
      split at hEnter
      · cases hEnter
        simp
      · cases hEnter

section Settled

variable {call : Call} {own visitor : Option Frame}

theorem exec_of_onGroup {before : GroupFrame} {wake : Monitor.Choice} {goOn : GroupFrame → Frame}
    {after : Option Frame} (hAlive : call.alive = true) (h : call.onGroup before wake goOn after = none) :
    WaitGroup.protocol.exec before wake call.wg = none := by
  rw [Call.onGroup, if_pos hAlive] at h
  split at h
  · cases h
  · cases h
  · assumption

theorem exec_of_perform {frame : Frame} {before : GroupFrame} {wake : Monitor.Choice}
    (hAlive : call.alive = true) (hFrame : groupFrame frame = some before)
    (h : call.perform frame (.proceed wake) = none) :
    WaitGroup.protocol.exec before wake call.wg = none := by
  cases frame <;> cases hFrame
  all_goals exact exec_of_onGroup hAlive h

/-- A call that does not get on is over, or waits for a callback that has not been invoked. -/
theorem Lifecycle.settled (h : Lifecycle call own visitor)
    (hStuck : ∀ frame ∈ both own visitor, ∀ choice : Choice, choice.wake ≠ .spurious →
      call.perform frame choice = none) :
    call.outcomes ≠ [] ∨ call.accepted ≠ none ∧ call.reported = none := by
  have hGroupStuck : call.alive = true → ∀ before ∈ (((own.toList ++ visitor.toList).filterMap
      groupFrame : List GroupFrame) : Multiset GroupFrame), ∀ wake ≠ .spurious,
      WaitGroup.protocol.exec before wake call.wg = none := by
    intro hAlive before hMem wake hWake
    obtain ⟨frame, hFrame, hBefore⟩ := List.mem_filterMap.mp hMem
    exact exec_of_perform hAlive hBefore
      (hStuck frame (by rwa [both, Multiset.coe_add, Multiset.mem_coe]) _ hWake)
  have hAsleep := fun hAlive => h.group.sound.settled (hGroupStuck hAlive)
  cases h.stage with
  | ended result _ hOutcomes => exact .inl (by simp [hOutcomes])
  | adding request before hAlive _ _ _ _ hPhase =>
    obtain ⟨ticket, rfl, -⟩ := hAsleep hAlive before List.mem_cons_self
    rcases hPhase with ⟨-, hLate | hLate⟩ | ⟨-, hLate⟩ <;> cases hLate
  | sending request => cases hStuck (.sending request) (by simp [both]) (.proceed .proceed) nofun
  | finish => cases hStuck .finish (by simp [both]) (.proceed .proceed) nofun
  | waiting before _ hAlive _ hAccepted hAdded _ hAnswer =>
    cases hAnswer with
    | awaited hReported => exact .inr ⟨hAccepted, hReported⟩
    | callback error response =>
      have hNone := hStuck (.callback error response) (by simp [both]) (.proceed .proceed) nofun
      rw [Call.perform, if_pos hAlive] at hNone
      cases hNone
    | setError error =>
      have hNone := hStuck (.setError error) (by simp [both]) (.proceed .proceed) nofun
      rw [Call.perform, if_pos hAlive] at hNone
      cases hNone
    | telling frame _ _ hFrame =>
      obtain ⟨ticket, rfl, -⟩ := hAsleep hAlive frame (List.mem_cons_of_mem _ List.mem_cons_self)
      rcases hFrame with hLate | hLate <;> cases hLate
    | told frame _ _ hFrame =>
      obtain ⟨ticket, rfl, -⟩ := hAsleep hAlive frame (List.mem_cons_of_mem _ List.mem_cons_self)
      rcases hFrame with hLate | hLate <;> cases hLate
    | complete _ hEnded =>
      have hEmpty := h.group.woken.settled h.group.sound
        (h.group.counted.holds_iff.mpr (hAdded.trans hEnded.symm)) (hGroupStuck hAlive)
      exact absurd (hEmpty ▸ List.mem_cons_self : before ∈ (0 : Multiset GroupFrame))
        (Multiset.notMem_zero _)

end Settled

section Runs

/-- One thread takes a step. -/
abbrev Moves : Config Shared GlobalFrame → Config Shared GlobalFrame → Prop :=
  Advance machine (callsBackOnce.inf unprovoked) fun _ => true

variable {c : Config Shared GlobalFrame}

theorem mem_of_pool {id : Nat} {frame : Frame} {frames : Multiset GlobalFrame}
    (h : frame ∈ pool id frames) : .call id frame ∈ frames := by
  obtain ⟨global, hMem, hFrame⟩ := (Multiset.mem_filterMap _ _).mp h
  cases global with
  | sendRequest request => cases hFrame
  | call other before =>
    simp only [callFrame] at hFrame
    split at hFrame
    · rename_i hEq
      cases hFrame
      exact hEq ▸ hMem
    · cases hFrame

/-- However the threads take turns, they come to where every call is over, or the
connection has its request and has not invoked the callback. -/
theorem sync_calls_return (h : Reaches machine callsBackOnce initial c) :
    Acc (fun next before => Moves before next) c ∧
    ∀ settled, Relation.ReflTransGen Moves c settled → (∀ next, ¬Moves settled next) →
      ∀ id < settled.shared.started, (settled.shared.calls id).outcomes ≠ [] ∨
        (settled.shared.calls id).accepted ≠ none ∧ (settled.shared.calls id).reported = none := by
  refine ⟨descends.acc wellFounded_lt (invariant_of_reaches h),
    fun settled hRun hSettled id hStarted => ?_⟩
  have hReaches : Reaches machine callsBackOnce initial settled :=
    reaches_of_advances h (hRun.lift (fun c => c) fun _ _ => Advance.of_inf)
  obtain ⟨own, visitor, hPool, hLife⟩ := (invariant_of_reaches hReaches).born id hStarted
  refine hLife.settled fun frame hMem choice hWake => ?_
  obtain ⟨thread, stack, hThread⟩ := exists_thread_of_mem (hReaches.covered covers nofun)
    (mem_of_pool (hPool ▸ hMem)) not_false
  exact Option.map_eq_none_iff.mp (stuck_of_settled hSettled hThread rfl ⟨trivial, hWake⟩)

theorem sync_calls_return_two_callers : ∃ c : Config Shared GlobalFrame,
    (c.shared.calls 1).outcomes = [] ∧ c.shared.started = 2 ∧
    Acc (fun next before => Moves before next) c ∧
    ∀ settled, Relation.ReflTransGen Moves c settled → (∀ next, ¬Moves settled next) →
      ∀ id < settled.shared.started, (settled.shared.calls id).outcomes ≠ [] ∨
        (settled.shared.calls id).accepted ≠ none ∧ (settled.shared.calls id).reported = none := by
  have hRun : (machine.steps callsBackOnce initial twoCallers).any
      (fun c => (c.shared.calls 1).outcomes = [] ∧ c.shared.started = 2) = true := by
    decide +kernel
  obtain ⟨c, hReaches, hTest⟩ := exists_reaches_of_steps hRun
  obtain ⟨hSecond, hStarted⟩ := of_decide_eq_true hTest
  exact ⟨c, hSecond, hStarted, sync_calls_return hReaches⟩

end Runs

end Fuerte.SendRequest

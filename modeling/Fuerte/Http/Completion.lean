import Fuerte.Http.Connection

/-! # Completing an HTTP request

A request that curl is done with leaves the store, whatever the callbacks do. Its
own callback is skipped where the failure callback is called first and throws.
-/

namespace Fuerte.Http.Completion

set_option autoImplicit false

open Interleaving Connection

/-- What a callback of the user throws. -/
inductive Thrown where
  | exception (what : ByteString)
  | other
  deriving DecidableEq

/-- How the callbacks end. They return where nothing is thrown. -/
structure Callbacks where
  request : Option Thrown := none
  onFailure : Option Thrown := none

section Functions

variable (configuration : ConnectionConfiguration) (uninitialised : Nat) (callbacks : Callbacks)
  (thread : Nat)

def onFailure (error : ErrorCondition) (s : Shared) : Shared × Option Thrown :=
  if configuration.onFailure then
    ({ s with failures := s.failures ++ [(errorToInt error, s.held thread)] }, callbacks.onFailure)
  else (s, none)

/-- The request is moved into the argument; the flag is exchanged. -/
def invoke (id : MessageID) (item : RequestItem) (error : ErrorCondition)
    (response : Option Response) (s : Shared) : Shared × Option Thrown :=
  let after := { item with request := none, callback := { item.callback with invoked := true } }
  let call : Vst.Invocation :=
    ⟨id, item.callback.cb, errorToInt error, item.request, response, s.held thread⟩
  let s := { s with items := Function.update s.items id (some after) }
  if item.callback.invoked then (s, none) else ({ s with calls := s.calls ++ [call] }, callbacks.request)

/-- The two calls of most failures. -/
def failed (id : MessageID) (item : RequestItem) (error : ErrorCondition) (s : Shared) :
    Shared × Option Thrown :=
  match onFailure configuration callbacks thread error s with
  | (s, some thrown) => (s, some thrown)
  | (s, none) => invoke callbacks thread id item error none s

/-- The body of the `try` block. -/
def complete (id : MessageID) (item : RequestItem) (request : Request) (result : Transfer) :
    Shared → Shared × Option Thrown :=
  match result.rc with
  | .ok =>
    let response := Http.handleResult request.messageID result.httpStatusCode
      result.responseHeaders result.responseBody uninitialised
    invoke callbacks thread id item .noError (some response)
  | .couldntConnect => failed configuration callbacks thread id item .couldNotConnect
  | .sslConnectError => failed configuration callbacks thread id item .couldNotConnect
  | .couldntResolveHost => failed configuration callbacks thread id item .couldNotConnect
  | .urlMalformat => invoke callbacks thread id item .malformedURL none
  | .sendError => invoke callbacks thread id item .couldNotConnect none
  | .operationTimedout => invoke callbacks thread id item .timeout none
  | .recvError => invoke callbacks thread id item .timeout none
  | .gotNothing => invoke callbacks thread id item .timeout none
  | .other _ => failed configuration callbacks thread id item .curlError

def removeByID (id : MessageID) (s : Shared) : Shared :=
  { s with messageStore := s.messageStore.removeByID id }

/-- `throw e` throws a copy of the base class. -/
def sliced : ByteString := ascii "std::exception"

/-- What `handleResult` leaves, and what it throws. -/
def handleResult (id : MessageID) (result : Transfer) (s : Shared) :
    Except Fault (Shared × Option Thrown) :=
  match s.items id with
  | none => .error .nullPointer
  | some item =>
    match item.request with
    | none => .error .nullPointer
    | some request =>
      match complete configuration uninitialised callbacks thread id item request result s with
      | (s, some (.exception _)) =>
        .ok (removeByID request.messageID s, some (.exception sliced))
      | (s, some .other) => .ok (removeByID request.messageID s, some .other)
      | (s, none) => .ok (removeByID request.messageID s, none)

end Functions

/-- The code of this result lets `handleResult` call the failure callback first. -/
def callsOnFailure : CURLcode → Bool
  | .couldntConnect | .sslConnectError | .couldntResolveHost | .other _ => true
  | _ => false

/-- A stored request that has not been completed. -/
structure Pending (s : Shared) (id : MessageID) : Prop where
  stored : id ∈ s.messageStore
  item : ∃ item request, s.items id = some item ∧ item.request = some request ∧
    request.messageID = id ∧ item.callback.invoked = false
  uncalled : ∀ call ∈ s.calls, call.item ≠ id

/-- The entry is gone and no other has changed. -/
structure Released (s s' : Shared) (id : MessageID) : Prop where
  removed : id ∉ s'.messageStore
  others : ∀ other, other ≠ id →
    (other ∈ s'.messageStore ↔ other ∈ s.messageStore) ∧ s'.items other = s.items other

def InvokedOnce (s : Shared) (id : MessageID) : Prop :=
  (s.calls.filter fun call => call.item = id).length = 1

instance (s : Shared) (id : MessageID) : Decidable (InvokedOnce s id) :=
  inferInstanceAs (Decidable (_ = _))

section Completion

variable {configuration : ConnectionConfiguration} {uninitialised : Nat} {callbacks : Callbacks}
  {thread : Nat} {s : Shared} {id : MessageID} {item : RequestItem}

/-- The state is the same but for one item, and these calls have been made for it. -/
structure Handled (s s' : Shared) (id : MessageID) (count : Nat) : Prop where
  messageStore : s'.messageStore = s.messageStore
  items : ∀ other, other ≠ id → s'.items other = s.items other
  calls : ∃ made, s'.calls = s.calls ++ made ∧ made.length = count ∧
    ∀ call ∈ made, call.item = id

theorem Handled.released {s' : Shared} {count : Nat} (h : Handled s s' id count) :
    Released s (removeByID id s') id := by
  refine ⟨by simp [removeByID], ?_⟩
  intro other hOther
  refine ⟨?_, h.items other hOther⟩
  simp only [removeByID, MessageStore.mem_removeByID, h.messageStore]
  exact and_iff_left hOther

theorem Handled.invokedOnce_iff {s' : Shared} {count : Nat} (h : Handled s s' id count)
    (hUncalled : ∀ call ∈ s.calls, call.item ≠ id) :
    InvokedOnce (removeByID id s') id ↔ count = 1 := by
  obtain ⟨made, hCalls, hCount, hMade⟩ := h.calls
  have hBefore : s.calls.filter (fun call => call.item = id) = [] :=
    List.filter_eq_nil_iff.mpr fun call hCall hID => hUncalled call hCall (of_decide_eq_true hID)
  have hAfter : made.filter (fun call => call.item = id) = made :=
    List.filter_eq_self.mpr fun call hCall => decide_eq_true (hMade call hCall)
  rw [InvokedOnce, removeByID, hCalls, List.filter_append, hBefore, hAfter, List.nil_append, hCount]

theorem invoke_handled (hFresh : item.callback.invoked = false) (error : ErrorCondition)
    (response : Option Response) :
    Handled s (invoke callbacks thread id item error response s).1 id 1 := by
  rw [invoke, hFresh]
  refine ⟨rfl, ?_, _, rfl, rfl, ?_⟩
  · intro other hOther
    exact Function.update_of_ne hOther _ _
  · intro call hCall
    rw [List.mem_singleton.mp hCall]

/-- The failure callback is called, and what it throws is not caught. -/
def skips (configuration : ConnectionConfiguration) (callbacks : Callbacks) : Bool :=
  configuration.onFailure && callbacks.onFailure.isSome

theorem failed_handled (hFresh : item.callback.invoked = false) (error : ErrorCondition) :
    Handled s (failed configuration callbacks thread id item error s).1 id
      (if skips configuration callbacks then 0 else 1) := by
  rw [failed, onFailure, skips]
  by_cases hSet : configuration.onFailure = true
  · rw [if_pos hSet, hSet, Bool.true_and]
    cases callbacks.onFailure with
    | some thrown => exact ⟨rfl, fun _ _ => rfl, [], (List.append_nil _).symm, rfl, by simp⟩
    | none =>
      have hInvoke := @invoke_handled callbacks thread
        { s with failures := s.failures ++ [(errorToInt error, s.held thread)] } id item hFresh error
        none
      exact ⟨hInvoke.messageStore, hInvoke.items, hInvoke.calls⟩
  · rw [if_neg hSet, Bool.eq_false_of_not_eq_true hSet]
    exact invoke_handled hFresh error none

/-- What the codes have in common. -/
theorem complete_handled (hFresh : item.callback.invoked = false) (request : Request)
    (result : Transfer) :
    Handled s (complete configuration uninitialised callbacks thread id item request result s).1 id
      (if callsOnFailure result.rc && skips configuration callbacks then 0 else 1) := by
  rw [complete]
  cases result.rc with
  | ok => exact invoke_handled hFresh _ _
  | couldntConnect => exact failed_handled hFresh _
  | sslConnectError => exact failed_handled hFresh _
  | couldntResolveHost => exact failed_handled hFresh _
  | urlMalformat => exact invoke_handled hFresh _ _
  | sendError => exact invoke_handled hFresh _ _
  | operationTimedout => exact invoke_handled hFresh _ _
  | recvError => exact invoke_handled hFresh _ _
  | gotNothing => exact invoke_handled hFresh _ _
  | other code => exact failed_handled hFresh _

/-- Both handlers and the end of the function take the entry out. -/
theorem handleResult_eq (configuration : ConnectionConfiguration) (uninitialised : Nat)
    (callbacks : Callbacks) (thread : Nat) {request : Request} (hItem : s.items id = some item)
    (hRequest : item.request = some request) (hID : request.messageID = id) (result : Transfer) :
    ∃ ending, handleResult configuration uninitialised callbacks thread id result s =
      .ok (removeByID id
        (complete configuration uninitialised callbacks thread id item request result s).1, ending) := by
  subst hID
  simp only [handleResult, hItem, hRequest]
  split
  · rename_i s' what hComplete
    exact ⟨_, by rw [hComplete]⟩
  · rename_i s' hComplete
    exact ⟨_, by rw [hComplete]⟩
  · rename_i s' hComplete
    exact ⟨_, by rw [hComplete]⟩

/-- The entry of the request is gone, no other has changed, and the callback of
the request has been called once. -/
structure Completed (s s' : Shared) (id : MessageID) : Prop where
  released : Released s s' id
  once : InvokedOnce s' id

/-- A request that curl is done with is completed if and only if no failure
callback throws before its own callback is called. -/
theorem handleResult_completed (hPending : Pending s id) (result : Transfer) :
    ∃ s' ending, handleResult configuration uninitialised callbacks thread id result s =
        .ok (s', ending) ∧
      (Completed s s' id ↔ ¬(callsOnFailure result.rc = true ∧ configuration.onFailure = true ∧
        callbacks.onFailure ≠ none)) := by
  obtain ⟨item, request, hItem, hRequest, hID, hFresh⟩ := hPending.item
  obtain ⟨ending, hResult⟩ := handleResult_eq configuration uninitialised callbacks thread hItem
    hRequest hID result
  have hHandled := @complete_handled configuration uninitialised callbacks thread s id item hFresh
    request result
  refine ⟨_, ending, hResult, ?_⟩
  have hOnce : (if callsOnFailure result.rc && skips configuration callbacks then 0 else 1) = 1 ↔
      ¬(callsOnFailure result.rc = true ∧ configuration.onFailure = true ∧
        callbacks.onFailure ≠ none) := by
    rw [← Option.isSome_iff_ne_none, skips]
    simp only [Bool.and_eq_true]
    split
    · rename_i hSkipped
      exact iff_of_false (by decide) fun h => h hSkipped
    · rename_i hCalled
      exact iff_of_true rfl hCalled
  rw [← hOnce, ← hHandled.invokedOnce_iff hPending.uncalled]
  constructor
  · exact fun h => h.once
  · exact fun h => ⟨hHandled.released, h⟩

/-- A connection with one request in flight. -/
def oneRequest : Shared where
  ticketID := 1
  items := Function.update (fun _ => none) 1 (some {
    destination := ascii "http://localhost:8529/_api/version"
    request := some { Vst.versionRequest with messageID := 1 }
    callback := { cb := .user } })
  messageStore := [1]

theorem pending_oneRequest : Pending oneRequest 1 :=
  ⟨by decide, ⟨_, _, rfl, rfl, rfl, rfl⟩, fun _ hCall => absurd hCall List.not_mem_nil⟩

theorem handleResult_completed_oneRequest :
    ∃ s' ending, handleResult { onFailure := true } 0 { request := some .other } 0 1
        { rc := .couldntConnect } oneRequest = .ok (s', ending) ∧
      (Completed oneRequest s' 1 ↔ ¬(callsOnFailure .couldntConnect = true ∧ true = true ∧
        (none : Option Thrown) ≠ none)) :=
  handleResult_completed pending_oneRequest { rc := .couldntConnect }

/-- The failure callback throws, and the callback of the request is not called. -/
theorem handleResult_skips_callback :
    ∃ s' ending, handleResult { onFailure := true } 0 { onFailure := some .other } 0 1
        { rc := .couldntConnect } oneRequest = .ok (s', ending) ∧
      ¬Completed oneRequest s' 1 := by
  refine ⟨_, _, rfl, fun h => ?_⟩
  exact absurd h.once (by decide)

end Completion

/-! ## Callbacks that return -/

/-- The connection is there, and nobody has locked its store. -/
structure Running (s : Shared) : Prop where
  fault : s.fault = none
  alive : s.freed = false
  unlocked : s.messageStoreMutex = none

section Returning

variable {configuration : ConnectionConfiguration} {uninitialised : Nat} {start : Config Shared Frame}
  {s : Shared} {id : MessageID} {item : RequestItem} {stack : List Frame}

theorem Running.invoke (h : Running s) (callbacks : Callbacks) (thread : Nat) (error : ErrorCondition)
    (response : Option Response) : Running (invoke callbacks thread id item error response s).1 := by
  rw [Completion.invoke]
  split <;> exact ⟨h.fault, h.alive, h.unlocked⟩

theorem Running.failed (h : Running s) (callbacks : Callbacks) (thread : Nat)
    (error : ErrorCondition) :
    Running (failed configuration callbacks thread id item error s).1 := by
  rw [Completion.failed, Completion.onFailure]
  by_cases hSet : configuration.onFailure = true
  · rw [if_pos hSet]
    cases callbacks.onFailure with
    | some thrown => exact ⟨h.fault, h.alive, h.unlocked⟩
    | none =>
      have hReported : Running { s with
          failures := s.failures ++ [(errorToInt error, s.held thread)] } :=
        ⟨h.fault, h.alive, h.unlocked⟩
      exact hReported.invoke callbacks thread error none
  · rw [if_neg hSet]
    exact h.invoke callbacks thread error none

theorem Running.complete (h : Running s) (callbacks : Callbacks) (thread : Nat) (request : Request)
    (result : Transfer) :
    Running (complete configuration uninitialised callbacks thread id item request result s).1 := by
  rw [Completion.complete]
  cases result.rc with
  | ok => exact h.invoke callbacks thread _ _
  | couldntConnect => exact h.failed callbacks thread _
  | sslConnectError => exact h.failed callbacks thread _
  | couldntResolveHost => exact h.failed callbacks thread _
  | urlMalformat => exact h.invoke callbacks thread _ _
  | sendError => exact h.invoke callbacks thread _ _
  | operationTimedout => exact h.invoke callbacks thread _ _
  | recvError => exact h.invoke callbacks thread _ _
  | gotNothing => exact h.invoke callbacks thread _ _
  | other code => exact h.failed callbacks thread _

/-- What the frames of the connection do on a single thread. -/
abbrev Leads (configuration : ConnectionConfiguration) (uninitialised : Nat)
    (start : Config Shared Frame) (s : Shared) (stack : List Frame) : Prop :=
  Reaches (machine configuration uninitialised) .all start ⟨s, [stack]⟩

theorem Leads.perform {s' : Shared} {frame : Frame} {frames : List Frame}
    (h : Leads configuration uninitialised start s (frame :: stack)) (hRunning : Running s)
    (hPerform : perform configuration uninitialised 0 frame .proceed s = some (s', frames, [])) :
    Leads configuration uninitialised start s' (frames ++ stack) := by
  have hExec : (machine configuration uninitialised).exec 0 frame .proceed s =
      some (s', frames, []) := by
    simpa only [machine, hRunning.fault, exec_of_not_freed hRunning.alive, Option.isSome_none,
      Bool.false_eq_true, if_false] using hPerform
  have hStep : (machine configuration uninitialised).step ⟨s, [frame :: stack]⟩
      (.run 0 .proceed) = some ⟨s', [frames ++ stack]⟩ := by
    simp only [Machine.step, List.getElem?_cons_zero, hExec, List.set_cons_zero, List.append_nil]
  have hAllowed : (Guard.all : Guard Shared Frame Choice Event).Allows ⟨s, [frame :: stack]⟩
      (.run 0 .proceed) := fun _ _ _ => trivial
  exact Reaches.step h hAllowed hStep

theorem Leads.userCode (h : Leads configuration uninitialised start s (.userCode :: stack))
    (hRunning : Running s) : Leads configuration uninitialised start s stack :=
  h.perform hRunning rfl

theorem Leads.invoke {error : ErrorCondition} {response : Option Response}
    (h : Leads configuration uninitialised start s (.invoke id error response :: stack))
    (hRunning : Running s) (hItem : s.items id = some item)
    (hFresh : item.callback.invoked = false) :
    Leads configuration uninitialised start (invoke {} 0 id item error response s).1 stack := by
  have hPerform : Connection.perform configuration uninitialised 0 (.invoke id error response)
      .proceed s = some ((Completion.invoke {} 0 id item error response s).1, [.userCode], []) := by
    simp only [Connection.perform, Connection.invoke, Completion.invoke, hItem, hFresh,
      Bool.false_eq_true, if_false]
    rfl
  exact (h.perform hRunning hPerform).userCode (hRunning.invoke {} 0 error response)

theorem Leads.failed {error : ErrorCondition}
    (h : Leads configuration uninitialised start s
      (.onFailure error :: .invoke id error none :: stack))
    (hRunning : Running s) (hItem : s.items id = some item)
    (hFresh : item.callback.invoked = false) :
    Leads configuration uninitialised start (failed configuration {} 0 id item error s).1 stack := by
  rw [Completion.failed, Completion.onFailure]
  by_cases hSet : configuration.onFailure = true
  · have hPerform : Connection.perform configuration uninitialised 0 (.onFailure error) .proceed s =
        some ({ s with failures := s.failures ++ [(errorToInt error, s.held 0)] },
          [.userCode], []) := by
      simp only [Connection.perform, Connection.onFailure, hSet, if_true]
      rfl
    have hReported : Running { s with failures := s.failures ++ [(errorToInt error, s.held 0)] } :=
      ⟨hRunning.fault, hRunning.alive, hRunning.unlocked⟩
    rw [if_pos hSet]
    exact ((h.perform hRunning hPerform).userCode hReported).invoke hReported hItem hFresh
  · have hPerform : Connection.perform configuration uninitialised 0 (.onFailure error) .proceed s =
        some (s, [], []) := by
      simp only [Connection.perform, Connection.onFailure, hSet, Bool.false_eq_true, if_false]
      rfl
    rw [if_neg hSet]
    exact (h.perform hRunning hPerform).invoke hRunning hItem hFresh

theorem Leads.complete {request : Request} {result : Transfer} (hRunning : Running s)
    (hItem : s.items id = some item) (hRequest : item.request = some request)
    (hFresh : item.callback.invoked = false) :
    Leads configuration uninitialised ⟨s, [[.handleResult id result]]⟩
      (complete configuration uninitialised {} 0 id item request result s).1 [.removeByID id] := by
  have hStart (frames : List Frame) (h : Connection.perform configuration uninitialised 0
      (.handleResult id result) .proceed s = some (s, frames, [])) :
      Leads configuration uninitialised ⟨s, [[.handleResult id result]]⟩ s frames := by
    have hStep : Leads configuration uninitialised ⟨s, [[.handleResult id result]]⟩ s (frames ++ []) :=
      Leads.perform .start hRunning h
    rwa [List.append_nil] at hStep
  simp only [Connection.perform, Connection.handleResult, hItem, hRequest, Option.bind_some,
    Shared.next] at hStart
  rw [Completion.complete]
  cases hCode : result.rc with
  | ok => exact (hStart _ (by rw [hCode])).invoke hRunning hItem hFresh
  | couldntConnect => exact (hStart _ (by rw [hCode])).failed hRunning hItem hFresh
  | sslConnectError => exact (hStart _ (by rw [hCode])).failed hRunning hItem hFresh
  | couldntResolveHost => exact (hStart _ (by rw [hCode])).failed hRunning hItem hFresh
  | urlMalformat => exact (hStart _ (by rw [hCode])).invoke hRunning hItem hFresh
  | sendError => exact (hStart _ (by rw [hCode])).invoke hRunning hItem hFresh
  | operationTimedout => exact (hStart _ (by rw [hCode])).invoke hRunning hItem hFresh
  | recvError => exact (hStart _ (by rw [hCode])).invoke hRunning hItem hFresh
  | gotNothing => exact (hStart _ (by rw [hCode])).invoke hRunning hItem hFresh
  | other code => exact (hStart _ (by rw [hCode])).failed hRunning hItem hFresh

/-- Where no callback throws, the steps of a connection are those of `handleResult`. -/
theorem leads_handleResult {result : Transfer} {s' : Shared} {ending : Option Thrown}
    (hRunning : Running s) (hPending : Pending s id)
    (h : handleResult configuration uninitialised {} 0 id result s = .ok (s', ending)) :
    Leads configuration uninitialised ⟨s, [[.handleResult id result]]⟩ s' [] := by
  obtain ⟨item, request, hItem, hRequest, hID, hFresh⟩ := hPending.item
  obtain ⟨ending', hResult⟩ := handleResult_eq configuration uninitialised {} 0 hItem hRequest hID
    result
  rw [h] at hResult
  cases hResult
  have hEnd : Running (complete configuration uninitialised {} 0 id item request result s).1 :=
    hRunning.complete {} 0 request result
  have hFree :
      ¬(complete configuration uninitialised {} 0 id item request result s).1.messageStoreMutex.isSome =
        true := by
    rw [hEnd.unlocked]
    decide
  have hPerform : perform configuration uninitialised 0 (.removeByID id) .proceed
      (complete configuration uninitialised {} 0 id item request result s).1 =
        some (removeByID id (complete configuration uninitialised {} 0 id item request result s).1,
          [], []) := if_neg hFree
  exact (Leads.complete hRunning hItem hRequest hFresh).perform hEnd hPerform

end Returning

end Fuerte.Http.Completion

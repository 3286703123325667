import Fuerte.Library.Observation
import Fuerte.Http.RequestsLeft

/-! # What the callbacks of an HTTP connection are told

An observer notes the requests that are accepted, the transfers that end while curl
runs, and the calls of the callbacks. Every request is completed at most once, with its
own request and with the result of its own transfer, or because the connection went away. The
request is moved and the flag exchanged in one step here, so this is about runs in which
nobody else is about to call the same callback.
-/

namespace Fuerte.Http.RequestsLeft

set_option autoImplicit false

open Interleaving

/-! ## The observer -/

inductive Observation where
  | accepted (id : MessageID) (request : Request)
  /-- Curl has ended the transfer of a request. -/
  | ended (id : MessageID) (result : Connection.Transfer)
  /-- The callback of a request has been called. -/
  | invoked (id : MessageID) (error : Nat) (request : Option Request) (response : Option Response)
  /-- The last reference to the connection has gone away. -/
  | released

namespace Observation

def accepted? : Observation → Option MessageID
  | .accepted id _ => some id
  | _ => none

def ended? : Observation → Option MessageID
  | .ended id _ => some id
  | _ => none

def invoked? : Observation → Option MessageID
  | .invoked id _ _ _ => some id
  | _ => none

end Observation

/-- The switch of `handleResult`. -/
def errorOf : Connection.CURLcode → ErrorCondition
  | .ok => .noError
  | .couldntConnect | .sslConnectError | .couldntResolveHost | .sendError => .couldNotConnect
  | .urlMalformat => .malformedURL
  | .operationTimedout | .recvError | .gotNothing => .timeout
  | .other _ => .curlError

/-- There is a response exactly if curl has succeeded, and it is made of what curl
has collected. -/
def responseOf (uninitialised : Nat) (id : MessageID) (result : Connection.Transfer) :
    Option Response :=
  match result.rc with
  | .ok => some (Http.handleResult id result.httpStatusCode result.responseHeaders
      result.responseBody uninitialised)
  | _ => none

section Observer

variable (configuration : Connection.ConnectionConfiguration)

def observeConnection (frame : Connection.Frame) (choice : Connection.Choice)
    (s : Connection.Shared) : List Observation :=
  match frame with
  | .sendRequest request =>
    match destination configuration.toConfiguration request.header with
    | .error _ => []
    | .ok destination =>
      match Connection.createRequestItem configuration destination
        { request with messageID := s.ticketID + 1 } with
      | .error _ => []
      | .ok _ => [.accepted (s.ticketID + 1) request]
  | .invoke id error response =>
    match s.items id with
    | none => []
    | some item =>
      if item.callback.invoked then [] else [.invoked id (errorToInt error) item.request response]
  | .userCode =>
    match choice with
    | .release => if s.destroyed then [] else [.released]
    | _ => []
  | _ => []

def observe (frame : Frame) (choice : Choice) (s : Shared) : List Observation :=
  match frame, choice with
  | .connection frame, .connection choice =>
    if Connection.completes frame && s.freed then []
    else observeConnection configuration frame choice s.toShared
  | .multi, .done id result => if id ∈ s.running ++ s.added then [.ended id result] else []
  | _, _ => []

end Observer

/-! ## The contract -/

/-- How a request may be completed, as far as has been noted. -/
def Completes (uninitialised : Nat) (notes : List Observation) (id : MessageID) (error : Nat)
    (response : Option Response) : Prop :=
  (∃ result, .ended id result ∈ notes ∧ error = errorToInt (errorOf result.rc) ∧
    response = responseOf uninitialised id result) ∨
  (.released ∈ notes ∧ error = errorToInt .canceledDuringReset ∧ response = none)

/-- Requests are accepted under increasing numbers, each of their transfers ends at most
once, and each callback is called at most once, with the request that was accepted and
with the result of its transfer. -/
structure CallbackContract (uninitialised : Nat) (notes : List Observation) : Prop where
  numbered : (notes.filterMap Observation.accepted?).Pairwise (· < ·)
  endedOnce : (notes.filterMap Observation.ended?).Nodup
  invokedOnce : (notes.filterMap Observation.invoked?).Nodup
  own : ∀ id error request response, .invoked id error request response ∈ notes →
    ∃ sent, .accepted id sent ∈ notes ∧ request = some { sent with messageID := id }
  outcome : ∀ id error request response, .invoked id error request response ∈ notes →
    Completes uninitialised notes id error response

/-- The request whose callback is about to be called. -/
def invoking : Frame → Option MessageID
  | .connection (.invoke id _ _) => some id
  | _ => none

/-- When a callback is called, no other thread is about to call it. -/
def invokesApart : Guard Shared Frame Choice Event where
  run _ frame _ _ frames := ∀ id ∈ invoking frame, (frames.filterMap invoking).count id ≤ 1
  enter _ _ _ := True

instance (thread : Nat) (frame : Frame) (choice : Choice) (s : Shared) (frames : Multiset Frame) :
    Decidable (invokesApart.run thread frame choice s frames) :=
  inferInstanceAs (Decidable (∀ id ∈ invoking frame, _))

instance (event : Event) (s : Shared) (frames : Multiset Frame) :
    Decidable (invokesApart.enter event s frames) :=
  inferInstanceAs (Decidable True)

/-! ## What a step does to the items -/

inductive ItemsEffect (s s' : Connection.Shared) (noted : List Observation) : Prop
  | same (hItems : s'.items = s.items) (hTicket : s.ticketID ≤ s'.ticketID)
    (hAccepted : noted.filterMap Observation.accepted? = [])
    (hInvoked : noted.filterMap Observation.invoked? = [])
  | accepts (request : Request) (item : Connection.RequestItem)
    (hNoted : noted = [.accepted (s.ticketID + 1) request])
    (hRequest : item.request = some { request with messageID := s.ticketID + 1 })
    (hFresh : item.callback.invoked = false)
    (hItems : s'.items = Function.update s.items (s.ticketID + 1) (some item))
    (hTicket : s'.ticketID = s.ticketID + 1)
  | invokes (id : MessageID) (error : Nat) (response : Option Response)
    (item after : Connection.RequestItem) (hItem : s.items id = some item)
    (hFresh : item.callback.invoked = false)
    (hNoted : noted = [.invoked id error item.request response])
    (hAfter : after.callback.invoked = true) (hMoved : after.request = none)
    (hItems : s'.items = Function.update s.items id (some after)) (hTicket : s'.ticketID = s.ticketID)
  | again (id : MessageID) (item after : Connection.RequestItem) (hItem : s.items id = some item)
    (hAfter : after.callback.invoked = true) (hMoved : after.request = none) (hNoted : noted = [])
    (hItems : s'.items = Function.update s.items id (some after)) (hTicket : s'.ticketID = s.ticketID)

section Effects

variable {configuration : Connection.ConnectionConfiguration} {uninitialised thread : Nat}

theorem itemsEffect_of_connection {frame : Connection.Frame} {choice : Connection.Choice}
    {s s' : Connection.Shared} {frames : List Connection.Frame}
    {spawned : List (List Connection.Frame)}
    (h : Connection.perform configuration uninitialised thread frame choice s =
      some (s', frames, spawned)) :
    ItemsEffect s s' (observeConnection configuration frame choice s) := by
  cases frame
  case sendRequest request =>
    simp only [Connection.perform, Connection.sendRequest, Connection.Shared.next] at h
    split at h
    · rename_i hDestination
      have hNoted : observeConnection configuration (.sendRequest request) choice s = [] := by
        simp only [observeConnection, hDestination]
      cases h
      rw [hNoted]
      exact .same rfl (Nat.le_refl _) rfl rfl
    · rename_i destination hDestination
      split at h
      · rename_i hItem
        have hNoted : observeConnection configuration (.sendRequest request) choice s = [] := by
          simp only [observeConnection, hDestination, hItem]
        cases h
        rw [hNoted]
        exact .same rfl (Nat.le_succ _) rfl rfl
      · rename_i item hItem
        have hNoted : observeConnection configuration (.sendRequest request) choice s =
            [.accepted (s.ticketID + 1) request] := by
          simp only [observeConnection, hDestination, hItem]
        cases h
        rw [hNoted]
        have hCreated := hItem
        rw [Connection.createRequestItem] at hCreated
        split at hCreated <;> cases hCreated
        exact .accepts request _ rfl rfl rfl rfl rfl
  case invoke id error response =>
    simp only [Connection.perform, Connection.invoke, Connection.Shared.next] at h
    split at h
    · cases h
    · rename_i item hItem
      have hNoted : observeConnection configuration (.invoke id error response) choice s =
          if item.callback.invoked then []
          else [.invoked id (errorToInt error) item.request response] := by
        simp only [observeConnection, hItem]
      rw [hNoted]
      split at h
      · rename_i hInvoked
        cases h
        exact .again id item _ hItem rfl rfl (if_pos hInvoked) rfl rfl
      · rename_i hInvoked
        cases h
        exact .invokes id _ response item _ hItem (Bool.eq_false_iff.mpr hInvoked) (if_neg hInvoked)
          rfl rfl rfl rfl
  case userCode =>
    cases choice <;> simp only [Connection.perform, Connection.userCode, Connection.Shared.next] at h
    all_goals (try split at h)
    all_goals cases h
    case release hAlive =>
      refine .same rfl (Nat.le_refl _) ?_ ?_ <;> simp only [observeConnection] <;> split <;> rfl
    all_goals exact .same rfl (Nat.le_refl _) rfl rfl
  all_goals simp only [Connection.perform, Connection.addToStore, Connection.addRequest,
    Connection.awaitDone, Connection.handleResult, Connection.onFailure, Connection.removeByID,
    Connection.cancelAll, Connection.cancelItems, Connection.Shared.next] at h
  all_goals (repeat' split at h)
  all_goals cases h
  all_goals exact .same rfl (Nat.le_refl _) rfl rfl

/-- The process ends in this frame, or the connection takes a step of its own. -/
theorem connection_cases {frame : Connection.Frame} {choice : Connection.Choice} {s s' : Shared}
    {frames : List Frame} {spawned : List (List Frame)} (hCurl : isCurl frame = false)
    (h : connection configuration uninitialised thread frame choice s = some (s', frames, spawned)) :
    (s' = { s with fault := some .useAfterFree } ∧ frames = [.connection frame] ∧ spawned = [] ∧
        observe configuration (.connection frame) (.connection choice) s = []) ∨
      ∃ shared inner innerSpawned, Connection.perform configuration uninitialised thread frame choice
          s.toShared = some (shared, inner, innerSpawned) ∧
        s' = { s with toShared := shared } ∧ frames = inner.map .connection ∧
        spawned = innerSpawned.map (List.map .connection) ∧
        observe configuration (.connection frame) (.connection choice) s =
          observeConnection configuration frame choice s.toShared := by
  obtain ⟨shared, inner, innerSpawned, hStep, rfl, rfl, rfl⟩ := exec_of_connection hCurl h
  rcases Connection.exec_cases hStep with ⟨hFreed, rfl, rfl, rfl⟩ | ⟨hAlive, hPerform⟩
  · exact .inl ⟨rfl, rfl, rfl, if_pos hFreed⟩
  · refine .inr ⟨shared, inner, innerSpawned, hPerform, rfl, rfl, rfl, if_neg ?_⟩
    exact Bool.eq_false_iff.mp hAlive

theorem perform_of_exec {frame : Frame} {choice : Choice} {s s' : Shared} {frames : List Frame}
    {spawned : List (List Frame)}
    (h : (machine configuration uninitialised).exec thread frame choice s = some (s', frames, spawned)) :
    perform configuration uninitialised thread frame choice s = some (s', frames, spawned) := by
  simp only [machine] at h
  split at h
  · cases h
  · exact h

theorem itemsEffect_of_perform {frame : Frame} {choice : Choice} {s s' : Shared}
    {frames : List Frame} {spawned : List (List Frame)}
    (h : perform configuration uninitialised thread frame choice s = some (s', frames, spawned)) :
    ItemsEffect s.toShared s'.toShared (observe configuration frame choice s) := by
  cases frame
  case connection inner =>
    cases choice
    case connection choice =>
      simp only [perform] at h
      by_cases hCurl : isCurl inner = true
      · cases inner <;> cases hCurl <;> simp only [connection, addRequest, Shared.next] at h
        · split at h <;> cases h
          exact .same rfl (Nat.le_refl _) rfl rfl
        · cases h
      · rcases connection_cases (Bool.eq_false_iff.mpr hCurl) h with
          ⟨rfl, -, -, hNoted⟩ | ⟨shared, _, _, hInner, rfl, -, -, hNoted⟩ <;> rw [hNoted]
        · exact .same rfl (Nat.le_refl _) rfl rfl
        · exact itemsEffect_of_connection hInner
    all_goals cases h
  case multi =>
    cases choice <;> simp only [perform, multi, Shared.next] at h
    case done =>
      split at h
      · rename_i hTransfer
        cases h
        exact .same rfl (Nat.le_refl _) (by simp only [observe, if_pos hTransfer]; rfl)
          (by simp only [observe, if_pos hTransfer]; rfl)
      · cases h
    all_goals cases h
    exact .same rfl (Nat.le_refl _) rfl rfl
  all_goals simp only [perform, socketAction, checkMultiInfo, readMessage, removeHandle, awaitPosted,
    Shared.next] at h
  all_goals (repeat' split at h)
  all_goals cases h
  all_goals exact .same rfl (Nat.le_refl _) rfl rfl

end Effects

/-! ## Own requests, once -/

/-- Every item was accepted, and has the request until its callback is called. -/
structure ItemsNoted (s : Connection.Shared) (notes : List Observation) : Prop where
  issued : ∀ id, s.items id ≠ none → id ≤ s.ticketID
  accepted : ∀ id item, s.items id = some item → ∃ sent, .accepted id sent ∈ notes ∧
    (item.callback.invoked = false → item.request = some { sent with messageID := id } ∧
      id ∉ notes.filterMap Observation.invoked?) ∧
    (item.callback.invoked = true → item.request = none)
  known : ∀ id ∈ notes.filterMap Observation.accepted?, s.items id ≠ none
  numbered : (notes.filterMap Observation.accepted?).Pairwise (· < ·)
  once : (notes.filterMap Observation.invoked?).Nodup
  own : ∀ id error request response, .invoked id error request response ∈ notes →
    ∃ sent, .accepted id sent ∈ notes ∧ request = some { sent with messageID := id }

section ItemsNoted

variable {s s' : Connection.Shared} {notes noted : List Observation} {id : MessageID}

theorem mem_accepted {sent : Request} (h : Observation.accepted id sent ∈ notes) :
    id ∈ notes.filterMap Observation.accepted? :=
  List.mem_filterMap.mpr ⟨_, h, rfl⟩

theorem mem_invoked {error : Nat} {request : Option Request} {response : Option Response}
    (h : Observation.invoked id error request response ∈ notes) :
    id ∈ notes.filterMap Observation.invoked? :=
  List.mem_filterMap.mpr ⟨_, h, rfl⟩

theorem exists_of_mem_invoked (h : id ∈ notes.filterMap Observation.invoked?) :
    ∃ error request response, .invoked id error request response ∈ notes := by
  obtain ⟨note, hNote, hID⟩ := List.mem_filterMap.mp h
  cases note <;> cases hID
  exact ⟨_, _, _, hNote⟩

theorem ItemsNoted.unknown (h : ItemsNoted s notes) (hNone : s.items id = none) :
    id ∉ notes.filterMap Observation.invoked? := by
  intro hInvoked
  obtain ⟨error, request, response, hNote⟩ := exists_of_mem_invoked hInvoked
  obtain ⟨sent, hAccepted, -⟩ := h.own id error request response hNote
  exact h.known id (mem_accepted hAccepted) hNone

theorem ItemsNoted.fresh (h : ItemsNoted s notes) : s.items (s.ticketID + 1) = none := by
  by_contra hSome
  exact Nat.not_succ_le_self _ (h.issued _ hSome)

theorem ItemsNoted.of_same (h : ItemsNoted s notes) (hItems : s'.items = s.items)
    (hTicket : s.ticketID ≤ s'.ticketID) (hAccepted : noted.filterMap Observation.accepted? = [])
    (hInvoked : noted.filterMap Observation.invoked? = []) : ItemsNoted s' (notes ++ noted) where
  issued id hid := (h.issued id (hItems ▸ hid)).trans hTicket
  accepted id item hItem := by
    obtain ⟨sent, hSent, hOpen⟩ := h.accepted id item (hItems ▸ hItem)
    rw [List.filterMap_append, hInvoked, List.append_nil]
    exact ⟨sent, List.mem_append_left _ hSent, hOpen⟩
  known id hid := by
    rw [List.filterMap_append, hAccepted, List.append_nil] at hid
    rw [hItems]
    exact h.known id hid
  numbered := by
    rw [List.filterMap_append, hAccepted, List.append_nil]
    exact h.numbered
  once := by
    rw [List.filterMap_append, hInvoked, List.append_nil]
    exact h.once
  own id error request response hNote := by
    rcases List.mem_append.mp hNote with hOld | hNew
    · obtain ⟨sent, hSent, hRequest⟩ := h.own id error request response hOld
      exact ⟨sent, List.mem_append_left _ hSent, hRequest⟩
    · have hMem := mem_invoked hNew
      rw [hInvoked] at hMem
      cases hMem

theorem ItemsNoted.of_accepts {request : Request} {item : Connection.RequestItem}
    (h : ItemsNoted s notes) (hFresh : item.callback.invoked = false)
    (hRequest : item.request = some { request with messageID := s.ticketID + 1 })
    (hItems : s'.items = Function.update s.items (s.ticketID + 1) (some item))
    (hTicket : s'.ticketID = s.ticketID + 1) :
    ItemsNoted s' (notes ++ [.accepted (s.ticketID + 1) request]) := by
  have hNotInvoked := h.unknown h.fresh
  have hAccepted : (notes ++ [Observation.accepted (s.ticketID + 1) request]).filterMap
      Observation.accepted? = notes.filterMap Observation.accepted? ++ [s.ticketID + 1] := by
    rw [List.filterMap_append]
    rfl
  have hInvoked : (notes ++ [Observation.accepted (s.ticketID + 1) request]).filterMap
      Observation.invoked? = notes.filterMap Observation.invoked? := by
    rw [List.filterMap_append]
    exact List.append_nil _
  constructor
  · intro id hid
    rw [hTicket]
    by_cases hEq : id = s.ticketID + 1
    · exact Nat.le_of_eq hEq
    · rw [hItems, Function.update_of_ne hEq] at hid
      exact Nat.le_succ_of_le (h.issued id hid)
  · intro id old hOld
    rw [hInvoked]
    by_cases hEq : id = s.ticketID + 1
    · subst hEq
      rw [hItems, Function.update_self] at hOld
      obtain rfl := Option.some.inj hOld
      exact ⟨request, List.mem_append_right _ (List.mem_singleton_self _),
        fun _ => ⟨hRequest, hNotInvoked⟩, fun hInvoked => by simp [hFresh] at hInvoked⟩
    · rw [hItems, Function.update_of_ne hEq] at hOld
      obtain ⟨sent, hSent, hOpen⟩ := h.accepted id old hOld
      exact ⟨sent, List.mem_append_left _ hSent, hOpen⟩
  · intro id hid
    rw [hItems]
    by_cases hEq : id = s.ticketID + 1
    · simp [hEq]
    · rw [Function.update_of_ne hEq]
      rw [hAccepted, List.mem_append, List.mem_singleton] at hid
      exact h.known id (hid.resolve_right hEq)
  · rw [hAccepted]
    refine List.pairwise_append.mpr ⟨h.numbered, List.pairwise_singleton _ _, fun id hid next hNext => ?_⟩
    rw [List.mem_singleton.mp hNext]
    exact Nat.lt_succ_of_le (h.issued id (h.known id hid))
  · rw [hInvoked]
    exact h.once
  · intro id error moved response hNote
    rcases List.mem_append.mp hNote with hOld | hNew
    · obtain ⟨sent, hSent, hMoved⟩ := h.own id error moved response hOld
      exact ⟨sent, List.mem_append_left _ hSent, hMoved⟩
    · cases List.mem_singleton.mp hNew

theorem ItemsNoted.of_update {item after : Connection.RequestItem} (h : ItemsNoted s notes)
    (hItem : s.items id = some item) (hAfter : after.callback.invoked = true)
    (hMoved : after.request = none)
    (hItems : s'.items = Function.update s.items id (some after)) (hTicket : s'.ticketID = s.ticketID)
    (hInvoked : ∀ other ∈ noted.filterMap Observation.invoked?, other = id)
    (hAccepted : noted.filterMap Observation.accepted? = [])
    (hOnce : ((notes ++ noted).filterMap Observation.invoked?).Nodup)
    (hOwn : ∀ id error request response, .invoked id error request response ∈ noted →
      ∃ sent, .accepted id sent ∈ notes ∧ request = some { sent with messageID := id }) :
    ItemsNoted s' (notes ++ noted) := by
  constructor
  · intro other hOther
    rw [hTicket]
    by_cases hEq : other = id
    · exact hEq ▸ h.issued id (by simp [hItem])
    · rw [hItems, Function.update_of_ne hEq] at hOther
      exact h.issued other hOther
  · intro other old hOld
    by_cases hEq : other = id
    · subst hEq
      rw [hItems, Function.update_self] at hOld
      obtain rfl := Option.some.inj hOld
      obtain ⟨sent, hSent, -⟩ := h.accepted other item hItem
      exact ⟨sent, List.mem_append_left _ hSent, fun hFresh => by simp [hAfter] at hFresh,
        fun _ => hMoved⟩
    · rw [hItems, Function.update_of_ne hEq] at hOld
      obtain ⟨sent, hSent, hOpen, hDone⟩ := h.accepted other old hOld
      refine ⟨sent, List.mem_append_left _ hSent, fun hFresh => ⟨(hOpen hFresh).1, ?_⟩, hDone⟩
      rw [List.filterMap_append]
      exact List.not_mem_append (hOpen hFresh).2 fun hMem => hEq (hInvoked other hMem)
  · intro other hOther
    rw [List.filterMap_append, hAccepted, List.append_nil] at hOther
    rw [hItems]
    by_cases hEq : other = id
    · simp [hEq]
    · rw [Function.update_of_ne hEq]
      exact h.known other hOther
  · rw [List.filterMap_append, hAccepted, List.append_nil]
    exact h.numbered
  · exact hOnce
  · intro other error request response hNote
    have hSent : ∃ sent, .accepted other sent ∈ notes ∧
        request = some { sent with messageID := other } := by
      rcases List.mem_append.mp hNote with hOld | hNew
      · exact h.own other error request response hOld
      · exact hOwn other error request response hNew
    obtain ⟨sent, hMem, hRequest⟩ := hSent
    exact ⟨sent, List.mem_append_left _ hMem, hRequest⟩

theorem ItemsNoted.messageID (h : ItemsNoted s notes) {request : Request}
    (hRequest : (s.items id).bind Connection.RequestItem.request = some request) :
    request.messageID = id := by
  obtain ⟨item, hItem, hSome⟩ := Option.bind_eq_some_iff.mp hRequest
  obtain ⟨sent, -, hOpen, hDone⟩ := h.accepted id item hItem
  cases hInvoked : item.callback.invoked with
  | false => rw [← Option.some.inj ((hOpen hInvoked).1.symm.trans hSome)]
  | true => simp [hDone hInvoked] at hSome

theorem ItemsNoted.step (h : ItemsNoted s notes) (hEffect : ItemsEffect s s' noted) :
    ItemsNoted s' (notes ++ noted) := by
  cases hEffect with
  | same hItems hTicket hAccepted hInvoked => exact h.of_same hItems hTicket hAccepted hInvoked
  | accepts request item hNoted hRequest hFresh hItems hTicket =>
    subst hNoted
    exact h.of_accepts hFresh hRequest hItems hTicket
  | invokes id error response item after hItem hFresh hNoted hAfter hMoved hItems hTicket =>
    subst hNoted
    obtain ⟨sent, hSent, hOpen, -⟩ := h.accepted id item hItem
    obtain ⟨hRequest, hNot⟩ := hOpen hFresh
    refine h.of_update hItem hAfter hMoved hItems hTicket ?_ rfl ?_ ?_
    · simp [Observation.invoked?]
    · rw [List.filterMap_append]
      exact h.once.append (List.nodup_singleton _) (List.disjoint_singleton.mpr hNot)
    · intro other error request response hNote
      cases List.mem_singleton.mp hNote
      exact ⟨sent, hSent, hRequest⟩
  | again id item after hItem hAfter hMoved hNoted hItems hTicket =>
    subst hNoted
    refine h.of_update hItem hAfter hMoved hItems hTicket (by simp) rfl ?_ (by simp)
    rw [List.append_nil]
    exact h.once

end ItemsNoted

/-! ## Results of own transfers -/

/-- For what a frame is about to do there is a reason that has been noted. -/
def Sourced (uninitialised : Nat) (notes : List Observation) : Frame → Prop
  | .connection (.handleResult id result) | .removeHandle id result | .awaitPosted id result =>
    .ended id result ∈ notes
  | .connection (.invoke id error response) => Completes uninitialised notes id (errorToInt error) response
  | .connection .cancelAll | .connection (.cancelItems _) => .released ∈ notes
  | _ => True

structure ResultsNoted (uninitialised : Nat) (s : Shared) (frames : Multiset Frame)
    (notes : List Observation) : Prop where
  sourced : ∀ frame ∈ frames, Sourced uninitialised notes frame
  messages : ∀ message ∈ s.messages, .ended message.1 message.2 ∈ notes
  outcome : ∀ id error request response, .invoked id error request response ∈ notes →
    Completes uninitialised notes id error response

section ResultsNoted

variable {configuration : Connection.ConnectionConfiguration} {uninitialised thread : Nat}
  {notes : List Observation}

theorem Completes.more {id : MessageID} {error : Nat} {response : Option Response}
    (h : Completes uninitialised notes id error response) (noted : List Observation) :
    Completes uninitialised (notes ++ noted) id error response := by
  rcases h with ⟨result, hEnded, hResult⟩ | ⟨hReleased, hCancelled⟩
  · exact .inl ⟨result, List.mem_append_left _ hEnded, hResult⟩
  · exact .inr ⟨List.mem_append_left _ hReleased, hCancelled⟩

theorem Sourced.more {frame : Frame} (h : Sourced uninitialised notes frame)
    (noted : List Observation) : Sourced uninitialised (notes ++ noted) frame := by
  cases frame
  case connection inner =>
    cases inner
    case invoke => exact Completes.more h noted
    case handleResult | cancelAll | cancelItems => exact List.mem_append_left _ h
    all_goals exact trivial
  case removeHandle | awaitPosted => exact List.mem_append_left _ h
  all_goals exact trivial

/-- `handleResult` passes on what curl has reported for this request. -/
theorem sourced_of_connection {frame : Connection.Frame} {choice : Connection.Choice}
    {s s' : Connection.Shared} {frames : List Connection.Frame}
    {spawned : List (List Connection.Frame)} (hItems : ItemsNoted s notes)
    (hSourced : Sourced uninitialised notes (.connection frame)) (hCurl : isCurl frame = false)
    (h : Connection.perform configuration uninitialised thread frame choice s =
      some (s', frames, spawned)) :
    spawned = [] ∧ ∀ next ∈ frames, Sourced uninitialised
      (notes ++ observeConnection configuration frame choice s) (.connection next) := by
  cases frame
  case addRequest | awaitDone => cases hCurl
  case handleResult id result =>
    simp only [Connection.perform, Connection.handleResult, Connection.Shared.next] at h
    split at h
    · cases h
      refine ⟨rfl, fun next hNext => ?_⟩
      rw [List.mem_singleton.mp hNext]
      exact hSourced.more _
    · rename_i request hRequest
      have hID := hItems.messageID hRequest
      have hResult : Completes uninitialised notes id (errorToInt (errorOf result.rc))
          (responseOf uninitialised id result) := .inl ⟨result, hSourced, rfl, rfl⟩
      rw [hID] at h
      cases h
      refine ⟨rfl, fun next hNext => ?_⟩
      have hMore := hResult.more (observeConnection configuration (.handleResult id result) choice s)
      revert hNext hMore
      simp only [responseOf]
      cases result.rc <;> intro hNext hMore <;>
        simp only [List.mem_cons, List.not_mem_nil, or_false] at hNext
      all_goals rcases hNext with rfl | rfl | rfl
      all_goals first | exact trivial | exact hMore
  case userCode =>
    cases choice <;> simp only [Connection.perform, Connection.userCode, Connection.Shared.next] at h
    all_goals (try split at h)
    all_goals cases h
    case release hAlive =>
      refine ⟨rfl, fun next hNext => ?_⟩
      simp only [List.mem_cons, List.not_mem_nil, or_false] at hNext
      rcases hNext with rfl | rfl
      · simp [Sourced, observeConnection, hAlive]
      · exact trivial
    case proceed => exact ⟨rfl, fun _ hNext => absurd hNext List.not_mem_nil⟩
    all_goals
      refine ⟨rfl, fun next hNext => ?_⟩
      simp only [List.mem_cons, List.not_mem_nil, or_false] at hNext
      rcases hNext with rfl | rfl <;> exact trivial
  case cancelItems todo =>
    cases todo with
    | nil =>
      cases h
      exact ⟨rfl, fun _ hNext => absurd hNext List.not_mem_nil⟩
    | cons id todo =>
      cases h
      refine ⟨rfl, fun next hNext => ?_⟩
      have hReleased : Observation.released ∈ notes := hSourced
      simp only [List.mem_cons, List.not_mem_nil, or_false] at hNext
      rcases hNext with rfl | rfl
      · exact .inr ⟨List.mem_append_left _ hReleased, rfl, rfl⟩
      · exact List.mem_append_left _ hReleased
  case cancelAll =>
    simp only [Connection.perform, Connection.cancelAll, Connection.Shared.next] at h
    split at h
    · cases h
    · cases h
      refine ⟨rfl, fun next hNext => ?_⟩
      rw [List.mem_singleton.mp hNext]
      exact List.mem_append_left _ hSourced
  all_goals simp only [Connection.perform, Connection.sendRequest, Connection.addToStore,
    Connection.onFailure, Connection.invoke, Connection.removeByID, Connection.Shared.next] at h
  all_goals (repeat' split at h)
  all_goals cases h
  all_goals
    refine ⟨rfl, fun next hNext => ?_⟩
    first
      | exact absurd hNext List.not_mem_nil
      | (rw [List.mem_singleton.mp hNext]; exact trivial)

/-- What the callback is told is what the frame was to tell it. -/
theorem invoked_of_observe {frame : Frame} {choice : Choice} {s : Shared} {id : MessageID}
    {error : Nat} {request : Option Request} {response : Option Response}
    (h : .invoked id error request response ∈ observe configuration frame choice s) :
    ∃ code, frame = .connection (.invoke id code response) ∧ error = errorToInt code := by
  cases frame
  case connection inner =>
    cases choice
    case connection choice =>
      simp only [observe] at h
      cases inner <;> simp only [observeConnection] at h
      case invoke =>
        (repeat' split at h)
        all_goals first
          | exact absurd h List.not_mem_nil
          | (cases List.mem_singleton.mp h; exact ⟨_, rfl, rfl⟩)
      all_goals (repeat' split at h)
      all_goals first
        | exact absurd h List.not_mem_nil
        | cases List.mem_singleton.mp h
    all_goals cases h
  case multi =>
    cases choice <;> simp only [observe] at h
    case done =>
      split at h
      · cases List.mem_singleton.mp h
      · cases h
    all_goals cases h
  all_goals cases h

theorem ResultsNoted.of_frames {frame : Frame} {choice : Choice} {s s' : Shared}
    {rest : Multiset Frame} {next : List Frame} (hI : ResultsNoted uninitialised s (frame ::ₘ rest) notes)
    (hFrames : ∀ other ∈ next, Sourced uninitialised
      (notes ++ observe configuration frame choice s) other)
    (hMessages : ∀ message ∈ s'.messages, message ∈ s.messages ∨
      .ended message.1 message.2 ∈ observe configuration frame choice s) :
    ResultsNoted uninitialised s' (↑next + rest)
      (notes ++ observe configuration frame choice s) where
  sourced other hOther := by
    rcases Multiset.mem_add.mp hOther with hNew | hOld
    · exact hFrames other (Multiset.mem_coe.mp hNew)
    · exact (hI.sourced other (Multiset.mem_cons_of_mem hOld)).more _
  messages message hMessage := by
    rcases hMessages message hMessage with hOld | hNew
    · exact List.mem_append_left _ (hI.messages message hOld)
    · exact List.mem_append_right _ hNew
  outcome id error request response hNote := by
    rcases List.mem_append.mp hNote with hOld | hNew
    · exact (hI.outcome id error request response hOld).more _
    · obtain ⟨code, rfl, rfl⟩ := invoked_of_observe hNew
      exact (show Completes uninitialised notes id _ response from
        hI.sourced _ (Multiset.mem_cons_self _ _)).more _

theorem ResultsNoted.step {frame : Frame} {choice : Choice} {s s' : Shared} {rest : Multiset Frame}
    {frames : List Frame} {spawned : List (List Frame)}
    (hI : ResultsNoted uninitialised s (frame ::ₘ rest) notes) (hItems : ItemsNoted s.toShared notes)
    (h : perform configuration uninitialised thread frame choice s = some (s', frames, spawned)) :
    ResultsNoted uninitialised s' (↑(frames ++ spawned.flatten) + rest)
      (notes ++ observe configuration frame choice s) := by
  have hSourced := hI.sourced frame (Multiset.mem_cons_self _ _)
  cases frame
  case connection inner =>
    cases choice
    case connection choice =>
      simp only [perform] at h
      by_cases hCurl : isCurl inner = true
      · cases inner <;> cases hCurl <;> simp only [connection, addRequest, Shared.next] at h
        · split at h <;> cases h
          exact hI.of_frames (by simp) fun _ hMessage => .inl hMessage
        · cases h
      · have hNot := Bool.eq_false_iff.mpr hCurl
        rcases connection_cases hNot h with
          ⟨rfl, rfl, rfl, -⟩ | ⟨shared, next, more, hInner, rfl, rfl, rfl, hNoted⟩
        · refine hI.of_frames (fun other hOther => ?_) fun _ hMessage => .inl hMessage
          obtain rfl := List.mem_singleton.mp (by simpa using hOther)
          exact hSourced.more _
        · obtain ⟨rfl, hNext⟩ := sourced_of_connection hItems hSourced hNot hInner
          refine hI.of_frames (fun other hOther => ?_) fun _ hMessage => .inl hMessage
          obtain ⟨inside, hInside, rfl⟩ := List.mem_map.mp (by simpa using hOther)
          rw [hNoted]
          exact hNext inside hInside
    all_goals cases h
  case multi =>
    cases choice <;> simp only [perform, multi, Shared.next] at h
    case done id result =>
      split at h
      · rename_i hTransfer
        cases h
        refine hI.of_frames (by simp [Sourced]) fun message hMessage => ?_
        rcases List.mem_append.mp hMessage with hOld | hNew
        · exact .inl hOld
        · rw [List.mem_singleton.mp hNew]
          simp [observe, hTransfer]
      · cases h
    all_goals cases h
    exact hI.of_frames (by simp [Sourced]) fun _ hMessage => .inl hMessage
  case readMessage =>
    simp only [perform, readMessage, Shared.next] at h
    split at h
    · cases h
    · split at h
      · cases h
        exact hI.of_frames (by simp) fun _ hMessage => .inl hMessage
      · rename_i id result messages hMessages
        cases h
        have hFirst : .ended id result ∈ notes := hI.messages (id, result) (by simp [hMessages])
        refine hI.of_frames (fun other hOther => ?_) fun message hMessage => .inl (by simp [hMessages, hMessage])
        simp only [List.flatten_nil, List.append_nil, List.mem_cons, List.not_mem_nil, or_false] at hOther
        rcases hOther with rfl | rfl
        · exact List.mem_append_left _ hFirst
        · exact trivial
  all_goals simp only [perform, socketAction, checkMultiInfo, removeHandle, awaitPosted,
    Shared.next] at h
  all_goals (repeat' split at h)
  all_goals cases h
  all_goals
    refine hI.of_frames (fun other hOther => ?_) fun _ hMessage => .inl hMessage
    obtain rfl := List.mem_singleton.mp (by simpa using hOther)
    first | exact trivial | exact List.mem_append_left _ hSourced

end ResultsNoted

/-! ## One transfer for a request -/

/-- The request is on its way to curl. -/
def adding (id : MessageID) : Connection.Frame → Nat
  | .addToStore other | .addRequest other => if other = id then 1 else 0
  | _ => 0

def bringing (id : MessageID) : Frame → Nat
  | .connection frame => adding id frame
  | _ => 0

/-- A request goes to curl once, so its transfer ends once. -/
def TransfersNoted (s : Shared) (frames : Multiset Frame) (notes : List Observation) : Prop :=
  ∀ id, load (bringing id) frames + (s.running ++ s.added).count id +
    (notes.filterMap Observation.ended?).count id ≤ (s.items id).isSome.toNat

section TransfersNoted

variable {configuration : Connection.ConnectionConfiguration} {uninitialised thread : Nat}
  {notes : List Observation}

theorem isSome_update (items : MessageID → Option Connection.RequestItem) (id other : MessageID)
    (item : Connection.RequestItem) :
    (items other).isSome.toNat ≤ (Function.update items id (some item) other).isSome.toNat := by
  rw [Function.update_apply]
  split
  · exact Bool.toNat_le _
  · exact Nat.le_refl _

theorem ItemsEffect.isSome_le {s s' : Connection.Shared} {noted : List Observation}
    (h : ItemsEffect s s' noted) (id : MessageID) :
    (s.items id).isSome.toNat ≤ (s'.items id).isSome.toNat := by
  cases h with
  | same hItems => rw [hItems]
  | accepts _ _ _ _ _ hItems | invokes _ _ _ _ _ _ _ _ _ _ hItems | again _ _ _ _ _ _ _ hItems =>
    rw [hItems]
    exact isSome_update _ _ _ _

theorem ended_observeConnection (frame : Connection.Frame) (choice : Connection.Choice)
    (s : Connection.Shared) :
    (observeConnection configuration frame choice s).filterMap Observation.ended? = [] := by
  cases frame <;> simp only [observeConnection]
  all_goals (repeat' split)
  all_goals rfl

/-- Only an accepted request sets out for curl. -/
theorem adding_of_connection {frame : Connection.Frame} {choice : Connection.Choice}
    {s s' : Connection.Shared} {frames : List Connection.Frame}
    {spawned : List (List Connection.Frame)} (hFresh : s.items (s.ticketID + 1) = none)
    (hCurl : isCurl frame = false)
    (h : Connection.perform configuration uninitialised thread frame choice s =
      some (s', frames, spawned)) (id : MessageID) :
    (frames.map (adding id)).sum + (s.items id).isSome.toNat ≤
      adding id frame + (s'.items id).isSome.toNat := by
  have hMore := (itemsEffect_of_connection h).isSome_le id
  have hNone : (∀ next ∈ frames, adding id next = 0) → (frames.map (adding id)).sum = 0 :=
    fun hAll => List.sum_eq_zero fun n hn => by
      obtain ⟨next, hNext, rfl⟩ := List.mem_map.mp hn
      exact hAll next hNext
  cases frame
  case addRequest | awaitDone => cases hCurl
  case sendRequest request =>
    simp only [Connection.perform, Connection.sendRequest, Connection.Shared.next] at h
    split at h
    · cases h
      exact Nat.add_le_add_left hMore 0
    · split at h
      · cases h
        exact Nat.add_le_add_left hMore 0
      · cases h
        by_cases hEq : s.ticketID + 1 = id
        · subst hEq
          simp [adding, hFresh]
        · simpa [adding, hEq] using hMore
  case addToStore other =>
    simp only [Connection.perform, Connection.addToStore, Connection.Shared.next] at h
    split at h
    · cases h
    · cases h
      exact Nat.add_le_add_left hMore _
  all_goals
    refine Nat.add_le_add (Nat.le_of_eq (hNone ?_)) hMore
    clear hNone hMore
  case userCode =>
    cases choice <;> simp only [Connection.perform, Connection.userCode, Connection.Shared.next] at h
    all_goals (try split at h)
    all_goals cases h
    all_goals simp [adding]
  case cancelItems todo =>
    cases todo <;> cases h <;> simp [adding]
  all_goals simp only [Connection.perform, Connection.handleResult, Connection.onFailure,
    Connection.invoke, Connection.removeByID, Connection.cancelAll, Connection.Shared.next] at h
  all_goals (repeat' split at h)
  all_goals cases h
  all_goals simp [adding]

theorem load_bringing_connection (id : MessageID) (frames : List Connection.Frame) :
    load (bringing id) ↑(frames.map Frame.connection ++
      (([] : List (List Connection.Frame)).map (List.map Frame.connection)).flatten) =
      (frames.map (adding id)).sum := by
  rw [load_coe, List.map_nil, List.flatten_nil, List.append_nil, List.map_map]
  rfl

theorem TransfersNoted.of_same {s s' : Shared} {before after : Multiset Frame}
    {noted : List Observation} (h : TransfersNoted s before notes)
    (hItems : s'.items = s.items) (hCount : ∀ id, load (bringing id) after +
      (s'.running ++ s'.added).count id + (noted.filterMap Observation.ended?).count id =
        load (bringing id) before + (s.running ++ s.added).count id) :
    TransfersNoted s' after (notes ++ noted) := by
  intro id
  have hBefore := h id
  have hSame := hCount id
  simp only [List.filterMap_append, List.count_append] at hBefore hSame ⊢
  rw [hItems]
  omega

theorem TransfersNoted.step {frame : Frame} {choice : Choice} {s s' : Shared} {rest : Multiset Frame}
    {frames : List Frame} {spawned : List (List Frame)}
    (hI : TransfersNoted s (frame ::ₘ rest) notes) (hItems : ItemsNoted s.toShared notes)
    (hResults : ResultsNoted uninitialised s (frame ::ₘ rest) notes)
    (h : perform configuration uninitialised thread frame choice s = some (s', frames, spawned)) :
    TransfersNoted s' (↑(frames ++ spawned.flatten) + rest)
      (notes ++ observe configuration frame choice s) := by
  cases frame
  case connection inner =>
    cases choice
    case connection choice =>
      simp only [perform] at h
      by_cases hCurl : isCurl inner = true
      · cases inner <;> cases hCurl <;> simp only [connection, addRequest, Shared.next] at h
        · split at h <;> cases h
          refine hI.of_same rfl fun id => ?_
          simp [bringing, adding, observe, observeConnection, List.count_singleton]
          omega
        · cases h
      · have hNot := Bool.eq_false_iff.mpr hCurl
        have hSourced := hResults.sourced _ (Multiset.mem_cons_self _ _)
        rcases connection_cases hNot h with
          ⟨rfl, rfl, rfl, hNoted⟩ | ⟨shared, next, more, hInner, rfl, rfl, rfl, hNoted⟩
        · refine hI.of_same rfl fun id => ?_
          rw [hNoted]
          simp
        · obtain ⟨rfl, -⟩ := sourced_of_connection hItems hSourced hNot hInner
          intro id
          have hBefore := hI id
          have hAdding := adding_of_connection hItems.fresh hNot hInner id
          simp only [hNoted, List.filterMap_append, ended_observeConnection, List.append_nil]
          rw [load_cons, bringing] at hBefore
          rw [load_add, load_bringing_connection]
          omega
    all_goals cases h
  case multi =>
    cases choice <;> simp only [perform, multi, Shared.next] at h
    case done id result =>
      split at h
      · rename_i hTransfer
        cases h
        have hBefore := hI id
        have hLe := Bool.toNat_le (s.items id).isSome
        have hCount := count_of_transferDone hTransfer (by omega)
        refine hI.of_same rfl fun other => ?_
        rw [← hCount other]
        simp [bringing, observe, hTransfer, Observation.ended?, List.count_singleton]
        omega
      · cases h
    all_goals cases h
    refine hI.of_same rfl fun id => ?_
    simp [bringing, observe]
  all_goals simp only [perform, socketAction, checkMultiInfo, readMessage, removeHandle, awaitPosted,
    Shared.next] at h
  all_goals (repeat' split at h)
  all_goals cases h
  all_goals
    refine hI.of_same rfl fun id => ?_
    simp [bringing, adding, observe]

end TransfersNoted

/-! ## Every run -/

structure NotesInvariant (uninitialised : Nat) (s : Shared) (frames : Multiset Frame)
    (notes : List Observation) : Prop where
  items : ItemsNoted s.toShared notes
  results : ResultsNoted uninitialised s frames notes
  transfers : TransfersNoted s frames notes

section Machine

variable (configuration : Connection.ConnectionConfiguration) (uninitialised : Nat)

theorem notes_preserved :
    Preserved ((machine configuration uninitialised).observed (observe configuration))
      Guard.all.observed fun s frames =>
        True ∧ NotesInvariant uninitialised s.1 frames s.2 := by
  refine preserved_true.noting ?_ ?_
  · intro thread frame choice s rest s' frames spawned notes _ hNotes _ hExec
    have hPerform := perform_of_exec hExec
    obtain ⟨hItems, hResults, hTransfers⟩ := hNotes
    exact ⟨hItems.step (itemsEffect_of_perform hPerform), hResults.step hItems hPerform,
      hTransfers.step hItems hResults hPerform⟩
  · intro event quiet s rest s' frames notes hNotes hEnter
    obtain ⟨hItems, ⟨hSourced, hMessages, hOutcome⟩, hTransfers⟩ := hNotes
    obtain ⟨rfl, hFrames⟩ := enter_cases hEnter
    refine ⟨hItems, ⟨fun frame hFrame => ?_, hMessages, hOutcome⟩, fun id => ?_⟩
    · rcases Multiset.mem_add.mp hFrame with hNew | hOld
      · rcases hFrames with rfl | rfl <;> rw [List.mem_singleton.mp (Multiset.mem_coe.mp hNew)] <;>
          exact trivial
      · exact hSourced frame hOld
    · have hSame : load (bringing id) (↑frames + rest) = load (bringing id) rest := by
        rcases hFrames with rfl | rfl <;> simp [bringing, adding]
      rw [hSame]
      exact hTransfers id

theorem notes_initial : NotesInvariant uninitialised initial.shared initial.frames [] := by
  constructor
  · constructor <;> simp [initial]
  · constructor <;> simp [initial, Config.frames]
  · simp [TransfersNoted, initial, Config.frames]

variable {configuration uninitialised} {c : Config (Shared × List Observation) Frame}

/-- **The callback contract of the HTTP connection.** With curl and user code doing what
they like, a callback is called at most once, with the request that was accepted and with
the result of its only transfer, or because the connection went away. -/
theorem http_callback_contract
    (h : Reaches ((machine configuration uninitialised).observed (observe configuration))
      invokesApart.observed initial.observed c) : CallbackContract uninitialised c.shared.2 := by
  obtain ⟨-, hItems, hResults, hTransfers⟩ :=
    h.invariant ((notes_preserved configuration uninitialised).under _)
      ⟨trivial, notes_initial uninitialised⟩
  refine ⟨hItems.numbered, List.nodup_iff_count_le_one.mpr fun id => ?_, hItems.once, hItems.own,
    hResults.outcome⟩
  have hOnce := hTransfers id
  have hLe := Bool.toNat_le (c.shared.1.items id).isSome
  omega

/-- Thread 0 sends a request, curl is run by thread 1 and ends the transfer, and thread 2
completes the request. -/
def completeFirst : List (Label Choice Event) :=
  [.enter .thread, .run 0 (.connection (.sendRequest Vst.versionRequest))] ++
    List.replicate 3 (.run 0 (.connection .proceed)) ++
    [.enter .socketAction, .run 1 .proceed, .run 1 (.done 1 { rc := .ok })] ++
    List.replicate 5 (.run 1 .proceed) ++ [.run 2 .proceed] ++
    List.replicate 2 (.run 2 (.connection .proceed))

theorem http_callback_contract_success :
    ∃ c : Config (Shared × List Observation) Frame,
      c.shared.2.filterMap Observation.ended? = [1] ∧
      c.shared.2.filterMap Observation.invoked? = [1] ∧ CallbackContract 0 c.shared.2 := by
  have hRun : (((machine {} 0).observed (observe {})).steps invokesApart.observed initial.observed
      completeFirst).any
      (fun c => c.shared.2.filterMap Observation.ended? = [1] ∧
        c.shared.2.filterMap Observation.invoked? = [1]) = true := by
    decide +kernel
  obtain ⟨c, hReaches, hTest⟩ := exists_reaches_of_steps hRun
  obtain ⟨hEnded, hInvoked⟩ := of_decide_eq_true hTest
  exact ⟨c, hEnded, hInvoked, http_callback_contract hReaches⟩

end Machine

end Fuerte.Http.RequestsLeft

import Fuerte.Http.LockDiscipline

/-! # Curl's count of the requests

The connection adds handles to curl, curl reports how many transfers are running
whenever it has been run, and a transfer that has ended is completed later, by a
function that is posted to the event loop. `requestsLeft` is the last report.
-/

namespace Fuerte.Http.RequestsLeft

set_option autoImplicit false

open Interleaving

structure Shared extends Connection.Shared where
  /-- The handles whose transfers have not ended, as curl has reported them last. -/
  running : List MessageID := []
  /-- The handles that have been added since then. -/
  added : List MessageID := []
  /-- The transfers that have ended, whose messages have not been read. -/
  messages : List (MessageID × Connection.Transfer) := []
  /-- A thread is inside `curl_multi_socket_action`. -/
  multiMutex : Bool := false
  /-- `_requests_left`. -/
  requestsLeft : Nat := 0

inductive Frame where
  | connection (frame : Connection.Frame)
  /-- `timer_cb` or `event_cb`. -/
  | socketAction
  /-- Curl runs. -/
  | multi
  | checkMultiInfo (stillRunning : Nat)
  | readMessage
  | removeHandle (item : MessageID) (result : Connection.Transfer)
  /-- The posted function that calls `_request_done_cb`. It does not keep the connection alive. -/
  | awaitPosted (item : MessageID) (result : Connection.Transfer)

inductive Choice where
  | proceed
  | connection (choice : Connection.Choice)
  /-- A transfer ends while curl runs. -/
  | done (item : MessageID) (result : Connection.Transfer)

inductive Event where
  /-- A thread of the user comes along. -/
  | thread
  /-- The timer of curl expires, or something happens on a socket. -/
  | socketAction

abbrev Outcome := Shared × List Frame × List (List Frame)

namespace Shared

def next (s : Shared) (frames : List Frame) : Option Outcome := some (s, frames, [])

end Shared

section Steps

variable (configuration : Connection.ConnectionConfiguration) (uninitialised : Nat)

/-- The handle is added; curl will call back when it wants to be run. -/
def addRequest (id : MessageID) (s : Shared) : Option Outcome :=
  if s.multiMutex then none else { s with added := s.added ++ [id] }.next []

/-- What is left to the connection is done as without curl. -/
def connection (thread : Nat) (frame : Connection.Frame) (choice : Connection.Choice) (s : Shared) :
    Option Outcome :=
  match frame with
  | .addRequest id => addRequest id s
  | .awaitDone _ => none
  | frame =>
    match Connection.exec configuration uninitialised thread frame choice s.toShared with
    | none => none
    | some (shared, frames, spawned) =>
      some ({ s with toShared := shared }, frames.map .connection,
        spawned.map (List.map .connection))

def socketAction (s : Shared) : Option Outcome :=
  if s.multiMutex then none else { s with multiMutex := true }.next [.multi]

/-- Curl ends a transfer, or returns the number of those that are running. -/
def multi (choice : Choice) (s : Shared) : Option Outcome :=
  match choice with
  | .done id result =>
    if id ∈ s.running ++ s.added then
      { s with
        running := s.running.erase id
        added := s.added.erase id
        messages := s.messages ++ [(id, result)] }.next [.multi]
    else none
  | .proceed =>
    let running := s.running ++ s.added
    { s with running, added := [], multiMutex := false }.next [.checkMultiInfo running.length]
  | .connection _ => none

def checkMultiInfo (stillRunning : Nat) (s : Shared) : Option Outcome :=
  { s with requestsLeft := stillRunning }.next [.readMessage]

/-- `curl_multi_info_read`. -/
def readMessage (s : Shared) : Option Outcome :=
  if s.multiMutex then none
  else match s.messages with
    | [] => s.next []
    | (id, result) :: messages => { s with messages }.next [.removeHandle id result, .readMessage]

/-- `curl_multi_remove_handle`, and the post. -/
def removeHandle (id : MessageID) (result : Connection.Transfer) (s : Shared) : Option Outcome :=
  if s.multiMutex then none else some (s, [], [[.awaitPosted id result]])

def awaitPosted (id : MessageID) (result : Connection.Transfer) (s : Shared) : Option Outcome :=
  s.next [.connection (.handleResult id result)]

def perform (thread : Nat) (frame : Frame) (choice : Choice) (s : Shared) : Option Outcome :=
  match frame, choice with
  | .connection frame, .connection choice => connection configuration uninitialised thread frame choice s
  | .connection _, _ => none
  | .socketAction, _ => socketAction s
  | .multi, choice => multi choice s
  | .checkMultiInfo stillRunning, _ => checkMultiInfo stillRunning s
  | .readMessage, _ => readMessage s
  | .removeHandle id result, _ => removeHandle id result s
  | .awaitPosted id result, _ => awaitPosted id result s

/-- The items that the destructor has freed have taken their handles from curl. -/
def enter (event : Event) (s : Shared) : Option (Shared × List Frame) :=
  match event with
  | .thread => if s.destroyed then none else some (s, [.connection .userCode])
  | .socketAction => if s.freed then none else some (s, [.socketAction])

def machine : Machine Shared Frame Choice Event where
  exec thread frame choice s :=
    if s.fault.isSome then none else perform configuration uninitialised thread frame choice s
  enter event _ s := if s.fault.isSome then none else enter event s

/-- A connection right after its construction. -/
def initial : Config Shared Frame where
  shared := {}
  threads := []

end Steps

/-! ## What a single step can do -/

/-- The connection is called with a handle that curl has, or calls curl itself. -/
def isCurl : Connection.Frame → Bool
  | .addRequest _ | .awaitDone _ => true
  | _ => false

inductive Step (configuration : Connection.ConnectionConfiguration) (uninitialised thread : Nat) :
    Frame → Shared → Shared → List Frame → List (List Frame) → Prop where
  | connection {s : Shared} {shared : Connection.Shared} {frames : List Connection.Frame}
    {spawned : List (List Connection.Frame)} (frame : Connection.Frame)
    (choice : Connection.Choice) (hFrame : isCurl frame = false)
    (h : Connection.perform configuration uninitialised thread frame choice s.toShared =
      some (shared, frames, spawned)) :
    Step configuration uninitialised thread (.connection frame) s { s with toShared := shared }
      (frames.map .connection) (spawned.map (List.map .connection))
  | lost {s : Shared} (frame : Connection.Frame)
    (hFreed : (Connection.completes frame && s.freed) = true) :
    Step configuration uninitialised thread (.connection frame) s
      { s with fault := some .useAfterFree } [.connection frame] []
  | addRequest {s : Shared} (id : MessageID) (hMutex : s.multiMutex = false) :
    Step configuration uninitialised thread (.connection (.addRequest id)) s
      { s with added := s.added ++ [id] } [] []
  | socketAction {s : Shared} (hMutex : s.multiMutex = false) :
    Step configuration uninitialised thread .socketAction s { s with multiMutex := true } [.multi] []
  | transferDone {s : Shared} (id : MessageID) (result : Connection.Transfer)
    (hTransfer : id ∈ s.running ++ s.added) :
    Step configuration uninitialised thread .multi s
      { s with
        running := s.running.erase id
        added := s.added.erase id
        messages := s.messages ++ [(id, result)] } [.multi] []
  | reported {s : Shared} :
    Step configuration uninitialised thread .multi s
      { s with running := s.running ++ s.added, added := [], multiMutex := false }
      [.checkMultiInfo (s.running ++ s.added).length] []
  | checkMultiInfo {s : Shared} (stillRunning : Nat) :
    Step configuration uninitialised thread (.checkMultiInfo stillRunning) s
      { s with requestsLeft := stillRunning } [.readMessage] []
  | nothingToRead {s : Shared} (hMessages : s.messages = []) :
    Step configuration uninitialised thread .readMessage s s [] []
  | readMessage {s : Shared} (id : MessageID) (result : Connection.Transfer)
    (messages : List (MessageID × Connection.Transfer))
    (hMessages : s.messages = (id, result) :: messages) :
    Step configuration uninitialised thread .readMessage s { s with messages }
      [.removeHandle id result, .readMessage] []
  | removeHandle {s : Shared} (id : MessageID) (result : Connection.Transfer) :
    Step configuration uninitialised thread (.removeHandle id result) s s []
      [[.awaitPosted id result]]
  | awaitPosted {s : Shared} (id : MessageID) (result : Connection.Transfer) :
    Step configuration uninitialised thread (.awaitPosted id result) s s
      [.connection (.handleResult id result)] []

section Rules

variable {configuration : Connection.ConnectionConfiguration} {uninitialised thread : Nat}
  {frame : Frame} {choice : Choice} {s s' : Shared} {frames : List Frame}
  {spawned : List (List Frame)}

/-- A step that curl has nothing to do with is one of the connection itself. -/
theorem exec_of_connection {frame : Connection.Frame} {choice : Connection.Choice}
    (hCurl : isCurl frame = false)
    (h : connection configuration uninitialised thread frame choice s = some (s', frames, spawned)) :
    ∃ shared inner innerSpawned,
      Connection.exec configuration uninitialised thread frame choice s.toShared =
        some (shared, inner, innerSpawned) ∧
      s' = { s with toShared := shared } ∧ frames = inner.map .connection ∧
      spawned = innerSpawned.map (List.map .connection) := by
  have hExec : (match Connection.exec configuration uninitialised thread frame choice
      s.toShared with
    | none => none
    | some (shared, frames, spawned) => some ({ s with toShared := shared },
        frames.map Frame.connection, spawned.map (List.map Frame.connection))) =
      some (s', frames, spawned) := by
    cases frame <;> first | exact h | cases hCurl
  split at hExec
  · cases hExec
  · rename_i hStep
    cases hExec
    exact ⟨_, _, _, hStep, rfl, rfl, rfl⟩

theorem step_of_connection {frame : Connection.Frame} {choice : Connection.Choice}
    (h : connection configuration uninitialised thread frame choice s = some (s', frames, spawned)) :
    Step configuration uninitialised thread (.connection frame) s s' frames spawned := by
  by_cases hCurl : isCurl frame = true
  · cases frame <;> cases hCurl
    · simp only [connection, addRequest, Shared.next] at h
      split at h
      · cases h
      · rename_i id hMutex
        cases h
        exact .addRequest id (Bool.eq_false_iff.mpr hMutex)
    · cases h
  · have hOwn := Bool.eq_false_iff.mpr hCurl
    obtain ⟨shared, inner, innerSpawned, hStep, rfl, rfl, rfl⟩ := exec_of_connection hOwn h
    rcases Connection.exec_cases hStep with ⟨hFreed, rfl, rfl, rfl⟩ | ⟨-, hPerform⟩
    · exact .lost frame hFreed
    · exact .connection frame choice hOwn hPerform

theorem step_of_exec (h : (machine configuration uninitialised).exec thread frame choice s =
    some (s', frames, spawned)) :
    Step configuration uninitialised thread frame s s' frames spawned := by
  simp only [machine] at h
  split at h
  · cases h
  · simp only [perform] at h
    split at h
    · exact step_of_connection h
    · cases h
    all_goals simp only [socketAction, multi, checkMultiInfo, readMessage, removeHandle, awaitPosted,
      Shared.next] at h
    all_goals (repeat' split at h)
    all_goals cases h
    all_goals (constructor <;> first | assumption | simp_all)

theorem enter_cases {event : Event} {quiet : Bool}
    (h : (machine configuration uninitialised).enter event quiet s = some (s', frames)) :
    s' = s ∧ (frames = [.connection .userCode] ∨ frames = [.socketAction]) := by
  simp only [machine, enter] at h
  split at h
  · cases h
  · cases event <;> simp only at h <;> split at h <;> cases h
    · exact ⟨rfl, .inl rfl⟩
    · exact ⟨rfl, .inr rfl⟩

end Rules

/-! ## Every request is in one place -/

/-- The item has a callback that has not been invoked. -/
def isOpen (s : Connection.Shared) (id : MessageID) : Bool :=
  (s.items id).any fun item => !item.callback.invoked

/-- The connection is about to hand the request to curl, or to complete it. -/
def handling (id : MessageID) : Connection.Frame → Nat
  | .addToStore other | .addRequest other | .handleResult other _ | .invoke other _ _ =>
    if other = id then 1 else 0
  | _ => 0

def destroying : Connection.Frame → Nat
  | .cancelAll | .cancelItems _ => 1
  | _ => 0

/-- What a step of a living connection does with the requests in progress. -/
structure Handles (s s' : Connection.Shared) (frame : Connection.Frame)
    (frames : List Connection.Frame) (spawned : List (List Connection.Frame)) : Prop where
  spawned : spawned = []
  destroyed : s.destroyed = false
  destroying : (frames.map destroying).sum = 0
  issued : ∀ id, s'.items id ≠ none → id ≤ s'.ticketID
  handling : ∀ id, handling id frame ≤ (isOpen s id).toNat →
    (frames.map (handling id)).sum + (isOpen s id).toNat = handling id frame + (isOpen s' id).toNat

section Connection

variable {configuration : Connection.ConnectionConfiguration} {uninitialised thread : Nat}
  {frame : Connection.Frame} {choice : Connection.Choice} {s s' : Connection.Shared}
  {frames : List Connection.Frame} {spawned : List (List Connection.Frame)}

theorem Handles.of_same (hItems : s'.items = s.items) (hTicket : s.ticketID ≤ s'.ticketID)
    (hIssued : ∀ id, s.items id ≠ none → id ≤ s.ticketID) (hDestroyed : s.destroyed = false)
    (hDestroying : (frames.map RequestsLeft.destroying).sum = 0)
    (hHandling : ∀ id, (frames.map (RequestsLeft.handling id)).sum = RequestsLeft.handling id frame) :
    Handles s s' frame frames [] where
  spawned := rfl
  destroyed := hDestroyed
  destroying := hDestroying
  issued id hid := (hIssued id (hItems ▸ hid)).trans hTicket
  handling id _ := by rw [hHandling, isOpen, isOpen, hItems]

theorem handles_sendRequest {request : Request} {item : Connection.RequestItem}
    (hIssued : ∀ id, s.items id ≠ none → id ≤ s.ticketID) (hDestroyed : s.destroyed = false)
    (hItem : item.callback.invoked = false) :
    Handles s { s with
      ticketID := s.ticketID + 1
      items := Function.update s.items (s.ticketID + 1) (some item) }
      (.sendRequest request) [.addToStore (s.ticketID + 1)] [] where
  spawned := rfl
  destroyed := hDestroyed
  destroying := rfl
  issued id hid := by
    by_cases hEq : id = s.ticketID + 1
    · exact Nat.le_of_eq hEq
    · simp only [Function.update_of_ne hEq] at hid
      exact Nat.le_succ_of_le (hIssued id hid)
  handling id _ := by
    by_cases hEq : id = s.ticketID + 1
    · have hFresh : s.items id = none := by
        by_contra hSome
        exact Nat.not_succ_le_self _ (hEq ▸ hIssued id hSome)
      subst hEq
      simp [RequestsLeft.handling, isOpen, hFresh, hItem]
    · simp [RequestsLeft.handling, isOpen, Function.update_of_ne hEq, Ne.symm hEq]

theorem handles_invoke {id : MessageID} {error : ErrorCondition} {response : Option Response}
    {item after : Connection.RequestItem} {calls : List Vst.Invocation}
    (hIssued : ∀ id, s.items id ≠ none → id ≤ s.ticketID) (hDestroyed : s.destroyed = false)
    (hItem : s.items id = some item) (hAfter : after.callback.invoked = true)
    (hDestroying : (frames.map RequestsLeft.destroying).sum = 0)
    (hFrames : ∀ id, (frames.map (RequestsLeft.handling id)).sum = 0) :
    Handles s { s with items := Function.update s.items id (some after), calls }
      (.invoke id error response) frames [] where
  spawned := rfl
  destroyed := hDestroyed
  destroying := hDestroying
  issued other hOther := by
    by_cases hEq : other = id
    · exact hIssued other (by simp [hEq, hItem])
    · simp only [Function.update_of_ne hEq] at hOther
      exact hIssued other hOther
  handling other hLe := by
    by_cases hEq : other = id
    · subst hEq
      have hOpen : (isOpen s other).toNat = 1 := by
        rw [RequestsLeft.handling, if_pos rfl] at hLe
        exact Nat.le_antisymm (Bool.toNat_le _) hLe
      rw [hFrames, hOpen]
      simp [RequestsLeft.handling, isOpen, hAfter]
    · simp [hFrames, RequestsLeft.handling, isOpen, Function.update_of_ne hEq, Ne.symm hEq]

theorem createRequestItem_callback {destination : ByteString} {request : Request}
    {item : Connection.RequestItem}
    (h : Connection.createRequestItem configuration destination request = .ok item) :
    item.callback = { cb := .user } := by
  rw [Connection.createRequestItem] at h
  split at h <;> cases h
  rfl

theorem handles_of_perform (h : Connection.perform configuration uninitialised thread frame choice s =
      some (s', frames, spawned)) (hCurl : isCurl frame = false)
    (hIssued : ∀ id, s.items id ≠ none → id ≤ s.ticketID) (hAlive : s'.destroyed = false)
    (hNot : destroying frame = 0) : Handles s s' frame frames spawned := by
  cases frame
  case addRequest | awaitDone => cases hCurl
  case cancelAll | cancelItems => cases hNot
  case sendRequest request =>
    simp only [Connection.perform, Connection.sendRequest, Connection.Shared.next] at h
    split at h
    · cases h
      exact .of_same rfl (Nat.le_refl _) hIssued hAlive rfl fun _ => rfl
    · split at h
      · cases h
        exact .of_same rfl (Nat.le_succ _) hIssued hAlive rfl fun _ => rfl
      · rename_i item hItem
        cases h
        refine handles_sendRequest hIssued hAlive ?_
        rw [createRequestItem_callback hItem]
  case invoke id error response =>
    simp only [Connection.perform, Connection.invoke, Connection.Shared.next] at h
    split at h
    · cases h
    · rename_i item hItem
      split at h
      · cases h
        exact handles_invoke hIssued hAlive hItem rfl rfl fun _ => rfl
      · cases h
        exact handles_invoke hIssued hAlive hItem rfl rfl fun _ => rfl
  case handleResult id result =>
    simp only [Connection.perform, Connection.handleResult, Connection.Shared.next] at h
    split at h
    · cases h
      exact .of_same rfl (Nat.le_refl _) hIssued hAlive rfl fun _ => by simp
    · cases h
      refine .of_same rfl (Nat.le_refl _) hIssued hAlive ?_ fun _ => ?_
      · split <;> rfl
      · split <;> simp [RequestsLeft.handling]
  case userCode =>
    cases choice <;> simp only [Connection.perform, Connection.userCode, Connection.Shared.next] at h
    case release =>
      split at h
      · cases h
      · cases h
        cases hAlive
    case done => cases h
    all_goals (try split at h)
    all_goals cases h
    all_goals exact .of_same rfl (Nat.le_refl _) hIssued hAlive rfl fun _ => rfl
  all_goals simp only [Connection.perform, Connection.addToStore, Connection.onFailure,
    Connection.removeByID, Connection.Shared.next] at h
  all_goals split at h
  all_goals cases h
  all_goals exact .of_same rfl (Nat.le_refl _) hIssued hAlive rfl fun _ => rfl

end Connection

/-- The frame has the request in hand. -/
def carrying (id : MessageID) : Frame → Nat
  | .connection frame => handling id frame
  | .removeHandle other _ | .awaitPosted other _ => if other = id then 1 else 0
  | _ => 0

def cancelling : Frame → Nat
  | .connection frame => destroying frame
  | _ => 0

/-- As long as the connection lives, an unfinished request is with curl, or one
frame is about to hand it over or to complete it. -/
structure Conserved (s : Shared) (frames : Multiset Frame) : Prop where
  issued : ∀ id, s.items id ≠ none → id ≤ s.ticketID
  cancelling : load cancelling frames = 0
  once : ∀ id, load (carrying id) frames + (s.running ++ s.added).count id +
    (s.messages.map Prod.fst).count id = (isOpen s.toShared id).toNat

def reading : Frame → Nat
  | .multi | .checkMultiInfo _ | .readMessage => 1
  | _ => 0

/-- Somebody will read the messages. -/
def MessagesRead (s : Shared) (frames : Multiset Frame) : Prop :=
  s.messages ≠ [] → 0 < load reading frames

section Steps

variable {configuration : Connection.ConnectionConfiguration} {uninitialised thread : Nat}
  {frame : Frame} {s s' : Shared} {rest before after : Multiset Frame} {frames : List Frame}
  {spawned : List (List Frame)}

theorem Conserved.of_same (h : Conserved s before) (hItems : s'.items = s.items)
    (hTicket : s'.ticketID = s.ticketID)
    (hCancelling : load RequestsLeft.cancelling after = load RequestsLeft.cancelling before)
    (hOnce : ∀ id, load (carrying id) after + (s'.running ++ s'.added).count id +
      (s'.messages.map Prod.fst).count id = load (carrying id) before +
        (s.running ++ s.added).count id + (s.messages.map Prod.fst).count id) :
    Conserved s' after where
  issued := by
    rw [hItems, hTicket]
    exact h.issued
  cancelling := hCancelling.trans h.cancelling
  once id := by
    rw [hOnce, isOpen, hItems]
    exact h.once id

/-- A transfer that ends is running or has just been added, not both. -/
theorem count_of_transferDone {id : MessageID} (h : id ∈ s.running ++ s.added)
    (hOnce : (s.running ++ s.added).count id ≤ 1) (other : MessageID) :
    (s.running.erase id ++ s.added.erase id).count other + (if id = other then 1 else 0) =
      (s.running ++ s.added).count other := by
  have hCount := List.count_pos_iff.mpr h
  simp only [List.count_append, List.count_erase, beq_iff_eq] at hCount hOnce ⊢
  by_cases hEq : id = other
  · subst hEq
    simp only [if_true]
    omega
  · simp only [if_neg hEq]
    omega

/-- The frames of the connection hand on what they have in hand. -/
theorem Conserved.of_connection {frame : Connection.Frame} {shared : Connection.Shared}
    {frames : List Connection.Frame} {spawned : List (List Connection.Frame)}
    (hI : Conserved s (.connection frame ::ₘ rest))
    (hHandles : Handles s.toShared shared frame frames spawned) :
    Conserved { s with toShared := shared }
      (↑(frames.map Frame.connection ++ (spawned.map (List.map Frame.connection)).flatten) + rest) := by
  obtain ⟨rfl, -, hDestroying, hIssued, hHandling⟩ := hHandles
  have hCancelling := hI.cancelling
  have hMap : ∀ (weight : Frame → Nat) (inner : Connection.Frame → Nat),
      (∀ frame, weight (.connection frame) = inner frame) →
        load weight (↑(frames.map Frame.connection ++ ([] : List (List Frame)).flatten) + rest) =
          (frames.map inner).sum + load weight rest := by
    intro weight inner hWeight
    rw [load_add, load_coe, List.flatten_nil, List.append_nil, List.map_map]
    exact congrArg (fun inner => (frames.map inner).sum + _) (funext hWeight)
  rw [load_cons] at hCancelling
  refine ⟨hIssued, ?_, fun id => ?_⟩
  · rw [List.map_nil, hMap _ destroying fun _ => rfl, hDestroying, Nat.zero_add]
    exact Nat.eq_zero_of_add_eq_zero_left hCancelling
  · have hOnce := hI.once id
    rw [load_cons] at hOnce
    rw [List.map_nil, hMap _ (handling id) fun _ => rfl]
    simp only [carrying] at hOnce ⊢
    have := hHandling id (by omega)
    omega

theorem Conserved.step (hI : Conserved s (frame ::ₘ rest)) (hAlive : s'.destroyed = false)
    (h : Step configuration uninitialised thread frame s s' frames spawned) :
    Conserved s' (↑(frames ++ spawned.flatten) + rest) := by
  cases h
  case connection hFrame hPerform =>
    refine hI.of_connection (handles_of_perform hPerform hFrame hI.issued hAlive ?_)
    have hCancelling := hI.cancelling
    rw [load_cons] at hCancelling
    exact Nat.eq_zero_of_add_eq_zero_right hCancelling
  case transferDone id result hTransfer =>
    have hOnce := hI.once id
    have hLe := Bool.toNat_le (isOpen s.toShared id)
    have hCount := count_of_transferDone hTransfer (by omega)
    refine hI.of_same rfl rfl (by simp [RequestsLeft.cancelling]) fun other => ?_
    rw [← hCount other]
    simp only [List.map_append, List.map_cons, List.map_nil, List.count_append, List.count_singleton,
      beq_iff_eq]
    simp [carrying]
    omega
  all_goals
    refine hI.of_same rfl rfl (by simp [RequestsLeft.cancelling, destroying]) fun other => ?_
  case addRequest id hMutex =>
    simp [carrying, handling, List.count_singleton]
    omega
  case readMessage id result messages hMessages =>
    simp [carrying, hMessages, List.count_cons]
    omega
  all_goals simp [carrying, handling]

theorem MessagesRead.of_same (h : MessagesRead s before) (hMessages : s'.messages = s.messages)
    (hReading : load reading after = load reading before) : MessagesRead s' after := by
  intro hLeft
  rw [hReading]
  exact h (hMessages ▸ hLeft)

theorem MessagesRead.of_next {next : Frame} {frames : List Frame} (hNext : next ∈ frames)
    (hReading : 0 < reading next) : MessagesRead s' (↑frames + rest) :=
  fun _ => load_next_pos _ hNext hReading rest

theorem load_connection_eq_zero {weight : Frame → Nat} (hWeight : ∀ frame, weight (.connection frame) = 0)
    (frames : List Connection.Frame) (spawned : List (List Connection.Frame)) :
    load weight ↑(frames.map Frame.connection ++ (spawned.map (List.map Frame.connection)).flatten) =
      0 := by
  refine (load_eq_zero_iff weight).mpr fun frame hFrame => ?_
  rw [← List.map_flatten, ← List.map_append, Multiset.mem_coe] at hFrame
  obtain ⟨inner, -, rfl⟩ := List.mem_map.mp hFrame
  exact hWeight inner

theorem MessagesRead.step (hI : MessagesRead s (frame ::ₘ rest))
    (h : Step configuration uninitialised thread frame s s' frames spawned) :
    MessagesRead s' (↑(frames ++ spawned.flatten) + rest) := by
  cases h
  case connection =>
    refine hI.of_same rfl ?_
    rw [load_add, load_connection_eq_zero fun _ => rfl, load_cons]
    rfl
  case socketAction | transferDone | reported | checkMultiInfo =>
    exact .of_next List.mem_cons_self Nat.one_pos
  case readMessage => exact .of_next (List.mem_cons_of_mem _ List.mem_cons_self) Nat.one_pos
  case nothingToRead hMessages => exact fun hLeft => absurd hMessages hLeft
  all_goals exact hI.of_same rfl (by simp [reading])

end Steps

/-! ## The last report -/

def runningCurl : Frame → Nat
  | .multi => 1
  | _ => 0

def reporting : Frame → Nat
  | .checkMultiInfo _ => 1
  | _ => 0

def runsCurl : Frame → Bool
  | .socketAction => true
  | _ => false

/-- Curl is run only while every report has been written. -/
def reportsInOrder : Guard Shared Frame Choice Event where
  run _ frame _ _ frames := runsCurl frame = true → load reporting frames = 0
  enter _ _ _ := True

instance (thread : Nat) (frame : Frame) (choice : Choice) (s : Shared) (frames : Multiset Frame) :
    Decidable (reportsInOrder.run thread frame choice s frames) :=
  inferInstanceAs (Decidable (_ → _))

instance (event : Event) (s : Shared) (frames : Multiset Frame) :
    Decidable (reportsInOrder.enter event s frames) :=
  inferInstanceAs (Decidable True)

/-- While curl is not being run, its last report is what is still running. -/
structure Reported (s : Shared) (frames : Multiset Frame) : Prop where
  mutex : load runningCurl frames = if s.multiMutex then 1 else 0
  exclusive : load runningCurl frames + load reporting frames ≤ 1
  pending : ∀ stillRunning, .checkMultiInfo stillRunning ∈ frames →
    stillRunning = s.running.length
  written : load runningCurl frames = 0 → load reporting frames = 0 →
    s.requestsLeft = s.running.length

section Steps

variable {configuration : Connection.ConnectionConfiguration} {uninitialised thread : Nat}
  {frame : Frame} {s s' : Shared} {rest before after : Multiset Frame} {frames : List Frame}
  {spawned : List (List Frame)}

theorem Reported.forget (h : Reported s (frame ::ₘ rest)) (hRunning : runningCurl frame = 0)
    (hReporting : reporting frame = 0) : Reported s rest := by
  obtain ⟨hMutex, hExclusive, hPending, hWritten⟩ := h
  simp only [load_cons, hRunning, hReporting, Nat.zero_add] at hMutex hExclusive hWritten
  exact ⟨hMutex, hExclusive, fun _ hMem => hPending _ (Multiset.mem_cons_of_mem hMem), hWritten⟩

theorem Reported.extend (h : Reported s rest) (hMutex : s'.multiMutex = s.multiMutex)
    (hRunning : s'.running = s.running) (hLeft : s'.requestsLeft = s.requestsLeft)
    (hFrames : load runningCurl ↑frames = 0 ∧ load reporting ↑frames = 0) :
    Reported s' (↑frames + rest) where
  mutex := by
    rw [load_add, hFrames.1, Nat.zero_add, hMutex]
    exact h.mutex
  exclusive := by
    rw [load_add, load_add, hFrames.1, hFrames.2, Nat.zero_add, Nat.zero_add]
    exact h.exclusive
  pending stillRunning hMem := by
    rw [hRunning]
    rcases Multiset.mem_add.mp hMem with hNew | hOld
    · exact absurd ((load_eq_zero_iff reporting).mp hFrames.2 _ hNew) Nat.one_ne_zero
    · exact h.pending stillRunning hOld
  written := by
    rw [load_add, load_add, hFrames.1, hFrames.2, Nat.zero_add, Nat.zero_add, hRunning, hLeft]
    exact h.written

theorem mem_of_load_reporting (h : load reporting rest = 0) {stillRunning : Nat}
    (hMem : .checkMultiInfo stillRunning ∈ frame ::ₘ rest) : .checkMultiInfo stillRunning = frame :=
  (Multiset.mem_cons.mp hMem).resolve_right fun hOld =>
    Nat.one_ne_zero ((load_eq_zero_iff reporting).mp h _ hOld)

theorem Reported.of_running (hMutex : s'.multiMutex = true) (hRunning : load runningCurl rest = 0)
    (hReporting : load reporting rest = 0) : Reported s' (.multi ::ₘ rest) where
  mutex := by simp [runningCurl, hRunning, hMutex]
  exclusive := by simp [runningCurl, reporting, hRunning, hReporting]
  pending _ hMem := by cases mem_of_load_reporting hReporting hMem
  written hNone _ := by simp [runningCurl] at hNone

theorem Reported.of_report (hMutex : s'.multiMutex = false) (hRunning : load runningCurl rest = 0)
    (hReporting : load reporting rest = 0) :
    Reported s' (.checkMultiInfo s'.running.length ::ₘ rest) where
  mutex := by simp [runningCurl, hRunning, hMutex]
  exclusive := by simp [runningCurl, reporting, hRunning, hReporting]
  pending _ hMem := by
    cases mem_of_load_reporting hReporting hMem
    rfl
  written _ hNone := by simp [reporting] at hNone

theorem Reported.of_written (hMutex : s'.multiMutex = false) (hRunning : load runningCurl rest = 0)
    (hReporting : load reporting rest = 0) (hLeft : s'.requestsLeft = s'.running.length) :
    Reported s' (.readMessage ::ₘ rest) where
  mutex := by simp [runningCurl, hRunning, hMutex]
  exclusive := by simp [runningCurl, reporting, hRunning, hReporting]
  pending _ hMem := by cases mem_of_load_reporting hReporting hMem
  written _ _ := hLeft

theorem Reported.step (hI : Reported s (frame ::ₘ rest))
    (hGuard : runsCurl frame = true → load reporting (frame ::ₘ rest) = 0)
    (h : Step configuration uninitialised thread frame s s' frames spawned) :
    Reported s' (↑(frames ++ spawned.flatten) + rest) := by
  have hMutex := hI.mutex
  have hExclusive := hI.exclusive
  rw [load_cons] at hMutex hExclusive
  cases h
  case connection =>
    exact (hI.forget rfl rfl).extend rfl rfl rfl
      ⟨load_connection_eq_zero (fun _ => rfl) _ _, load_connection_eq_zero (fun _ => rfl) _ _⟩
  case lost | addRequest | readMessage | nothingToRead | removeHandle | awaitPosted =>
    exact (hI.forget rfl rfl).extend rfl rfl rfl ⟨rfl, rfl⟩
  all_goals
    rw [coe_singleton_add]
    simp only [load_cons, runningCurl, reporting, Nat.zero_add] at hMutex hExclusive
  case socketAction hFree =>
    rw [hFree] at hMutex
    exact .of_running rfl hMutex (by simpa [reporting] using hGuard rfl)
  case transferDone =>
    refine .of_running ?_ (by omega) (by omega)
    by_contra hFree
    rw [if_neg hFree] at hMutex
    omega
  case reported => exact .of_report rfl (by omega) (by omega)
  case checkMultiInfo stillRunning =>
    have hRunning : load runningCurl rest = 0 := by omega
    refine .of_written ?_ hRunning (by omega) (hI.pending stillRunning (Multiset.mem_cons_self _ _))
    by_contra hHeld
    rw [if_pos (Bool.not_eq_false _ ▸ hHeld)] at hMutex
    omega

end Steps

/-! ## While nothing executes -/

def unfinished (s : Connection.Shared) : List MessageID :=
  (List.range (s.ticketID + 1)).filter (isOpen s)

def posted : Frame → Option MessageID
  | .awaitPosted id _ => some id
  | _ => none

/-- The frame is a posted function, or user code outside of the connection. -/
def isIdle : Frame → Bool
  | .connection .userCode | .awaitPosted _ _ => true
  | _ => false

/-- No handler and no `sendRequest` is executing. -/
def Idle (frames : Multiset Frame) : Prop := ∀ frame ∈ frames, isIdle frame = true

instance (frames : Multiset Frame) : Decidable (Idle frames) :=
  inferInstanceAs (Decidable (∀ frame ∈ frames, _))

section Idle

variable {s : Shared} {frames : Multiset Frame}

theorem Idle.load_eq_zero (hIdle : Idle frames) {weight : Frame → Nat}
    (hWeight : ∀ frame, isIdle frame = true → weight frame = 0) : load weight frames = 0 :=
  (load_eq_zero_iff weight).mpr fun frame hFrame => hWeight frame (hIdle frame hFrame)

theorem Idle.messages (hIdle : Idle frames) (hRead : MessagesRead s frames) : s.messages = [] := by
  by_contra hLeft
  have hPos := hRead hLeft
  rw [hIdle.load_eq_zero] at hPos
  · exact Nat.lt_irrefl 0 hPos
  · intro frame hFrame
    cases frame <;> first | rfl | cases hFrame

theorem Idle.reported (hIdle : Idle frames) (hReported : Reported s frames) :
    s.requestsLeft = s.running.length := by
  apply hReported.written <;> apply hIdle.load_eq_zero <;> intro frame hFrame <;>
    cases frame <;> first | rfl | cases hFrame

theorem Idle.count_posted (hIdle : Idle frames) (id : MessageID) :
    (frames.filterMap posted).count id = load (carrying id) frames := by
  induction frames using Multiset.induction with
  | empty => rfl
  | cons frame frames ih =>
    have hFrame := hIdle frame (Multiset.mem_cons_self _ _)
    rw [load_cons, ← ih fun other hOther => hIdle other (Multiset.mem_cons_of_mem hOther)]
    cases frame with
    | connection inner =>
      have hPosted : posted (.connection inner) = none := rfl
      rw [Multiset.filterMap_cons_none _ _ hPosted]
      cases inner <;> first | exact (Nat.zero_add _).symm | cases hFrame
    | awaitPosted other result =>
      have hPosted : posted (.awaitPosted other result) = some other := rfl
      rw [Multiset.filterMap_cons_some _ _ _ hPosted, Multiset.count_cons, carrying, Nat.add_comm]
      simp only [eq_comm]
    | _ => cases hFrame

/-- The unfinished requests are those that curl works on, and those whose
completion has been posted. -/
theorem Conserved.eq_unfinished (hI : Conserved s frames) (hRead : MessagesRead s frames)
    (hIdle : Idle frames) :
    (↑(s.running ++ s.added) + frames.filterMap posted : Multiset MessageID) =
      ↑(unfinished s.toShared) := by
  have hUnfinished : (unfinished s.toShared).Nodup := List.nodup_range.filter _
  refine Multiset.ext.mpr fun id => ?_
  have hOnce := hI.once id
  rw [hIdle.messages hRead, List.map_nil, List.count_nil, Nat.add_zero] at hOnce
  rw [Multiset.count_add, Multiset.coe_count, hIdle.count_posted, Nat.add_comm, hOnce,
    Multiset.coe_count, hUnfinished.count]
  by_cases hOpen : isOpen s.toShared id = true
  · have hItem : s.items id ≠ none := by
      intro hNone
      simp [isOpen, hNone] at hOpen
    have hMem : id ∈ unfinished s.toShared :=
      List.mem_filter.mpr ⟨List.mem_range.mpr (Nat.lt_succ_of_le (hI.issued id hItem)), hOpen⟩
    rw [if_pos hMem, hOpen]
    rfl
  · have hMem : id ∉ unfinished s.toShared := fun hMem => hOpen (List.mem_filter.mp hMem).2
    rw [if_neg hMem, Bool.eq_false_iff.mpr hOpen]
    rfl

/-- The count is right when curl has reported all it has, and nothing is posted. -/
theorem requestsLeft_eq_unfinished_iff (hI : Conserved s frames) (hRead : MessagesRead s frames)
    (hReported : Reported s frames) (hIdle : Idle frames) :
    s.requestsLeft = (unfinished s.toShared).length ↔
      s.added = [] ∧ frames.filterMap posted = 0 := by
  have hCard := congrArg Multiset.card (hI.eq_unfinished hRead hIdle)
  rw [Multiset.card_add, Multiset.coe_card, Multiset.coe_card, List.length_append] at hCard
  rw [hIdle.reported hReported, ← hCard, ← List.length_eq_zero_iff, ← Multiset.card_eq_zero]
  omega

end Idle

/-! ## Every run -/

section Machine

variable {configuration : Connection.ConnectionConfiguration} {uninitialised : Nat}
  {c : Config Shared Frame}

theorem destroyed_of_perform {thread : Nat} {frame : Connection.Frame} {choice : Connection.Choice}
    {s s' : Connection.Shared} {frames : List Connection.Frame}
    {spawned : List (List Connection.Frame)}
    (h : Connection.perform configuration uninitialised thread frame choice s =
      some (s', frames, spawned)) (hAlive : s'.destroyed = false) : s.destroyed = false := by
  cases frame
  all_goals simp only [Connection.perform, Connection.userCode, Connection.sendRequest,
    Connection.addToStore, Connection.addRequest, Connection.awaitDone, Connection.handleResult,
    Connection.onFailure, Connection.invoke, Connection.removeByID, Connection.cancelAll,
    Connection.cancelItems, Connection.Shared.next] at h
  all_goals (repeat' split at h)
  all_goals cases h
  all_goals first | exact hAlive | cases hAlive

theorem destroyed_of_step {thread : Nat} {frame : Frame} {s s' : Shared} {frames : List Frame}
    {spawned : List (List Frame)}
    (h : Step configuration uninitialised thread frame s s' frames spawned)
    (hAlive : s'.destroyed = false) : s.destroyed = false := by
  cases h
  case connection hPerform => exact destroyed_of_perform hPerform hAlive
  all_goals exact hAlive

/-- What is known of the count as long as the connection lives. -/
structure Counted (s : Shared) (frames : Multiset Frame) : Prop where
  conserved : s.destroyed = false → Conserved s frames
  read : MessagesRead s frames
  reported : Reported s frames

theorem counted_preserved :
    Preserved (machine configuration uninitialised) reportsInOrder Counted where
  exec _ _ _ _ _ _ _ _ h hGuard hExec := by
    have hStep := step_of_exec hExec
    refine ⟨fun hAlive => ?_, h.read.step hStep, h.reported.step hGuard hStep⟩
    exact (h.conserved (destroyed_of_step hStep hAlive)).step hAlive hStep
  enter _ _ _ _ _ _ h _ _ hEnter := by
    obtain ⟨rfl, hFrames⟩ := enter_cases hEnter
    refine ⟨fun hAlive => (h.conserved hAlive).of_same rfl rfl ?_ fun id => ?_, h.read.of_same rfl ?_,
      h.reported.extend rfl rfl rfl ?_⟩ <;>
      rcases hFrames with rfl | rfl <;> simp [cancelling, destroying, carrying, handling, reading,
        runningCurl, reporting]

theorem counted_initial : Counted initial.shared initial.frames := by
  refine ⟨fun _ => ?_, fun hLeft => absurd rfl hLeft, ?_⟩
  · constructor <;> simp [initial, Config.frames, isOpen]
  · constructor <;> simp [initial, Config.frames]

/-- Between two runs of curl, `requestsLeft` is right exactly if curl has reported
all that it works on and no completion is waiting. -/
theorem requestsLeft_iff
    (h : Reaches (machine configuration uninitialised) reportsInOrder initial c)
    (hAlive : c.shared.destroyed = false) (hIdle : Idle c.frames) :
    c.shared.requestsLeft = (unfinished c.shared.toShared).length ↔
      c.shared.added = [] ∧ c.frames.filterMap posted = 0 := by
  obtain ⟨hConserved, hRead, hReported⟩ := h.invariant counted_preserved counted_initial
  exact requestsLeft_eq_unfinished_iff (hConserved hAlive) hRead hReported hIdle

end Machine

end Fuerte.Http.RequestsLeft

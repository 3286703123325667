import Fuerte.Library.Serving
import Fuerte.Http.CallbackContract
import Fuerte.Vst.Connection.CallbackContract

/-! # Connections are services

Whatever a connection is made of, its users see a service: requests are accepted under
numbers of their own, and each is answered at most once, later, and with what belongs to
it. Both connections refine this service.
-/

namespace Fuerte

set_option autoImplicit false

/-- What the callback of a request is called with. -/
structure Answer where
  error : Nat
  request : Option Request
  response : Option Response

/-- The answer to a request that has been accepted under this number: it brings back what
the connection has left of this very request, and a response to it exactly if there is no
error. -/
structure Answer.Fits (left : Request → Request) (id : MessageID) (request : Request)
    (answer : Answer) : Prop where
  numbered : request.messageID = id
  request : answer.request = some (left request)
  success : answer.error = 0 →
    ∃ response, answer.response = some response ∧ response.messageID = id
  failure : answer.error ≠ 0 → answer.response = none

end Fuerte

/-! ## The VST connection -/

namespace Fuerte.Vst.Connection

set_option autoImplicit false

open Interleaving Serving

section Observer

variable (platform : Platform) (configuration : Configuration)

def acceptsItem (s : Shared) (request : Request) (cb : CallbackOwner) :
    List (Operation MessageID Request Answer) :=
  match (createItem platform configuration s request cb).2 with
  | .ok id => [.accept id { request with messageID := id }]
  | .error _ => []

/-- The connection's own request for authentication is one of them. -/
def served (frame : Frame) (_ : Choice) (s : Shared) :
    List (Operation MessageID Request Answer) :=
  match frame with
  | .createRequestItem request => acceptsItem platform configuration s request .user
  | .insertAuthenticationRequests =>
    match configuration.authenticationType with
    | .basic =>
      acceptsItem platform configuration s (authenticationRequest configuration) .authentication
    | _ => []
  | .invoke id error request response =>
    if s.invoked id then [] else [.answer id ⟨errorToInt error, request, response⟩]
  | _ => []

end Observer

/-- An item waits with its request until the flag of its callback is set. -/
def Shared.status (s : Shared) (id : MessageID) : Status Request :=
  (s.items id).elim .unused fun item =>
    if item.callback.invoked then .answered else (s.history.accepted id).elim .unused .waiting

/-- The answers that fit a VST connection. -/
abbrev Fitting (platform : Platform) : MessageID → Request → Answer → Prop :=
  Answer.Fits (RequestItem.networkRequest platform.vpack)

section Steps

variable {platform : Platform} {configuration : Configuration} {thread : Nat} {frame : Frame}
  {choice : Choice} {s s' : Shared} {rest : Multiset Frame} {frames : List Frame}
  {spawned : List (List Frame)} {notes : List (Operation MessageID Request Answer)}

theorem status_update {after : RequestItem} {id : MessageID}
    (hItems : s'.items = Function.update s.items id (some after))
    (hAccepted : ∀ other, other ≠ id → s'.history.accepted other = s.history.accepted other) :
    s'.status = Function.update s.status id (if after.callback.invoked then .answered
      else (s'.history.accepted id).elim .unused .waiting) := by
  funext other
  by_cases hEq : other = id
  · rw [hEq, Function.update_self, Shared.status, hItems, Function.update_self, Option.elim_some]
  · rw [Function.update_of_ne hEq, Shared.status, hItems, Function.update_of_ne hEq, hAccepted other hEq]
    rfl

theorem status_same {id : MessageID} {item after : RequestItem} (hItem : s.items id = some item)
    (hCallback : after.callback = item.callback)
    (hItems : s'.items = Function.update s.items id (some after))
    (hAccepted : s'.history.accepted = s.history.accepted) : s'.status = s.status := by
  rw [status_update hItems fun _ _ => by rw [hAccepted], hCallback, hAccepted,
    Function.update_eq_self_iff, Shared.status, hItem, Option.elim_some]

/-- A request that gets an item is accepted under the next number. -/
theorem run_created {request : Request} {cb : CallbackOwner} {id : MessageID}
    (hRun : Run (Fitting platform) notes s.status) (hItems : ItemsKnown s (frame ::ₘ rest))
    (h : createItem platform configuration s request cb = (s', .ok id)) :
    Run (Fitting platform) (notes ++ acceptsItem platform configuration s request cb) s'.status := by
  have hNoted : acceptsItem platform configuration s request cb =
      [.accept id { request with messageID := id }] := by
    simp only [acceptsItem, h]
  obtain ⟨item, -, hCallback, rfl, rfl⟩ := createItem_ok h
  have hUnused : s.status (s.messageID + 1) = .unused := by
    rw [Shared.status, hItems.fresh, Option.elim_none]
  rw [hNoted, status_update rfl fun other hOther => Function.update_of_ne hOther _ _, hCallback]
  simpa using hRun.step (.accept _ { request with messageID := s.messageID + 1 } hUnused)

/-- The path that sets the flag has the request, and the answer fits. -/
theorem run_invoked {id : MessageID} {error : ErrorCondition} {request : Option Request}
    {response : Option Response} {item : RequestItem} (hRun : Run (Fitting platform) notes s.status)
    (hCustody : Custody platform.vpack s (.invoke id error request response ::ₘ rest))
    (hGuard : exchangesInOrder.run thread (.invoke id error request response) choice s
      (.invoke id error request response ::ₘ rest))
    (hItem : s.items id = some item) (hNot : item.callback.invoked = false)
    (hItems : s'.items = Function.update s.items id
      (some { item with callback := ⟨true, item.callback.cb⟩ }))
    (hAccepted : s'.history.accepted = s.history.accepted) :
    Run (Fitting platform) (notes ++ served platform configuration
      (.invoke id error request response) choice s) s'.status := by
  have hOpen : s.invoked id = false := by simp [Shared.invoked, hItem, hNot]
  have hAlone := hGuard id rfl hOpen
  rw [load_cons] at hAlone
  have hHonours : Honours platform.vpack s
      ⟨id, item.callback.cb, errorToInt error, request, response, []⟩ :=
    hCustody.honours_invoked hItem hNot (by omega)
  obtain ⟨sent, hSent, hNumbered, hLeft⟩ := hHonours.request
  have hNoted : served platform configuration (.invoke id error request response) choice s =
      [.answer id ⟨errorToInt error, request, response⟩] := by
    simp [served, hOpen]
  have hWaiting : s.status id = .waiting sent := by
    dsimp only at hSent
    simp [Shared.status, hItem, hNot, hSent]
  rw [hNoted, status_update hItems fun _ _ => by rw [hAccepted]]
  exact hRun.step (.answer id sent _ hWaiting ⟨hNumbered, hLeft, hHonours.success, hHonours.failure⟩)

theorem run_of_perform (hRun : Run (Fitting platform) notes s.status)
    (hItems : ItemsKnown s (frame ::ₘ rest)) (hCustody : Custody platform.vpack s (frame ::ₘ rest))
    (hGuard : exchangesInOrder.run thread frame choice s (frame ::ₘ rest))
    (h : perform platform configuration thread frame choice s = some (s', frames, spawned)) :
    Run (Fitting platform) (notes ++ served platform configuration frame choice s) s'.status := by
  have hStep : Step platform configuration thread frame choice s s' frames spawned :=
    step_of_perform h
  have hSame : ∀ next : Shared, served platform configuration frame choice s = [] →
      next.status = s.status →
      Run (Fitting platform) (notes ++ served platform configuration frame choice s) next.status := by
    intro next hNoted hStatus
    rw [hNoted, List.append_nil, hStatus]
    exact hRun
  cases frame
  case createRequestItem request =>
    simp only [perform, createRequestItem, Shared.next] at h
    split at h
    · rename_i hItem
      cases h
      refine hSame _ (by simp only [served, acceptsItem, hItem]) ?_
      rw [createItem_error hItem]
      rfl
    · rename_i hItem
      cases h
      exact run_created hRun hItems hItem
  case insertAuthenticationRequests =>
    simp only [perform, insertAuthenticationRequests, Shared.next, Shared.throw] at h
    split at h
    · rename_i hType
      cases h
      exact hSame _ (by simp only [served, hType]) rfl
    · rename_i hType
      split at h
      · rename_i hItem
        exact absurd hItem createItem_authenticationRequest
      · rename_i hItem
        cases h
        simp only [served, hType]
        exact run_created hRun hItems hItem
    · rename_i hType
      cases h
      exact hSame _ (by simp only [served, hType]) rfl
  case invoke id error request response =>
    cases hItem : s.items id with
    | none =>
      simp only [perform, invoke, hItem] at h
      cases h
    | some item =>
      simp only [perform, invoke, hItem, Shared.next, Inflight.invoke] at h
      cases hInvoked : item.callback.invoked with
      | true =>
        simp only [hInvoked, if_true] at h
        cases h
        exact hSame _ (by simp [served, Shared.invoked, hItem, hInvoked]) rfl
      | false =>
        simp only [hInvoked, Bool.false_eq_true, if_false] at h
        cases h
        refine run_invoked hRun hCustody hGuard hItem hInvoked ?_ rfl
        simp [Shared.setInflight, Inflight.setItem]
  all_goals cases hStep
  case moveRequest.moveRequest hItem =>
    refine hSame _ rfl (status_same hItem ?_ rfl rfl)
    rfl
  case addChunk.addChunk hRequest hCallback hItem | addChunk.lastChunk hRequest hCallback hItem =>
    exact hSame _ rfl (status_same hItem hCallback rfl rfl)
  case requestWritten.requestWritten w id =>
    refine hSame _ rfl (funext fun other => ?_)
    simp only [Shared.status, Shared.updateItem, Shared.updateWriteLoop, Function.update_apply]
    split
    · rename_i hEq
      rw [hEq]
      cases s.items id <;> rfl
    · rfl
  all_goals exact hSame _ rfl rfl

end Steps

section Machine

variable {platform : Platform} {configuration : Configuration}

theorem served_preserved :
    Preserved ((machine platform configuration).observed (served platform configuration))
      exchangesInOrder.observed fun s frames =>
        (ItemsKnown s.1 frames ∧ Custody platform.vpack s.1 frames) ∧ Run (Fitting platform) s.2 s.1.status := by
  refine custody_preserved.observed.and ?_ ?_
  · intro thread frame choice s rest s' frames spawned hI hRun hGuard hExec
    obtain ⟨hStep, hMore⟩ := exec_observed.mp hExec
    rw [hMore]
    exact run_of_perform hRun hI.1 hI.2 hGuard (perform_of_exec hStep)
  · intro event quiet s rest s' frames _ hRun _ _ hEnter
    obtain ⟨hStep, hSame⟩ := enter_observed.mp hEnter
    have hStatus : s'.1.status = s.1.status := by
      rcases enter_cases hStep with ⟨_, hShared, _⟩ | ⟨_, _, _, _, hShared, _⟩ <;> rw [hShared]
      rfl
    rw [hSame, hStatus]
    exact hRun

/-- **The VST connection is a service**, in every run in which nobody exchanges the flag of a
callback while another path has moved out the request: what it accepts and answers, in the
order in which it does so, is a run of the service, and leads to the status that the items
and the flags of their callbacks tell. An answer brings back the request that was accepted,
as `prepareForNetwork` has left it. -/
theorem vst_provides_service {c : Config (Shared × List (Operation MessageID Request Answer)) Frame}
    (h : Reaches ((machine platform configuration).observed (served platform configuration))
      exchangesInOrder.observed initial.observed c) :
    Run (Fitting platform) c.shared.2 c.shared.1.status :=
  (h.invariant served_preserved ⟨⟨itemsKnown_initial, custody_initial _⟩, .start⟩).2

theorem vst_provides_service_answered :
    ∃ c : Config (Shared × List (Operation MessageID Request Answer)) Frame,
      c.shared.2.filterMap Operation.answered? = [1] ∧
      Run (Fitting shortPlatform) c.shared.2 c.shared.1.status := by
  have hRun : (((machine shortPlatform {}).observed (served shortPlatform {})).steps
      exchangesInOrder.observed initial.observed
      (establish ++ sendFirst ++ receive 6 (Connection.answer 1 200) ++ proceed 6 8)).any
      (fun c => c.shared.2.filterMap Operation.answered? = [1]) = true := by
    decide +kernel
  obtain ⟨c, hReaches, hTest⟩ := exists_reaches_of_steps hRun
  exact ⟨c, of_decide_eq_true hTest, vst_provides_service hReaches⟩

end Machine

end Fuerte.Vst.Connection

/-! ## The HTTP connection -/

namespace Fuerte.Http.RequestsLeft

set_option autoImplicit false

open Interleaving Serving

/-- The request comes back as it has been accepted. -/
abbrev Fitting : MessageID → Request → Answer → Prop := Answer.Fits fun request => request

/-- What users see of it. -/
def Observation.operation? : Observation → Option (Operation MessageID Request Answer)
  | .accepted id request => some (.accept id { request with messageID := id })
  | .invoked id error request response => some (.answer id ⟨error, request, response⟩)
  | .ended _ _ => none
  | .released => none

section Notes

variable {s s' : Connection.Shared} {notes noted : List Observation} {id : MessageID}

theorem accepted_operations (notes : List Observation) :
    (notes.filterMap Observation.operation?).filterMap Operation.accepted? =
      notes.filterMap Observation.accepted? := by
  rw [List.filterMap_filterMap]
  congr 1
  funext note
  cases note <;> rfl

theorem answered_operations (notes : List Observation) :
    (notes.filterMap Observation.operation?).filterMap Operation.answered? =
      notes.filterMap Observation.invoked? := by
  rw [List.filterMap_filterMap]
  congr 1
  funext note
  cases note <;> rfl

theorem operations_eq_nil (hAccepted : noted.filterMap Observation.accepted? = [])
    (hInvoked : noted.filterMap Observation.invoked? = []) :
    noted.filterMap Observation.operation? = [] := by
  rw [List.filterMap_eq_nil_iff] at hAccepted hInvoked ⊢
  intro note hNote
  have hNot := hAccepted note hNote
  have hUncalled := hInvoked note hNote
  cases note with
  | accepted => cases hNot
  | invoked => cases hUncalled
  | ended => rfl
  | released => rfl

theorem messageID_handleResult (messageID : MessageID) (httpStatusCode : Nat)
    (responseHeaders : StringMap) (responseBody : ByteString) (uninitialised : Nat) :
    (Http.handleResult messageID httpStatusCode responseHeaders responseBody
      uninitialised).messageID = messageID := by
  simp only [Http.handleResult, transformResult]
  split <;> rfl

/-- The result of a transfer, and the end of the connection, fit the request. -/
theorem fits_of_completes {uninitialised error : Nat} {request : Option Request}
    {response : Option Response} {sent : Request}
    (hRequest : request = some { sent with messageID := id })
    (h : Completes uninitialised notes id error response) :
    Fitting id { sent with messageID := id } ⟨error, request, response⟩ := by
  refine ⟨rfl, hRequest, fun hZero => ?_, fun hError => ?_⟩
  · rcases h with ⟨result, -, hCode, hResponse⟩ | ⟨-, hCode, -⟩
    · dsimp only at hZero
      rw [hZero] at hCode
      cases hResult : result.rc <;> simp [errorOf, errorToInt, hResult] at hCode
      rw [responseOf, hResult] at hResponse
      exact ⟨_, hResponse, messageID_handleResult _ _ _ _ _⟩
    · dsimp only at hZero
      rw [hZero] at hCode
      cases hCode
  · rcases h with ⟨result, -, hCode, hResponse⟩ | ⟨-, -, hNone⟩
    · dsimp only at hError
      rw [hResponse, responseOf]
      cases hResult : result.rc <;> simp [errorOf, errorToInt, hResult] at hCode ⊢
      exact hError hCode
    · exact hNone

theorem run_of_effect (hNotes : ItemsNoted s notes)
    (hRun : ∃ status, Run Fitting (notes.filterMap Observation.operation?) status)
    (hEffect : ItemsEffect s s' noted)
    (hFits : ∀ id error request response (sent : Request),
      .invoked id error request response ∈ noted → request = some { sent with messageID := id } →
      Fitting id { sent with messageID := id } ⟨error, request, response⟩) :
    ∃ status, Run Fitting ((notes ++ noted).filterMap Observation.operation?) status := by
  rw [List.filterMap_append]
  obtain ⟨status, hRun⟩ := hRun
  cases hEffect with
  | same hItems hTicket hAccepted hInvoked =>
    rw [operations_eq_nil hAccepted hInvoked, List.append_nil]
    exact ⟨status, hRun⟩
  | accepts request item hNoted =>
    subst hNoted
    refine hRun.accept ?_ { request with messageID := s.ticketID + 1 }
    rw [accepted_operations]
    exact fun hAccepted => hNotes.known _ hAccepted hNotes.fresh
  | invokes id error response item after hItem hFresh hNoted =>
    subst hNoted
    obtain ⟨sent, hSent, hOpen, -⟩ := hNotes.accepted id item hItem
    obtain ⟨hRequest, hNotInvoked⟩ := hOpen hFresh
    apply hRun.answer
    · exact List.mem_filterMap.mpr ⟨_, hSent, rfl⟩
    · rwa [answered_operations]
    · exact hFits id error item.request response sent (List.mem_singleton_self _) hRequest
  | again id item after hItem hAfter hMoved hNoted =>
    subst hNoted
    rw [List.filterMap_nil, List.append_nil]
    exact ⟨status, hRun⟩

end Notes

section Machine

variable {configuration : Connection.ConnectionConfiguration} {uninitialised : Nat}

theorem operations_preserved :
    Preserved ((machine configuration uninitialised).observed (observe configuration))
      Guard.all.observed fun s frames => (True ∧ NotesInvariant uninitialised s.1 frames s.2) ∧
        ∃ status, Run Fitting (s.2.filterMap Observation.operation?) status := by
  have hKept := notes_preserved configuration uninitialised
  refine hKept.and ?_ ?_
  · intro thread frame choice s rest s' frames spawned hI hRun hGuard hExec
    obtain ⟨-, hAfter⟩ := hKept.exec _ _ _ _ _ _ _ _ hI hGuard hExec
    obtain ⟨hStep, hMore⟩ := exec_observed.mp hExec
    rw [hMore] at hAfter ⊢
    refine run_of_effect hI.2.items hRun (itemsEffect_of_perform (perform_of_exec hStep)) ?_
    intro id error request response sent hNote hRequest
    have hMem := List.mem_append_right s.2 hNote
    exact fits_of_completes hRequest (hAfter.results.outcome id error request response hMem)
  · intro event quiet s rest s' frames _ hRun _ _ hEnter
    rw [(enter_observed.mp hEnter).2]
    exact hRun

/-- **The HTTP connection is a service**, in every run in which no two threads are about to
call the same callback: what it accepts and answers, in the order in which it does so, is a
run of the service. An answer brings back the request that was accepted. -/
theorem http_provides_service {c : Config (Shared × List Observation) Frame}
    (h : Reaches ((machine configuration uninitialised).observed (observe configuration))
      invokesApart.observed initial.observed c) :
    ∃ status, Run Fitting (c.shared.2.filterMap Observation.operation?) status :=
  (h.invariant (operations_preserved.under _) ⟨⟨trivial, notes_initial uninitialised⟩, _, .start⟩).2

theorem http_provides_service_completed :
    ∃ c : Config (Shared × List Observation) Frame,
      c.shared.2.filterMap Observation.invoked? = [1] ∧
      ∃ status, Run Fitting (c.shared.2.filterMap Observation.operation?) status := by
  have hRun : (((machine {} 0).observed (observe {})).steps invokesApart.observed initial.observed
      completeFirst).any (fun c => c.shared.2.filterMap Observation.invoked? = [1]) = true := by
    decide +kernel
  obtain ⟨c, hReaches, hTest⟩ := exists_reaches_of_steps hRun
  exact ⟨c, of_decide_eq_true hTest, http_provides_service hReaches⟩

end Machine

end Fuerte.Http.RequestsLeft

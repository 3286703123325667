import Fuerte.Http.Connection

/-! # User code runs without the mutex of the store

The destructor cancels what is stored with the store locked. Otherwise requests
are completed in the event loop, with no mutex held.
-/

namespace Fuerte.Http.Connection

set_option autoImplicit false

open Interleaving

/-- The frames that wait for the mutex of the store. -/
def waits : Frame → Bool
  | .addToStore _ | .removeByID _ | .cancelAll => true
  | _ => false

/-- No user code is called with the mutex held, and no thread waits for it that
holds it. -/
structure LockDiscipline (c : Config Shared Frame) : Prop where
  callbacks : ∀ call ∈ c.shared.calls, call.held = []
  failures : ∀ failure ∈ c.shared.failures, failure.2 = []
  userCode : ∀ thread stack, c.threads[thread]? = some (.userCode :: stack) →
    c.shared.held thread = []
  order : ∀ thread frame stack, c.threads[thread]? = some (frame :: stack) →
    waits frame = true → c.shared.held thread = []

def isCancelAll : Frame → Bool
  | .cancelAll => true
  | _ => false

/-- The callback of this item has been called. -/
def isInvoked (s : Shared) (id : MessageID) : Bool :=
  (s.items id).any fun item => item.callback.invoked

/-- What is stored when the destructor cancels it has been completed before. -/
def cancelsQuietly : Guard Shared Frame Choice Event where
  run _ frame _ s _ := isCancelAll frame = true → s.messageStore.all (isInvoked s) = true
  enter _ _ _ := True

instance (thread : Nat) (frame : Frame) (choice : Choice) (s : Shared) (frames : Multiset Frame) :
    Decidable (cancelsQuietly.run thread frame choice s frames) :=
  inferInstanceAs (Decidable (_ → _))

instance (event : Event) (s : Shared) (frames : Multiset Frame) :
    Decidable (cancelsQuietly.enter event s frames) :=
  inferInstanceAs (Decidable True)

/-- A stack that reaches the end of `cancelAll` without user code. -/
def Silenced (s : Shared) : List Frame → Prop
  | .cancelItems todo :: _ => ∀ id ∈ todo, isInvoked s id = true
  | .invoke id _ _ :: stack => isInvoked s id = true ∧ Silenced s stack
  | _ => False

structure Disciplined (s : Shared) (thread : Nat) (stack : List Frame) : Prop where
  callbacks : ∀ call ∈ s.calls, call.held = []
  failures : ∀ failure ∈ s.failures, failure.2 = []
  cancelling : s.messageStoreMutex = some thread → Silenced s stack

/-- Tickets are given to one item only. -/
def Issued (s : Shared) (_ : Multiset Frame) : Prop := ∀ id, s.items id ≠ none → id ≤ s.ticketID

/-- Only the numbers, the store and the flags of the connection differ. -/
structure SameItems (s s' : Shared) : Prop where
  items : s'.items = s.items
  mutex : s'.messageStoreMutex = s.messageStoreMutex
  calls : s'.calls = s.calls
  failures : s'.failures = s.failures

/-- What the steps do to items, mutex and calls. -/
inductive Step (thread : Nat) : Frame → Shared → Shared → List Frame → Prop
  | other {frame : Frame} {s s' : Shared} (frames : List Frame)
    (hFrame : ∀ stack, ¬Silenced s (frame :: stack)) (hSame : SameItems s s')
    (hTicket : s.ticketID ≤ s'.ticketID) : Step thread frame s s' frames
  /-- A completion goes on after the destructor. -/
  | lost {s : Shared} (frame : Frame) :
    Step thread frame s { s with fault := some .useAfterFree } [frame]
  | sendRequest {s : Shared} (request : Request) (item : RequestItem) :
    Step thread (.sendRequest request) s
      { s with
        ticketID := s.ticketID + 1
        items := Function.update s.items (s.ticketID + 1) (some item) }
      [.addToStore (s.ticketID + 1)]
  | failureIgnored {s : Shared} (error : ErrorCondition) : Step thread (.onFailure error) s s []
  | failureReported {s : Shared} (error : ErrorCondition) :
    Step thread (.onFailure error) s
      { s with failures := s.failures ++ [(errorToInt error, s.held thread)] } [.userCode]
  | invokeAgain {s : Shared} (id : MessageID) (error : ErrorCondition)
    (response : Option Response) (item after : RequestItem) (hItem : s.items id = some item)
    (hInvoked : item.callback.invoked = true) (hAfter : after.callback.invoked = true) :
    Step thread (.invoke id error response) s
      { s with items := Function.update s.items id (some after) } []
  | invoke {s : Shared} (id : MessageID) (error : ErrorCondition) (response : Option Response)
    (item after : RequestItem) (call : Vst.Invocation) (hItem : s.items id = some item)
    (hInvoked : item.callback.invoked = false) (hAfter : after.callback.invoked = true)
    (hHeld : call.held = s.held thread) :
    Step thread (.invoke id error response) s
      { s with
        items := Function.update s.items id (some after)
        calls := s.calls ++ [call] } [.userCode]
  | cancelAll {s : Shared} (hMutex : s.messageStoreMutex = none) :
    Step thread .cancelAll s { s with messageStoreMutex := some thread }
      [.cancelItems s.messageStore]
  | cancelItem {s : Shared} (id : MessageID) (todo : List MessageID) :
    Step thread (.cancelItems (id :: todo)) s s
      [.invoke id .canceledDuringReset none, .cancelItems todo]
  | cancelled {s : Shared} :
    Step thread (.cancelItems []) s
      { s with messageStore := [], messageStoreMutex := none, freed := true } []

section Steps

variable {configuration : ConnectionConfiguration} {uninitialised thread other : Nat}
  {frame : Frame} {choice : Choice} {s s' : Shared} {stack frames : List Frame}
  {spawned : List (List Frame)}

theorem step_of_perform (h : perform configuration uninitialised thread frame choice s =
    some (s', frames, spawned)) : Step thread frame s s' frames := by
  cases frame
  case sendRequest request =>
    simp only [perform, sendRequest, Shared.next] at h
    split at h
    · cases h
      exact .other _ (fun _ => not_false) ⟨rfl, rfl, rfl, rfl⟩ (Nat.le_refl _)
    · split at h
      · cases h
        exact .other _ (fun _ => not_false) ⟨rfl, rfl, rfl, rfl⟩ (Nat.le_succ _)
      · cases h
        exact .sendRequest request _
  case onFailure error =>
    simp only [perform, onFailure, Shared.next] at h
    split at h
    · cases h
      exact .failureReported error
    · cases h
      exact .failureIgnored error
  case invoke id error response =>
    simp only [perform, invoke, Shared.next] at h
    split at h
    · cases h
    · rename_i item hItem
      split at h
      · rename_i hInvoked
        cases h
        exact .invokeAgain id error response item _ hItem hInvoked rfl
      · rename_i hInvoked
        cases h
        exact .invoke id error response item _ _ hItem (Bool.eq_false_iff.mpr hInvoked) rfl rfl
  case cancelAll =>
    simp only [perform, cancelAll, Shared.next] at h
    split at h
    · cases h
    · rename_i hMutex
      cases h
      exact .cancelAll (Option.not_isSome_iff_eq_none.mp hMutex)
  case cancelItems todo =>
    cases todo with
    | nil =>
      cases h
      exact .cancelled
    | cons id todo =>
      cases h
      exact .cancelItem id todo
  all_goals simp only [perform, userCode, addToStore, addRequest, awaitDone, handleResult,
    removeByID, Shared.next] at h
  all_goals (repeat' split at h)
  all_goals cases h
  all_goals exact .other _ (fun _ => not_false) ⟨rfl, rfl, rfl, rfl⟩ (Nat.le_refl _)

theorem step_of_exec (h : (machine configuration uninitialised).exec thread frame choice s =
    some (s', frames, spawned)) : Step thread frame s s' frames := by
  simp only [machine] at h
  split at h
  · cases h
  · rcases exec_cases h with ⟨-, rfl, rfl, rfl⟩ | ⟨-, hPerform⟩
    · exact .lost frame
    · exact step_of_perform hPerform

theorem shared_of_enter {event : Event} {quiet : Bool}
    (h : (machine configuration uninitialised).enter event quiet s = some (s', frames)) :
    s' = s := by
  simp only [machine] at h
  split at h
  · cases h
  · cases h
    rfl

theorem issued_of_step (h : Step thread frame s s' frames)
    (hIssued : ∀ id, s.items id ≠ none → id ≤ s.ticketID) :
    ∀ id, s'.items id ≠ none → id ≤ s'.ticketID := by
  intro id hid
  cases h
  case other hFrame hSame hTicket =>
    rw [hSame.items] at hid
    exact (hIssued id hid).trans hTicket
  case sendRequest request item =>
    by_cases hEq : id = s.ticketID + 1
    · exact Nat.le_of_eq hEq
    · simp only [Function.update_of_ne hEq] at hid
      exact Nat.le_succ_of_le (hIssued id hid)
  case invokeAgain called error response item after hInvoked hAfter hItem
      | invoke called error response item after call hInvoked hAfter hItem hHeld =>
    by_cases hEq : id = called
    · exact hIssued id (by simp [hEq, hItem])
    · simp only [Function.update_of_ne hEq] at hid
      exact hIssued id hid
  all_goals exact hIssued id hid

theorem isInvoked_of_step (h : Step thread frame s s' frames)
    (hIssued : ∀ id, s.items id ≠ none → id ≤ s.ticketID) {id : MessageID}
    (hInvoked : isInvoked s id = true) : isInvoked s' id = true := by
  cases h
  case other hFrame hSame hTicket => simpa only [isInvoked, hSame.items] using hInvoked
  case sendRequest request item =>
    have hNe : id ≠ s.ticketID + 1 := by
      rintro rfl
      rw [isInvoked, Option.any_eq_true] at hInvoked
      obtain ⟨item, hItem, -⟩ := hInvoked
      exact Nat.not_succ_le_self _ (hIssued _ (by simp [hItem]))
    simpa only [isInvoked, Function.update_of_ne hNe] using hInvoked
  case invokeAgain called error response item after hOld hAfter hItem
      | invoke called error response item after call hOld hAfter hItem hHeld =>
    by_cases hEq : id = called
    · simp [isInvoked, hEq, hAfter]
    · simpa only [isInvoked, Function.update_of_ne hEq] using hInvoked
  all_goals exact hInvoked

theorem mutex_of_step (h : Step thread frame s s' frames) (hOther : other ≠ thread)
    (hMutex : s'.messageStoreMutex = some other) : s.messageStoreMutex = some other := by
  cases h
  case other hFrame hSame hTicket => exact hSame.mutex ▸ hMutex
  case cancelAll => exact absurd (Option.some.inj hMutex).symm hOther
  case cancelled => cases hMutex
  all_goals exact hMutex

end Steps

theorem Silenced.keep {s s' : Shared} {stack : List Frame}
    (hKeep : ∀ id, isInvoked s id = true → isInvoked s' id = true) (h : Silenced s stack) :
    Silenced s' stack := by
  induction stack with
  | nil => exact h
  | cons frame stack ih =>
    cases frame
    case cancelItems todo => exact fun id hid => hKeep id (h id hid)
    case invoke id error response => exact ⟨hKeep id h.1, ih h.2⟩
    all_goals exact h

theorem Disciplined.replace {s : Shared} {thread : Nat} (h : Disciplined s thread [])
    (stack : List Frame) : Disciplined s thread stack where
  callbacks := h.callbacks
  failures := h.failures
  cancelling hMutex := (h.cancelling hMutex).elim

theorem Disciplined.held {s : Shared} {thread : Nat} {stack : List Frame}
    (h : Disciplined s thread stack) (hNot : ¬Silenced s stack) : s.held thread = [] :=
  if_neg fun hMutex => hNot (h.cancelling hMutex)

section Steps

variable {thread other : Nat} {frame : Frame} {s s' : Shared} {stack rest frames : List Frame}

theorem Disciplined.own (hI : Disciplined s thread (frame :: stack))
    (hIssued : ∀ id, s.items id ≠ none → id ≤ s.ticketID)
    (hGuard : isCancelAll frame = true → s.messageStore.all (isInvoked s) = true)
    (h : Step thread frame s s' frames) : Disciplined s' thread (frames ++ stack) := by
  have hKeep : ∀ id, isInvoked s id = true → isInvoked s' id = true :=
    fun _ => isInvoked_of_step h hIssued
  have hCancelling := hI.cancelling
  refine ⟨?_, ?_, ?_⟩
  · cases h
    case other hFrame hSame hTicket => exact hSame.calls ▸ hI.callbacks
    case invoke item after call hInvoked hAfter hItem hHeld =>
      intro called hCalled
      rcases List.mem_append.mp hCalled with hOld | hNew
      · exact hI.callbacks called hOld
      · rw [List.mem_singleton.mp hNew, hHeld]
        apply hI.held
        rintro ⟨hAgain, -⟩
        simp [isInvoked, hItem, hInvoked] at hAgain
    all_goals exact hI.callbacks
  · cases h
    case other hFrame hSame hTicket => exact hSame.failures ▸ hI.failures
    case failureReported error =>
      intro failure hFailure
      rcases List.mem_append.mp hFailure with hOld | hNew
      · exact hI.failures failure hOld
      · rw [List.mem_singleton.mp hNew]
        exact hI.held not_false
    all_goals exact hI.failures
  · intro hMutex
    cases h
    case other hFrame hSame hTicket =>
      exact (hFrame stack (hCancelling (hSame.mutex ▸ hMutex))).elim
    case cancelAll => exact List.all_eq_true.mp (hGuard rfl)
    case cancelItem id todo =>
      have hTodo := hCancelling hMutex
      exact ⟨hTodo id List.mem_cons_self, fun _ hOther => hTodo _ (List.mem_cons_of_mem _ hOther)⟩
    case cancelled => cases hMutex
    case lost => exact (hCancelling hMutex).keep hKeep
    case invokeAgain => exact ((hCancelling hMutex).keep hKeep).2
    case invoke item after call hInvoked hAfter hItem hHeld =>
      have hAgain := (hCancelling hMutex).1
      simp [isInvoked, hItem, hInvoked] at hAgain
    all_goals exact (hCancelling hMutex).elim

theorem Disciplined.kept (hI : Disciplined s other stack)
    (hOwn : Disciplined s' thread (frames ++ rest))
    (hIssued : ∀ id, s.items id ≠ none → id ≤ s.ticketID) (hOther : other ≠ thread)
    (h : Step thread frame s s' frames) : Disciplined s' other stack where
  callbacks := hOwn.callbacks
  failures := hOwn.failures
  cancelling hMutex := (hI.cancelling (mutex_of_step h hOther hMutex)).keep
    fun _ => isInvoked_of_step h hIssued

end Steps

section Machine

variable (configuration : ConnectionConfiguration) (uninitialised : Nat)

theorem issued_preserved :
    Preserved (machine configuration uninitialised) .all Issued where
  exec _ _ _ _ _ _ _ _ h _ hExec := issued_of_step (step_of_exec hExec) h
  enter _ _ _ _ _ _ h _ _ hEnter := by
    obtain rfl := shared_of_enter hEnter
    exact h

theorem disciplined_preserved : StackPreserved (machine configuration uninitialised)
    cancelsQuietly Issued Disciplined where
  own _ _ _ _ _ _ _ _ _ hIssued hI hGuard hExec := hI.own hIssued hGuard (step_of_exec hExec)
  other _ _ _ _ _ _ _ _ _ hIssued hI hGuard hExec _ _ hOther hRest :=
    hRest.kept (hI.own hIssued hGuard (step_of_exec hExec)) hIssued hOther (step_of_exec hExec)
  spawned _ _ _ _ _ _ _ _ new _ _ hEmpty := hEmpty.replace new
  entered _ _ _ _ frames hEnter := by
    obtain rfl := shared_of_enter hEnter
    exact ⟨fun _ _ hRest => hRest, fun _ hEmpty => hEmpty.replace frames⟩

variable {configuration uninitialised} {c : Config Shared Frame}

theorem lockDiscipline_of_reaches
    (h : Reaches (machine configuration uninitialised) cancelsQuietly initial c) :
    LockDiscipline c := by
  have hAll := h.stacks ((issued_preserved configuration uninitialised).under _)
    (disciplined_preserved configuration uninitialised) (by simp [Issued, initial])
    (fun thread => by constructor <;> simp [initial])
  have hStack : ∀ {thread stack}, c.threads[thread]? = some stack →
      Disciplined c.shared thread stack := by
    intro thread stack hThread
    have hThis := hAll thread
    rwa [List.getD_eq_getElem?_getD, hThread, Option.getD_some] at hThis
  refine ⟨(hAll 0).callbacks, (hAll 0).failures, ?_, ?_⟩
  · intro thread stack hThread
    exact (hStack hThread).held not_false
  · intro thread frame stack hThread hWaits
    apply (hStack hThread).held
    cases frame <;> first | exact not_false | cases hWaits

end Machine

end Fuerte.Http.Connection

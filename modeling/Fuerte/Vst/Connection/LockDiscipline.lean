import Fuerte.Vst.Connection.Items

/-! # User code runs without the connection's mutexes

`cancelAll` keeps the store locked while it completes what is stored. Only where
none of these completions reaches user code does it run with no mutex held.
-/

namespace Fuerte.Vst.Connection

set_option autoImplicit false

open Interleaving

/-- The mutex a frame waits for before it can be executed. -/
def waitsFor : Frame → Option Mutex
  | .requestsLeftStore | .cancelAll _ _ | .readNextBytes _ | .findItem _ | .removeCompleted _ _
  | .addToStore _ _ | .removeFailed _ _ => some .messageStore
  | .stopWriting _ _ | .startWriting | .sendNextRequest _ | .restartReading _ _ _
  | .restartWriting _ _ _ => some .writeLoop
  | _ => none

theorem mutex_of_held {s : Shared} {thread : Nat} {mutex : Mutex} (h : mutex ∈ s.held thread) :
    mutex = .messageStore ∧ s.messageStoreMutex = some thread ∨
      mutex = .writeLoop ∧ s.writeLoopMutex = some thread := by
  rcases List.mem_append.mp h with hStore | hWriting
  · split at hStore
    · rename_i hMutex
      exact .inl ⟨List.mem_singleton.mp hStore, hMutex⟩
    · cases hStore
  · split at hWriting
    · rename_i hMutex
      exact .inr ⟨List.mem_singleton.mp hWriting, hMutex⟩
    · cases hWriting

/-- As long as a thread holds the mutex, the waiting frame is not executed. -/
theorem perform_of_waiting {platform : Platform} {configuration : Configuration}
    {thread other : Nat} {frame : Frame} {mutex : Mutex} {s : Shared}
    (h : waitsFor frame = some mutex) (hHeld : mutex ∈ s.held other) (choice : Choice) :
    perform platform configuration thread frame choice s = none := by
  rcases mutex_of_held hHeld with ⟨rfl, hMutex⟩ | ⟨rfl, hMutex⟩
  · cases frame <;> cases h <;> simp [perform, requestsLeftStore, cancelAll, readNextBytes,
      findItem, removeCompleted, addToStore, removeFailed, hMutex]
  · cases frame <;> cases h <;> simp [perform, stopWriting, startWriting, sendNextRequest,
      restartReading, restartWriting, hMutex]

/-- No user code is called with a mutex held, and threads take mutexes in one
order: that of the write loop before that of the store. -/
structure LockDiscipline (c : Config Shared Frame) : Prop where
  callbacks : ∀ call ∈ c.shared.calls, call.owner = .user → call.held = []
  failures : ∀ failure ∈ c.shared.history.failures, failure.2 = []
  userCode : ∀ thread stack, c.threads[thread]? = some (.userCode :: stack) →
    c.shared.held thread = []
  order : ∀ thread frame stack mutex, c.threads[thread]? = some (frame :: stack) →
    waitsFor frame = some mutex → c.shared.held thread = [] ∨
      mutex = .messageStore ∧ c.shared.held thread = [.writeLoop]

def isCancelAll : Frame → Bool
  | .cancelAll _ _ => true
  | _ => false

section Quiet

variable (configuration : Configuration)

/-- Cancelling this item does not call user code. -/
def isQuiet (s : Shared) (id : MessageID) : Bool :=
  (s.items id).any fun item => item.callback.invoked ||
    item.callback.cb == .authentication && !configuration.onFailure

/-- What is stored when `cancelAll` starts is cancelled without user code. -/
def cancelsQuietly : Guard Shared Frame Choice Event where
  run _ frame _ s _ := isCancelAll frame = true →
    s.messageStore.all (isQuiet configuration s) = true
  enter _ _ _ := True

instance (thread : Nat) (frame : Frame) (choice : Choice) (s : Shared) (frames : Multiset Frame) :
    Decidable ((cancelsQuietly configuration).run thread frame choice s frames) :=
  inferInstanceAs (Decidable (_ → _))

instance (event : Event) (s : Shared) (frames : Multiset Frame) :
    Decidable ((cancelsQuietly configuration).enter event s frames) :=
  inferInstanceAs (Decidable True)

/-- A stack that reaches the end of `cancelAll` without user code. -/
def Silenced (s : Shared) : List Frame → Prop
  | .cancelItems _ _ todo :: _ => ∀ id ∈ todo, isQuiet configuration s id = true
  | .moveRequest id _ _ :: stack | .invoke id _ _ _ :: stack =>
    isQuiet configuration s id = true ∧ Silenced s stack
  | .authenticationCallback _ :: stack | .onFailure _ :: stack =>
    configuration.onFailure = false ∧ Silenced s stack
  | _ => False

/-- A stack in the section of `getNextRequestToSend`. -/
def Sending : List Frame → Prop
  | .queueFront _ :: _ | .stopLoop _ :: _ | .addToStore _ _ :: _ | .removeFromQueue _ _ :: _ => True
  | _ => False

structure Disciplined (s : Shared) (thread : Nat) (stack : List Frame) : Prop where
  callbacks : ∀ call ∈ s.calls, call.owner = .user → call.held = []
  failures : ∀ failure ∈ s.history.failures, failure.2 = []
  writing : s.writeLoopMutex = some thread → Sending stack
  cancelling : s.messageStoreMutex = some thread → Silenced configuration s stack

end Quiet

section Steps

variable {platform : Platform} {configuration : Configuration} {thread other : Nat} {frame : Frame}
  {choice : Choice} {s s' : Shared} {stack rest frames : List Frame}
  {spawned : List (List Frame)}

theorem isQuiet_of_step (h : Step platform configuration thread frame choice s s' frames spawned)
    (hIssued : ∀ id, s.items id ≠ none → id ≤ s.messageID) {id : MessageID}
    (hQuiet : isQuiet configuration s id = true) : isQuiet configuration s' id = true := by
  rw [isQuiet, Option.any_eq_true] at hQuiet ⊢
  obtain ⟨item, hItem, hQuiet⟩ := hQuiet
  obtain ⟨after, hAfter, hKeeps⟩ := keeps_of_step h hIssued hItem
  refine ⟨after, hAfter, ?_⟩
  rw [Bool.or_eq_true] at hQuiet ⊢
  rcases hQuiet with hInvoked | hOwner
  · exact .inl (hKeeps.invoked hInvoked)
  · exact .inr (hKeeps.owner.symm ▸ hOwner)

theorem Silenced.keep (hKeep : ∀ id, isQuiet configuration s id = true →
    isQuiet configuration s' id = true) (h : Silenced configuration s stack) :
    Silenced configuration s' stack := by
  induction stack with
  | nil => exact h
  | cons frame stack ih =>
    cases frame
    case cancelItems error after todo => exact fun id hid => hKeep id (h id hid)
    case moveRequest id error response => exact ⟨hKeep id h.1, ih h.2⟩
    case invoke id error request response => exact ⟨hKeep id h.1, ih h.2⟩
    case authenticationCallback error => exact ⟨h.1, ih h.2⟩
    case onFailure error => exact ⟨h.1, ih h.2⟩
    all_goals exact h

theorem held_eq_nil (hStore : s.messageStoreMutex ≠ some thread)
    (hWriting : s.writeLoopMutex ≠ some thread) : s.held thread = [] := by
  rw [Shared.held, if_neg hStore, if_neg hWriting, List.nil_append]

/-- Another thread does not get the mutexes of this one. -/
theorem mutexes_of_step (h : Step platform configuration thread frame choice s s' frames spawned)
    (hOther : other ≠ thread) :
    (s'.writeLoopMutex = some other → s.writeLoopMutex = some other) ∧
      (s'.messageStoreMutex = some other → s.messageStoreMutex = some other) := by
  cases h
  all_goals try exact ⟨fun hMutex => hMutex, fun hMutex => hMutex⟩
  case cancelAll =>
    exact ⟨fun hMutex => hMutex, fun hMutex => absurd (Option.some.inj hMutex).symm hOther⟩
  case sendNextRequest =>
    exact ⟨fun hMutex => absurd (Option.some.inj hMutex).symm hOther, fun hMutex => hMutex⟩
  case cancelledForReconnect | cancelledForFailure | cancelledForDestruction =>
    exact ⟨fun hMutex => hMutex, nofun⟩
  case stopLoop | removeFromQueue => exact ⟨nofun, fun hMutex => hMutex⟩

theorem Disciplined.own (hI : Disciplined configuration s thread (frame :: stack))
    (hIssued : ∀ id, s.items id ≠ none → id ≤ s.messageID)
    (hGuard : isCancelAll frame = true → s.messageStore.all (isQuiet configuration s) = true)
    (h : Step platform configuration thread frame choice s s' frames spawned) :
    Disciplined configuration s' thread (frames ++ stack) := by
  have hKeep : ∀ id, isQuiet configuration s id = true → isQuiet configuration s' id = true :=
    fun _ => isQuiet_of_step h hIssued
  have hCancelling := hI.cancelling
  refine ⟨?_, ?_, ?_, ?_⟩
  · cases h
    all_goals try exact hI.callbacks
    case invokeUser item hInvoked hOwner hItem =>
      intro call hCall hUser
      rcases List.mem_append.mp hCall with hOld | hNew
      · exact hI.callbacks call hOld hUser
      · rw [List.mem_singleton.mp hNew]
        apply held_eq_nil
        · intro hMutex
          have hQuiet := (hCancelling hMutex).1
          simp [isQuiet, hItem, hInvoked, hOwner] at hQuiet
        · exact hI.writing
    case invokeAuthentication item hInvoked hOwner hItem =>
      intro call hCall hUser
      rcases List.mem_append.mp hCall with hOld | hNew
      · exact hI.callbacks call hOld hUser
      · rw [List.mem_singleton.mp hNew, hOwner] at hUser
        cases hUser
  · cases h
    all_goals try exact hI.failures
    case failureReported error hReported =>
      intro failure hFailure
      rcases List.mem_append.mp hFailure with hOld | hNew
      · exact hI.failures failure hOld
      · rw [List.mem_singleton.mp hNew]
        apply held_eq_nil
        · intro hMutex
          have hIgnored := (hCancelling hMutex).1
          rw [hReported] at hIgnored
          cases hIgnored
        · exact hI.writing
  · cases h
    all_goals first
      | exact fun hMutex => hI.writing hMutex
      | exact fun hMutex => (hI.writing hMutex).elim
      | exact fun _ => trivial
      | exact nofun
  · intro hMutex
    cases h
    case cancelAll => exact List.all_eq_true.mp (hGuard rfl)
    case cancelItem error after id todo =>
      have hTodo := hCancelling hMutex
      exact ⟨hTodo id List.mem_cons_self, fun _ hOther => hTodo _ (List.mem_cons_of_mem _ hOther)⟩
    case cancelledForReconnect | cancelledForFailure | cancelledForDestruction => cases hMutex
    case moveRequest | authenticationFailed | throws => exact (hCancelling hMutex).keep hKeep
    case invokeAgain | authenticated | failureIgnored => exact ((hCancelling hMutex).keep hKeep).2
    case invokeUser item hInvoked hOwner hItem =>
      have hQuiet := (hCancelling hMutex).1
      simp [isQuiet, hItem, hInvoked, hOwner] at hQuiet
    case invokeAuthentication item hInvoked hOwner hItem =>
      have hQuiet := (hCancelling hMutex).1
      simp [isQuiet, hItem, hInvoked, hOwner] at hQuiet
      exact ⟨hQuiet, (hCancelling hMutex).2.keep hKeep⟩
    case failureReported error hReported =>
      have hIgnored := (hCancelling hMutex).1
      rw [hReported] at hIgnored
      cases hIgnored
    all_goals exact (hCancelling hMutex).elim

theorem Disciplined.kept (hI : Disciplined configuration s other stack)
    (hOwn : Disciplined configuration s' thread (frames ++ rest))
    (hIssued : ∀ id, s.items id ≠ none → id ≤ s.messageID) (hOther : other ≠ thread)
    (h : Step platform configuration thread frame choice s s' frames spawned) :
    Disciplined configuration s' other stack where
  callbacks := hOwn.callbacks
  failures := hOwn.failures
  writing hMutex := hI.writing ((mutexes_of_step h hOther).1 hMutex)
  cancelling hMutex := (hI.cancelling ((mutexes_of_step h hOther).2 hMutex)).keep
    fun _ => isQuiet_of_step h hIssued

theorem Disciplined.replace (h : Disciplined configuration s thread []) (stack : List Frame) :
    Disciplined configuration s thread stack where
  callbacks := h.callbacks
  failures := h.failures
  writing hMutex := (h.writing hMutex).elim
  cancelling hMutex := (h.cancelling hMutex).elim

theorem Disciplined.held (h : Disciplined configuration s thread (frame :: stack))
    (hStore : ¬Silenced configuration s (frame :: stack)) (hWriting : ¬Sending (frame :: stack)) :
    s.held thread = [] :=
  held_eq_nil (fun hMutex => hStore (h.cancelling hMutex)) fun hMutex => hWriting (h.writing hMutex)

end Steps

section Machine

variable (platform : Platform) (configuration : Configuration)

theorem disciplined_preserved : StackPreserved (machine platform configuration)
    (cancelsQuietly configuration) ItemsKnown (Disciplined configuration) where
  own _ _ _ _ _ _ _ _ _ hItems hI hGuard hExec := hI.own hItems.issued hGuard (step_of_exec hExec)
  other _ _ _ _ _ _ _ _ _ hItems hI hGuard hExec _ _ hOther hRest :=
    hRest.kept (hI.own hItems.issued hGuard (step_of_exec hExec)) hItems.issued hOther
      (step_of_exec hExec)
  spawned _ _ _ _ _ _ _ _ new _ _ hEmpty := hEmpty.replace new
  entered _ _ _ _ frames hEnter := by
    refine ⟨?_, fun _ hEmpty => hEmpty.replace frames⟩
    intro _ _ hRest
    rcases enter_cases hEnter with ⟨_, rfl, rfl⟩ | ⟨_, _, _, _, rfl, rfl⟩
    · exact hRest
    · refine ⟨hRest.callbacks, hRest.failures, hRest.writing, fun hMutex => ?_⟩
      have hSilenced := hRest.cancelling hMutex
      apply hSilenced.keep
      exact fun _ hQuiet => hQuiet

theorem disciplined_initial (thread : Nat) :
    Disciplined configuration initial.shared thread (initial.threads.getD thread []) := by
  constructor <;> simp [initial]

variable {platform configuration} {c : Config Shared Frame}

theorem disciplined_of_reaches
    (h : Reaches (machine platform configuration) (cancelsQuietly configuration) initial c)
    {thread : Nat} {stack : List Frame} (hThread : c.threads[thread]? = some stack) :
    Disciplined configuration c.shared thread stack := by
  have hAll := h.stacks (itemsKnown_preserved platform configuration |>.under _)
    (disciplined_preserved platform configuration) itemsKnown_initial
    (disciplined_initial configuration) thread
  rwa [List.getD_eq_getElem?_getD, hThread, Option.getD_some] at hAll

theorem lockDiscipline_of_reaches
    (h : Reaches (machine platform configuration) (cancelsQuietly configuration) initial c) :
    LockDiscipline c := by
  have hAll := h.stacks (itemsKnown_preserved platform configuration |>.under _)
    (disciplined_preserved platform configuration) itemsKnown_initial
    (disciplined_initial configuration)
  refine ⟨(hAll 0).callbacks, (hAll 0).failures, ?_, ?_⟩
  · intro thread stack hThread
    exact (disciplined_of_reaches h hThread).held not_false not_false
  · intro thread frame stack mutex hThread hMutex
    have hDisciplined := disciplined_of_reaches h hThread
    by_cases hStore : c.shared.messageStoreMutex = some thread
    · have hSilenced := hDisciplined.cancelling hStore
      cases frame <;> first | exact hSilenced.elim | cases hMutex
    · rw [Shared.held, if_neg hStore, List.nil_append]
      split
      · rename_i hWriting
        have hSending := hDisciplined.writing hWriting
        cases frame <;> first | exact hSending.elim | cases hMutex
        exact .inr ⟨rfl, rfl⟩
      · exact .inl rfl

end Machine

end Fuerte.Vst.Connection

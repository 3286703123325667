import Fuerte.Vst.Connection.NothingAbandoned
import Fuerte.Vst.Connection.RequestsInFlight

/-! # The number of requests left

`requestsLeft` adds the sizes of the queue and of the store. Whenever nothing
executes, every unfinished request is in exactly one of them, and so is every
authentication request of the connection.
-/

namespace Fuerte.Vst.Connection

set_option autoImplicit false

open Interleaving

/-- `requestsLeft`, where no step comes between its two frames. -/
def requestsLeft (s : Shared) : Nat := s.sendQueue.length + s.messageStore.length

/-- The item has a callback that has not been invoked. -/
def Shared.isOpen (s : Shared) (id : MessageID) : Bool :=
  (s.items id).any fun item => !item.callback.invoked

/-- The unfinished requests, the connection's own among them. -/
def unfinished (s : Shared) : List MessageID := (List.range (s.messageID + 1)).filter s.isOpen

/-- The unfinished requests that `sendRequest` has accepted. -/
def accepted (s : Shared) : List MessageID := (unfinished s).filter s.ofUser

/-- The frame is a pending operation, or user code outside of the connection. -/
def isIdle : Frame → Bool
  | .userCode | .awaitResolve | .awaitConnect _ | .awaitHandshake _ | .awaitHeader _
  | .awaitRead _ | .awaitReadDeadline _ _ | .awaitWrite _ _ | .awaitWriteDeadline _ _ => true
  | _ => false

/-- No handler and no `sendRequest` is executing. -/
def Idle (frames : Multiset Frame) : Prop := ∀ frame ∈ frames, isIdle frame = true

instance (frames : Multiset Frame) : Decidable (Idle frames) :=
  inferInstanceAs (Decidable (∀ frame ∈ frames, _))

/-- Every item is enqueued once it has been created. It is completed after it has
been in the store, and then the store does not have it any more. -/
structure Counted (s : Shared) (frames : Multiset Frame) : Prop where
  created : ∀ id, s.items id ≠ none → id ∈ s.history.enqueued ∨ 0 < load (entering id) frames
  referred : ∀ frame ∈ frames, beforeStore frame = false → ∀ id ∈ mentioned frame,
    Entered s frames id
  entered : ∀ id ∈ s.messageStore, Entered s frames id
  completed : ∀ id, Completed s frames id →
    Entered s frames id ∧ (id ∉ s.messageStore ∨ s.messageStoreMutex ≠ none)
  ordered : s.messageStore.Pairwise (· < ·)
  called : ∀ call ∈ s.calls, s.invoked call.item = true

section Steps

variable {platform : Platform} {configuration : Configuration} {thread : Nat} {frame : Frame}
  {choice : Choice} {s s' : Shared} {rest before after : Multiset Frame} {frames : List Frame}
  {spawned : List (List Frame)}

theorem created_of_step (h : Step platform configuration thread frame choice s s' frames spawned)
    {id : MessageID} (hItem : s'.items id ≠ none) :
    s.items id ≠ none ∨ 0 < load (entering id) (↑(frames ++ spawned.flatten) + rest) := by
  cases h
  all_goals try exact .inl hItem
  case createRequestItem | insertAuthenticationRequests =>
    by_cases hEq : id = s.messageID + 1
    · refine .inr ?_
      exact load_next_pos _ List.mem_cons_self (by simp [entering, hEq]) _
    · exact .inl (by simpa only [Function.update_of_ne hEq] using hItem)
  all_goals
    refine .inl fun hNone => hItem ?_
    simp only [Shared.updateItem, Shared.updateWriteLoop, Function.update_apply]
    split <;> simp_all

theorem entering_of_step
    (h : Step platform configuration thread frame choice s s' frames spawned) {id : MessageID}
    (hEntering : 0 < load (entering id) (frame ::ₘ rest)) :
    id ∈ s'.history.enqueued ∨ 0 < load (entering id) (↑(frames ++ spawned.flatten) + rest) := by
  rw [load_cons] at hEntering
  cases h
  case addToQueue other | insertIntoQueue other =>
    by_cases hEq : other = id
    · exact .inl (by simp [hEq])
    · exact .inr (by simpa [entering, hEq] using hEntering)
  case throws => exact .inr (by simpa using hEntering)
  all_goals
    refine .inr ?_
    simp only [entering, Nat.zero_add] at hEntering
    simp only [load_add]
    omega

theorem enqueued_kept (h : Step platform configuration thread frame choice s s' frames spawned)
    {id : MessageID} (hEnqueued : id ∈ s.history.enqueued) : id ∈ s'.history.enqueued := by
  cases h
  case addToQueue | insertIntoQueue => exact List.mem_append_left _ hEnqueued
  all_goals exact hEnqueued

theorem ordered_of_step (h : Step platform configuration thread frame choice s s' frames spawned)
    (hOrdered : s.messageStore.Pairwise (· < ·)) : s'.messageStore.Pairwise (· < ·) := by
  cases h
  case addToStore => exact MessageStore.pairwise_add hOrdered _
  case removeCompleted | removeFailed => exact hOrdered.filter _
  case cancelledForReconnect | cancelledForFailure | cancelledForDestruction => exact .nil
  all_goals exact hOrdered

/-- What is completed next is being completed, or has left the store in this step,
or its cancellation holds the mutex. -/
theorem completed_of_step (hMutex : StoreMutex s (frame ::ₘ rest))
    (h : Step platform configuration thread frame choice s s' frames spawned) {id : MessageID}
    (hCompleted : Completed s' (↑(frames ++ spawned.flatten) + rest) id) :
    Completed s (frame ::ₘ rest) id ∨
      (beforeStore frame = false ∧ id ∈ mentioned frame) ∧
        (id ∉ s'.messageStore ∨ s'.messageStoreMutex ≠ none) := by
  rcases hCompleted with ⟨call, hCall, hItem⟩ | hPos
  · left
    cases h
    case invokeUser | invokeAuthentication =>
      rcases List.mem_append.mp hCall with hOld | hNew
      · exact .inl ⟨call, hOld, hItem⟩
      · refine .inr ?_
        rw [← hItem, List.mem_singleton.mp hNew]
        simp only [load_cons, completing, if_true]
        omega
    all_goals exact .inl ⟨call, hCall, hItem⟩
  · have hRest : load (completing id) rest ≤ load (completing id) (frame ::ₘ rest) := by
      rw [load_cons]
      exact Nat.le_add_left _ _
    cases h
    case throws | createResponse | moveRequest =>
      exact .inl (.inr (by simpa [completing] using hPos))
    case removeCompleted other _ _ | removeFailed _ other _ =>
      by_cases hEq : other = id
      · subst hEq
        exact .inr ⟨⟨rfl, List.mem_singleton_self _⟩, .inl (by simp)⟩
      · exact .inl (.inr (by simpa [completing, hEq] using hPos))
    case cancelItem other todo =>
      by_cases hEq : other = id
      · subst hEq
        refine .inr ⟨⟨rfl, List.mem_cons_self⟩, .inr fun hNone => ?_⟩
        simp [StoreMutex, cancelling, hNone] at hMutex
      · exact .inl (.inr (by simpa [completing, hEq] using hPos))
    all_goals
      refine .inl (.inr (Nat.lt_of_lt_of_le ?_ hRest))
      simpa [completing] using hPos

theorem called_of_step (hItems : ItemsKnown s (frame ::ₘ rest))
    (hCalled : ∀ call ∈ s.calls, s.invoked call.item = true)
    (h : Step platform configuration thread frame choice s s' frames spawned) :
    ∀ call ∈ s'.calls, s'.invoked call.item = true := by
  have hKept : ∀ call ∈ s.calls, s'.invoked call.item = true := by
    intro call hCall
    obtain ⟨item, hItem, hInvoked⟩ := (Option.any_eq_true _ _).mp (hCalled call hCall)
    obtain ⟨after, hAfter, hKeeps⟩ := keeps_of_step h hItems.issued hItem
    simp [Shared.invoked, hAfter, hKeeps.invoked hInvoked]
  intro call hCall
  cases h
  case invokeUser | invokeAuthentication =>
    rcases List.mem_append.mp hCall with hOld | hNew
    · exact hKept call hOld
    · rw [List.mem_singleton.mp hNew]
      simp [Shared.invoked]
  all_goals exact hKept call hCall

theorem Counted.step (hI : Counted s (frame ::ₘ rest))
    (hInvariant : HandoverInvariant s (frame ::ₘ rest)) (hMutex : StoreMutex s (frame ::ₘ rest))
    (h : Step platform configuration thread frame choice s s' frames spawned) :
    Counted s' (↑(frames ++ spawned.flatten) + rest) := by
  refine ⟨?_, referred_step hI.referred hI.entered h, entered_step hI.entered h, ?_,
    ordered_of_step h hI.ordered, called_of_step hInvariant.items hI.called h⟩
  · intro id hItem
    rcases created_of_step h hItem with hOld | hNew
    · rcases hI.created id hOld with hEnqueued | hEntering
      · exact .inl (enqueued_kept h hEnqueued)
      · exact entering_of_step h hEntering
    · exact .inr hNew
  · intro id hCompleted
    rcases completed_of_step hMutex h hCompleted with hOld | ⟨⟨hFrame, hMentioned⟩, hGone⟩
    · obtain ⟨hEntered, hGone⟩ := hI.completed id hOld
      exact ⟨hEntered.step h, gone_kept hInvariant h hEntered hGone⟩
    · exact ⟨(hI.referred frame (Multiset.mem_cons_self _ _) hFrame id hMentioned).step h, hGone⟩

end Steps

/-! ## While nothing executes -/

section Idle

variable {s : Shared} {frames : Multiset Frame}

theorem Idle.load_eq_zero (hIdle : Idle frames) {weight : Frame → Nat}
    (hWeight : ∀ frame, isIdle frame = true → weight frame = 0) : load weight frames = 0 :=
  (load_eq_zero_iff weight).mpr fun frame hFrame => hWeight frame (hIdle frame hFrame)

theorem Idle.entered_iff (hIdle : Idle frames) (id : MessageID) :
    Entered s frames id ↔ id ∈ s.history.handedOver := by
  refine or_iff_left ?_
  rintro ⟨w, hFrame⟩
  cases hIdle _ hFrame

theorem Idle.completed_iff (hIdle : Idle frames) (id : MessageID) :
    Completed s frames id ↔ ∃ call ∈ s.calls, call.item = id := by
  refine or_iff_left ?_
  rw [hIdle.load_eq_zero fun frame hFrame => by cases frame <;> first | rfl | cases hFrame]
  exact Nat.lt_irrefl 0

theorem Idle.mutex (hIdle : Idle frames) (hMutex : StoreMutex s frames) :
    s.messageStoreMutex = none := by
  rw [StoreMutex, hIdle.load_eq_zero fun frame hFrame => by
    cases frame <;> first | rfl | cases hFrame] at hMutex
  by_contra hHeld
  rw [if_pos (Option.isSome_iff_ne_none.mpr hHeld)] at hMutex
  cases hMutex

theorem mem_unfinished (hItems : ItemsKnown s frames) (id : MessageID) :
    id ∈ unfinished s ↔ s.items id ≠ none ∧ s.invoked id = false := by
  rw [unfinished, List.mem_filter, List.mem_range]
  cases hItem : s.items id with
  | none => simp [Shared.isOpen, hItem]
  | some item =>
    have hLe := hItems.issued id (by simp [hItem])
    simp only [Shared.isOpen, Shared.invoked, hItem, Option.any_some, Bool.not_eq_true',
      ne_eq, reduceCtorEq, not_false_eq_true, true_and, and_iff_right_iff_imp]
    exact fun _ => Nat.lt_succ_of_le hLe

/-- Queue and store together list the unfinished requests, each of them once. -/
theorem Counted.perm (hI : Counted s frames) (hInvariant : HandoverInvariant s frames)
    (hMutex : StoreMutex s frames) (hTracked : Tracked s frames) (hIdle : Idle frames) :
    (s.sendQueue ++ s.messageStore).Perm (unfinished s) := by
  have hItems := hInvariant.items
  have hFree := hIdle.mutex hMutex
  have hEnqueued : s.history.enqueued.Nodup := hInvariant.handedOver.once
  have hDistinct := hInvariant.accounted.complete.nodup_iff.mpr hEnqueued
  have hQueue : ∀ id ∈ s.sendQueue, id ∉ s.history.handedOver := fun id hid hHanded =>
    List.disjoint_of_nodup_append hDistinct hHanded hid
  have hStored : ∀ id ∈ s.messageStore, id ∈ s.history.handedOver := fun id hid =>
    (hIdle.entered_iff id).mp (hI.entered id hid)
  have hInvoked : ∀ id, s.invoked id = true → id ∈ s.history.handedOver ∧ id ∉ s.messageStore := by
    intro id hid
    obtain ⟨hEntered, hGone⟩ := hI.completed id (.inl (hTracked.called id hid))
    exact ⟨(hIdle.entered_iff id).mp hEntered, hGone.resolve_right fun hNot => hNot hFree⟩
  have hUnfinished : (unfinished s).Nodup := List.nodup_range.filter _
  refine (List.perm_ext_iff_of_nodup ?_ hUnfinished).mpr fun id => ?_
  · refine List.Nodup.append hDistinct.of_append_right (hI.ordered.imp Nat.ne_of_lt) ?_
    exact fun id hid hStore => hQueue id hid (hStored id hStore)
  · rw [mem_unfinished hItems, List.mem_append]
    constructor
    · rintro (hid | hid)
      · refine ⟨hItems.queued id hid, Bool.eq_false_iff.mpr fun hCalled => ?_⟩
        exact hQueue id hid (hInvoked id hCalled).1
      · refine ⟨hItems.stored id hid, Bool.eq_false_iff.mpr fun hCalled => ?_⟩
        exact (hInvoked id hCalled).2 hid
    · rintro ⟨hItem, hOpen⟩
      have hCreated := (hI.created id hItem).resolve_right (by
        rw [hIdle.load_eq_zero fun frame hFrame => by cases frame <;> first | rfl | cases hFrame]
        exact Nat.lt_irrefl 0)
      rcases hTracked.enqueued id hCreated with hQueued | hStore | hCompleted
      · exact .inl hQueued
      · exact .inr hStore
      · obtain ⟨call, hCall, rfl⟩ := (hIdle.completed_iff id).mp hCompleted
        rw [hI.called call hCall] at hOpen
        cases hOpen

/-- The connection's own requests make the difference. -/
theorem requestsLeft_eq_accepted_iff (h : (s.sendQueue ++ s.messageStore).Perm (unfinished s)) :
    requestsLeft s = (accepted s).length ↔ ∀ id ∈ s.sendQueue ++ s.messageStore, s.ofUser id = true := by
  have hLength : requestsLeft s = (s.sendQueue ++ s.messageStore).length :=
    List.length_append.symm
  rw [hLength, accepted, ← (h.filter s.ofUser).length_eq]
  exact eq_comm.trans List.length_filter_eq_length_iff

end Idle

/-! ## Every run -/

section Machine

variable (platform : Platform) (configuration : Configuration)

theorem counted_preserved : Preserved (machine platform configuration) insertionsApart
    fun s frames => ((HandoverInvariant s frames ∧ StoreMutex s frames) ∧ Tracked s frames) ∧
      Counted s frames := by
  refine (handoverMutex_preserved.and ?_ ?_).and ?_ ?_
  · rintro _ _ _ _ _ _ _ _ ⟨hHandover, hMutex⟩ hTracked _ hExec
    exact hTracked.step hMutex hHandover.peeked (step_of_exec hExec)
  · intro _ _ _ _ _ _ _ hTracked _ _ hEnter
    exact hTracked.enter hEnter
  · rintro _ _ _ _ _ _ _ _ ⟨⟨hHandover, hMutex⟩, -⟩ hI _ hExec
    exact hI.step hHandover hMutex (step_of_exec hExec)
  · rintro _ _ _ _ _ _ _ ⟨hCreated, hReferred, hEntered, hCompleted, hOrdered, hCalled⟩ _ _ hEnter
    rcases enter_cases hEnter with ⟨_, rfl, rfl⟩ | ⟨_, _, _, _, rfl, rfl⟩ <;>
      exact ⟨by simpa [entering] using hCreated, by simpa [Entered, mentioned] using hReferred,
        by simpa [Entered] using hEntered, by simpa [Completed, completing, Entered] using hCompleted,
        hOrdered, hCalled⟩

theorem counted_initial : Counted initial.shared initial.frames := by
  constructor <;> simp [initial, Config.frames, mentioned, Completed, completing]

variable {platform configuration} {c : Config Shared Frame}

theorem perm_unfinished (h : Reaches (machine platform configuration) insertionsApart initial c)
    (hIdle : Idle c.frames) :
    (c.shared.sendQueue ++ c.shared.messageStore).Perm (unfinished c.shared) := by
  obtain ⟨⟨⟨hHandover, hMutex⟩, hTracked⟩, hCounted⟩ := h.invariant
    (counted_preserved platform configuration)
    ⟨⟨⟨handover_initial, storeMutex_initial⟩, tracked_initial⟩, counted_initial⟩
  exact hCounted.perm hHandover hMutex hTracked hIdle

end Machine

end Fuerte.Vst.Connection

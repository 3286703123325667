import Fuerte.Vst.Connection.Loops

/-! # The items of a connection

Items are numbered in the order of their creation and never go away. A step may
mark an item as invoked, but does not change whom its callback belongs to.
-/

namespace Fuerte.Vst.Connection

set_option autoImplicit false

open Interleaving

def mentioned : Frame → List MessageID
  | .addToQueue id | .insertIntoQueue id | .addChunk id _ | .removeCompleted id _
  | .createResponse id _ | .addToStore _ id | .removeFromQueue _ id | .listen _ id
  | .setWriteDeadline _ id | .asyncWrite _ id | .awaitWrite _ id | .requestWritten _ id
  | .writeFailed _ id | .removeFailed _ id | .moveRequest id _ _ | .invoke id _ _ _ => [id]
  | .cancelItems _ _ todo => todo
  | _ => []

/-- All items that are referred to anywhere exist, and none has a number that is
still to be given. -/
structure ItemsKnown (s : Shared) (frames : Multiset Frame) : Prop where
  issued : ∀ id, s.items id ≠ none → id ≤ s.messageID
  inFrames : ∀ frame ∈ frames, ∀ id ∈ mentioned frame, s.items id ≠ none
  queued : ∀ id ∈ s.sendQueue, s.items id ≠ none
  stored : ∀ id ∈ s.messageStore, s.items id ≠ none
  enqueued : ∀ id ∈ s.history.enqueued, s.items id ≠ none

theorem ItemsKnown.load_eq_zero {s : Shared} {frames : Multiset Frame} {weight : Frame → Nat}
    {id : MessageID} (hI : ItemsKnown s frames) (hNone : s.items id = none)
    (hWeight : ∀ frame, id ∉ mentioned frame → weight frame = 0) : load weight frames = 0 :=
  (load_eq_zero_iff weight).mpr fun frame hFrame =>
    hWeight frame fun hid => hI.inFrames frame hFrame id hid hNone

theorem ItemsKnown.fresh {s : Shared} {frames : Multiset Frame} (hI : ItemsKnown s frames) :
    s.items (s.messageID + 1) = none := by
  by_contra hSome
  exact Nat.not_succ_le_self _ (hI.issued _ hSome)

/-- What a step keeps of an item. A request that has been moved out does not come back. -/
structure Keeps (item after : RequestItem) : Prop where
  owner : after.callback.cb = item.callback.cb
  invoked : item.callback.invoked = true → after.callback.invoked = true
  request : after.request = item.request ∨ after.request = none

theorem Keeps.refl (item : RequestItem) : Keeps item item := ⟨rfl, fun h => h, .inl rfl⟩

section Steps

variable {platform : Platform} {configuration : Configuration} {thread : Nat} {frame : Frame}
  {choice : Choice} {s s' : Shared} {rest before after : Multiset Frame} {frames : List Frame}
  {spawned : List (List Frame)}

theorem keeps_update {id other : MessageID} {item changed old : RequestItem}
    (hItem : s.items id = some item) (hKeeps : Keeps item changed) (hOld : s.items other = some old) :
    ∃ new, Function.update s.items id (some changed) other = some new ∧ Keeps old new := by
  by_cases hEq : other = id
  · subst hEq
    obtain rfl : item = old := Option.some.inj (hItem.symm.trans hOld)
    exact ⟨changed, by rw [Function.update_self], hKeeps⟩
  · exact ⟨old, by rw [Function.update_of_ne hEq, hOld], Keeps.refl old⟩

theorem keeps_of_step (h : Step platform configuration thread frame choice s s' frames spawned)
    (hIssued : ∀ id, s.items id ≠ none → id ≤ s.messageID) {id : MessageID} {item : RequestItem}
    (hItem : s.items id = some item) : ∃ after, s'.items id = some after ∧ Keeps item after := by
  cases h
  all_goals try exact ⟨item, hItem, Keeps.refl item⟩
  -- a new item has a number that no item has yet
  case createRequestItem | insertAuthenticationRequests =>
    have hLe := hIssued id (by simp [hItem])
    have hNe : id ≠ s.messageID + 1 := Nat.ne_of_lt (Nat.lt_succ_of_le hLe)
    exact ⟨item, by simp only [Function.update_of_ne hNe, hItem], .refl item⟩
  case moveRequest old hOld => exact keeps_update hOld ⟨rfl, fun h => h, .inr rfl⟩ hItem
  case invokeUser old _ _ hOld => exact keeps_update hOld ⟨rfl, fun _ => rfl, .inl rfl⟩ hItem
  case invokeAuthentication old _ _ hOld => exact keeps_update hOld ⟨rfl, fun _ => rfl, .inl rfl⟩ hItem
  case addChunk old after hRequest hCallback hOld | lastChunk old after hRequest hCallback hOld =>
    exact keeps_update hOld (by constructor <;> simp [hRequest, hCallback]) hItem
  case requestWritten w written =>
    simp only [Shared.updateItem, Shared.updateWriteLoop, Function.update_apply]
    split
    · rename_i hEq
      subst hEq
      exact ⟨item.resetSendData, by rw [hItem]; rfl, rfl, fun h => h, .inl rfl⟩
    · exact ⟨item, hItem, .refl item⟩

theorem known_of_step (h : Step platform configuration thread frame choice s s' frames spawned)
    (hIssued : ∀ id, s.items id ≠ none → id ≤ s.messageID) {id : MessageID}
    (hItem : s.items id ≠ none) : s'.items id ≠ none := by
  obtain ⟨item, hSome⟩ := Option.ne_none_iff_exists'.mp hItem
  obtain ⟨after, hAfter, -⟩ := keeps_of_step h hIssued hSome
  simp [hAfter]

theorem issued_update {id other : MessageID} {item changed : RequestItem}
    (hIssued : ∀ id, s.items id ≠ none → id ≤ s.messageID) (hItem : s.items id = some item)
    (hOther : Function.update s.items id (some changed) other ≠ none) : other ≤ s.messageID := by
  by_cases hEq : other = id
  · exact hEq ▸ hIssued id (by simp [hItem])
  · rw [Function.update_of_ne hEq] at hOther
    exact hIssued other hOther

theorem issued_of_step (h : Step platform configuration thread frame choice s s' frames spawned)
    (hIssued : ∀ id, s.items id ≠ none → id ≤ s.messageID) :
    ∀ id, s'.items id ≠ none → id ≤ s'.messageID := by
  intro id hid
  cases h
  all_goals try exact hIssued id hid
  case rejectRequest => exact Nat.le_succ_of_le (hIssued id hid)
  case createRequestItem | insertAuthenticationRequests =>
    by_cases hEq : id = s.messageID + 1
    · exact Nat.le_of_eq hEq
    · simp only [Function.update_of_ne hEq] at hid
      exact Nat.le_succ_of_le (hIssued id hid)
  case moveRequest old hOld | invokeUser old _ _ hOld | invokeAuthentication old _ _ hOld
      | addChunk old _ _ _ hOld | lastChunk old _ _ _ hOld =>
    exact issued_update (s := s) hIssued hOld hid
  case requestWritten w written =>
    by_cases hEq : id = written
    · subst hEq
      simp only [Shared.updateItem, Shared.updateWriteLoop, Function.update_self, ne_eq,
        Option.map_eq_none_iff] at hid
      exact hIssued id hid
    · simp only [Shared.updateItem, Shared.updateWriteLoop, Function.update_of_ne hEq] at hid
      exact hIssued id hid

theorem mentioned_of_step (hI : ItemsKnown s (frame ::ₘ rest))
    (h : Step platform configuration thread frame choice s s' frames spawned) :
    ∀ next ∈ frames ++ spawned.flatten, ∀ id ∈ mentioned next, s'.items id ≠ none := by
  have hMentioned := hI.inFrames frame (Multiset.mem_cons_self _ _)
  have hQueued := hI.queued
  have hStored := hI.stored
  clear hI
  cases h
  all_goals simp_all [mentioned, Shared.updateWriteLoop, Shared.transfer, Function.update_apply]

theorem ItemsKnown.step (hI : ItemsKnown s (frame ::ₘ rest))
    (h : Step platform configuration thread frame choice s s' frames spawned) :
    ItemsKnown s' (↑(frames ++ spawned.flatten) + rest) := by
  have hKnown : ∀ id, s.items id ≠ none → s'.items id ≠ none := fun _ =>
    known_of_step h hI.issued
  have hMentioned := hI.inFrames frame (Multiset.mem_cons_self _ _)
  refine ⟨issued_of_step h hI.issued, ?_, ?_, ?_, ?_⟩
  · intro next hNext id hid
    rcases Multiset.mem_add.mp hNext with hNew | hOld
    · exact mentioned_of_step hI h next (Multiset.mem_coe.mp hNew) id hid
    · exact hKnown id (hI.inFrames next (Multiset.mem_cons_of_mem hOld) id hid)
  · refine fun id hid => hKnown id ?_
    have hQueued := hI.queued
    clear hKnown
    cases h
    case addToQueue =>
      rcases List.mem_append.mp hid with hOld | hNew
      · exact hQueued id hOld
      · exact hMentioned id hNew
    case insertIntoQueue =>
      rcases List.mem_cons.mp hid with rfl | hOld
      · exact hMentioned id (List.mem_singleton_self id)
      · exact hQueued id hOld
    case removeFromQueue hQueue =>
      apply hQueued id
      rw [hQueue]
      exact List.mem_cons_of_mem _ hid
    all_goals exact hQueued id hid
  · refine fun id hid => hKnown id ?_
    have hStored := hI.stored
    clear hKnown
    cases h
    case addToStore =>
      rcases (MessageStore.mem_add _ _ _).mp hid with rfl | hOld
      · exact hMentioned id (List.mem_singleton_self id)
      · exact hStored id hOld
    case removeCompleted | removeFailed =>
      exact hStored id ((MessageStore.mem_removeByID _ _ _).mp hid).1
    case cancelledForReconnect | cancelledForFailure | cancelledForDestruction => cases hid
    all_goals exact hStored id hid
  · refine fun id hid => hKnown id ?_
    have hEnqueued := hI.enqueued
    clear hKnown
    cases h
    case addToQueue | insertIntoQueue =>
      rcases List.mem_append.mp hid with hOld | hNew
      · exact hEnqueued id hOld
      · exact hMentioned id hNew
    all_goals exact hEnqueued id hid

end Steps

/-! ## The mutex of the store -/

def cancelling : Frame → Nat
  | .cancelItems _ _ _ => 1
  | _ => 0

/-- The mutex of the store is held by the thread that cancels the stored items. -/
def StoreMutex (s : Shared) (frames : Multiset Frame) : Prop :=
  load cancelling frames = if s.messageStoreMutex.isSome then 1 else 0

section StoreMutex

variable {platform : Platform} {configuration : Configuration} {thread : Nat} {frame : Frame}
  {choice : Choice} {s s' : Shared} {rest before after : Multiset Frame} {frames : List Frame}
  {spawned : List (List Frame)}

theorem StoreMutex.of_same (h : StoreMutex s before)
    (hMutex : s'.messageStoreMutex = s.messageStoreMutex)
    (hCancelling : load cancelling after = load cancelling before) : StoreMutex s' after := by
  rw [StoreMutex, hMutex, hCancelling]
  exact h

theorem StoreMutex.step (hI : StoreMutex s (frame ::ₘ rest))
    (h : Step platform configuration thread frame choice s s' frames spawned) :
    StoreMutex s' (↑(frames ++ spawned.flatten) + rest) := by
  cases h
  all_goals try (refine hI.of_same rfl ?_ <;> simp [cancelling])
  all_goals simp only [StoreMutex, load_cons, cancelling] at hI
  case cancelAll hMutex => simpa [StoreMutex, cancelling, hMutex] using hI
  all_goals
    have hNone : load cancelling rest = 0 := by
      split at hI <;> omega
    simp [StoreMutex, cancelling, hNone]

end StoreMutex

section Machine

variable (platform : Platform) (configuration : Configuration)

theorem storeMutex_preserved : Preserved (machine platform configuration) .all StoreMutex where
  exec _ _ _ _ _ _ _ _ h _ hExec := h.step (step_of_exec hExec)
  enter _ _ _ _ _ _ h _ _ hEnter := by
    rcases enter_cases hEnter with ⟨_, rfl, rfl⟩ | ⟨_, _, _, _, rfl, rfl⟩ <;>
      exact h.of_same rfl (by simp [cancelling])

theorem storeMutex_initial : StoreMutex initial.shared initial.frames := by
  simp [StoreMutex, initial, Config.frames, cancelling]

theorem itemsKnown_preserved : Preserved (machine platform configuration) .all ItemsKnown where
  exec _ _ _ _ _ _ _ _ h _ hExec := h.step (step_of_exec hExec)
  enter _ _ _ _ _ _ h _ _ hEnter := by
    obtain ⟨hIssued, hFrames, hQueued, hStored, hEnqueued⟩ := h
    rcases enter_cases hEnter with ⟨_, rfl, rfl⟩ | ⟨_, _, _, _, rfl, rfl⟩ <;>
      exact ⟨hIssued, by simpa [mentioned] using hFrames, hQueued, hStored, hEnqueued⟩

theorem itemsKnown_initial : ItemsKnown initial.shared initial.frames := by
  constructor <;> simp [initial, Config.frames, mentioned]

end Machine

end Fuerte.Vst.Connection

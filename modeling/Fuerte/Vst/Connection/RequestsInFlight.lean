import Fuerte.Vst.Connection.Handover

/-! # Requests of items in flight

The read loop looks at the request of every stored item, the write loop at that
of the item it has taken. Both find one, unless an item enters the store twice
or is completed before the write loop has armed its deadline.
-/

namespace Fuerte.Vst.Connection

set_option autoImplicit false

open Interleaving

/-- The request of the item has not been moved out. -/
def Shared.hasRequest (s : Shared) (id : MessageID) : Bool :=
  (s.items id).any fun item => item.request.isSome

/-- The item that the write loop has put into the store, and whose timeout it still needs. -/
def handing : Frame → Option MessageID
  | .removeFromQueue _ id | .listen _ id | .setWriteDeadline _ id => some id
  | _ => none

def moves : Frame → Option MessageID
  | .moveRequest id _ _ => some id
  | _ => none

/-- The request of an item is moved out only when the write loop is done with it. -/
def movesAfterDeadline : Guard Shared Frame Choice Event where
  run _ frame _ _ frames := ∀ id ∈ moves frame, ∀ other ∈ frames, handing other ≠ some id
  enter _ _ _ := True

instance (thread : Nat) (frame : Frame) (choice : Choice) (s : Shared) (frames : Multiset Frame) :
    Decidable (movesAfterDeadline.run thread frame choice s frames) :=
  inferInstanceAs (Decidable (∀ id ∈ moves frame, ∀ other ∈ frames, _))

instance (event : Event) (s : Shared) (frames : Multiset Frame) :
    Decidable (movesAfterDeadline.enter event s frames) :=
  inferInstanceAs (Decidable True)

/-! ## Entering the store -/

/-- The item has been put into the store. -/
def Entered (s : Shared) (frames : Multiset Frame) (id : MessageID) : Prop :=
  id ∈ s.history.handedOver ∨ ∃ w, .removeFromQueue w id ∈ frames

/-- The frames that refer to an item that is not yet in the store. -/
def beforeStore : Frame → Bool
  | .addToQueue _ | .insertIntoQueue _ | .addToStore _ _ => true
  | _ => false

/-- The item whose request a frame is about to move out. -/
def moving : Frame → Option MessageID
  | .createResponse id _ | .moveRequest id _ _ => some id
  | _ => none

/-- An item's request is there until the item has been stored, and as long as it
is stored and nobody holds the mutex. -/
structure InFlight (s : Shared) (frames : Multiset Frame) : Prop where
  unsent : ∀ id, s.items id ≠ none → s.hasRequest id = true ∨ Entered s frames id
  referred : ∀ frame ∈ frames, beforeStore frame = false → ∀ id ∈ mentioned frame,
    Entered s frames id
  entered : ∀ id ∈ s.messageStore, Entered s frames id
  stored : s.messageStoreMutex = none → ∀ id ∈ s.messageStore, s.hasRequest id = true
  taken : ∀ frame ∈ frames, ∀ id ∈ handing frame, s.hasRequest id = true
  gone : ∀ frame ∈ frames, ∀ id ∈ moving frame,
    id ∉ s.messageStore ∨ s.messageStoreMutex ≠ none

section Steps

variable {platform : Platform} {configuration : Configuration} {thread : Nat} {frame : Frame}
  {choice : Choice} {s s' : Shared} {rest before after : Multiset Frame} {frames : List Frame}
  {spawned : List (List Frame)}

theorem Entered.step {id : MessageID} (hI : Entered s (frame ::ₘ rest) id)
    (h : Step platform configuration thread frame choice s s' frames spawned) :
    Entered s' (↑(frames ++ spawned.flatten) + rest) id := by
  rcases hI with hHanded | ⟨w, hFrame⟩
  · left
    cases h
    case removeFromQueue => exact List.mem_append_left _ hHanded
    all_goals exact hHanded
  · rcases Multiset.mem_cons.mp hFrame with rfl | hRest
    · cases h
      · exact .inr ⟨w, by simp⟩
      · exact .inl (List.mem_append_right _ (List.mem_singleton_self id))
    · exact .inr ⟨w, Multiset.mem_add.mpr (.inr hRest)⟩

theorem referred_of_step
    (h : Step platform configuration thread frame choice s s' frames spawned) :
    ∀ next ∈ frames ++ spawned.flatten, beforeStore next = false → ∀ id ∈ mentioned next,
      (beforeStore frame = false ∧ id ∈ mentioned frame) ∨ id ∈ s.messageStore ∨
        ∃ w, next = .removeFromQueue w id := by
  cases h
  all_goals simp_all [mentioned, beforeStore]

theorem hasRequest_of_step
    (h : Step platform configuration thread frame choice s s' frames spawned)
    (id : MessageID) (hRequest : s.hasRequest id = true) (hMoves : moves frame ≠ some id) :
    s'.hasRequest id = true := by
  cases h
  all_goals try exact hRequest
  case createRequestItem item hItem _ _ | insertAuthenticationRequests item _ hItem _ _ =>
    by_cases hEq : id = s.messageID + 1
    · simp [Shared.hasRequest, hEq, hItem]
    · simpa [Shared.hasRequest, Function.update_of_ne hEq] using hRequest
  case moveRequest other _ _ _ _ =>
    have hEq : id ≠ other := fun h => hMoves (congrArg some h.symm)
    simpa [Shared.hasRequest, Function.update_of_ne hEq] using hRequest
  case invokeUser other _ _ _ item _ _ hItem | invokeAuthentication other _ _ _ item _ _ hItem =>
    by_cases hEq : id = other
    · subst hEq
      simpa [Shared.hasRequest, hItem] using hRequest
    · simpa [Shared.hasRequest, Function.update_of_ne hEq] using hRequest
  case addChunk other _ item after hSame _ hItem | lastChunk other _ _ item after hSame _ hItem =>
    by_cases hEq : id = other
    · subst hEq
      simpa [Shared.hasRequest, hItem, hSame] using hRequest
    · simpa [Shared.hasRequest, Function.update_of_ne hEq] using hRequest
  case requestWritten w other =>
    by_cases hEq : id = other
    · subst hEq
      simpa [Shared.hasRequest, Shared.updateItem, Shared.updateWriteLoop, Option.any_map,
        Function.comp_def, RequestItem.resetSendData] using hRequest
    · simpa [Shared.hasRequest, Shared.updateItem, Shared.updateWriteLoop,
        Function.update_of_ne hEq] using hRequest

/-- What is about to be put into the store has not been there before. -/
theorem not_entered_of_peeked {w : LoopID} {id : MessageID} (hFrame : frame = .addToStore w id)
    (hInvariant : HandoverInvariant s (frame ::ₘ rest)) :
    ¬ Entered s (frame ::ₘ rest) id := by
  subst hFrame
  rintro (hHanded | ⟨v, hFrame⟩)
  · have hHead := hInvariant.peeked _ (Multiset.mem_cons_self _ _) id rfl
    have hQueued : id ∈ s.sendQueue := List.mem_of_mem_head? hHead
    have hOnce := hInvariant.accounted.once id
    have hCount := hInvariant.accounted.complete.count_eq id
    have hBoth := List.count_pos_iff.mpr hHanded
    have hQueue := List.count_pos_iff.mpr hQueued
    rw [List.count_append] at hCount
    omega
  · have hMutex := hInvariant.loops.write.mutex
    have hOther : (.removeFromQueue v id : Frame) ∈ rest :=
      (Multiset.mem_cons.mp hFrame).resolve_left nofun
    have hPos : 1 ≤ load inSection rest := le_load inSection hOther
    rw [load_cons] at hMutex
    simp only [inSection] at hMutex
    split at hMutex <;> omega

theorem hasRequest_of_created
    (h : Step platform configuration thread frame choice s s' frames spawned) {id : MessageID}
    (hNone : s.items id = none) (hSome : s'.items id ≠ none) : s'.hasRequest id = true := by
  cases h
  all_goals try exact absurd hNone hSome
  case createRequestItem item hItem _ _ | insertAuthenticationRequests item _ hItem _ _ =>
    by_cases hEq : id = s.messageID + 1
    · simp [Shared.hasRequest, hEq, hItem]
    · exact absurd hNone (by simpa [Function.update_of_ne hEq] using hSome)
  all_goals
    exfalso
    simp only [Shared.updateItem, Shared.updateWriteLoop, Function.update_apply] at hSome
    split at hSome <;> simp_all

theorem stored_of_step
    (h : Step platform configuration thread frame choice s s' frames spawned) {id : MessageID}
    (hStored : id ∈ s'.messageStore) :
    id ∈ s.messageStore ∨ ∃ w, frame = .addToStore w id ∧ .removeFromQueue w id ∈ frames := by
  cases h
  all_goals try exact .inl hStored
  case addToStore w new _ =>
    rcases (MessageStore.mem_add _ _ _).mp hStored with rfl | hOld
    · exact .inr ⟨w, rfl, List.mem_singleton_self _⟩
    · exact .inl hOld
  case removeCompleted | removeFailed =>
    exact .inl ((MessageStore.mem_removeByID _ _ _).mp hStored).1
  all_goals cases hStored

theorem released_of_step
    (h : Step platform configuration thread frame choice s s' frames spawned)
    (hHeld : s.messageStoreMutex ≠ none) (hFree : s'.messageStoreMutex = none) :
    s'.messageStore = [] := by
  cases h
  all_goals first | exact absurd hFree hHeld | rfl | cases hFree

theorem handing_of_step
    (h : Step platform configuration thread frame choice s s' frames spawned) :
    ∀ next ∈ frames ++ spawned.flatten, ∀ id ∈ handing next,
      id ∈ handing frame ∨ ∃ w, frame = .addToStore w id := by
  cases h
  case throws =>
    intro next hNext id hid
    obtain rfl := List.mem_singleton.mp (by simpa using hNext)
    exact .inl hid
  all_goals simp [handing]

theorem moves_of_handing {id : MessageID}
    (h : id ∈ handing frame ∨ ∃ w, frame = .addToStore w id) : moves frame = none := by
  rcases h with h | ⟨w, rfl⟩
  · cases frame <;> first | rfl | cases h
  · rfl

/-- An item is taken out of the store, or the mutex is held, before its request is moved. -/
theorem gone_of_step (hMutex : StoreMutex s (frame ::ₘ rest))
    (hGone : ∀ id ∈ moving frame, id ∉ s.messageStore ∨ s.messageStoreMutex ≠ none)
    (h : Step platform configuration thread frame choice s s' frames spawned) :
    ∀ next ∈ frames ++ spawned.flatten, ∀ id ∈ moving next,
      id ∉ s'.messageStore ∨ s'.messageStoreMutex ≠ none := by
  cases h
  all_goals try (simp [moving]; done)
  case throws =>
    intro next hNext
    obtain rfl := List.mem_singleton.mp (by simpa using hNext)
    exact hGone
  case cancelItem =>
    have hHeld : s.messageStoreMutex ≠ none := by
      intro hNone
      simp [StoreMutex, cancelling, hNone] at hMutex
    simp [moving, hHeld]
  case createResponse => simpa [moving] using hGone

/-- What has been in the store and left it does not come back. -/
theorem gone_kept (hInvariant : HandoverInvariant s (frame ::ₘ rest))
    (h : Step platform configuration thread frame choice s s' frames spawned) {id : MessageID}
    (hEntered : Entered s (frame ::ₘ rest) id)
    (hGone : id ∉ s.messageStore ∨ s.messageStoreMutex ≠ none) :
    id ∉ s'.messageStore ∨ s'.messageStoreMutex ≠ none := by
  by_cases hFree : s'.messageStoreMutex = none
  · left
    intro hStored
    by_cases hHeld : s.messageStoreMutex = none
    · rcases stored_of_step h hStored with hBefore | ⟨w, hFrame, -⟩
      · exact hGone.elim (fun hNot => hNot hBefore) fun hNot => hNot hHeld
      · exact not_entered_of_peeked hFrame hInvariant hEntered
    · rw [released_of_step h hHeld hFree] at hStored
      cases hStored
  · exact .inr hFree

theorem referred_step
    (hReferred : ∀ other ∈ frame ::ₘ rest, beforeStore other = false → ∀ id ∈ mentioned other,
      Entered s (frame ::ₘ rest) id)
    (hStored : ∀ id ∈ s.messageStore, Entered s (frame ::ₘ rest) id)
    (h : Step platform configuration thread frame choice s s' frames spawned) :
    ∀ next ∈ ↑(frames ++ spawned.flatten) + rest, beforeStore next = false →
      ∀ id ∈ mentioned next, Entered s' (↑(frames ++ spawned.flatten) + rest) id := by
  intro next hNext hBefore id hid
  rcases Multiset.mem_add.mp hNext with hNew | hOld
  · rcases referred_of_step h next (Multiset.mem_coe.mp hNew) hBefore id hid with
      ⟨hFrame, hMentioned⟩ | hStore | ⟨w, rfl⟩
    · exact (hReferred frame (Multiset.mem_cons_self _ _) hFrame id hMentioned).step h
    · exact (hStored id hStore).step h
    · exact .inr ⟨w, hNext⟩
  · exact (hReferred next (Multiset.mem_cons_of_mem hOld) hBefore id hid).step h

theorem entered_step (hStored : ∀ id ∈ s.messageStore, Entered s (frame ::ₘ rest) id)
    (h : Step platform configuration thread frame choice s s' frames spawned) :
    ∀ id ∈ s'.messageStore, Entered s' (↑(frames ++ spawned.flatten) + rest) id := by
  intro id hid
  rcases stored_of_step h hid with hOld | ⟨w, -, hNext⟩
  · exact (hStored id hOld).step h
  · exact .inr ⟨w, Multiset.mem_add.mpr (.inl (by simp [hNext]))⟩

theorem InFlight.step (hI : InFlight s (frame ::ₘ rest))
    (hInvariant : HandoverInvariant s (frame ::ₘ rest)) (hMutex : StoreMutex s (frame ::ₘ rest))
    (hGuard : ∀ id ∈ moves frame, ∀ other ∈ rest, handing other ≠ some id)
    (h : Step platform configuration thread frame choice s s' frames spawned) :
    InFlight s' (↑(frames ++ spawned.flatten) + rest) := by
  have hSelf : frame ∈ frame ::ₘ rest := Multiset.mem_cons_self _ _
  have hEntered : ∀ id, Entered s (frame ::ₘ rest) id →
      Entered s' (↑(frames ++ spawned.flatten) + rest) id := fun id hid => hid.step h
  have hKeep := fun id => hasRequest_of_step h id
  have hMoved : ∀ id, moves frame = some id → Entered s (frame ::ₘ rest) id := by
    intro id hid
    cases frame <;> cases hid
    exact hI.referred _ hSelf rfl id (List.mem_singleton_self id)
  -- what is stored now has not been stored before
  have hUnsent : ∀ w id, frame = .addToStore w id → s.hasRequest id = true := by
    intro w id hFrame
    have hKnown : s.items id ≠ none := by
      subst hFrame
      exact hInvariant.items.inFrames _ hSelf id (List.mem_singleton_self id)
    exact (hI.unsent id hKnown).resolve_right (not_entered_of_peeked hFrame hInvariant)
  constructor
  · intro id hKnown
    by_cases hOld : s.items id = none
    · exact .inl (hasRequest_of_created h hOld hKnown)
    · rcases hI.unsent id hOld with hRequest | hStored
      · by_cases hMoves : moves frame = some id
        · exact .inr (hEntered id (hMoved id hMoves))
        · exact .inl (hKeep id hRequest hMoves)
      · exact .inr (hEntered id hStored)
  · exact referred_step hI.referred hI.entered h
  · exact entered_step hI.entered h
  · intro hFree id hid
    by_cases hHeld : s.messageStoreMutex = none
    · rcases stored_of_step h hid with hOld | ⟨w, hFrame, -⟩
      · refine hKeep id (hI.stored hHeld id hOld) fun hMoves => ?_
        rcases hI.gone frame hSelf id (by cases frame <;> cases hMoves; rfl) with hNot | hNot
        · exact hNot hOld
        · exact hNot hHeld
      · refine hKeep id (hUnsent w id hFrame) ?_
        rw [moves_of_handing (.inr ⟨w, hFrame⟩)]
        nofun
    · rw [released_of_step h hHeld hFree] at hid
      cases hid
  · intro next hNext id hid
    rcases Multiset.mem_add.mp hNext with hNew | hOld
    · have hFrom := handing_of_step h next (Multiset.mem_coe.mp hNew) id hid
      refine hKeep id ?_ (by rw [moves_of_handing hFrom]; nofun)
      rcases hFrom with hSame | ⟨w, hFrame⟩
      · exact hI.taken frame hSelf id hSame
      · exact hUnsent w id hFrame
    · refine hKeep id (hI.taken next (Multiset.mem_cons_of_mem hOld) id hid) fun hMoves => ?_
      exact hGuard id hMoves next hOld hid
  · intro next hNext id hid
    rcases Multiset.mem_add.mp hNext with hNew | hOld
    · exact gone_of_step hMutex (hI.gone frame hSelf) h next (Multiset.mem_coe.mp hNew) id hid
    · have hMem : next ∈ frame ::ₘ rest := Multiset.mem_cons_of_mem hOld
      refine gone_kept hInvariant h ?_ (hI.gone next hMem id hid)
      cases next <;> cases hid <;>
        exact hI.referred _ hMem rfl id (List.mem_singleton_self id)

end Steps

/-! ## Every run -/

/-- What `minimumTimeout`, which waits for the mutex, and `sendNextRequest` look at. -/
structure RequestsHeld (s : Shared) (frames : Multiset Frame) : Prop where
  minimumTimeout : s.messageStoreMutex = none → ∀ id ∈ s.messageStore, s.hasRequest id = true
  sendNextRequest : ∀ w id, .setWriteDeadline w id ∈ frames → s.hasRequest id = true

section Machine

variable {platform : Platform} {configuration : Configuration} {c : Config Shared Frame}

theorem handoverMutex_preserved : Preserved (machine platform configuration) insertionsApart
    fun s frames => HandoverInvariant s frames ∧ StoreMutex s frames := by
  have hMutex := (storeMutex_preserved platform configuration).under insertionsApart
  refine (handover_preserved platform configuration).and ?_ ?_
  · intro _ _ _ _ _ _ _ _ _ h hGuard hExec
    exact hMutex.exec _ _ _ _ _ _ _ _ h hGuard hExec
  · intro _ _ _ _ _ _ _ h hQuiet hGuard hEnter
    exact hMutex.enter _ _ _ _ _ _ h hQuiet hGuard hEnter

theorem inFlight_preserved : Preserved (machine platform configuration)
    (insertionsApart.inf movesAfterDeadline) fun s frames =>
      (HandoverInvariant s frames ∧ StoreMutex s frames) ∧ InFlight s frames := by
  refine (handoverMutex_preserved.inf_left movesAfterDeadline).and ?_ ?_
  · rintro _ _ _ _ _ _ _ _ ⟨hHandover, hMutex⟩ hI ⟨-, hGuard⟩ hExec
    refine hI.step hHandover hMutex (fun id hid other hOther => ?_) (step_of_exec hExec)
    exact hGuard id hid other (Multiset.mem_cons_of_mem hOther)
  · intro _ _ _ _ _ _ _ hI _ _ hEnter
    obtain ⟨hUnsent, hReferred, hEntered, hStored, hTaken, hGone⟩ := hI
    rcases enter_cases hEnter with ⟨_, rfl, rfl⟩ | ⟨_, _, _, _, rfl, rfl⟩ <;>
      exact ⟨by simpa [Entered, Shared.hasRequest] using hUnsent, by simpa [Entered, mentioned] using hReferred,
        by simpa [Entered] using hEntered, hStored,
        by simpa [handing, Shared.hasRequest] using hTaken, by simpa [moving] using hGone⟩

theorem inFlight_initial : InFlight initial.shared initial.frames := by
  constructor <;> simp [initial, Config.frames, mentioned, handing, moving]

/-- **Items in flight keep their request**, in every run in which authentication
requests are inserted only while no request is being taken from the queue, and no
request is moved out between the store and the deadline of its write. -/
theorem requests_in_flight
    (h : Reaches (machine platform configuration) (insertionsApart.inf movesAfterDeadline) initial c) :
    RequestsHeld c.shared c.frames := by
  obtain ⟨-, hInFlight⟩ := h.invariant inFlight_preserved
    ⟨⟨handover_initial, storeMutex_initial⟩, inFlight_initial⟩
  exact ⟨hInFlight.stored, fun w id hFrame => hInFlight.taken _ hFrame id rfl⟩

def arming (id : MessageID) : Frame → Nat
  | .setWriteDeadline _ other => if other = id then 1 else 0
  | _ => 0

/-- A request is in the store, and its write loop is about to arm its deadline. -/
theorem requests_in_flight_first :
    ∃ c, Reaches (machine shortPlatform {}) (insertionsApart.inf movesAfterDeadline) initial c ∧
      c.shared.messageStore = [1] ∧ RequestsHeld c.shared c.frames := by
  have hRun : ((machine shortPlatform {}).steps (insertionsApart.inf movesAfterDeadline) initial
      (establish ++ [.enter .thread] ++ send 4 versionRequest ++ proceed 4 14)).any
      (fun c => c.shared.messageStore = [1]) = true := by
    decide +kernel
  obtain ⟨c, hReaches, hTest⟩ := exists_reaches_of_steps hRun
  exact ⟨c, hReaches, of_decide_eq_true hTest, requests_in_flight hReaches⟩

/-- The read fails while the write loop is about to arm its deadline: the restart
moves the request out of the item that the write loop has taken. -/
theorem request_moved_before_deadline :
    ¬ ∀ c, Reaches (machine shortPlatform {}) .all initial c → RequestsHeld c.shared c.frames := by
  intro hAll
  have hRun : ((machine shortPlatform {}).steps .all initial
      (establish ++ [.enter .thread] ++ send 4 versionRequest ++ proceed 4 14 ++ fail 6 ++
        proceed 6 9)).any
      (fun c => 0 < load (arming 1) c.frames ∧ c.shared.hasRequest 1 = false) = true := by
    decide +kernel
  obtain ⟨c, hReaches, hTest⟩ := exists_reaches_of_steps hRun
  obtain ⟨hArming, hNone⟩ := of_decide_eq_true hTest
  obtain ⟨frame, hFrame, hPos⟩ := exists_of_load_pos _ hArming
  cases frame with
  | setWriteDeadline w id =>
    obtain rfl : id = 1 := by
      by_contra hNe
      simp [arming, hNe] at hPos
    exact Bool.false_ne_true (hNone.symm.trans ((hAll c hReaches).sendNextRequest w 1 hFrame))
  | _ => cases hPos

end Machine

end Fuerte.Vst.Connection

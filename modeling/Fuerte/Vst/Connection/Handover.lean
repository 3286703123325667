import Fuerte.Vst.Connection.Items

/-! # From the send queue to the network

`getNextRequestToSend` looks at the front of the queue, stores the item and then
removes the first one. Nothing is lost or sent twice as long as no
authentication request is inserted in between.
-/

namespace Fuerte.Vst.Connection

set_option autoImplicit false

open Interleaving

/-- The item at the front of the queue that `getNextRequestToSend` is about to remove. -/
def peeked : Frame → Option MessageID
  | .addToStore _ id | .removeFromQueue _ id => some id
  | _ => none

def taking (frame : Frame) : Nat := if (peeked frame).isSome then 1 else 0

def inserts : Frame → Bool
  | .insertIntoQueue _ => true
  | _ => false

/-- Authentication requests are inserted only while no request is being taken
from the queue. -/
def insertionsApart : Guard Shared Frame Choice Event where
  run _ frame _ _ frames := inserts frame = true → load taking frames = 0
  enter _ _ _ := True

instance (thread : Nat) (frame : Frame) (choice : Choice) (s : Shared) (frames : Multiset Frame) :
    Decidable (insertionsApart.run thread frame choice s frames) :=
  inferInstanceAs (Decidable (_ → _))

instance (event : Event) (s : Shared) (frames : Multiset Frame) :
    Decidable (insertionsApart.enter event s frames) :=
  inferInstanceAs (Decidable True)

/-- What has been looked at is still at the front. -/
def PeekedFirst (s : Shared) (frames : Multiset Frame) : Prop :=
  ∀ frame ∈ frames, ∀ id, peeked frame = some id → s.sendQueue.head? = some id

section Steps

variable {platform : Platform} {configuration : Configuration} {thread : Nat} {frame : Frame}
  {choice : Choice} {s s' : Shared} {rest before after : Multiset Frame} {frames : List Frame}
  {spawned : List (List Frame)}

theorem taking_le_inSection (frame : Frame) : taking frame ≤ inSection frame := by
  cases frame <;> simp [taking, peeked, inSection]

theorem peeked_eq_none_of_load (h : load taking rest = 0) : ∀ frame ∈ rest, peeked frame = none := by
  intro frame hFrame
  have hNone := (load_eq_zero_iff taking).mp h frame hFrame
  simpa [taking] using hNone

theorem PeekedFirst.of_same (h : PeekedFirst s (frame ::ₘ rest))
    (hQueue : ∀ id, s.sendQueue.head? = some id → s'.sendQueue.head? = some id)
    (hPeeked : ∀ next ∈ frames, ∀ id, peeked next = some id →
      s'.sendQueue.head? = some id ∨ peeked frame = some id) : PeekedFirst s' (↑frames + rest) := by
  intro next hNext id hid
  rcases Multiset.mem_add.mp hNext with hNew | hOld
  · rcases hPeeked next (Multiset.mem_coe.mp hNew) id hid with hHead | hSame
    · exact hHead
    · exact hQueue id (h frame (Multiset.mem_cons_self _ _) id hSame)
  · exact hQueue id (h next (Multiset.mem_cons_of_mem hOld) id hid)

/-- The invariant needs only that insertions find nobody taking a request. -/
theorem PeekedFirst.step (hI : PeekedFirst s (frame ::ₘ rest)) (hWrite : WriteChains s (frame ::ₘ rest))
    (hInsert : inserts frame = true → load taking rest = 0)
    (h : Step platform configuration thread frame choice s s' frames spawned) :
    PeekedFirst s' (↑(frames ++ spawned.flatten) + rest) := by
  cases h
  all_goals try (refine hI.of_same (fun _ hid => hid) ?_; simp [peeked]; done)
  case throws =>
    refine hI.of_same (fun _ hid => hid) fun next hNext id hid => ?_
    obtain rfl := List.mem_singleton.mp (by simpa using hNext)
    exact .inr hid
  -- adding at the back leaves the front
  case addToQueue id =>
    refine hI.of_same (fun other hHead => ?_) (by simp [peeked])
    rw [List.head?_append, hHead]
    rfl
  case insertIntoQueue id =>
    have hNone := peeked_eq_none_of_load (hInsert rfl)
    intro next hNext other hOther
    rcases Multiset.mem_add.mp hNext with hNew | hOld
    · obtain rfl : next = .setConnected := by simpa using hNew
      cases hOther
    · exact absurd hOther (by simp [hNone next hOld])
  case queueFront w id queue hQueue =>
    exact hI.of_same (fun _ hid => hid) (by simp [peeked, hQueue])
  -- nobody else is taking a request, and what is removed has been peeked
  case removeFromQueue w id first queue hQueue =>
    have hMutex := hWrite.mutex
    have hLe := load_le_load taking_le_inSection rest
    simp only [load_cons, inSection] at hMutex
    have hAlone : load taking rest = 0 := by split at hMutex <;> omega
    have hNone := peeked_eq_none_of_load hAlone
    intro next hNext other hOther
    rcases Multiset.mem_add.mp hNext with hNew | hOld
    · obtain rfl : next = .listen w id := by simpa using hNew
      cases hOther
    · exact absurd hOther (by simp [hNone next hOld])

/-! ## Accounting -/

/-- The item's callback belongs to a caller of `sendRequest`. -/
def Shared.ofUser (s : Shared) (id : MessageID) : Bool :=
  (s.items id).any fun item => item.callback.cb = .user

/-- About to enter the queue. -/
def entering (id : MessageID) : Frame → Nat
  | .addToQueue other | .insertIntoQueue other => if other = id then 1 else 0
  | _ => 0

/-- Out of the queue, and not yet handed to `async_write`. -/
def delivering (id : MessageID) : Frame → Nat
  | .listen _ other | .setWriteDeadline _ other | .asyncWrite _ other => if other = id then 1 else 0
  | _ => 0

/-- Every item is in the queue or has been handed over, and is counted once. -/
structure Accounted (s : Shared) (frames : Multiset Frame) : Prop where
  complete : (s.history.handedOver ++ s.sendQueue).Perm s.history.enqueued
  once : ∀ id, load (entering id) frames + s.history.enqueued.count id ≤ 1
  written : ∀ id, load (delivering id) frames + (s.history.writes.map Prod.snd).count id ≤
    s.history.handedOver.count id

/-- Requests of users leave the queue in the order in which they have entered it. -/
structure UsersInOrder (s : Shared) (frames : Multiset Frame) : Prop where
  order : (s.history.handedOver ++ s.sendQueue).filter s.ofUser = s.history.enqueued.filter s.ofUser
  inserted : ∀ frame ∈ frames, inserts frame = true → ∀ id ∈ mentioned frame, s.ofUser id = false

theorem Accounted.of_same (h : Accounted s before) (hQueue : s'.sendQueue = s.sendQueue)
    (hHistory : s'.history.handedOver = s.history.handedOver ∧
      s'.history.enqueued = s.history.enqueued ∧ s'.history.writes = s.history.writes)
    (hEntering : ∀ id, load (entering id) after = load (entering id) before)
    (hDelivering : ∀ id, load (delivering id) after = load (delivering id) before) :
    Accounted s' after := by
  obtain ⟨hHanded, hEnqueued, hWrites⟩ := hHistory
  constructor <;> simp only [hQueue, hHanded, hEnqueued, hWrites, hEntering, hDelivering]
  · exact h.complete
  · exact h.once
  · exact h.written

theorem entering_fresh (hItems : ItemsKnown s before) :
    load (entering (s.messageID + 1)) before = 0 := by
  refine (load_eq_zero_iff _).mpr fun frame hFrame => ?_
  have hKnown := fun id hid => hItems.issued id (hItems.inFrames frame hFrame id hid)
  cases frame <;> simp only [entering]
  all_goals
    rw [if_neg]
    rintro rfl
    exact absurd (hKnown _ (List.mem_singleton_self _)) (Nat.not_succ_le_self _)

theorem enqueued_fresh (hItems : ItemsKnown s before) :
    s.history.enqueued.count (s.messageID + 1) = 0 := by
  refine List.count_eq_zero.mpr fun hMem => ?_
  exact absurd (hItems.issued _ (hItems.enqueued _ hMem)) (Nat.not_succ_le_self _)

theorem Accounted.step (hI : Accounted s (frame ::ₘ rest)) (hItems : ItemsKnown s (frame ::ₘ rest))
    (hPeeked : PeekedFirst s (frame ::ₘ rest))
    (h : Step platform configuration thread frame choice s s' frames spawned) :
    Accounted s' (↑(frames ++ spawned.flatten) + rest) := by
  cases h
  all_goals try (
    refine hI.of_same rfl ⟨rfl, rfl, rfl⟩ (fun id => ?_) (fun id => ?_) <;>
      simp [entering, delivering]; done)
  all_goals
    have hFresh := entering_fresh hItems
    have hFreshCount := enqueued_fresh hItems
    obtain ⟨hComplete, hOnce, hWritten⟩ := hI
    simp only [load_cons, entering, delivering, Nat.zero_add] at hFresh hOnce hWritten
  -- a new item is on its way to the queue
  case createRequestItem | insertAuthenticationRequests =>
    refine ⟨hComplete, fun id => ?_, fun id => ?_⟩
    · have := hOnce id
      by_cases hEq : s.messageID + 1 = id
      · subst hEq
        simp [entering, hFresh, hFreshCount]
      · simpa [entering, hEq] using this
    · simpa [delivering] using hWritten id
  case addToQueue new =>
    refine ⟨?_, fun id => ?_, fun id => ?_⟩
    · simpa using hComplete.append_right [new]
    · have := hOnce id
      simp only [entering, List.count_append, List.count_singleton, List.flatten_nil,
        List.append_nil, load_add, load_coe, List.map_cons, List.map_nil, List.sum_cons,
        List.sum_nil, beq_iff_eq]
      omega
    · simpa [delivering] using hWritten id
  case insertIntoQueue new =>
    refine ⟨?_, fun id => ?_, fun id => ?_⟩
    · exact List.perm_middle.trans
        ((hComplete.cons new).trans (List.perm_append_singleton new s.history.enqueued).symm)
    · have := hOnce id
      simp only [entering, List.count_append, List.count_singleton, List.flatten_nil,
        List.append_nil, load_add, load_coe, List.map_cons, List.map_nil, List.sum_cons,
        List.sum_nil, beq_iff_eq]
      omega
    · simpa [delivering] using hWritten id
  case removeFromQueue w id first queue hQueue =>
    have hFirst : first = id := by
      have := hPeeked (.removeFromQueue w id) (Multiset.mem_cons_self _ _) id rfl
      simpa [hQueue] using this
    refine ⟨?_, fun other => ?_, fun other => ?_⟩
    · rw [hQueue, hFirst] at hComplete
      simpa using hComplete
    · simpa [entering] using hOnce other
    · have := hWritten other
      simp only [delivering, List.count_append, List.count_singleton, List.flatten_nil,
        List.append_nil, load_add, load_coe, List.map_cons, List.map_nil, List.sum_cons,
        List.sum_nil, beq_iff_eq]
      omega
  case asyncWrite w id socket _ =>
    refine ⟨hComplete, fun other => ?_, fun other => ?_⟩
    · simpa [entering, Shared.transfer] using hOnce other
    · have := hWritten other
      simp only [delivering, Shared.transfer, List.count_append, List.count_singleton, List.flatten_cons,
        List.flatten_nil, List.append_nil, List.nil_append, load_add, load_coe, List.map_append,
        List.map_cons, List.map_nil, List.sum_cons, List.sum_nil, beq_iff_eq]
      omega

/-- No step changes whom an item belongs to. -/
theorem ofUser_of_step (h : Step platform configuration thread frame choice s s' frames spawned)
    (hItems : ItemsKnown s before) {id : MessageID} (hKnown : s.items id ≠ none) :
    s'.ofUser id = s.ofUser id := by
  obtain ⟨item, hItem⟩ := Option.ne_none_iff_exists'.mp hKnown
  obtain ⟨after, hAfter, hKeeps⟩ := keeps_of_step h hItems.issued hItem
  simp [Shared.ofUser, hItem, hAfter, hKeeps.owner]

theorem filter_ofUser_of_step
    (h : Step platform configuration thread frame choice s s' frames spawned)
    (hItems : ItemsKnown s before) {ids : List MessageID}
    (hKnown : ∀ id ∈ ids, s.items id ≠ none) : ids.filter s'.ofUser = ids.filter s.ofUser :=
  List.filter_congr fun id hid => ofUser_of_step h hItems (hKnown id hid)

/-- What is inserted has just been created for the connection itself. -/
theorem inserted_of_step (h : Step platform configuration thread frame choice s s' frames spawned)
    (hSame : inserts frame = true → ∀ id ∈ mentioned frame, s.ofUser id = false) :
    ∀ next ∈ frames ++ spawned.flatten, inserts next = true → ∀ id ∈ mentioned next,
      s'.ofUser id = false := by
  cases h
  case throws =>
    intro next hNext
    obtain rfl := List.mem_singleton.mp (by simpa using hNext)
    exact hSame
  case insertAuthenticationRequests hCallback _ =>
    simp [inserts, mentioned, Shared.ofUser, hCallback]
  all_goals simp [inserts]

theorem UsersInOrder.step (hI : UsersInOrder s (frame ::ₘ rest))
    (hItems : ItemsKnown s (frame ::ₘ rest)) (hAccounted : Accounted s (frame ::ₘ rest))
    (hPeeked : PeekedFirst s (frame ::ₘ rest))
    (h : Step platform configuration thread frame choice s s' frames spawned) :
    UsersInOrder s' (↑(frames ++ spawned.flatten) + rest) := by
  constructor
  · -- read the equation with the owners after the step
    have hOrder : (s.history.handedOver ++ s.sendQueue).filter s'.ofUser =
        s.history.enqueued.filter s'.ofUser := by
      rw [filter_ofUser_of_step h hItems hItems.enqueued, ← hI.order]
      exact filter_ofUser_of_step h hItems fun id hid =>
        hItems.enqueued id (hAccounted.complete.mem_iff.mp hid)
    have hInserted : inserts frame = true → ∀ id ∈ mentioned frame, s'.ofUser id = false := by
      intro hInsert id hid
      have hKnown := hItems.inFrames frame (Multiset.mem_cons_self _ _) id hid
      rw [ofUser_of_step h hItems hKnown]
      exact hI.inserted frame (Multiset.mem_cons_self _ _) hInsert id hid
    cases h
    case addToQueue new =>
      rw [← List.append_assoc, List.filter_append, hOrder, List.filter_append]
    case insertIntoQueue new =>
      have hNew := hInserted rfl new (List.mem_singleton_self new)
      simpa [List.filter_append, List.filter_cons, hNew] using hOrder
    case removeFromQueue w id first queue hQueue =>
      have hFirst : first = id := by
        have := hPeeked (.removeFromQueue w id) (Multiset.mem_cons_self _ _) id rfl
        simpa [hQueue] using this
      simpa [hQueue, hFirst] using hOrder
    all_goals exact hOrder
  · intro next hNext hInsert id hid
    rcases Multiset.mem_add.mp hNext with hNew | hOld
    · exact inserted_of_step h (hI.inserted frame (Multiset.mem_cons_self _ _)) next
        (Multiset.mem_coe.mp hNew) hInsert id hid
    · have hMem : next ∈ frame ::ₘ rest := Multiset.mem_cons_of_mem hOld
      rw [ofUser_of_step h hItems (hItems.inFrames next hMem id hid)]
      exact hI.inserted next hMem hInsert id hid

end Steps

/-! ## Every run -/

/-- Every request that leaves the queue is the one that is about to be written;
none is lost or written twice, and those of users keep their order. -/
structure HandedOver (s : Shared) (frames : Multiset Frame) : Prop where
  front : ∀ w id, .removeFromQueue w id ∈ frames → s.sendQueue.head? = some id
  complete : (s.history.handedOver ++ s.sendQueue).Perm s.history.enqueued
  once : s.history.enqueued.Nodup
  writtenOnce : (s.history.writes.map Prod.snd).Nodup
  written : ∀ write ∈ s.history.writes, write.2 ∈ s.history.handedOver
  order : (s.history.handedOver ++ s.sendQueue).filter s.ofUser = s.history.enqueued.filter s.ofUser

/-- What is kept while requests are taken from the queue. -/
structure HandoverInvariant (s : Shared) (frames : Multiset Frame) : Prop where
  loops : LoopInvariant s frames
  items : ItemsKnown s frames
  peeked : PeekedFirst s frames
  accounted : Accounted s frames
  users : UsersInOrder s frames

section Machine

variable (platform : Platform) (configuration : Configuration)

theorem handover_preserved :
    Preserved (machine platform configuration) insertionsApart HandoverInvariant where
  exec thread frame choice s rest s' frames spawned h hGuard hExec := by
    have hStep := step_of_exec hExec
    refine ⟨(loopInvariant_preserved platform configuration).exec _ _ _ _ _ _ _ _ h.loops trivial hExec,
      h.items.step hStep, h.peeked.step h.loops.write (fun hInsert => ?_) hStep,
      h.accounted.step h.items h.peeked hStep, h.users.step h.items h.accounted h.peeked hStep⟩
    have hNone := hGuard hInsert
    rw [load_cons] at hNone
    omega
  enter event quiet s rest s' frames h hQuiet _ hEnter := by
    have hLoops := (loopInvariant_preserved platform configuration).enter _ _ _ _ _ _ h.loops hQuiet
      trivial hEnter
    have hItems := (itemsKnown_preserved platform configuration).enter _ _ _ _ _ _ h.items hQuiet
      trivial hEnter
    obtain ⟨-, -, hPeeked, hAccounted, hUsers⟩ := h
    rcases enter_cases hEnter with ⟨_, rfl, rfl⟩ | ⟨_, _, _, _, rfl, rfl⟩ <;>
      refine ⟨hLoops, hItems, ?_, ?_, hUsers.order, fun frame hFrame hInsert => ?_⟩
    all_goals first
      | exact hAccounted.of_same rfl ⟨rfl, rfl, rfl⟩ (by simp [entering]) (by simp [delivering])
      | simpa [PeekedFirst, peeked] using hPeeked
      | skip
    all_goals
      rcases Multiset.mem_add.mp hFrame with hNew | hOld
      · obtain rfl := List.mem_singleton.mp (Multiset.mem_coe.mp hNew)
        cases hInsert
      · exact hUsers.inserted frame hOld hInsert

theorem handover_initial : HandoverInvariant initial.shared initial.frames := by
  refine ⟨loopInvariant_initial, itemsKnown_initial, ?_, ?_, ?_⟩
  · simp [PeekedFirst, initial, Config.frames, peeked]
  · constructor <;> simp [initial, Config.frames, entering, delivering]
  · constructor <;> simp [initial, Config.frames, inserts]

theorem HandoverInvariant.handedOver {s : Shared} {frames : Multiset Frame}
    (h : HandoverInvariant s frames) : HandedOver s frames := by
  obtain ⟨-, -, hPeeked, ⟨hComplete, hOnce, hWritten⟩, hUsers⟩ := h
  have hNodup : s.history.enqueued.Nodup :=
    List.nodup_iff_count_le_one.mpr fun id => by have := hOnce id; omega
  have hHanded : s.history.handedOver.Nodup := (hComplete.nodup_iff.mpr hNodup).of_append_left
  refine ⟨fun w id hFrame => hPeeked _ hFrame id rfl, hComplete, hNodup, ?_, ?_, hUsers.order⟩
  · refine List.nodup_iff_count_le_one.mpr fun id => ?_
    have := hWritten id
    have := List.nodup_iff_count_le_one.mp hHanded id
    omega
  · intro write hWrite
    have hCount := List.count_pos_iff.mpr (List.mem_map_of_mem (f := Prod.snd) hWrite)
    have := hWritten write.2
    exact List.count_pos_iff.mp (by omega)

variable {platform configuration}

/-- **Handover without loss or duplication**, in every run in which
authentication requests are inserted only while no request is being taken. -/
theorem handover {c : Config Shared Frame}
    (h : Reaches (machine platform configuration) insertionsApart initial c) :
    HandedOver c.shared c.frames :=
  (h.invariant (handover_preserved platform configuration) handover_initial).handedOver

/-- A request is waiting when the connection is set up; the authentication
request goes first. -/
theorem handover_after_authentication :
    ∃ c, Reaches (machine shortPlatform basicAuthentication) insertionsApart initial c ∧
      c.shared.history.enqueued = [1, 2] ∧ c.shared.history.handedOver = [2] ∧
      HandedOver c.shared c.frames := by
  have hRun : ((machine shortPlatform basicAuthentication).steps insertionsApart initial
      ([.enter .thread] ++ send 1 versionRequest ++ proceed 1 4 ++ proceed 0 1 ++ proceed 2 2 ++
        proceed 3 2 ++ proceed 4 12)).any
      (fun c => c.shared.history.enqueued = [1, 2] ∧ c.shared.history.handedOver = [2]) = true := by
    decide +kernel
  obtain ⟨c, hReaches, hTest⟩ := exists_reaches_of_steps hRun
  obtain ⟨hEnqueued, hHanded⟩ := of_decide_eq_true hTest
  exact ⟨c, hReaches, hEnqueued, hHanded, handover hReaches⟩

/-- The write of the first authentication request fails, and before its callback
runs a read error leads to a reconnect. A request sent meanwhile has been looked
at when the next authentication request is inserted: the latter is removed in its
place and never written. -/
theorem authentication_request_lost :
    ¬ ∀ c, Reaches (machine shortPlatform basicAuthentication) .all initial c →
      HandedOver c.shared c.frames := by
  intro hAll
  have hRun : ((machine shortPlatform basicAuthentication).steps .all initial
      (proceed 0 1 ++ proceed 1 2 ++ proceed 2 2 ++ proceed 3 18 ++ fail 7 ++ proceed 7 2 ++
        fail 5 ++ proceed 5 10 ++ proceed 8 2 ++ proceed 9 2 ++ proceed 10 2 ++
        [.enter .thread] ++ send 11 versionRequest ++ proceed 11 7 ++ proceed 10 1 ++
        proceed 11 2)).any
      (fun c => c.shared.history.enqueued = [1, 3, 2] ∧ c.shared.history.handedOver = [1, 3] ∧
        c.shared.sendQueue = [3]) = true := by
    decide +kernel
  obtain ⟨c, hReaches, hTest⟩ := exists_reaches_of_steps hRun
  obtain ⟨hEnqueued, hHanded, hQueue⟩ := of_decide_eq_true hTest
  have hComplete := (hAll c hReaches).complete
  rw [hEnqueued, hHanded, hQueue] at hComplete
  exact absurd hComplete (by decide)

end Machine

end Fuerte.Vst.Connection

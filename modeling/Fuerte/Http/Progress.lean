import Fuerte.Http.CallbackContract
import Fuerte.Library.Progress

/-! # The HTTP connection comes to rest

Once user code has returned and curl has nothing to report any more, all threads
come to an end, and every transfer that has ended by then has been completed.
-/

namespace Fuerte.Http.RequestsLeft

set_option autoImplicit false

open Interleaving

/-! ## What is still to do -/

@[simp] def connectionWork : Connection.Frame → Nat
  | .userCode => 1
  | .sendRequest _ => 60
  | .addToStore _ => 55
  | .addRequest _ => 45
  | .awaitDone _ => 0
  | .handleResult _ _ => 20
  | .onFailure _ => 3
  | .invoke _ _ _ => 3
  | .removeByID _ => 1
  | .cancelAll => 2
  | .cancelItems todo => 5 * todo.length + 1

/-- What is stored has to be cancelled, unless it is being cancelled. -/
def storeWork (s : Connection.Shared) : Nat :=
  (if s.messageStoreMutex.isSome then 0 else 5 * s.messageStore.length) +
    if s.fault.isSome then 0 else 1

@[simp] def work : Frame → Nat
  | .connection frame => connectionWork frame
  | .socketAction => 5
  | .multi => 4
  | .checkMultiInfo _ => 3
  | .readMessage => 2
  | .removeHandle _ _ => 30
  | .awaitPosted _ _ => 25

/-- Transfers may end, and messages are read. -/
def curlWork (s : Shared) : Nat := 40 * (s.running.length + s.added.length) + 35 * s.messages.length

def toDo (s : Shared) (frames : Multiset Frame) : Nat :=
  storeWork s.toShared + curlWork s + load work frames

/-- User code returns. -/
def returning : Guard Shared Frame Choice Event where
  run _ frame choice _ _ := frame = .connection .userCode → choice = .connection .proceed
  enter _ _ _ := True

section Lower

variable {configuration : Connection.ConnectionConfiguration} {uninitialised thread : Nat}

theorem length_add_le (store : MessageStore) (id : MessageID) :
    (store.add id).length ≤ store.length + 1 := by
  induction store with
  | nil => exact le_rfl
  | cons key store ih =>
    rw [MessageStore.add]
    split
    · exact Nat.le_succ _
    · split
      · exact le_rfl
      · exact Nat.succ_le_succ ih

theorem length_removeByID_le (store : MessageStore) (id : MessageID) :
    (store.removeByID id).length ≤ store.length := List.length_filter_le _ _

theorem storeWork_lower {frame : Connection.Frame} {choice : Connection.Choice}
    {s s' : Connection.Shared} {frames : List Connection.Frame}
    {spawned : List (List Connection.Frame)}
    (h : Connection.perform configuration uninitialised thread frame choice s =
      some (s', frames, spawned)) (hCurl : isCurl frame = false)
    (hReturns : frame = .userCode → choice = .proceed) (hFault : s.fault = none) :
    storeWork s' + ((frames ++ spawned.flatten).map connectionWork).sum <
      storeWork s + connectionWork frame := by
  cases frame
  case addRequest | awaitDone => cases hCurl
  case userCode =>
    rw [hReturns rfl] at h
    cases h
    simp
  case addToStore id =>
    simp only [Connection.perform, Connection.addToStore, Connection.Shared.next] at h
    split at h
    · cases h
    · rename_i hMutex
      cases h
      have hLength := length_add_le s.messageStore id
      simp [storeWork, hMutex, hFault]
      omega
  case sendRequest request =>
    simp only [Connection.perform, Connection.sendRequest, Connection.Shared.next] at h
    split at h
    · cases h
      simp
    · split at h
      · cases h
        simp [storeWork]
      · cases h
        simp [storeWork]
  case handleResult id result =>
    simp only [Connection.perform, Connection.handleResult, Connection.Shared.next] at h
    split at h
    · cases h
      simp [storeWork, hFault]
    · cases h
      split <;> simp
  case onFailure error =>
    simp only [Connection.perform, Connection.onFailure, Connection.Shared.next] at h
    split at h
    · cases h
      simp [storeWork]
    · cases h
      simp
  case invoke id error response =>
    simp only [Connection.perform, Connection.invoke, Connection.Shared.next] at h
    split at h
    · cases h
    · split at h
      · cases h
        simp [storeWork]
      · cases h
        simp [storeWork]
  case removeByID id =>
    simp only [Connection.perform, Connection.removeByID, Connection.Shared.next] at h
    split at h
    · cases h
    · cases h
      have hLength := length_removeByID_le s.messageStore id
      simp only [storeWork, List.flatten_nil, List.append_nil, List.map_nil, List.sum_nil,
        connectionWork]
      split <;> omega
  case cancelAll =>
    simp only [Connection.perform, Connection.cancelAll, Connection.Shared.next] at h
    split at h
    · cases h
    · rename_i hMutex
      cases h
      simp [storeWork, hMutex, hFault]
      omega
  case cancelItems todo =>
    cases todo with
    | nil =>
      cases h
      simp [storeWork, hFault]
    | cons id todo =>
      cases h
      simp
      omega

theorem length_of_transferDone {s : Shared} {id : MessageID} (h : id ∈ s.running ++ s.added) :
    (s.running.erase id).length + (s.added.erase id).length + 1 ≤ s.running.length + s.added.length := by
  rw [List.length_erase, List.length_erase]
  rcases List.mem_append.mp h with hRunning | hAdded
  · have hPos := List.length_pos_of_mem hRunning
    rw [if_pos hRunning]
    split <;> omega
  · have hPos := List.length_pos_of_mem hAdded
    rw [if_pos hAdded]
    split <;> omega

theorem toDo_connection {frame : Connection.Frame} {choice : Connection.Choice} {s s' : Shared}
    {frames : List Frame} {spawned : List (List Frame)}
    (h : connection configuration uninitialised thread frame choice s = some (s', frames, spawned))
    (hReturns : frame = .userCode → choice = .proceed) (hFault : s.fault = none) :
    storeWork s'.toShared + curlWork s' + ((frames ++ spawned.flatten).map work).sum <
      storeWork s.toShared + curlWork s + connectionWork frame := by
  by_cases hCurl : isCurl frame = true
  · cases frame <;> cases hCurl
    · simp only [connection, addRequest, Shared.next] at h
      split at h
      · cases h
      · cases h
        simp [curlWork]
        omega
    · cases h
  rcases connection_cases (Bool.eq_false_iff.mpr hCurl) h with
    ⟨rfl, rfl, rfl, -⟩ | ⟨shared, inner, innerSpawned, hInner, rfl, rfl, rfl, -⟩
  · simp [storeWork, curlWork, hFault]
  · have hLower := storeWork_lower hInner (Bool.eq_false_iff.mpr hCurl) hReturns hFault
    have hFrames : ((inner.map Frame.connection ++
        (innerSpawned.map (List.map Frame.connection)).flatten).map work).sum =
          ((inner ++ innerSpawned.flatten).map connectionWork).sum := by
      rw [← List.map_flatten, ← List.map_append, List.map_map]
      rfl
    rw [hFrames]
    simp only [curlWork] at hLower ⊢
    omega

theorem toDo_lower {frame : Frame} {choice : Choice} {s s' : Shared} {frames : List Frame}
    {spawned : List (List Frame)} {rest : Multiset Frame}
    (hReturns : frame = .connection .userCode → choice = .connection .proceed)
    (h : (machine configuration uninitialised).exec thread frame choice s = some (s', frames, spawned)) :
    toDo s' (↑(frames ++ spawned.flatten) + rest) < toDo s (frame ::ₘ rest) := by
  have hStep := step_of_exec h
  simp only [machine] at h
  split at h
  · cases h
  rename_i hFault
  rw [Bool.not_eq_true, Option.isSome_eq_false_iff, Option.isNone_iff_eq_none] at hFault
  rw [toDo, toDo, load_add, load_coe, load_cons]
  have hLower : storeWork s'.toShared + curlWork s' + ((frames ++ spawned.flatten).map work).sum <
      storeWork s.toShared + curlWork s + work frame := by
    cases frame
    case connection frame =>
      cases choice
      case connection choice =>
        refine toDo_connection h (fun hUser => ?_) hFault
        subst hUser
        exact Choice.connection.inj (hReturns rfl)
      all_goals cases h
    all_goals cases hStep
    case multi.transferDone id result hTransfer =>
      have hLength := length_of_transferDone hTransfer
      simp [curlWork]
      omega
    all_goals simp [curlWork, *]
    all_goals omega
  omega

end Lower

/-! ## Nothing waits but curl -/

def awaiting : Frame → Nat
  | .connection (.awaitDone _) => 1
  | _ => 0

/-- Why the threads of a living connection get on. -/
structure Settling (s : Shared) (frames : Multiset Frame) : Prop where
  conserved : s.destroyed = false → Conserved s frames
  read : MessagesRead s frames
  mutex : load runningCurl frames = if s.multiMutex then 1 else 0
  store : s.destroyed = false → s.messageStoreMutex = none ∧ s.freed = false
  awaiting : load awaiting frames = 0

section Settling

variable {configuration : Connection.ConnectionConfiguration} {uninitialised thread : Nat}

theorem awaiting_of_perform {frame : Connection.Frame} {choice : Connection.Choice}
    {s s' : Connection.Shared} {frames : List Connection.Frame}
    {spawned : List (List Connection.Frame)}
    (h : Connection.perform configuration uninitialised thread frame choice s =
      some (s', frames, spawned)) (hCurl : isCurl frame = false) :
    ∀ next ∈ frames ++ spawned.flatten, awaiting (.connection next) = 0 := by
  cases frame
  case addRequest | awaitDone => cases hCurl
  case userCode =>
    cases choice <;> simp only [Connection.perform, Connection.userCode, Connection.Shared.next] at h
    all_goals (try split at h)
    all_goals cases h
    all_goals simp [awaiting]
  case cancelItems todo =>
    cases todo <;> cases h <;> simp [awaiting]
  case handleResult id result =>
    simp only [Connection.perform, Connection.handleResult, Connection.Shared.next] at h
    split at h
    · cases h
      simp [awaiting]
    · cases h
      split <;> simp [awaiting]
  all_goals simp only [Connection.perform, Connection.sendRequest, Connection.addToStore,
    Connection.onFailure, Connection.invoke, Connection.removeByID, Connection.cancelAll,
    Connection.Shared.next] at h
  all_goals (repeat' split at h)
  all_goals cases h
  all_goals simp [awaiting]

/-- Only the destructor takes the mutex of the store, and frees what is there. -/
theorem store_of_perform {frame : Connection.Frame} {choice : Connection.Choice}
    {s s' : Connection.Shared} {frames : List Connection.Frame}
    {spawned : List (List Connection.Frame)}
    (h : Connection.perform configuration uninitialised thread frame choice s =
      some (s', frames, spawned)) (hNot : destroying frame = 0) :
    s'.messageStoreMutex = s.messageStoreMutex ∧ s'.freed = s.freed := by
  cases frame
  case cancelAll | cancelItems => cases hNot
  case userCode =>
    cases choice <;> simp only [Connection.perform, Connection.userCode, Connection.Shared.next] at h
    all_goals (try split at h)
    all_goals cases h
    all_goals exact ⟨rfl, rfl⟩
  all_goals simp only [Connection.perform, Connection.sendRequest, Connection.addToStore,
    Connection.addRequest, Connection.awaitDone, Connection.handleResult, Connection.onFailure,
    Connection.invoke, Connection.removeByID, Connection.Shared.next] at h
  all_goals (repeat' split at h)
  all_goals cases h
  all_goals exact ⟨rfl, rfl⟩

theorem mutex_step {frame : Frame} {s s' : Shared} {frames : List Frame}
    {spawned : List (List Frame)} {rest : Multiset Frame}
    (hMutex : load runningCurl (frame ::ₘ rest) = if s.multiMutex then 1 else 0)
    (h : Step configuration uninitialised thread frame s s' frames spawned) :
    load runningCurl (↑(frames ++ spawned.flatten) + rest) = if s'.multiMutex then 1 else 0 := by
  rw [load_cons] at hMutex
  rw [load_add]
  cases h
  case connection =>
    rw [load_connection_eq_zero fun _ => rfl]
    exact hMutex
  case socketAction hFree =>
    rw [hFree] at hMutex
    simpa [runningCurl] using hMutex
  case reported =>
    have hZero : load runningCurl rest = 0 := by
      simp only [runningCurl] at hMutex
      split at hMutex <;> omega
    simpa [runningCurl] using hZero
  all_goals simpa [runningCurl] using hMutex

theorem store_step {frame : Frame} {s s' : Shared} {frames : List Frame}
    {spawned : List (List Frame)} (hNot : cancelling frame = 0)
    (h : Step configuration uninitialised thread frame s s' frames spawned) :
    s'.messageStoreMutex = s.messageStoreMutex ∧ s'.freed = s.freed := by
  cases h
  case connection hPerform => exact store_of_perform hPerform hNot
  all_goals exact ⟨rfl, rfl⟩

theorem awaiting_step {frame : Frame} {s s' : Shared} {frames : List Frame}
    {spawned : List (List Frame)}
    (h : Step configuration uninitialised thread frame s s' frames spawned) :
    load awaiting (↑(frames ++ spawned.flatten) : Multiset Frame) = 0 := by
  refine (load_eq_zero_iff awaiting).mpr fun next hNext => ?_
  rw [Multiset.mem_coe] at hNext
  cases h
  case connection hFrame hPerform =>
    rw [← List.map_flatten, ← List.map_append] at hNext
    obtain ⟨inner, hInner, rfl⟩ := List.mem_map.mp hNext
    exact awaiting_of_perform hPerform hFrame inner hInner
  all_goals simp at hNext
  case readMessage => rcases hNext with rfl | rfl <;> rfl
  case lost frame hFreed =>
    rw [hNext]
    cases frame <;> first | rfl | cases hFreed
  all_goals rw [hNext]; rfl

theorem Settling.step {frame : Frame} {s s' : Shared} {frames : List Frame}
    {spawned : List (List Frame)} {rest : Multiset Frame} (hI : Settling s (frame ::ₘ rest))
    (h : Step configuration uninitialised thread frame s s' frames spawned) :
    Settling s' (↑(frames ++ spawned.flatten) + rest) := by
  have hAwaiting := hI.awaiting
  rw [load_cons] at hAwaiting
  refine ⟨fun hAlive => (hI.conserved (destroyed_of_step h hAlive)).step hAlive h, hI.read.step h,
    mutex_step hI.mutex h, fun hAlive => ?_, ?_⟩
  · have hBefore := destroyed_of_step h hAlive
    have hCancelling := (hI.conserved hBefore).cancelling
    rw [load_cons] at hCancelling
    obtain ⟨hMutex, hFreed⟩ := store_step (Nat.eq_zero_of_add_eq_zero_right hCancelling) h
    rw [hMutex, hFreed]
    exact hI.store hBefore
  · rw [load_add, awaiting_step h, Nat.zero_add]
    exact Nat.eq_zero_of_add_eq_zero_left hAwaiting

theorem settling_preserved :
    Preserved (machine configuration uninitialised) .all Settling where
  exec _ _ _ _ _ _ _ _ h _ hExec := h.step (step_of_exec hExec)
  enter _ _ _ _ _ _ h _ _ hEnter := by
    obtain ⟨rfl, hFrames⟩ := enter_cases hEnter
    refine ⟨fun hAlive => (h.conserved hAlive).of_same rfl rfl ?_ fun id => ?_, h.read.of_same rfl ?_,
      ?_, h.store, ?_⟩
    all_goals rcases hFrames with rfl | rfl
    all_goals simp [cancelling, destroying, carrying, handling, reading, runningCurl, awaiting,
      h.mutex, h.awaiting]

theorem settling_initial : Settling initial.shared initial.frames := by
  refine ⟨fun _ => ?_, fun hLeft => absurd rfl hLeft, rfl, fun _ => ⟨rfl, rfl⟩, rfl⟩
  constructor <;> simp [initial, Config.frames, isOpen]

/-- Curl is on top of the thread that runs it. -/
theorem covers : Covers (machine configuration uninitialised) (· ≠ .multi) where
  exec thread frame choice s s' frames spawned hExec := by
    cases step_of_exec hExec
    case connection hPerform =>
      refine ⟨fun next hNext => ?_, fun new hNew next hNext => ?_⟩
      · obtain ⟨inner, -, rfl⟩ := List.mem_map.mp (List.mem_of_mem_tail hNext)
        exact nofun
      · obtain ⟨inner, -, rfl⟩ := List.mem_map.mp hNew
        obtain ⟨inner, -, rfl⟩ := List.mem_map.mp (List.mem_of_mem_tail hNext)
        exact nofun
    all_goals simp
  enter event quiet s s' frames hEnter := by
    obtain ⟨-, hFrames⟩ := enter_cases hEnter
    rcases hFrames with rfl | rfl <;> simp

end Settling

section Machine

variable {configuration : Connection.ConnectionConfiguration} {uninitialised : Nat}
  {c : Config Shared Frame}

theorem settling_of_reaches (h : Reaches (machine configuration uninitialised) .all initial c) :
    Settling c.shared c.frames :=
  h.invariant settling_preserved settling_initial

/-- A request that has not been completed is still there. -/
theorem request_of_reaches (h : Reaches (machine configuration uninitialised) .all initial c)
    {id : MessageID} (hOpen : isOpen c.shared.toShared id = true) :
    (c.shared.items id).bind Connection.RequestItem.request ≠ none := by
  obtain ⟨notes, hObserved⟩ : ∃ notes, Reaches ((machine configuration uninitialised).observed
      (observe configuration)) Guard.all.observed initial.observed ⟨(c.shared, notes), c.threads⟩ :=
    h.exists_observed
  obtain ⟨-, hItems, -⟩ := hObserved.invariant (notes_preserved configuration uninitialised)
    ⟨trivial, notes_initial uninitialised⟩
  obtain ⟨item, hItem, hCallback⟩ := (Option.any_eq_true _ _).mp hOpen
  obtain ⟨sent, -, hPending, -⟩ := hItems.accepted id item hItem
  simp [hItem, (hPending (by simpa using hCallback)).1]

theorem isOpen_of_carrying {s : Shared} {frames : Multiset Frame} (h : Conserved s frames)
    {frame : Frame} (hMem : frame ∈ frames) {id : MessageID} (hCarrying : carrying id frame = 1) :
    isOpen s.toShared id = true := by
  have hOnce := h.once id
  have hLoad : carrying id frame ≤ load (carrying id) frames := le_load _ hMem
  rw [hCarrying] at hLoad
  cases hOpen : isOpen s.toShared id with
  | true => rfl
  | false =>
    rw [hOpen, Bool.toNat_false] at hOnce
    omega

theorem fault_of_perform {thread : Nat} {frame : Connection.Frame} {choice : Connection.Choice}
    {s s' : Connection.Shared} {frames : List Connection.Frame}
    {spawned : List (List Connection.Frame)}
    (h : Connection.perform configuration uninitialised thread frame choice s =
      some (s', frames, spawned))
    (hRequest : ∀ id result, frame = .handleResult id result →
      (s.items id).bind Connection.RequestItem.request ≠ none) (hFault : s.fault = none) :
    s'.fault = none := by
  cases frame
  case handleResult id result =>
    simp only [Connection.perform, Connection.handleResult, Connection.Shared.next] at h
    split at h
    · rename_i hNone
      exact absurd hNone (hRequest id result rfl)
    · cases h
      exact hFault
  all_goals simp only [Connection.perform, Connection.userCode, Connection.sendRequest,
    Connection.addToStore, Connection.addRequest, Connection.awaitDone, Connection.onFailure,
    Connection.invoke, Connection.removeByID, Connection.cancelAll, Connection.cancelItems,
    Connection.Shared.next] at h
  all_goals (repeat' split at h)
  all_goals cases h
  all_goals exact hFault

/-- A living connection has not failed. -/
theorem fault_of_reaches (h : Reaches (machine configuration uninitialised) .all initial c)
    (hAlive : c.shared.destroyed = false) : c.shared.fault = none := by
  induction h with
  | start => rfl
  | @step c c' label hReaches _ hStep ih =>
    cases label with
    | enter event =>
      obtain ⟨s', frames, hEnter, rfl⟩ := Machine.exists_of_step_enter hStep
      obtain ⟨rfl, -⟩ := enter_cases hEnter
      exact ih hAlive
    | run thread choice =>
      obtain ⟨frame, stack, s', frames, spawned, hThread, hExec, rfl⟩ :=
        Machine.exists_of_step_run hStep
      have hBefore := destroyed_of_step (step_of_exec hExec) hAlive
      have hConserved := (settling_of_reaches hReaches).conserved hBefore
      have hMem : frame ∈ c.frames := by
        rw [Config.frames, Multiset.mem_coe, List.mem_flatten]
        exact ⟨_, List.mem_of_getElem? hThread, List.mem_cons_self⟩
      cases step_of_exec hExec
      case connection frame choice hCurl hPerform =>
        refine fault_of_perform hPerform (fun id result hFrame => ?_) (ih hBefore)
        subst hFrame
        exact request_of_reaches hReaches (isOpen_of_carrying hConserved hMem (if_pos rfl))
      case lost frame hFreed =>
        have hAlive := ((settling_of_reaches hReaches).store hBefore).2
        rw [hAlive, Bool.and_false] at hFreed
        cases hFreed
      all_goals exact ih hBefore

theorem perform_ne_none {s : Connection.Shared} {thread : Nat} {frame : Connection.Frame}
    (hAlive : s.destroyed = false) (hStore : s.messageStoreMutex = none) (hCurl : isCurl frame = false)
    (hItem : ∀ id error response, frame = .invoke id error response → s.items id ≠ none) :
    Connection.perform configuration uninitialised thread frame .proceed s ≠ none := by
  cases frame
  case addRequest | awaitDone => cases hCurl
  case invoke id error response =>
    obtain ⟨item, hSome⟩ := Option.ne_none_iff_exists'.mp (hItem id error response rfl)
    simp only [Connection.perform, Connection.invoke, Connection.Shared.next, hSome]
    split <;> exact Option.some_ne_none _
  all_goals simp only [Connection.perform, Connection.userCode, Connection.sendRequest,
    Connection.addToStore, Connection.handleResult, Connection.onFailure, Connection.removeByID,
    Connection.cancelAll, Connection.cancelItems, Connection.Shared.next, hAlive, hStore]
  all_goals (repeat' split)
  all_goals simp_all

/-- Every thread of a living connection gets on, unless curl is being run. -/
theorem exec_ne_none {s : Shared} {frames : Multiset Frame} (h : Settling s frames)
    (hAlive : s.destroyed = false) (hFault : s.fault = none) {thread : Nat} {frame : Frame}
    (hMem : frame ∈ frames) (hMutex : s.multiMutex = false ∨ frame = .multi) :
    ∃ choice, (frame = .connection .userCode → choice = .connection .proceed) ∧
      (machine configuration uninitialised).exec thread frame choice s ≠ none := by
  simp only [machine, hFault, Option.isSome_none, Bool.false_eq_true, if_false]
  cases frame
  case multi => exact ⟨.proceed, by simp, Option.some_ne_none _⟩
  case connection frame =>
    have hFree := hMutex.resolve_right (by simp)
    refine ⟨.connection .proceed, fun _ => rfl, ?_⟩
    simp only [perform]
    by_cases hCurl : isCurl frame = true
    · cases frame <;> cases hCurl
      · simp [connection, addRequest, hFree, Shared.next]
      · have hNone := (load_eq_zero_iff awaiting).mp h.awaiting _ hMem
        cases hNone
    · have hInner : Connection.perform configuration uninitialised thread frame .proceed s.toShared ≠
          none := by
        refine perform_ne_none hAlive (h.store hAlive).1 (Bool.eq_false_iff.mpr hCurl) ?_
        rintro id error response rfl hNone
        have hOpen : isOpen s.toShared id = true :=
          isOpen_of_carrying (h.conserved hAlive) hMem (if_pos rfl)
        rw [isOpen, hNone] at hOpen
        cases hOpen
      rw [← Connection.exec_of_not_freed (h.store hAlive).2] at hInner
      obtain ⟨⟨shared, inner, spawned⟩, hSome⟩ := Option.ne_none_iff_exists'.mp hInner
      cases frame
      case addRequest | awaitDone => exact absurd rfl hCurl
      all_goals simp only [connection, hSome]; exact Option.some_ne_none _
  all_goals
    have hFree := hMutex.resolve_right (by simp)
    refine ⟨.proceed, by simp, ?_⟩
    simp only [perform, socketAction, checkMultiInfo, readMessage, removeHandle, awaitPosted,
      Shared.next, hFree]
  case readMessage => cases s.messages <;> simp
  all_goals simp

/-- One thread takes a step, and user code returns. -/
abbrev Moves (configuration : Connection.ConnectionConfiguration) (uninitialised : Nat) :
    Config Shared Frame → Config Shared Frame → Prop :=
  Advance (machine configuration uninitialised) returning fun _ => true

theorem toDo_descends : Descends (machine configuration uninitialised) returning (fun _ => true)
    (· < ·) (fun _ _ => True) toDo where
  preserved := ⟨fun _ _ _ _ _ _ _ _ _ _ _ => trivial, fun _ _ _ _ _ _ _ _ _ _ => trivial⟩
  exec _ _ _ _ _ _ _ _ _ _ hReturns hExec := toDo_lower hReturns hExec

theorem quiet_of_settled (h : Reaches (machine configuration uninitialised) .all initial c)
    (hAlive : c.shared.destroyed = false)
    (hSettled : ∀ next, ¬Moves configuration uninitialised c next) : c.frames = 0 := by
  have hSettling := settling_of_reaches h
  have hFault := fault_of_reaches h hAlive
  have hStuck : ∀ (thread : Nat) (frame : Frame) (stack : List Frame),
      c.threads[thread]? = some (frame :: stack) → ¬(c.shared.multiMutex = false ∨ frame = .multi) := by
    intro thread frame stack hThread hMutex
    have hMem : frame ∈ c.frames := by
      rw [Config.frames, Multiset.mem_coe, List.mem_flatten]
      exact ⟨_, List.mem_of_getElem? hThread, List.mem_cons_self⟩
    obtain ⟨choice, hReturns, hExec⟩ := exec_ne_none hSettling hAlive hFault hMem hMutex
    exact hExec (stuck_of_settled hSettled hThread rfl hReturns)
  have hFree : c.shared.multiMutex = false := by
    by_contra hHeld
    have hRunning := hSettling.mutex
    rw [if_pos (Bool.not_eq_false _ ▸ hHeld)] at hRunning
    obtain ⟨frame, hMem, hMulti⟩ := exists_of_load_pos runningCurl (by rw [hRunning]; exact Nat.one_pos)
    cases frame
    case multi =>
      obtain ⟨thread, stack, hThread⟩ :=
        exists_thread_of_mem (h.covered covers (by simp [initial])) hMem (fun hNot => hNot rfl)
      exact hStuck thread .multi stack hThread (.inr rfl)
    all_goals cases hMulti
  refine Multiset.eq_zero_of_forall_notMem fun frame hMem => ?_
  rw [Config.frames, Multiset.mem_coe, List.mem_flatten] at hMem
  obtain ⟨stack, hStack, hMem⟩ := hMem
  obtain ⟨thread, hThread⟩ := List.mem_iff_getElem?.mp hStack
  cases stack with
  | nil => cases hMem
  | cons top stack => exact hStuck thread top stack hThread (.inl hFree)

/-- **Coming to rest.** Once user code returns and no more events come, the threads run
to their end, in whatever order; in a connection that is still alive, curl then has all
the requests that have not been completed, and no others. -/
theorem http_comes_to_rest (h : Reaches (machine configuration uninitialised) .all initial c) :
    Acc (fun next before => Moves configuration uninitialised before next) c ∧
      ∀ settled, Relation.ReflTransGen (Moves configuration uninitialised) c settled →
        (∀ next, ¬Moves configuration uninitialised settled next) →
        settled.shared.destroyed = false →
        settled.shared.fault = none ∧ settled.quiet = true ∧ settled.shared.messages = [] ∧
          (↑(settled.shared.running ++ settled.shared.added) : Multiset MessageID) =
            ↑(unfinished settled.shared.toShared) := by
  refine ⟨toDo_descends.acc wellFounded_lt trivial, fun settled hMoves hSettled hAlive => ?_⟩
  have hReaches : Reaches (machine configuration uninitialised) .all initial settled :=
    reaches_of_advances h (hMoves.lift (fun c => c) fun _ _ => Advance.all)
  have hSettling := settling_of_reaches hReaches
  have hFrames := quiet_of_settled hReaches hAlive hSettled
  have hIdle : Idle settled.frames := by
    rw [hFrames]
    exact fun _ hMem => absurd hMem (Multiset.notMem_zero _)
  have hUnfinished := (hSettling.conserved hAlive).eq_unfinished hSettling.read hIdle
  rw [hFrames, Multiset.filterMap_zero, add_zero] at hUnfinished
  exact ⟨fault_of_reaches hReaches hAlive, settled.quiet_iff.mpr hFrames,
    hIdle.messages hSettling.read, hUnfinished⟩

/-- The transfer of the first request has ended, and its message has not been read. -/
theorem http_comes_to_rest_first : ∃ c : Config Shared Frame,
    c.shared.messages ≠ [] ∧
    Acc (fun next before => Moves {} 0 before next) c ∧
      ∀ settled, Relation.ReflTransGen (Moves {} 0) c settled → (∀ next, ¬Moves {} 0 settled next) →
        settled.shared.destroyed = false →
        settled.shared.fault = none ∧ settled.quiet = true ∧ settled.shared.messages = [] ∧
          (↑(settled.shared.running ++ settled.shared.added) : Multiset MessageID) =
            ↑(unfinished settled.shared.toShared) := by
  have hRun : ((machine {} 0).steps .all initial (completeFirst.take 8)).any
      (fun c => c.shared.messages ≠ []) = true := by
    decide +kernel
  obtain ⟨c, hReaches, hTest⟩ := exists_reaches_of_steps hRun
  exact ⟨c, of_decide_eq_true hTest, http_comes_to_rest hReaches⟩

end Machine

end Fuerte.Http.RequestsLeft

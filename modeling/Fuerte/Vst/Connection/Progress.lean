import Fuerte.Library.Progress
import Fuerte.Vst.Connection.LockDiscipline
import Fuerte.Vst.Connection.RequestsLeft

/-! # The connection gets on and comes to rest

Threads take the mutex of the write loop before that of the store, and whoever
holds the latter does not wait. What the connection does of its own accord comes
to an end: then all threads wait for the network, for a timer or for user code.
-/

namespace Fuerte.Vst.Connection

set_option autoImplicit false

open ByteMemory Interleaving

/-! ## Threads get on -/

/-- The thread waits for a mutex that the other one holds. -/
def WaitsFor (c : Config Shared Frame) (thread other : Nat) : Prop :=
  ∃ frame stack mutex, c.threads[thread]? = some (frame :: stack) ∧
    waitsFor frame = some mutex ∧ mutex ∈ c.shared.held other

def isFree (s : Shared) : Mutex → Bool
  | .messageStore => s.messageStoreMutex.isNone
  | .writeLoop => s.writeLoopMutex.isNone
  | _ => true

section Enabled

variable (platform : Platform) (configuration : Configuration) (thread : Nat)

/-- How an operation may end so that its frame is executed. -/
def possibleChoice (s : Shared) : Frame → Choice
  | .awaitRead _ => .failed
  | .awaitReadDeadline r timer =>
    if (s.readLoops r).deadline = some timer then .expired else .proceed
  | .awaitWriteDeadline w timer =>
    if (s.writeLoops w).deadline = some timer then .expired else .proceed
  | _ => .proceed

variable {platform configuration thread}

/-- A frame whose items exist is executed as soon as the mutex it waits for is free. -/
theorem perform_ne_none {frame : Frame} {s : Shared}
    (hItems : ∀ id ∈ mentioned frame, s.items id ≠ none)
    (hFree : ∀ mutex, waitsFor frame = some mutex → isFree s mutex = true) :
    perform platform configuration thread frame (possibleChoice s frame) s ≠ none := by
  cases frame
  all_goals simp only [mentioned, waitsFor, isFree, List.mem_singleton, forall_eq, reduceCtorEq,
    false_implies, implies_true, Option.some.injEq, forall_eq', Option.isNone_iff_eq_none] at hItems hFree
  all_goals simp only [perform, possibleChoice, userCode, createRequestItem, addToQueue,
    testConnected, requestsLeftStore, onFailure, startResolveHost, awaitResolve, initSocket,
    awaitConnect, startSSLHandshake, awaitHandshake, handshakeFailed, finishInitialization,
    awaitHeader, initializationFailed, insertAuthenticationRequests, insertIntoQueue, setConnected,
    restartConnection, stopWriting, stopReading, shutdownSocket, cancelAll, cancelItems, reconnect,
    startReading, readLoopStart, readNextBytes, setReadDeadline, asyncRead, awaitRead, bytesReceived,
    readFailed, inspect, consume, findItem, addChunk, removeCompleted, createResponseFor,
    restartReading, awaitReadDeadline, startWriting, writeLoopStart, sendNextRequest, queueFront,
    stopLoop, addToStore, removeFromQueue, listen, setWriteDeadline, asyncWrite, awaitWrite,
    requestWritten, writeFailed, removeFailed, restartWriting, awaitWriteDeadline, moveRequest,
    invoke, authenticationCallback, Shared.next, Shared.async, Shared.throw, reduceCtorEq, false_and,
    if_false]
  all_goals (repeat' split)
  all_goals try exact Option.some_ne_none _
  all_goals simp_all

end Enabled

section Waiting

variable {platform : Platform} {configuration : Configuration} {c : Config Shared Frame}

theorem itemsKnown_of_reaches {G : Guard Shared Frame Choice Event}
    (h : Reaches (machine platform configuration) G initial c) : ItemsKnown c.shared c.frames :=
  h.invariant ((itemsKnown_preserved platform configuration).under G) itemsKnown_initial

theorem mem_frames_of_thread {thread : Nat} {frame : Frame} {stack : List Frame}
    (hThread : c.threads[thread]? = some (frame :: stack)) : frame ∈ c.frames := by
  rw [Config.frames, Multiset.mem_coe, List.mem_flatten]
  exact ⟨frame :: stack, List.mem_of_getElem? hThread, List.mem_cons_self⟩

theorem getsOn_of_free {G : Guard Shared Frame Choice Event}
    (h : Reaches (machine platform configuration) G initial c) (hFault : c.shared.fault = none)
    {thread : Nat} {frame : Frame} {stack : List Frame}
    (hThread : c.threads[thread]? = some (frame :: stack))
    (hFree : ∀ mutex, waitsFor frame = some mutex → isFree c.shared mutex = true) :
    GetsOn (CanStep (machine platform configuration) c) (WaitsFor c) thread := by
  apply GetsOn.ready
  apply canStep_of_exec hThread
  simp only [machine, hFault, Option.isSome_none, Bool.false_eq_true, if_false]
  exact perform_ne_none
    ((itemsKnown_of_reaches h).inFrames frame (mem_frames_of_thread hThread)) hFree

theorem exists_thread_of_getD {thread : Nat} {P : List Frame → Prop}
    (h : P (c.threads.getD thread [])) (hEmpty : ¬P []) :
    ∃ frame stack, c.threads[thread]? = some (frame :: stack) ∧ P (frame :: stack) := by
  rw [List.getD_eq_getElem?_getD] at h
  cases hThread : c.threads[thread]? with
  | none => rw [hThread] at h; exact absurd h hEmpty
  | some stack =>
    rw [hThread] at h
    cases stack with
    | nil => exact absurd h hEmpty
    | cons frame stack => exact ⟨frame, stack, rfl, h⟩

theorem disciplined_of_reaches_getD
    (h : Reaches (machine platform configuration) (cancelsQuietly configuration) initial c)
    (thread : Nat) : Disciplined configuration c.shared thread (c.threads.getD thread []) :=
  h.stacks ((itemsKnown_preserved platform configuration).under _)
    (disciplined_preserved platform configuration) itemsKnown_initial
    (disciplined_initial configuration) thread

/-- The thread that cancels the stored items does not wait for anything. -/
theorem getsOn_of_store
    (h : Reaches (machine platform configuration) (cancelsQuietly configuration) initial c)
    (hFault : c.shared.fault = none) {holder : Nat}
    (hHolder : c.shared.messageStoreMutex = some holder) :
    GetsOn (CanStep (machine platform configuration) c) (WaitsFor c) holder := by
  obtain ⟨frame, stack, hThread, hSilenced⟩ :=
    exists_thread_of_getD ((disciplined_of_reaches_getD h holder).cancelling hHolder) not_false
  refine getsOn_of_free h hFault hThread fun mutex hMutex => ?_
  cases frame <;> first | exact hSilenced.elim | cases hMutex

/-- The thread that takes a request from the queue waits at most for the store. -/
theorem getsOn_of_writing
    (h : Reaches (machine platform configuration) (cancelsQuietly configuration) initial c)
    (hFault : c.shared.fault = none) {holder : Nat}
    (hHolder : c.shared.writeLoopMutex = some holder) :
    GetsOn (CanStep (machine platform configuration) c) (WaitsFor c) holder := by
  obtain ⟨frame, stack, hThread, hSending⟩ :=
    exists_thread_of_getD ((disciplined_of_reaches_getD h holder).writing hHolder) not_false
  cases hStore : c.shared.messageStoreMutex with
  | none =>
    refine getsOn_of_free h hFault hThread fun mutex hMutex => ?_
    cases frame <;> first | exact hSending.elim | cases hMutex
    rw [isFree, hStore]
    rfl
  | some cancelling =>
    by_cases hWaits : waitsFor frame = some .messageStore
    · refine .wait ⟨frame, stack, .messageStore, hThread, hWaits, ?_⟩ (getsOn_of_store h hFault hStore)
      simp [Shared.held, hStore]
    · refine getsOn_of_free h hFault hThread fun mutex hMutex => ?_
      cases frame <;> first | exact hSending.elim | cases hMutex
      exact absurd rfl hWaits

theorem getsOn_of_reaches
    (h : Reaches (machine platform configuration) (cancelsQuietly configuration) initial c)
    (hFault : c.shared.fault = none) {thread : Nat} {frame : Frame} {stack : List Frame}
    (hThread : c.threads[thread]? = some (frame :: stack)) :
    GetsOn (CanStep (machine platform configuration) c) (WaitsFor c) thread := by
  by_cases hFree : ∀ mutex, waitsFor frame = some mutex → isFree c.shared mutex = true
  · exact getsOn_of_free h hFault hThread hFree
  · push Not at hFree
    obtain ⟨mutex, hMutex, hTaken⟩ := hFree
    cases mutex
    case messageStore =>
      obtain ⟨holder, hHolder⟩ : ∃ holder, c.shared.messageStoreMutex = some holder := by
        simpa [isFree, Option.ne_none_iff_exists'] using hTaken
      refine .wait ⟨frame, stack, .messageStore, hThread, hMutex, ?_⟩ (getsOn_of_store h hFault hHolder)
      simp [Shared.held, hHolder]
    case writeLoop =>
      obtain ⟨holder, hHolder⟩ : ∃ holder, c.shared.writeLoopMutex = some holder := by
        simpa [isFree, Option.ne_none_iff_exists'] using hTaken
      refine .wait ⟨frame, stack, .writeLoop, hThread, hMutex, ?_⟩ (getsOn_of_writing h hFault hHolder)
      simp [Shared.held, hHolder]
    all_goals exact absurd rfl hTaken

/-- **Deadlock freedom.** In every run in which `cancelAll` never gets to user code,
every thread can take a step, or waits for a mutex whose holder gets on. -/
theorem deadlock_free
    (h : Reaches (machine platform configuration) (cancelsQuietly configuration) initial c)
    (hFault : c.shared.fault = none) (thread : Nat) (hThread : c.threads.getD thread [] ≠ []) :
    GetsOn (CanStep (machine platform configuration) c) (WaitsFor c) thread := by
  obtain ⟨frame, stack, hThread, -⟩ := exists_thread_of_getD (P := (· ≠ [])) hThread fun h => h rfl
  exact getsOn_of_reaches h hFault hThread

/-- A user asks for the requests that are left while another thread cancels them. -/
theorem deadlock_free_contended :
    ∃ c, c.shared.messageStoreMutex = some 8 ∧
      (c.threads[9]?.bind List.head?).bind waitsFor = some .messageStore ∧
      GetsOn (CanStep (machine shortPlatform { onFailure := true }) c) (WaitsFor c) 9 := by
  have hRun : ((machine shortPlatform { onFailure := true }).steps
      (cancelsQuietly { onFailure := true }) initial
      (establish ++ sendFirst ++ receive 6 (answer 1 200) ++ proceed 6 8 ++ fail 8 ++ proceed 8 10 ++
        [.enter .thread, .run 9 .requestsLeft] ++ proceed 9 1)).any
      (fun c => c.shared.messageStoreMutex = some 8 ∧ c.shared.fault = none ∧
        c.threads.getD 9 [] ≠ [] ∧
        (c.threads[9]?.bind List.head?).bind waitsFor = some .messageStore) = true := by
    decide +kernel
  obtain ⟨c, hReaches, hTest⟩ := exists_reaches_of_steps hRun
  obtain ⟨hMutex, hFault, hThread, hWaits⟩ := of_decide_eq_true hTest
  exact ⟨c, hMutex, hWaits, deadlock_free hReaches hFault 9 hThread⟩

end Waiting

/-! ## The connection comes to rest -/

/-- The frame is executed by the connection, whatever the network, timers and users do. -/
def isOwn (frame : Frame) : Bool := !isIdle frame

def creating : Frame → Nat
  | .createRequestItem _ | .insertAuthenticationRequests => 1
  | _ => 0

def Shared.unread (s : Shared) (r : LoopID) : Nat := (s.readLoops r).receiveBuffer.length

/-- How many steps may follow from a frame while there are at most `count` items. -/
def work (count : Nat) (unread : LoopID → Nat) : Frame → Nat
  | .userCode | .awaitResolve | .awaitConnect _ | .awaitHandshake _ | .awaitHeader _
  | .awaitRead _ | .awaitReadDeadline _ _ | .awaitWrite _ _ | .awaitWriteDeadline _ _ => 0
  | .createRequestItem _ | .insertAuthenticationRequests => 0
  | .onFailure _ | .requestsLeftStore | .startResolveHost | .initSocket | .startSSLHandshake
  | .finishInitialization | .asyncRead _ | .asyncWrite _ _ | .stopLoop _ => 1
  | .authenticationCallback _ | .requestsLeftQueue | .reconnect | .handshakeFailed
  | .setReadDeadline _ | .setWriteDeadline _ _ => 2
  | .invoke _ _ _ _ | .readNextBytes _ => 3
  | .moveRequest _ _ _ | .readLoopStart _ => 4
  | .createResponse _ _ | .startReading => 5
  | .removeCompleted _ _ => 6
  | .addChunk _ _ | .listen _ _ => 7
  | .findItem _ | .removeFromQueue _ _ => 8
  | .addToStore _ _ => 9
  | .queueFront _ => 10
  | .sendNextRequest _ => 11
  | .writeLoopStart _ | .requestWritten _ _ => 12
  | .startWriting => 13
  | .testConnected => 14
  | .addToQueue _ => 15
  | .setConnected => 19
  | .insertIntoQueue _ => 20
  | .inspect r => 4 + 10 * unread r
  | .consume r length => 5 + 10 * (unread r - length)
  | .bytesReceived r => 5 + 10 * unread r
  | .cancelItems _ _ todo => 3 + 5 * todo.length
  | .cancelAll _ _ => 4 + 5 * count
  | .shutdownSocket _ _ => 5 + 5 * count
  | .stopReading _ _ => 6 + 5 * count
  | .stopWriting _ _ => 7 + 5 * count
  | .restartConnection _ | .initializationFailed => 8 + 5 * count
  | .restartReading _ _ _ | .restartWriting _ _ _ => 9 + 5 * count
  | .readFailed _ => 10 + 5 * count
  | .removeFailed _ _ => 14 + 5 * count
  | .writeFailed _ _ => 15 + 5 * count

theorem work_mono {count more : Nat} {unread rest : LoopID → Nat} (hCount : count ≤ more)
    (hUnread : ∀ r, unread r ≤ rest r) (frame : Frame) :
    work count unread frame ≤ work more rest frame := by
  cases frame
  case inspect r | bytesReceived r | consume r length =>
    have := hUnread r
    simp only [work]
    omega
  all_goals
    simp only [work]
    omega

section Steps

variable {platform : Platform} {configuration : Configuration} {thread : Nat} {frame : Frame}
  {choice : Choice} {s s' : Shared} {rest : Multiset Frame} {frames : List Frame}
  {spawned : List (List Frame)}

theorem fault_of_step (h : Step platform configuration thread frame choice s s' frames spawned) :
    (∃ fault, s' = { s with fault := some fault } ∧ frames = [frame] ∧ spawned = []) ∨
      s'.fault = s.fault := by
  cases h
  case throws fault => exact .inl ⟨fault, rfl, rfl, rfl⟩
  all_goals exact .inr rfl

theorem creating_of_step (h : Step platform configuration thread frame choice s s' frames spawned)
    (hOwn : isOwn frame = true) (hFault : s'.fault = none) :
    load creating ↑(frames ++ spawned.flatten) = 0 := by
  cases h
  case throws => cases hFault
  case userSends | headerWritten => exact absurd hOwn Bool.false_ne_true
  all_goals simp [creating]

theorem messageID_of_step (h : Step platform configuration thread frame choice s s' frames spawned)
    (hCreating : creating frame = 0) : s'.messageID = s.messageID := by
  cases h
  case rejectRequest | createRequestItem | insertAuthenticationRequests => cases hCreating
  all_goals rfl

theorem unread_of_step (h : Step platform configuration thread frame choice s s' frames spawned)
    (hOwn : isOwn frame = true) (r : LoopID) : s'.unread r ≤ s.unread r := by
  cases h
  case received => exact absurd hOwn Bool.false_ne_true
  case startReading | listen | readLoopStart | setReadDeadline | bytesReceived | readFailed
      | consume =>
    simp only [Shared.unread, Shared.updateReadLoop, Function.update_apply]
    split
    · rename_i hEq
      subst hEq
      simp
    · exact Nat.le_refl _
  all_goals exact Nat.le_refl _

/-- The chunk that `inspect` finds is in the buffer as a whole. -/
theorem inspect_found {r : LoopID}
    (h : inspect platform configuration r s = some (s', frames, spawned)) :
    s' = s ∧ spawned = [] ∧ (frames = [.readNextBytes r] ∨ ∃ chunk length,
      frames = [.findItem chunk, .consume r length] ∧ 0 < length ∧ length ≤ s.unread r) := by
  simp only [inspect, Shared.next] at h
  by_cases hComplete : Complete (Pointer.ofList (s.readLoops r).receiveBuffer platform.behind)
      (s.readLoops r).receiveBuffer.length
  · rw [nextChunk_of_complete hComplete] at h
    cases h
    exact ⟨rfl, rfl, .inr ⟨_, _, rfl, hComplete.2⟩⟩
  · rw [nextChunk_of_not_complete hComplete] at h
    cases h
    exact ⟨rfl, rfl, .inl rfl⟩

theorem work_of_step (h : Step platform configuration thread frame choice s s' frames spawned)
    (hOwn : isOwn frame = true) (hCreating : creating frame = 0) (hFault : s'.fault = none)
    (hInspect : ∀ r, frame ≠ .inspect r) (hStore : s.messageStore.length ≤ s.messageID + 1) :
    load (work (s'.messageID + 1) s'.unread) ↑(frames ++ spawned.flatten) <
      work (s.messageID + 1) s.unread frame := by
  rw [messageID_of_step h hCreating]
  cases h
  case throws => cases hFault
  case inspected r | inspect r chunk => exact absurd rfl (hInspect r)
  case createRequestItem | insertAuthenticationRequests | noAuthentication | rejectRequest =>
    cases hCreating
  case bytesReceived r | consume r length =>
    simp [work, Shared.unread, Shared.updateReadLoop]
  all_goals first
    | exact absurd hOwn Bool.false_ne_true
    | (simp only [work, load_coe, List.nil_append, List.append_nil, List.cons_append, List.map_cons,
        List.map_nil, List.sum_cons, List.sum_nil, List.flatten_cons, List.flatten_nil,
        List.length_cons, List.length_nil]
       omega)

/-- How much the connection still has to do; new items are created first. -/
def toDo (s : Shared) (frames : Multiset Frame) : Nat × Nat :=
  (load creating frames,
    (if s.fault.isSome then 0 else 1) + load (work (s.messageID + 1) s.unread) frames)

/-- The store has at most one entry for every item. -/
structure StoreBounded (s : Shared) (frames : Multiset Frame) : Prop where
  items : ItemsKnown s frames
  ordered : s.messageStore.Pairwise (· < ·)

theorem StoreBounded.length_le {frames : Multiset Frame} (h : StoreBounded s frames) :
    s.messageStore.length ≤ s.messageID + 1 := by
  have hSubset : s.messageStore ⊆ List.range (s.messageID + 1) := fun id hid =>
    List.mem_range.mpr (Nat.lt_succ_of_le (h.items.issued id (h.items.stored id hid)))
  have hNodup : s.messageStore.Nodup := h.ordered.imp Nat.ne_of_lt
  simpa using (hNodup.subperm hSubset).length_le

theorem load_work_le {s s' : Shared} (hCount : s'.messageID = s.messageID)
    (hUnread : ∀ r, s'.unread r ≤ s.unread r) (frames : Multiset Frame) :
    load (work (s'.messageID + 1) s'.unread) frames ≤ load (work (s.messageID + 1) s.unread) frames :=
  load_le_load (fun frame => work_mono (Nat.le_of_eq (congrArg (· + 1) hCount)) hUnread frame) frames

theorem toDo_lower (hI : StoreBounded s (frame ::ₘ rest)) (hOwn : isOwn frame = true)
    (hFault : s.fault = none) (h : perform platform configuration thread frame choice s =
      some (s', frames, spawned)) :
    Prod.Lex (· < ·) (· < ·) (toDo s' (↑(frames ++ spawned.flatten) + rest))
      (toDo s (frame ::ₘ rest)) := by
  have hStep : Step platform configuration thread frame choice s s' frames spawned :=
    step_of_perform h
  simp only [toDo, load_add, load_cons]
  rcases fault_of_step hStep with ⟨fault, rfl, rfl, rfl⟩ | hSame
  · -- the process ends in this frame
    have hWork : load (work (s.messageID + 1) s.unread) ↑([frame] ++ ([] : List (List Frame)).flatten) =
        work (s.messageID + 1) s.unread frame := by simp
    rw [hFault, show load creating ↑([frame] ++ ([] : List (List Frame)).flatten) = creating frame by simp]
    refine .right _ ?_
    simp only [Option.isSome_some, Option.isSome_none, if_true, Bool.false_eq_true, if_false]
    change 0 + (load (work (s.messageID + 1) s.unread) _ + load (work (s.messageID + 1) s.unread) rest) < _
    rw [hWork]
    omega
  · rw [hFault] at hSame
    rw [creating_of_step hStep hOwn hSame, hSame, hFault]
    by_cases hCreating : creating frame = 0
    · rw [hCreating]
      refine .right _ ?_
      have hRest := load_work_le (messageID_of_step hStep hCreating) (unread_of_step hStep hOwn) rest
      have hDone : load (work (s'.messageID + 1) s'.unread) ↑(frames ++ spawned.flatten) <
          work (s.messageID + 1) s.unread frame := by
        by_cases hInspect : ∃ r, frame = .inspect r
        · obtain ⟨r, rfl⟩ := hInspect
          obtain ⟨rfl, rfl, rfl | ⟨chunk, length, rfl, hPos, hLe⟩⟩ := inspect_found h
          · simp [work]
            omega
          · simp [work]
            omega
        · push Not at hInspect
          exact work_of_step hStep hOwn hCreating hSame hInspect hI.length_le
      omega
    · exact .left _ _ (by omega)

end Steps

section Machine

variable (platform : Platform) (configuration : Configuration)

theorem storeBounded_preserved (G : Guard Shared Frame Choice Event) :
    Preserved (machine platform configuration) G StoreBounded where
  exec _ _ _ _ _ _ _ _ h _ hExec :=
    ⟨h.items.step (step_of_exec hExec), ordered_of_step (step_of_exec hExec) h.ordered⟩
  enter _ _ _ _ _ _ h hQuiet _ hEnter := by
    refine ⟨(itemsKnown_preserved platform configuration).enter _ _ _ _ _ _ h.items hQuiet trivial
      hEnter, ?_⟩
    rcases enter_cases hEnter with ⟨_, rfl, rfl⟩ | ⟨_, _, _, _, rfl, rfl⟩ <;> exact h.ordered

theorem storeBounded_initial : StoreBounded initial.shared initial.frames :=
  ⟨itemsKnown_initial, .nil⟩

theorem toDo_descends (G : Guard Shared Frame Choice Event) :
    Descends (machine platform configuration) G isOwn (Prod.Lex (· < ·) (· < ·)) StoreBounded toDo where
  preserved := storeBounded_preserved platform configuration G
  exec _ _ _ s _ _ _ _ hI hOwn _ hExec := by
    simp only [machine] at hExec
    split at hExec
    · cases hExec
    · rename_i hFault
      exact toDo_lower hI hOwn (Option.not_isSome_iff_eq_none.mp hFault) hExec

variable {platform configuration} {c : Config Shared Frame}

theorem acc_advance {G : Guard Shared Frame Choice Event}
    (h : Reaches (machine platform configuration) G initial c) :
    Acc (fun next before => Advance (machine platform configuration) G isOwn before next) c :=
  (toDo_descends platform configuration G).acc
    (WellFounded.prod_lex Nat.lt_wfRel.wf Nat.lt_wfRel.wf)
    (h.invariant (storeBounded_preserved platform configuration G) storeBounded_initial)

/-- **Termination.** Whatever state the connection has reached, it has no infinite run of
its own: without the network, timers and users it comes to an end. -/
theorem no_endless_run (h : Reaches (machine platform configuration) .all initial c)
    (run : Nat → Config Shared Frame) (hStart : run 0 = c) :
    ∃ n, ¬Advance (machine platform configuration) .all isOwn (run n) (run (n + 1)) :=
  no_infinite_run (acc_advance h) run hStart

/-- A response has arrived and is not yet parsed. -/
theorem no_endless_run_received :
    ∃ c, 0 < load (work (c.shared.messageID + 1) c.shared.unread) c.frames ∧
      ∀ run : Nat → Config Shared Frame, run 0 = c →
        ∃ n, ¬Advance (machine shortPlatform {}) .all isOwn (run n) (run (n + 1)) := by
  have hRun : ((machine shortPlatform {}).steps .all initial
      (establish ++ sendFirst ++ receive 6 (answer 1 200))).any
      (fun c => 0 < load (work (c.shared.messageID + 1) c.shared.unread) c.frames) = true := by
    decide +kernel
  obtain ⟨c, hReaches, hTest⟩ := exists_reaches_of_steps hRun
  exact ⟨c, of_decide_eq_true hTest, no_endless_run hReaches⟩

theorem isOwn_of_held
    (h : Reaches (machine platform configuration) (cancelsQuietly configuration) initial c)
    {holder : Nat} {mutex : Mutex} (hMutex : mutex ∈ c.shared.held holder) :
    ∃ frame stack, c.threads[holder]? = some (frame :: stack) ∧ isOwn frame = true := by
  have hDisciplined := disciplined_of_reaches_getD h holder
  rcases mutex_of_held hMutex with ⟨-, hHolder⟩ | ⟨-, hHolder⟩
  · obtain ⟨frame, stack, hThread, hSilenced⟩ :=
      exists_thread_of_getD (hDisciplined.cancelling hHolder) not_false
    refine ⟨frame, stack, hThread, ?_⟩
    cases frame <;> first | exact hSilenced.elim | rfl
  · obtain ⟨frame, stack, hThread, hSending⟩ :=
      exists_thread_of_getD (hDisciplined.writing hHolder) not_false
    refine ⟨frame, stack, hThread, ?_⟩
    cases frame <;> first | exact hSending.elim | rfl

/-- Every thread waits for the network or for a timer, or is in user code, and both
mutexes are free. -/
structure AtRest (c : Config Shared Frame) : Prop where
  idle : ∀ (thread : Nat) (frame : Frame) (stack : List Frame),
    c.threads[thread]? = some (frame :: stack) → isIdle frame = true
  messageStore : c.shared.messageStoreMutex = none
  writeLoop : c.shared.writeLoopMutex = none

/-- A thread is about to cancel a stored request with the store locked. -/
def CancelsRequests (configuration : Configuration) (c : Config Shared Frame) : Prop :=
  ∃ (thread : Nat) (frame : Frame) (stack : List Frame),
    c.threads[thread]? = some (frame :: stack) ∧ isCancelAll frame = true ∧
    c.shared.messageStore.all (isQuiet configuration c.shared) = false

theorem isIdle_of_settled
    (h : Reaches (machine platform configuration) (cancelsQuietly configuration) initial c)
    (hFault : c.shared.fault = none) (hCancels : ¬CancelsRequests configuration c)
    (hSettled : ∀ next, ¬Advance (machine platform configuration) (cancelsQuietly configuration)
      isOwn c next) {thread : Nat} {frame : Frame} {stack : List Frame}
    (hThread : c.threads[thread]? = some (frame :: stack)) : isIdle frame = true := by
  by_contra hIdle
  have hStart : ∃ frame stack, c.threads[thread]? = some (frame :: stack) ∧ isOwn frame = true :=
    ⟨frame, stack, hThread, by simpa [isOwn] using hIdle⟩
  obtain ⟨other, ⟨choice, next, hStep⟩, own, below, hOther, hOwn⟩ :=
    (getsOn_of_reaches h hFault hThread).exists_ready hStart
      fun _ _ ⟨_, _, _, _, _, hHeld⟩ => isOwn_of_held h hHeld
  refine hSettled next ⟨other, choice, own, below, hOther, hOwn, ?_, hStep⟩
  intro top stack hTop hCancelAll
  by_contra hLoud
  exact hCancels ⟨other, top, stack, hTop, hCancelAll, Bool.eq_false_iff.mpr hLoud⟩

/-- Who holds a mutex is not at rest. -/
theorem held_eq_nil_of_idle
    (h : Reaches (machine platform configuration) (cancelsQuietly configuration) initial c)
    (hIdle : ∀ (thread : Nat) (frame : Frame) (stack : List Frame),
      c.threads[thread]? = some (frame :: stack) → isIdle frame = true) (holder : Nat) :
    c.shared.held holder = [] := by
  refine List.eq_nil_iff_forall_not_mem.mpr fun mutex hMutex => ?_
  obtain ⟨frame, stack, hThread, hOwn⟩ := isOwn_of_held h hMutex
  rw [isOwn, hIdle holder frame stack hThread] at hOwn
  cases hOwn

theorem mutexes_free {s : Shared} (h : ∀ holder, s.held holder = []) :
    s.messageStoreMutex = none ∧ s.writeLoopMutex = none := by
  constructor
  · refine Option.eq_none_iff_forall_not_mem.mpr fun holder hHolder => ?_
    have hHeld := h holder
    simp [Shared.held, Option.mem_def.mp hHolder] at hHeld
  · refine Option.eq_none_iff_forall_not_mem.mpr fun holder hHolder => ?_
    have hHeld := h holder
    simp [Shared.held, Option.mem_def.mp hHolder] at hHeld

theorem atRest_of_settled
    (h : Reaches (machine platform configuration) (cancelsQuietly configuration) initial c)
    (hFault : c.shared.fault = none) (hCancels : ¬CancelsRequests configuration c)
    (hSettled : ∀ next, ¬Advance (machine platform configuration) (cancelsQuietly configuration)
      isOwn c next) : AtRest c := by
  have hIdle : ∀ (thread : Nat) (frame : Frame) (stack : List Frame),
      c.threads[thread]? = some (frame :: stack) → isIdle frame = true :=
    fun _ _ _ => isIdle_of_settled h hFault hCancels hSettled
  obtain ⟨hStore, hWriting⟩ := mutexes_free (held_eq_nil_of_idle h hIdle)
  exact ⟨hIdle, hStore, hWriting⟩

/-- **Coming to rest.** Left to itself, the connection comes to rest, unless the process
ends or it is about to cancel requests of users with the store locked. -/
theorem comes_to_rest
    (h : Reaches (machine platform configuration) (cancelsQuietly configuration) initial c) :
    ∃ settled, Relation.ReflTransGen (Advance (machine platform configuration)
        (cancelsQuietly configuration) isOwn) c settled ∧
      (settled.shared.fault ≠ none ∨ CancelsRequests configuration settled ∨ AtRest settled) := by
  obtain ⟨settled, hRun, hSettled⟩ := exists_settled (acc_advance h)
  refine ⟨settled, hRun, ?_⟩
  by_cases hFault : settled.shared.fault = none
  · by_cases hCancels : CancelsRequests configuration settled
    · exact .inr (.inl hCancels)
    · exact .inr (.inr (atRest_of_settled (reaches_of_advances h hRun) hFault hCancels hSettled))
  · exact .inl hFault

/-- A write has failed, and the connection is about to restart. -/
theorem comes_to_rest_restarting :
    ∃ c, 0 < load (work (c.shared.messageID + 1) c.shared.unread) c.frames ∧
      ∃ settled, Relation.ReflTransGen (Advance (machine shortPlatform { onFailure := true })
          (cancelsQuietly { onFailure := true }) isOwn) c settled ∧
        (settled.shared.fault ≠ none ∨ CancelsRequests { onFailure := true } settled ∨
          AtRest settled) := by
  have hRun : ((machine shortPlatform { onFailure := true }).steps
      (cancelsQuietly { onFailure := true }) initial
      (establish ++ sendFirst ++ receive 6 (answer 1 200) ++ proceed 6 8 ++ fail 8)).any
      (fun c => 0 < load (work (c.shared.messageID + 1) c.shared.unread) c.frames) = true := by
    decide +kernel
  obtain ⟨c, hReaches, hTest⟩ := exists_reaches_of_steps hRun
  exact ⟨c, of_decide_eq_true hTest, comes_to_rest hReaches⟩

end Machine

end Fuerte.Vst.Connection

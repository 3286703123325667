import Fuerte.Vst.Connection.Rules

/-! # Read and write loops

A loop is a chain of frames: whatever it does next, and the operation it waits
for, is one frame of the pool. Who takes a request from the queue holds the
write-loop mutex meanwhile.
-/

namespace Fuerte.Vst.Connection

set_option autoImplicit false

open Interleaving

/-- The frames of write loop `w` from its start to its end. The restart after a
failed write still belongs to the loop, the one after a timeout does not. -/
def writeChain (w : LoopID) : Frame → Nat
  | .writeLoopStart v | .sendNextRequest v | .queueFront v | .stopLoop v | .addToStore v _
  | .removeFromQueue v _ | .listen v _ | .setWriteDeadline v _ | .asyncWrite v _ | .awaitWrite v _
  | .requestWritten v _ | .writeFailed v _ | .removeFailed v _
  | .restartWriting v .vstWriteError _ => if v = w then 1 else 0
  | _ => 0

/-- The frames of read loop `r` from its start to its end. -/
def readChain (r : LoopID) : Frame → Nat
  | .readLoopStart v | .readNextBytes v | .setReadDeadline v | .asyncRead v | .awaitRead v
  | .bytesReceived v | .readFailed v | .inspect v | .consume v _
  | .restartReading v .vstReadError _ => if v = r then 1 else 0
  | _ => 0

/-- The frames that tear the connection down or set it up, from the entry of
`restartConnection` or `start` to the assignment of `_connected` or the failure. -/
def attempt : Frame → Nat
  | .startResolveHost | .awaitResolve | .initSocket | .awaitConnect _ | .startSSLHandshake
  | .awaitHandshake _ | .handshakeFailed | .finishInitialization | .awaitHeader _
  | .initializationFailed | .insertAuthenticationRequests | .insertIntoQueue _ | .setConnected
  | .restartConnection _ | .stopWriting _ _ | .stopReading _ _ | .shutdownSocket _ _
  | .cancelAll _ _ | .cancelItems _ _ _ | .reconnect => 1
  | _ => 0

def inSection : Frame → Nat
  | .queueFront _ | .stopLoop _ | .addToStore _ _ | .removeFromQueue _ _ => 1
  | _ => 0

def inSectionOf (w : LoopID) : Frame → Nat
  | .queueFront v | .stopLoop v | .addToStore v _ | .removeFromQueue v _ => if v = w then 1 else 0
  | _ => 0

theorem inSectionOf_le (w : LoopID) (frame : Frame) : inSectionOf w frame ≤ inSection frame := by
  cases frame <;> simp only [inSectionOf, inSection, Nat.le_refl] <;> split <;> omega

/-- No write loop has two frames, and the thread inside `getNextRequestToSend`
runs the current loop. -/
structure WriteChains (s : Shared) (frames : Multiset Frame) : Prop where
  fresh : ∀ w, s.writeLoopCount ≤ w → load (writeChain w) frames = 0
  once : ∀ w, load (writeChain w) frames ≤ 1
  current : ∀ w, s.writeLoop = some w → w < s.writeLoopCount
  mutex : load inSection frames = if s.writeLoopMutex.isSome then 1 else 0
  sectionCurrent : ∀ w, 0 < load (inSectionOf w) frames → s.writeLoop = some w

/-- No read loop has two frames. -/
structure ReadChains (s : Shared) (frames : Multiset Frame) : Prop where
  fresh : ∀ r, s.readLoopCount ≤ r → load (readChain r) frames = 0
  once : ∀ r, load (readChain r) frames ≤ 1
  current : ∀ r, s.readLoop = some r → r < s.readLoopCount

section Chains

variable {platform : Platform} {configuration : Configuration} {thread : Nat} {frame : Frame}
  {choice : Choice} {s s' : Shared} {rest before after : Multiset Frame} {frames : List Frame}
  {spawned : List (List Frame)}

theorem WriteChains.of_same (h : WriteChains s before) (hLoop : s'.writeLoop = s.writeLoop)
    (hCount : s'.writeLoopCount = s.writeLoopCount) (hMutex : s'.writeLoopMutex = s.writeLoopMutex)
    (hChain : ∀ w, load (writeChain w) after = load (writeChain w) before)
    (hSection : load inSection after = load inSection before)
    (hSectionOf : ∀ w, load (inSectionOf w) after = load (inSectionOf w) before) :
    WriteChains s' after := by
  constructor <;> simp only [hLoop, hCount, hMutex, hChain, hSection, hSectionOf]
  · exact h.fresh
  · exact h.once
  · exact h.current
  · exact h.mutex
  · exact h.sectionCurrent

/-- Chains end, the current loop may go, and who holds the mutex runs it. -/
theorem WriteChains.of_le (h : WriteChains s before)
    (hLoop : ∀ w, s'.writeLoop = some w → s.writeLoop = some w)
    (hCount : s'.writeLoopCount = s.writeLoopCount)
    (hChain : ∀ w, load (writeChain w) after ≤ load (writeChain w) before)
    (hMutex : load inSection after = if s'.writeLoopMutex.isSome then 1 else 0)
    (hSection : ∀ w, 0 < load (inSectionOf w) after → s'.writeLoop = some w) :
    WriteChains s' after := by
  refine ⟨fun w hw => ?_, fun w => (hChain w).trans (h.once w), fun w hw => ?_, hMutex, hSection⟩
  · rw [hCount] at hw
    exact Nat.le_zero.mp ((hChain w).trans_eq (h.fresh w hw))
  · rw [hCount]
    exact h.current w (hLoop w hw)

theorem inSectionOf_eq_zero (h : load inSection after = 0) (w : LoopID) :
    load (inSectionOf w) after = 0 :=
  Nat.le_zero.mp (h ▸ load_le_load (inSectionOf_le w) after)

theorem WriteChains.of_unlocked (h : WriteChains s before)
    (hLoop : ∀ w, s'.writeLoop = some w → s.writeLoop = some w)
    (hCount : s'.writeLoopCount = s.writeLoopCount)
    (hChain : ∀ w, load (writeChain w) after ≤ load (writeChain w) before)
    (hMutex : s'.writeLoopMutex = none) (hSection : load inSection after = 0) :
    WriteChains s' after := by
  refine h.of_le hLoop hCount hChain ?_ fun w hw => ?_
  · rw [hMutex, hSection]
    rfl
  · exact absurd (inSectionOf_eq_zero hSection w) (Nat.ne_of_gt hw)

/-- The new loop has a number that no frame carries yet. -/
theorem WriteChains.of_created (h : WriteChains s rest)
    (hLoop : s'.writeLoop = some s.writeLoopCount)
    (hCount : s'.writeLoopCount = s.writeLoopCount + 1) (hMutex : s'.writeLoopMutex = none)
    (hSection : load inSection rest = 0) :
    WriteChains s' (.writeLoopStart s.writeLoopCount ::ₘ rest) where
  fresh w hw := by
    rw [hCount] at hw
    rw [load_cons, h.fresh w (Nat.le_of_succ_le hw), writeChain, if_neg (Nat.ne_of_lt hw)]
  once w := by
    rw [load_cons, writeChain]
    split
    · rename_i hEq
      rw [h.fresh w (Nat.le_of_eq hEq)]
    · rw [Nat.zero_add]
      exact h.once w
  current w hw := by
    obtain rfl := Option.some.inj (hLoop.symm.trans hw)
    rw [hCount]
    exact Nat.lt_succ_self _
  mutex := by
    rw [load_cons, hSection, hMutex]
    rfl
  sectionCurrent w hw := by
    rw [load_cons, inSectionOf_eq_zero hSection] at hw
    exact absurd hw (Nat.lt_irrefl 0)

theorem WriteChains.forget (h : WriteChains s (frame ::ₘ rest)) (hSection : inSection frame = 0) :
    WriteChains s rest := by
  have hSectionOf := fun w => Nat.le_zero.mp (hSection ▸ inSectionOf_le w frame)
  refine h.of_le (fun _ hw => hw) rfl (fun w => ?_) ?_ fun w hw => h.sectionCurrent w ?_
  · rw [load_cons]
    exact Nat.le_add_left _ _
  · rw [← h.mutex, load_cons, hSection, Nat.zero_add]
  · rwa [load_cons, hSectionOf, Nat.zero_add]

theorem WriteChains.step (hI : WriteChains s (frame ::ₘ rest))
    (h : Step platform configuration thread frame choice s s' frames spawned) :
    WriteChains s' (↑(frames ++ spawned.flatten) + rest) := by
  have hMutex := hI.mutex
  rw [load_cons] at hMutex
  cases h
  -- most steps touch neither a write loop nor the mutex
  all_goals try (
    refine hI.of_same rfl rfl rfl (fun w => ?_) ?_ (fun w => ?_) <;>
      simp [writeChain, inSection, inSectionOf]
    done)
  all_goals simp only [inSection, Nat.zero_add] at hMutex
  case startWriting hFree _ =>
    rw [hFree] at hMutex
    rw [coe_singleton_add]
    exact (hI.forget rfl).of_created rfl rfl hFree hMutex
  -- the current loop only changes while nobody is inside its section
  case stopWriting hFree | restartReading hFree _ | restartWriting hFree _ =>
    rw [hFree] at hMutex
    refine hI.of_unlocked (by simp) rfl (fun w => ?_) hFree (by simpa [inSection] using hMutex)
    simp [writeChain]
  case sendNextRequest w hFree hCurrent _ =>
    rw [hFree] at hMutex
    have hNone := inSectionOf_eq_zero hMutex
    refine hI.of_le (fun _ hv => hv) rfl (fun v => ?_) (by simpa [inSection] using hMutex) fun v hv => ?_
    · simp [writeChain]
    · obtain rfl : w = v := by
        by_contra hNe
        simp [inSectionOf, hNe, hNone] at hv
      exact hCurrent
  -- the section is left
  case stopLoop | removeFromQueue =>
    have hNone : load inSection rest = 0 := by
      split at hMutex <;> omega
    refine hI.of_unlocked (by simp) rfl (fun w => ?_) rfl (by simpa [inSection] using hNone)
    simp [writeChain]
  case writeLoopStarted | writeLoopEnds | ignoreWriteFailure => simpa using hI.forget rfl

theorem ReadChains.of_le (h : ReadChains s before)
    (hLoop : ∀ r, s'.readLoop = some r → s.readLoop = some r)
    (hCount : s'.readLoopCount = s.readLoopCount)
    (hChain : ∀ r, load (readChain r) after ≤ load (readChain r) before) : ReadChains s' after := by
  refine ⟨fun r hr => ?_, fun r => (hChain r).trans (h.once r), fun r hr => ?_⟩
  · rw [hCount] at hr
    exact Nat.le_zero.mp ((hChain r).trans_eq (h.fresh r hr))
  · rw [hCount]
    exact h.current r (hLoop r hr)

theorem ReadChains.of_same (h : ReadChains s before) (hLoop : s'.readLoop = s.readLoop)
    (hCount : s'.readLoopCount = s.readLoopCount)
    (hChain : ∀ r, load (readChain r) after = load (readChain r) before) : ReadChains s' after :=
  h.of_le (fun _ hr => hLoop ▸ hr) hCount fun r => (hChain r).le

theorem ReadChains.of_created (h : ReadChains s rest) (hLoop : s'.readLoop = some s.readLoopCount)
    (hCount : s'.readLoopCount = s.readLoopCount + 1) :
    ReadChains s' (.readLoopStart s.readLoopCount ::ₘ rest) where
  fresh r hr := by
    rw [hCount] at hr
    rw [load_cons, h.fresh r (Nat.le_of_succ_le hr), readChain, if_neg (Nat.ne_of_lt hr)]
  once r := by
    rw [load_cons, readChain]
    split
    · rename_i hEq
      rw [h.fresh r (Nat.le_of_eq hEq)]
    · rw [Nat.zero_add]
      exact h.once r
  current r hr := by
    obtain rfl := Option.some.inj (hLoop.symm.trans hr)
    rw [hCount]
    exact Nat.lt_succ_self _

theorem ReadChains.step (hI : ReadChains s (frame ::ₘ rest))
    (h : Step platform configuration thread frame choice s s' frames spawned) :
    ReadChains s' (↑(frames ++ spawned.flatten) + rest) := by
  have hRest : ReadChains s rest := hI.of_le (fun _ hr => hr) rfl fun r => by
    rw [load_cons]
    exact Nat.le_add_left _ _
  cases h
  all_goals try (
    refine hI.of_same rfl rfl (fun r => ?_) <;> simp [readChain]; done)
  case startReading =>
    rw [coe_singleton_add]
    exact hRest.of_created rfl rfl
  case listen w id hNone =>
    refine (hRest.of_created rfl rfl).of_same rfl rfl fun r => ?_
    simp [readChain]
  case stopReading | restartReading | restartWriting | nothingToRead =>
    refine hRest.of_le (by simp) rfl fun r => ?_
    simp [readChain]
  case readLoopStarted | readLoopEnds | ignoreReadFailure => simpa using hRest

end Chains

/-! ## Starting a loop -/

def startingWrite (w : LoopID) : Frame → Nat
  | .writeLoopStart v => if v = w then 1 else 0
  | _ => 0

def startingRead (r : LoopID) : Frame → Nat
  | .readLoopStart v => if v = r then 1 else 0
  | _ => 0

theorem startingWrite_le (w : LoopID) (frame : Frame) :
    startingWrite w frame ≤ writeChain w frame := by
  cases frame <;> simp [startingWrite, writeChain]

theorem startingRead_le (r : LoopID) (frame : Frame) :
    startingRead r frame ≤ readChain r frame := by
  cases frame <;> simp [startingRead, readChain]

/-- The frame that starts a loop finds it not started. -/
structure NotStarted (s : Shared) (frames : Multiset Frame) : Prop where
  write : ∀ w, 0 < load (startingWrite w) frames → (s.writeLoops w).started = false
  read : ∀ r, 0 < load (startingRead r) frames → (s.readLoops r).started = false

section NotStarted

variable {platform : Platform} {configuration : Configuration} {thread : Nat} {frame : Frame}
  {choice : Choice} {s s' : Shared} {rest before after : Multiset Frame} {frames : List Frame}
  {spawned : List (List Frame)}

theorem NotStarted.of_same (h : NotStarted s before)
    (hWriteLoops : ∀ w, (s'.writeLoops w).started = (s.writeLoops w).started)
    (hReadLoops : ∀ r, (s'.readLoops r).started = (s.readLoops r).started)
    (hWrite : ∀ w, load (startingWrite w) after ≤ load (startingWrite w) before)
    (hRead : ∀ r, load (startingRead r) after ≤ load (startingRead r) before) :
    NotStarted s' after := by
  constructor
  · intro w hw
    rw [hWriteLoops]
    exact h.write w (hw.trans_le (hWrite w))
  · intro r hr
    rw [hReadLoops]
    exact h.read r (hr.trans_le (hRead r))

theorem started_updateWriteLoop (s : Shared) (w v : LoopID) (change : WriteLoop → WriteLoop)
    (h : (change (s.writeLoops w)).started = (s.writeLoops w).started) :
    ((s.updateWriteLoop w change).writeLoops v).started = (s.writeLoops v).started := by
  simp only [Shared.updateWriteLoop, Function.update_apply]
  split
  · rename_i hv
    rw [h, hv]
  · rfl

theorem started_updateReadLoop (s : Shared) (r v : LoopID) (change : ReadLoop → ReadLoop)
    (h : (change (s.readLoops r)).started = (s.readLoops r).started) :
    ((s.updateReadLoop r change).readLoops v).started = (s.readLoops v).started := by
  simp only [Shared.updateReadLoop, Function.update_apply]
  split
  · rename_i hv
    rw [h, hv]
  · rfl

theorem NotStarted.of_writeLoop (h : NotStarted s before) {w : LoopID} {loop : WriteLoop}
    (hWriteLoops : s'.writeLoops = Function.update s.writeLoops w loop)
    (hReadLoops : s'.readLoops = s.readLoops)
    (hNew : 0 < load (startingWrite w) after → loop.started = false)
    (hWrite : ∀ v, w ≠ v → load (startingWrite v) after ≤ load (startingWrite v) before)
    (hRead : ∀ r, load (startingRead r) after ≤ load (startingRead r) before) :
    NotStarted s' after := by
  constructor
  · intro v hv
    rw [hWriteLoops]
    by_cases hEq : w = v
    · subst hEq
      rw [Function.update_self]
      exact hNew hv
    · rw [Function.update_of_ne (Ne.symm hEq)]
      exact h.write v (hv.trans_le (hWrite v hEq))
  · intro r hr
    rw [hReadLoops]
    exact h.read r (hr.trans_le (hRead r))

theorem NotStarted.of_readLoop (h : NotStarted s before) {r : LoopID} {loop : ReadLoop}
    (hReadLoops : s'.readLoops = Function.update s.readLoops r loop)
    (hWriteLoops : s'.writeLoops = s.writeLoops)
    (hNew : 0 < load (startingRead r) after → loop.started = false)
    (hRead : ∀ v, r ≠ v → load (startingRead v) after ≤ load (startingRead v) before)
    (hWrite : ∀ w, load (startingWrite w) after ≤ load (startingWrite w) before) :
    NotStarted s' after := by
  constructor
  · intro w hw
    rw [hWriteLoops]
    exact h.write w (hw.trans_le (hWrite w))
  · intro v hv
    rw [hReadLoops]
    by_cases hEq : r = v
    · subst hEq
      rw [Function.update_self]
      exact hNew hv
    · rw [Function.update_of_ne (Ne.symm hEq)]
      exact h.read v (hv.trans_le (hRead v hEq))

theorem NotStarted.step (hI : NotStarted s (frame ::ₘ rest)) (hWrite : WriteChains s (frame ::ₘ rest))
    (hRead : ReadChains s (frame ::ₘ rest))
    (h : Step platform configuration thread frame choice s s' frames spawned) :
    NotStarted s' (↑(frames ++ spawned.flatten) + rest) := by
  cases h
  all_goals try (
    refine hI.of_same (fun w => ?_) (fun r => ?_) (fun w => ?_) (fun r => ?_) <;>
      first
        | rfl
        | exact started_updateWriteLoop _ _ _ _ rfl
        | exact started_updateReadLoop _ _ _ _ rfl
        | simp [startingWrite, startingRead]
    done)
  case startWriting =>
    refine hI.of_writeLoop rfl rfl (fun _ => rfl) (fun w hw => ?_) fun r => ?_
    · simp [startingWrite, hw]
    · simp [startingRead]
  case startReading | listen =>
    refine hI.of_readLoop rfl rfl (fun _ => rfl) (fun r hr => ?_) fun w => ?_
    · simp [startingRead, hr]
    · simp [startingWrite]
  -- no other frame starts the same loop
  case writeLoopStart w hStarted =>
    have hOnce := hWrite.once w
    have hLe := load_le_load (startingWrite_le w) rest
    refine hI.of_writeLoop rfl rfl (fun hPos => ?_) (fun v hv => ?_) fun r => ?_
    · simp only [load_cons, writeChain, if_true] at hOnce
      simp [startingWrite] at hPos
      omega
    · simp [startingWrite, hv]
    · simp [startingRead]
  case readLoopStart r hStarted =>
    have hOnce := hRead.once r
    have hLe := load_le_load (startingRead_le r) rest
    refine hI.of_readLoop rfl rfl (fun hPos => ?_) (fun v hv => ?_) fun w => ?_
    · simp only [load_cons, readChain, if_true] at hOnce
      simp [startingRead] at hPos
      omega
    · simp [startingRead, hv]
    · simp [startingWrite]
  -- arming a deadline does not start a loop
  case setReadDeadline r =>
    refine hI.of_same (fun _ => rfl) (fun v => started_updateReadLoop s r v
      (fun loop => { loop with deadline := some s.timerCount, owned := true }) rfl) (fun w => ?_) fun v => ?_
    · simp [startingWrite]
    · simp [startingRead]
  case setWriteDeadline w _ =>
    refine hI.of_same (fun v => started_updateWriteLoop s w v
      (fun loop => { loop with deadline := some s.timerCount, owned := true }) rfl) (fun _ => rfl) (fun v => ?_)
      fun r => ?_
    · simp [startingWrite]
    · simp [startingRead]
  case requestWritten w _ =>
    refine hI.of_same (fun v => started_updateWriteLoop s w v
      (fun loop => { loop with deadline := none }) rfl) (fun _ => rfl) (fun v => ?_) fun r => ?_
    · simp [startingWrite]
    · simp [startingRead]

end NotStarted

section Machine

variable (platform : Platform) (configuration : Configuration)

theorem step_of_exec {platform : Platform} {configuration : Configuration} {thread : Nat}
    {frame : Frame} {choice : Choice} {s s' : Shared} {frames : List Frame}
    {spawned : List (List Frame)}
    (h : (machine platform configuration).exec thread frame choice s = some (s', frames, spawned)) :
    Step platform configuration thread frame choice s s' frames spawned := by
  simp only [machine] at h
  split at h
  · cases h
  · exact step_of_perform h

theorem perform_of_exec {platform : Platform} {configuration : Configuration} {thread : Nat}
    {frame : Frame} {choice : Choice} {s s' : Shared} {frames : List Frame}
    {spawned : List (List Frame)}
    (h : (machine platform configuration).exec thread frame choice s = some (s', frames, spawned)) :
    perform platform configuration thread frame choice s = some (s', frames, spawned) := by
  simp only [machine] at h
  split at h
  · cases h
  · exact h

theorem enter_cases {platform : Platform} {configuration : Configuration} {event : Event}
    {quiet : Bool} {s s' : Shared} {frames : List Frame}
    (h : (machine platform configuration).enter event quiet s = some (s', frames)) :
    (event = .thread ∧ s' = s ∧ frames = [.userCode]) ∨
      (event = .destroy ∧ quiet = true ∧ s.readLoop = none ∧ s.writeLoop = none ∧
        s' = { s with destroyed := true } ∧
        frames = [.stopWriting .canceledDuringReset .destroyed]) := by
  simp only [machine, enter] at h
  split at h
  · cases h
  · split at h
    · split at h
      · cases h
      · cases h
        exact .inl ⟨rfl, rfl, rfl⟩
    · split at h
      · rename_i hDestroy
        cases h
        simp only [Bool.and_eq_true, Option.isNone_iff_eq_none] at hDestroy
        exact .inr ⟨rfl, hDestroy.1.1.1, hDestroy.1.1.2, hDestroy.1.2, rfl, rfl⟩
      · cases h

theorem writeChains_initial : WriteChains initial.shared initial.frames := by
  constructor <;> simp [initial, Config.frames, writeChain, inSection, inSectionOf]

theorem readChains_initial : ReadChains initial.shared initial.frames := by
  constructor <;> simp [initial, Config.frames, readChain]

theorem notStarted_initial : NotStarted initial.shared initial.frames := by
  constructor <;> simp [initial, Config.frames, startingWrite, startingRead]

/-- What holds of the loops in every run. -/
structure LoopInvariant (s : Shared) (frames : Multiset Frame) : Prop where
  write : WriteChains s frames
  read : ReadChains s frames
  starts : NotStarted s frames

theorem loopInvariant_preserved :
    Preserved (machine platform configuration) .all LoopInvariant where
  exec _ _ _ _ _ _ _ _ h _ hStep :=
    ⟨h.write.step (step_of_exec hStep), h.read.step (step_of_exec hStep),
      h.starts.step h.write h.read (step_of_exec hStep)⟩
  enter _ _ _ _ _ _ h _ _ hEnter := by
    obtain ⟨hWrite, hRead, hStarts⟩ := h
    rcases enter_cases hEnter with ⟨_, rfl, rfl⟩ | ⟨_, _, _, _, rfl, rfl⟩ <;>
      refine ⟨hWrite.of_same rfl rfl rfl (fun w => ?_) ?_ (fun w => ?_),
        hRead.of_same rfl rfl (fun r => ?_),
        hStarts.of_same (fun _ => rfl) (fun _ => rfl) (fun w => ?_) (fun r => ?_)⟩ <;>
      simp [writeChain, readChain, inSection, inSectionOf, startingWrite, startingRead]

theorem loopInvariant_initial : LoopInvariant initial.shared initial.frames :=
  ⟨writeChains_initial, readChains_initial, notStarted_initial⟩

end Machine

end Fuerte.Vst.Connection

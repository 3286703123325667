import Fuerte.Vst.Connection.Loops

/-! # Deadlines of reads and writes

A deadline that has expired restarts the connection as soon as its handler runs.
Cancelling the timer does not recall that handler: the read or write may have
completed before it runs, or before the deadline has expired.
-/

namespace Fuerte.Vst.Connection

set_option autoImplicit false

open Interleaving

/-- The read of loop `r` is being started or outstanding. -/
def reading (r : LoopID) : Frame → Nat
  | .asyncRead v | .awaitRead v => if v = r then 1 else 0
  | _ => 0

def writing (w : LoopID) : Frame → Nat
  | .asyncWrite v _ | .awaitWrite v _ => if v = w then 1 else 0
  | _ => 0

/-- The read of loop `r` has completed, and its deadline is still to be cancelled. -/
def readDone (r : LoopID) : Frame → Nat
  | .bytesReceived v | .readFailed v => if v = r then 1 else 0
  | _ => 0

def writeDone (w : LoopID) : Frame → Nat
  | .requestWritten v _ | .writeFailed v _ => if v = w then 1 else 0
  | _ => 0

def readTimeout (r : LoopID) : Frame → Nat
  | .restartReading v .timeout _ => if v = r then 1 else 0
  | _ => 0

def writeTimeout (w : LoopID) : Frame → Nat
  | .restartWriting v .timeout _ => if v = w then 1 else 0
  | _ => 0

def readCompletes : Frame → Option LoopID
  | .awaitRead r => some r
  | _ => none

def writeCompletes : Frame → Option LoopID
  | .awaitWrite w _ => some w
  | _ => none

def readExpires : Frame → Choice → Option LoopID
  | .awaitReadDeadline r _, .expired => some r
  | _, _ => none

def writeExpires : Frame → Choice → Option LoopID
  | .awaitWriteDeadline w _, .expired => some w
  | _, _ => none

/-- No operation of a current loop completes between the expiry of its deadline and
the handler, and no deadline expires between the completion and its cancelling. -/
def deadlinesApart : Guard Shared Frame Choice Event where
  run _ frame choice s frames :=
    (∀ r ∈ readCompletes frame, s.readLoop = some r → load (readTimeout r) frames = 0) ∧
    (∀ r ∈ readExpires frame choice, s.readLoop = some r → load (readDone r) frames = 0) ∧
    (∀ w ∈ writeCompletes frame, s.writeLoop = some w → load (writeTimeout w) frames = 0) ∧
    ∀ w ∈ writeExpires frame choice, s.writeLoop = some w → load (writeDone w) frames = 0
  enter _ _ _ := True

instance (thread : Nat) (frame : Frame) (choice : Choice) (s : Shared) (frames : Multiset Frame) :
    Decidable (deadlinesApart.run thread frame choice s frames) :=
  inferInstanceAs (Decidable (_ ∧ _ ∧ _ ∧ _))

instance (event : Event) (s : Shared) (frames : Multiset Frame) :
    Decidable (deadlinesApart.enter event s frames) :=
  inferInstanceAs (Decidable True)

/-- A loop that is about to restart the connection for a timeout, and is still
current, has the operation outstanding for which the deadline was armed. -/
structure NoSpuriousTimeout (s : Shared) (frames : Multiset Frame) : Prop where
  read : ∀ r deadline, .restartReading r .timeout deadline ∈ frames → s.readLoop = some r →
    deadline ≠ none ∧ (s.readLoops r).deadline = deadline ∧
      (.asyncRead r ∈ frames ∨ .awaitRead r ∈ frames)
  write : ∀ w deadline, .restartWriting w .timeout deadline ∈ frames → s.writeLoop = some w →
    deadline ≠ none ∧ (s.writeLoops w).deadline = deadline ∧
      ∃ id, .asyncWrite w id ∈ frames ∨ .awaitWrite w id ∈ frames

/-! ## Loops with a deadline -/

/-- What the loops of one direction keep, in terms of what is pending for each loop:
operations, completed operations whose deadline is not cancelled yet, frames that
may still act on a deadline, and handlers of expired ones. -/
structure Deadlines (deadline : LoopID → Option TimerID) (count : Nat) (current : Option LoopID)
    (outstanding done timed : LoopID → Nat) (handler : LoopID → Option TimerID → Prop) : Prop where
  armed : ∀ v, deadline v ≠ none → 0 < outstanding v + done v
  fresh : ∀ v, count ≤ v → timed v = 0
  expired : ∀ v timer, handler v timer → current = some v →
    timer ≠ none ∧ deadline v = timer ∧ 0 < outstanding v

section Deadlines

variable {deadline deadline' : LoopID → Option TimerID} {count count' : Nat} {current current' : Option LoopID}
  {outstanding outstanding' done done' timed timed' : LoopID → Nat}
  {handler handler' : LoopID → Option TimerID → Prop}

theorem Deadlines.of_same (h : Deadlines deadline count current outstanding done timed handler)
    (hCurrent : ∀ v, current' = some v → current = some v) (hCount : count' = count)
    (hArmed : ∀ v, deadline' v = deadline v) (hOutstanding : ∀ v, outstanding' v = outstanding v)
    (hDone : ∀ v, done' v = done v) (hTimed : ∀ v, timed' v ≤ timed v)
    (hExpired : ∀ v timer, handler' v timer → handler v timer) :
    Deadlines deadline' count' current' outstanding' done' timed' handler' := by
  constructor
  · intro v hv
    rw [hOutstanding, hDone]
    exact h.armed v (hArmed v ▸ hv)
  · intro v hv
    exact Nat.le_zero.mp (h.fresh v (hCount ▸ hv) ▸ hTimed v)
  · intro v timer hTimer hv
    rw [hArmed, hOutstanding]
    exact h.expired v timer (hExpired v timer hTimer) (hCurrent v hv)

theorem Deadlines.of_newLoop (h : Deadlines deadline count current outstanding done timed handler)
    (hCurrent : current' = some count) (hCount : count' = count + 1) (hNew : deadline' count = none)
    (hArmed : ∀ v, v ≠ count → deadline' v = deadline v)
    (hOutstanding : ∀ v, outstanding' v = outstanding v) (hDone : ∀ v, done' v = done v)
    (hTimed : ∀ v, timed' v = timed v) (hExpired : ∀ v timer, handler' v timer → 0 < timed' v) :
    Deadlines deadline' count' current' outstanding' done' timed' handler' := by
  constructor
  · intro v hv
    rw [hOutstanding, hDone]
    by_cases hEq : v = count
    · exact absurd (hEq ▸ hNew) hv
    · exact h.armed v (hArmed v hEq ▸ hv)
  · intro v hv
    rw [hTimed]
    exact h.fresh v (by omega)
  · intro v timer hTimer hv
    obtain rfl : count = v := Option.some.inj (hCurrent.symm.trans hv)
    have hPos := hExpired count timer hTimer
    rw [hTimed, h.fresh count (Nat.le_refl count)] at hPos
    cases hPos

theorem Deadlines.of_other (v : LoopID)
    (h : Deadlines deadline count current outstanding done timed handler)
    (hArmed : ∀ w, w ≠ v → deadline' w = deadline w)
    (hOutstanding : ∀ w, w ≠ v → outstanding' w = outstanding w)
    (hDone : ∀ w, w ≠ v → done' w = done w)
    (hExpired : ∀ w timer, w ≠ v → handler' w timer → handler w timer)
    (hFresh : ∀ w, count ≤ w → timed' w = 0)
    (hSelf : deadline' v ≠ none → 0 < outstanding' v + done' v)
    (hTimeout : ∀ timer, handler' v timer → current = some v →
      timer ≠ none ∧ deadline' v = timer ∧ 0 < outstanding' v) :
    Deadlines deadline' count current outstanding' done' timed' handler' := by
  constructor
  · intro w hw
    by_cases hEq : w = v
    · subst hEq
      exact hSelf hw
    · rw [hOutstanding w hEq, hDone w hEq]
      exact h.armed w (hArmed w hEq ▸ hw)
  · exact hFresh
  · intro w timer hTimer hw
    by_cases hEq : w = v
    · subst hEq
      exact hTimeout timer hTimer hw
    · rw [hArmed w hEq, hOutstanding w hEq]
      exact h.expired w timer (hExpired w timer hEq hTimer) hw

end Deadlines

/-! ## Reads -/

/-- The frames that may still restart the connection for a timeout of loop `r`. -/
def readTimed (r : LoopID) : Frame → Nat
  | .restartReading v .timeout _ | .awaitReadDeadline v _ => if v = r then 1 else 0
  | _ => 0

abbrev ReadDeadlines (s : Shared) (frames : Multiset Frame) : Prop :=
  Deadlines (fun r => (s.readLoops r).deadline) s.readLoopCount s.readLoop
    (fun r => load (reading r) frames) (fun r => load (readDone r) frames)
    (fun r => load (readTimed r) frames)
    fun r deadline => .restartReading r .timeout deadline ∈ frames

section Reads

variable {platform : Platform} {configuration : Configuration} {thread : Nat} {frame : Frame}
  {choice : Choice} {s s' : Shared} {rest : Multiset Frame} {frames : List Frame}
  {spawned : List (List Frame)}

theorem mem_readTimed {r : LoopID} {deadline : Option TimerID} {frames : Multiset Frame}
    (h : .restartReading r .timeout deadline ∈ frames) : 1 ≤ load (readTimed r) frames := by
  have hLe := le_load (readTimed r) h
  simpa [readTimed] using hLe

theorem mem_readTimeout {r : LoopID} (deadline : Option TimerID) {frames : Multiset Frame}
    (h : .restartReading r .timeout deadline ∈ frames) : 1 ≤ load (readTimeout r) frames := by
  have hLe := le_load (readTimeout r) h
  simpa [readTimeout] using hLe

theorem reading_le_readChain (r : LoopID) (frame : Frame) : reading r frame ≤ readChain r frame := by
  cases frame <;> simp [reading, readChain]

theorem readTimeout_pos {r : LoopID} (h : 0 < readTimeout r frame) :
    ∃ deadline, frame = .restartReading r .timeout deadline := by
  cases frame with
  | restartReading v error deadline =>
    cases error
    case timeout => exact ⟨deadline, by by_contra hNe; simp_all [readTimeout]⟩
    all_goals cases h
  | _ => cases h

theorem reading_pos {r : LoopID} (h : 0 < reading r frame) :
    frame = .asyncRead r ∨ frame = .awaitRead r := by
  cases frame with
  | asyncRead v => exact .inl (by by_contra hNe; simp_all [reading])
  | awaitRead v => exact .inr (by by_contra hNe; simp_all [reading])
  | _ => cases h

theorem deadline_updateReadLoop (s : Shared) (r v : LoopID) (change : ReadLoop → ReadLoop)
    (h : (change (s.readLoops r)).deadline = (s.readLoops r).deadline) :
    ((s.updateReadLoop r change).readLoops v).deadline = (s.readLoops v).deadline := by
  simp only [Shared.updateReadLoop, Function.update_apply]
  split
  · rename_i hv
    rw [h, hv]
  · rfl

theorem readDeadlines_step (hI : ReadDeadlines s (frame ::ₘ rest))
    (hChains : ReadChains s (frame ::ₘ rest))
    (hCompletes : ∀ r ∈ readCompletes frame, s.readLoop = some r → load (readTimeout r) rest = 0)
    (hExpires : ∀ r ∈ readExpires frame choice, s.readLoop = some r → load (readDone r) rest = 0)
    (h : Step platform configuration thread frame choice s s' frames spawned) :
    ReadDeadlines s' (↑(frames ++ spawned.flatten) + rest) := by
  have hChain := fun r => load_le_load (reading_le_readChain r) rest
  cases h
  all_goals try (
    refine hI.of_same (fun _ hr => hr) rfl (fun r => ?_) (fun r => ?_) (fun r => ?_) (fun r => ?_)
      (fun r deadline hFrame => ?_) <;>
      first
        | rfl
        | exact deadline_updateReadLoop _ _ _ _ rfl
        | (simp [reading, readDone, readTimed]; done)
        | simpa using hFrame)
  case stopReading | nothingToRead | restartWriting =>
    refine hI.of_same (fun _ hNone => by cases hNone) rfl (fun r => rfl) (fun r => ?_)
      (fun r => ?_) (fun r => ?_) (fun r deadline hFrame => by simpa using hFrame)
    all_goals simp [reading, readDone, readTimed]
  case ignoreReadFailure =>
    refine hI.of_same (fun _ hr => hr) rfl (fun r => rfl) (fun r => ?_) (fun r => ?_) (fun r => ?_)
      (fun r deadline hFrame => Multiset.mem_cons_of_mem (by simpa using hFrame))
    all_goals simp [reading, readDone]
  case restartReading =>
    refine hI.of_same (fun _ hNone => by cases hNone) rfl (fun r => rfl) (fun r => ?_)
      (fun r => ?_) (fun r => ?_)
      (fun r deadline hFrame => Multiset.mem_cons_of_mem (by simpa using hFrame))
    all_goals simp [reading, readDone, readTimed]
  case startReading | listen =>
    refine hI.of_newLoop rfl rfl (by simp) (fun r hr => by simp [Function.update_of_ne hr])
      (fun r => ?_) (fun r => ?_) (fun r => ?_) (fun r deadline hFrame => mem_readTimed hFrame)
    all_goals simp [reading, readDone, readTimed]
  all_goals
    have hOnce := hChains.once
    have hFresh := hI.fresh
    have hExpired := hI.expired
    simp only [load_cons, readChain, reading, readTimed, Nat.zero_add] at hOnce hFresh hExpired
  case setReadDeadline r =>
    have hAlone := hOnce r
    rw [if_pos rfl] at hAlone
    refine hI.of_other r (fun v hv => ?_) (fun v hv => ?_) (fun v hv => ?_)
      (fun v deadline hv hFrame => ?_) (fun v hv => ?_) (fun _ => ?_) (fun deadline hFrame hr => ?_)
    · simp [Shared.updateReadLoop, Function.update_of_ne hv]
    · simp [reading, hv.symm]
    · simp [readDone]
    · simpa using hFrame
    · have hNe : r ≠ v := by
        rintro rfl
        have := hChains.fresh r hv
        simp [readChain] at this
      simpa [readTimed, hNe] using hFresh v hv
    · exact Nat.add_pos_left (load_next_pos _ List.mem_cons_self (by simp [reading]) _) _
    -- the loop has no read outstanding yet
    · have hOld := (hExpired r deadline (by simpa using hFrame) hr).2.2
      have := hChain r
      omega
  -- no deadline of the loop has expired, if the loop is current
  case received r _ | readError r =>
    refine hI.of_other r (fun v hv => ?_) (fun v hv => ?_) (fun v hv => ?_)
      (fun v deadline hv hFrame => ?_) (fun v hv => ?_) (fun _ => ?_) (fun deadline hFrame hr => ?_)
    · first
        | rfl
        | exact deadline_updateReadLoop _ _ _ _ rfl
    · simp [reading, hv.symm]
    · simp [readDone, hv.symm]
    · simpa using hFrame
    · simpa [readTimed] using hFresh v hv
    · exact Nat.add_pos_right _ (load_next_pos _ List.mem_cons_self (by simp [readDone]) _)
    · have hTimeout := mem_readTimeout (r := r) deadline (by simpa using hFrame)
      have := hCompletes r rfl hr
      omega
  case bytesReceived r | readFailed r =>
    have hAlone := hOnce r
    rw [if_pos rfl] at hAlone
    refine hI.of_other r (fun v hv => ?_) (fun v hv => ?_) (fun v hv => ?_)
      (fun v deadline hv hFrame => ?_) (fun v hv => ?_) (fun hArmed => ?_)
      (fun deadline hFrame hr => ?_)
    · simp [Shared.updateReadLoop, Function.update_of_ne hv]
    · simp [reading]
    · simp [readDone, hv.symm]
    · simpa using hFrame
    · simpa [readTimed] using hFresh v hv
    · simp [Shared.updateReadLoop] at hArmed
    -- the read is no longer outstanding
    · have hOld := (hExpired r deadline (by simpa using hFrame) hr).2.2
      have := hChain r
      omega
  case readDeadlineExpired r timer hDeadline =>
    have hArmed := hI.armed r (by rw [hDeadline]; exact Option.some_ne_none _)
    simp only [load_cons, reading, readDone, Nat.zero_add] at hArmed
    refine hI.of_other r (fun v hv => rfl) (fun v hv => ?_) (fun v hv => ?_)
      (fun v deadline hv hFrame => ?_) (fun v hv => ?_) (fun _ => ?_) (fun deadline hFrame hr => ?_)
    · simp [reading]
    · simp [readDone]
    · simpa [hv] using hFrame
    · simpa [readTimed] using hFresh v hv
    · simpa [reading, readDone] using hArmed
    · have hNotDone := hExpires r rfl hr
      have hReading : 0 < load (reading r) rest := by omega
      have hSame : deadline ≠ none ∧ (s.readLoops r).deadline = deadline := by
        rcases Multiset.mem_add.mp hFrame with hNew | hOld
        · obtain rfl : deadline = some timer := by simpa using hNew
          exact ⟨Option.some_ne_none _, hDeadline⟩
        · obtain ⟨hSome, hSame, -⟩ := hExpired r deadline (Multiset.mem_cons_of_mem hOld) hr
          exact ⟨hSome, hSame⟩
      exact ⟨hSame.1, hSame.2, by simpa [reading] using hReading⟩

end Reads

/-! ## Writes -/

def writeTimed (w : LoopID) : Frame → Nat
  | .restartWriting v .timeout _ | .awaitWriteDeadline v _ => if v = w then 1 else 0
  | _ => 0

abbrev WriteDeadlines (s : Shared) (frames : Multiset Frame) : Prop :=
  Deadlines (fun w => (s.writeLoops w).deadline) s.writeLoopCount s.writeLoop
    (fun w => load (writing w) frames) (fun w => load (writeDone w) frames)
    (fun w => load (writeTimed w) frames)
    fun w deadline => .restartWriting w .timeout deadline ∈ frames

section Writes

variable {platform : Platform} {configuration : Configuration} {thread : Nat} {frame : Frame}
  {choice : Choice} {s s' : Shared} {rest : Multiset Frame} {frames : List Frame}
  {spawned : List (List Frame)}

theorem mem_writeTimed {w : LoopID} {deadline : Option TimerID} {frames : Multiset Frame}
    (h : .restartWriting w .timeout deadline ∈ frames) : 1 ≤ load (writeTimed w) frames := by
  have hLe := le_load (writeTimed w) h
  simpa [writeTimed] using hLe

theorem mem_writeTimeout {w : LoopID} (deadline : Option TimerID) {frames : Multiset Frame}
    (h : .restartWriting w .timeout deadline ∈ frames) : 1 ≤ load (writeTimeout w) frames := by
  have hLe := le_load (writeTimeout w) h
  simpa [writeTimeout] using hLe

theorem writing_le_writeChain (w : LoopID) (frame : Frame) : writing w frame ≤ writeChain w frame := by
  cases frame <;> simp [writing, writeChain]

theorem writing_pos {w : LoopID} (h : 0 < writing w frame) :
    ∃ id, frame = .asyncWrite w id ∨ frame = .awaitWrite w id := by
  cases frame with
  | asyncWrite v id => exact ⟨id, .inl (by by_contra hNe; simp_all [writing])⟩
  | awaitWrite v id => exact ⟨id, .inr (by by_contra hNe; simp_all [writing])⟩
  | _ => cases h

theorem deadline_updateWriteLoop (s : Shared) (w v : LoopID) (change : WriteLoop → WriteLoop)
    (h : (change (s.writeLoops w)).deadline = (s.writeLoops w).deadline) :
    ((s.updateWriteLoop w change).writeLoops v).deadline = (s.writeLoops v).deadline := by
  simp only [Shared.updateWriteLoop, Function.update_apply]
  split
  · rename_i hv
    rw [h, hv]
  · rfl

theorem writeDeadlines_step (hI : WriteDeadlines s (frame ::ₘ rest))
    (hChains : WriteChains s (frame ::ₘ rest))
    (hCompletes : ∀ w ∈ writeCompletes frame, s.writeLoop = some w → load (writeTimeout w) rest = 0)
    (hExpires : ∀ w ∈ writeExpires frame choice, s.writeLoop = some w → load (writeDone w) rest = 0)
    (h : Step platform configuration thread frame choice s s' frames spawned) :
    WriteDeadlines s' (↑(frames ++ spawned.flatten) + rest) := by
  have hChain := fun w => load_le_load (writing_le_writeChain w) rest
  cases h
  all_goals try (
    refine hI.of_same (fun _ hw => hw) rfl (fun w => ?_) (fun w => ?_) (fun w => ?_) (fun w => ?_)
      (fun w deadline hFrame => ?_) <;>
      first
        | rfl
        | exact deadline_updateWriteLoop _ _ _ _ rfl
        | (simp [writing, writeDone, writeTimed]; done)
        | simpa using hFrame)
  case stopWriting | stopLoop | restartReading =>
    refine hI.of_same (fun _ hNone => by cases hNone) rfl (fun w => rfl) (fun w => ?_)
      (fun w => ?_) (fun w => ?_) (fun w deadline hFrame => by simpa using hFrame)
    all_goals simp [writing, writeDone, writeTimed]
  case ignoreWriteFailure =>
    refine hI.of_same (fun _ hw => hw) rfl (fun w => rfl) (fun w => ?_) (fun w => ?_) (fun w => ?_)
      (fun w deadline hFrame => Multiset.mem_cons_of_mem (by simpa using hFrame))
    all_goals simp [writing, writeDone]
  case restartWriting =>
    refine hI.of_same (fun _ hNone => by cases hNone) rfl (fun w => rfl) (fun w => ?_)
      (fun w => ?_) (fun w => ?_)
      (fun w deadline hFrame => Multiset.mem_cons_of_mem (by simpa using hFrame))
    all_goals simp [writing, writeDone, writeTimed]
  case startWriting =>
    refine hI.of_newLoop rfl rfl (by simp) (fun w hw => by simp [Function.update_of_ne hw])
      (fun w => ?_) (fun w => ?_) (fun w => ?_) (fun w deadline hFrame => mem_writeTimed hFrame)
    all_goals simp [writing, writeDone, writeTimed]
  all_goals
    have hOnce := hChains.once
    have hFresh := hI.fresh
    have hExpired := hI.expired
    simp only [load_cons, writeChain, writing, writeTimed, Nat.zero_add] at hOnce hFresh hExpired
  case setWriteDeadline w id =>
    have hAlone := hOnce w
    rw [if_pos rfl] at hAlone
    refine hI.of_other w (fun v hv => ?_) (fun v hv => ?_) (fun v hv => ?_)
      (fun v deadline hv hFrame => ?_) (fun v hv => ?_) (fun _ => ?_) (fun deadline hFrame hw => ?_)
    · simp [Shared.updateWriteLoop, Function.update_of_ne hv]
    · simp [writing, hv.symm]
    · simp [writeDone]
    · simpa using hFrame
    · have hNe : w ≠ v := by
        rintro rfl
        have := hChains.fresh w hv
        simp [writeChain] at this
      simpa [writeTimed, hNe] using hFresh v hv
    · exact Nat.add_pos_left (load_next_pos _ List.mem_cons_self (by simp [writing]) _) _
    -- the loop has no write outstanding yet
    · have hOld := (hExpired w deadline (by simpa using hFrame) hw).2.2
      have := hChain w
      omega
  -- no deadline of the loop has expired, if the loop is current
  case requestSent w id | writeError w id =>
    refine hI.of_other w (fun v hv => rfl) (fun v hv => ?_) (fun v hv => ?_)
      (fun v deadline hv hFrame => ?_) (fun v hv => ?_) (fun _ => ?_) (fun deadline hFrame hw => ?_)
    · simp [writing, hv.symm]
    · simp [writeDone, hv.symm]
    · simpa using hFrame
    · simpa [writeTimed] using hFresh v hv
    · exact Nat.add_pos_right _ (load_next_pos _ List.mem_cons_self (by simp [writeDone]) _)
    · have hTimeout := mem_writeTimeout (w := w) deadline (by simpa using hFrame)
      have := hCompletes w rfl hw
      omega
  case requestWritten w id | writeFailed w id =>
    have hAlone := hOnce w
    rw [if_pos rfl] at hAlone
    refine hI.of_other w (fun v hv => ?_) (fun v hv => ?_) (fun v hv => ?_)
      (fun v deadline hv hFrame => ?_) (fun v hv => ?_) (fun hArmed => ?_)
      (fun deadline hFrame hw => ?_)
    · simp [Shared.updateItem, Shared.updateWriteLoop, Function.update_of_ne hv]
    · simp [writing]
    · simp [writeDone, hv.symm]
    · simpa using hFrame
    · simpa [writeTimed] using hFresh v hv
    · simp [Shared.updateItem, Shared.updateWriteLoop] at hArmed
    -- the write is no longer outstanding
    · have hOld := (hExpired w deadline (by simpa using hFrame) hw).2.2
      have := hChain w
      omega
  case writeDeadlineExpired w timer hDeadline =>
    have hArmed := hI.armed w (by rw [hDeadline]; exact Option.some_ne_none _)
    simp only [load_cons, writing, writeDone, Nat.zero_add] at hArmed
    refine hI.of_other w (fun v hv => rfl) (fun v hv => ?_) (fun v hv => ?_)
      (fun v deadline hv hFrame => ?_) (fun v hv => ?_) (fun _ => ?_) (fun deadline hFrame hw => ?_)
    · simp [writing]
    · simp [writeDone]
    · simpa [hv] using hFrame
    · simpa [writeTimed] using hFresh v hv
    · simpa [writing, writeDone] using hArmed
    · have hNotDone := hExpires w rfl hw
      have hWriting : 0 < load (writing w) rest := by omega
      have hSame : deadline ≠ none ∧ (s.writeLoops w).deadline = deadline := by
        rcases Multiset.mem_add.mp hFrame with hNew | hOld
        · obtain rfl : deadline = some timer := by simpa using hNew
          exact ⟨Option.some_ne_none _, hDeadline⟩
        · obtain ⟨hSome, hSame, -⟩ := hExpired w deadline (Multiset.mem_cons_of_mem hOld) hw
          exact ⟨hSome, hSame⟩
      exact ⟨hSame.1, hSame.2, by simpa [writing] using hWriting⟩

end Writes

/-! ## Every run -/

structure DeadlineInvariant (s : Shared) (frames : Multiset Frame) : Prop where
  loops : LoopInvariant s frames
  read : ReadDeadlines s frames
  write : WriteDeadlines s frames

section Machine

variable {platform : Platform} {configuration : Configuration} {c : Config Shared Frame}

theorem deadlines_preserved :
    Preserved (machine platform configuration) deadlinesApart DeadlineInvariant where
  exec _ _ _ _ _ _ _ _ h hGuard hExec := by
    obtain ⟨hLoops, hRead, hWrite⟩ := h
    obtain ⟨hReadEnds, hReadExpires, hWriteEnds, hWriteExpires⟩ := hGuard
    simp only [load_cons] at hReadEnds hReadExpires hWriteEnds hWriteExpires
    have hStep := step_of_exec hExec
    refine ⟨(loopInvariant_preserved platform configuration).exec _ _ _ _ _ _ _ _ hLoops trivial hExec,
      readDeadlines_step hRead hLoops.read (fun r hr hCurrent => ?_) (fun r hr hCurrent => ?_) hStep,
      writeDeadlines_step hWrite hLoops.write (fun w hw hCurrent => ?_) (fun w hw hCurrent => ?_)
        hStep⟩
    · exact (Nat.add_eq_zero_iff.mp (hReadEnds r hr hCurrent)).2
    · exact (Nat.add_eq_zero_iff.mp (hReadExpires r hr hCurrent)).2
    · exact (Nat.add_eq_zero_iff.mp (hWriteEnds w hw hCurrent)).2
    · exact (Nat.add_eq_zero_iff.mp (hWriteExpires w hw hCurrent)).2
  enter _ _ _ _ _ _ h hQuiet _ hEnter := by
    obtain ⟨hLoops, hRead, hWrite⟩ := h
    refine ⟨(loopInvariant_preserved platform configuration).enter _ _ _ _ _ _ hLoops hQuiet trivial
      hEnter, ?_, ?_⟩
    · rcases enter_cases hEnter with ⟨_, rfl, rfl⟩ | ⟨_, _, _, _, rfl, rfl⟩ <;>
        refine hRead.of_same (fun _ h => h) rfl (fun _ => rfl) (fun _ => ?_) (fun _ => ?_)
          (fun _ => ?_) fun _ _ hFrame => by simpa using hFrame
      all_goals simp [reading, readDone, readTimed]
    · rcases enter_cases hEnter with ⟨_, rfl, rfl⟩ | ⟨_, _, _, _, rfl, rfl⟩ <;>
        refine hWrite.of_same (fun _ h => h) rfl (fun _ => rfl) (fun _ => ?_) (fun _ => ?_)
          (fun _ => ?_) fun _ _ hFrame => by simpa using hFrame
      all_goals simp [writing, writeDone, writeTimed]

theorem deadlines_initial : DeadlineInvariant initial.shared initial.frames := by
  refine ⟨loopInvariant_initial, ?_, ?_⟩
  · constructor <;> simp [initial, Config.frames, readTimed]
  · constructor <;> simp [initial, Config.frames, writeTimed]

/-- **No spurious timeout**, in every run in which the end of an operation and the
expiry of its deadline stay apart. -/
theorem no_spurious_timeout
    (h : Reaches (machine platform configuration) deadlinesApart initial c) :
    NoSpuriousTimeout c.shared c.frames := by
  obtain ⟨-, hRead, hWrite⟩ := h.invariant deadlines_preserved deadlines_initial
  constructor
  · intro r deadline hFrame hCurrent
    obtain ⟨hSome, hSame, hReading⟩ := hRead.expired r deadline hFrame hCurrent
    refine ⟨hSome, hSame, ?_⟩
    obtain ⟨frame, hMem, hPos⟩ := exists_of_load_pos _ hReading
    rcases reading_pos hPos with rfl | rfl
    · exact .inl hMem
    · exact .inr hMem
  · intro w deadline hFrame hCurrent
    obtain ⟨hSome, hSame, hWriting⟩ := hWrite.expired w deadline hFrame hCurrent
    refine ⟨hSome, hSame, ?_⟩
    obtain ⟨frame, hMem, hPos⟩ := exists_of_load_pos _ hWriting
    obtain ⟨id, rfl | rfl⟩ := writing_pos hPos
    · exact ⟨id, .inl hMem⟩
    · exact ⟨id, .inr hMem⟩

/-- The deadline of a read expires while the read is outstanding. -/
theorem no_spurious_timeout_expired :
    ∃ c, Reaches (machine shortPlatform {}) deadlinesApart initial c ∧
      c.shared.readLoop = some 1 ∧ 0 < load (readTimeout 1) c.frames ∧
      NoSpuriousTimeout c.shared c.frames := by
  have hRun : ((machine shortPlatform {}).steps deadlinesApart initial
      (establish ++ sendFirst ++ expire 5)).any
      (fun c => c.shared.readLoop = some 1 ∧ 0 < load (readTimeout 1) c.frames) = true := by
    decide +kernel
  obtain ⟨c, hReaches, hTest⟩ := exists_reaches_of_steps hRun
  obtain ⟨hCurrent, hTimeout⟩ := of_decide_eq_true hTest
  exact ⟨c, hReaches, hCurrent, hTimeout, no_spurious_timeout hReaches⟩

/-- The response arrives when the deadline has expired and its handler has not run:
the timer is cancelled, and the connection is restarted all the same. -/
theorem timeout_after_response :
    ¬ ∀ c, Reaches (machine shortPlatform {}) .all initial c →
      NoSpuriousTimeout c.shared c.frames := by
  intro hAll
  have hRun : ((machine shortPlatform {}).steps .all initial
      (establish ++ sendFirst ++ expire 5 ++ receive 6 (answer 1 200) ++ proceed 6 1)).any
      (fun c => c.shared.readLoop = some 1 ∧ 0 < load (readTimeout 1) c.frames ∧
        load (reading 1) c.frames = 0) = true := by
    decide +kernel
  obtain ⟨c, hReaches, hTest⟩ := exists_reaches_of_steps hRun
  obtain ⟨hCurrent, hTimeout, hNone⟩ := of_decide_eq_true hTest
  obtain ⟨frame, hFrame, hPos⟩ := exists_of_load_pos _ hTimeout
  obtain ⟨deadline, rfl⟩ := readTimeout_pos hPos
  obtain ⟨-, -, hOutstanding⟩ := (hAll c hReaches).read 1 deadline hFrame hCurrent
  have hZero := (load_eq_zero_iff _).mp hNone
  rcases hOutstanding with hMem | hMem
  · exact absurd (hZero _ hMem) (by decide)
  · exact absurd (hZero _ hMem) (by decide)

end Machine

end Fuerte.Vst.Connection

import Fuerte.Library.Observation
import Fuerte.Vst.Connection.Loops

/-! # What a read loop makes of its stream

A read loop takes one chunk at a time off its buffer, and callbacks of users run in
between. All in all it finds what the parse loop finds in the same reads.
-/

namespace Fuerte.Vst

set_option autoImplicit false

section Parsing

variable {version : VSTVersion} {behind : ByteMemory.Pointer} {buffer rest : List UInt8}

theorem parseLoop_of_none (h : nextChunk version behind buffer = none) :
    parseLoop version behind buffer = ([], buffer) := Framing.drain_of_none h _

theorem parseLoop_of_some {iteration : Iteration}
    (h : nextChunk version behind buffer = some (iteration, rest)) :
    parseLoop version behind buffer =
      (iteration :: (parseLoop version behind rest).1, (parseLoop version behind rest).2) := by
  have hShort := shrinking_nextChunk version behind buffer iteration rest h
  obtain ⟨fuel, hFuel⟩ : ∃ fuel, buffer.length = fuel + 1 := ⟨buffer.length - 1, by omega⟩
  rw [parseLoop, hFuel, Framing.drain_of_some h,
    Framing.drain_of_le (shrinking_nextChunk version behind) fuel rest (by omega)]
  rfl

theorem receive_append_singleton (reads : List (List UInt8)) (read : List UInt8) :
    receive version behind (reads ++ [read]) =
      ((receive version behind reads).1 ++
          (parseLoop version behind ((receive version behind reads).2 ++ read)).1,
        (parseLoop version behind ((receive version behind reads).2 ++ read)).2) := by
  simp only [receive, Framing.feed_append, Framing.feed, List.append_nil, parseLoop]

theorem nextChunk_rest {iteration : Iteration}
    (h : nextChunk version behind buffer = some (iteration, rest)) :
    rest = buffer.drop iteration.chunk.chunkLength.toNat := by
  simp only [nextChunk, findChunk] at h
  split at h
  · cases h
  · cases h
    rfl

end Parsing

end Fuerte.Vst

namespace Fuerte.Vst.Connection

set_option autoImplicit false

open Interleaving

/-! ## The observer -/

inductive Receipt where
  /-- A read of the loop has ended with these bytes. -/
  | received (loop : LoopID) (bytes : List UInt8)
  /-- The loop has found a complete chunk. -/
  | found (loop : LoopID) (chunk : ChunkHeader)
  /-- The chunk has been added to the item with its number. -/
  | added (chunk : ChunkHeader)

section Observer

variable (platform : Platform) (configuration : Configuration)

def receipts (frame : Frame) (choice : Choice) (s : Shared) : List Receipt :=
  match frame with
  | .awaitRead r =>
    match choice with
    | .received bytes => [.received r bytes]
    | _ => []
  | .inspect r =>
    match nextChunk configuration.vstVersion platform.behind (s.readLoops r).receiveBuffer with
    | some (iteration, _) => [.found r iteration.chunk]
    | none => []
  | .addChunk _ chunk => [.added chunk]
  | _ => []

end Observer

def Receipt.read? : Receipt → Option (LoopID × List UInt8)
  | .received loop bytes => some (loop, bytes)
  | _ => none

def Receipt.find? : Receipt → Option (LoopID × ChunkHeader)
  | .found loop chunk => some (loop, chunk)
  | _ => none

/-- The reads of a loop, one after the other. -/
def readsOf (r : LoopID) (notes : List Receipt) : List (List UInt8) :=
  ((notes.filterMap Receipt.read?).filter fun read => read.1 = r).map Prod.snd

/-- The chunks that a loop has found, one after the other. -/
def foundBy (r : LoopID) (notes : List Receipt) : List ChunkHeader :=
  ((notes.filterMap Receipt.find?).filter fun find => find.1 = r).map Prod.snd

@[simp] theorem readsOf_append (r : LoopID) (notes more : List Receipt) :
    readsOf r (notes ++ more) = readsOf r notes ++ readsOf r more := by
  simp [readsOf]

@[simp] theorem foundBy_append (r : LoopID) (notes more : List Receipt) :
    foundBy r (notes ++ more) = foundBy r notes ++ foundBy r more := by
  simp [foundBy]

@[simp] theorem readsOf_received (r loop : LoopID) (bytes : List UInt8) :
    readsOf r [.received loop bytes] = if loop = r then [bytes] else [] := by
  simp only [readsOf, List.filterMap_cons, Receipt.read?, List.filterMap_nil, List.filter_cons]
  split <;> simp_all

@[simp] theorem foundBy_found (r loop : LoopID) (chunk : ChunkHeader) :
    foundBy r [.found loop chunk] = if loop = r then [chunk] else [] := by
  simp only [foundBy, List.filterMap_cons, Receipt.find?, List.filterMap_nil, List.filter_cons]
  split <;> simp_all

@[simp] theorem readsOf_found (r loop : LoopID) (chunk : ChunkHeader) :
    readsOf r [.found loop chunk] = [] := rfl

@[simp] theorem foundBy_received (r loop : LoopID) (bytes : List UInt8) :
    foundBy r [.received loop bytes] = [] := rfl

/-! ## Where a loop is in its buffer -/

/-- The bytes that the frame drops before it inspects the buffer of the loop. -/
def toDrop (r : LoopID) : Frame → Option Nat
  | .bytesReceived v | .inspect v => if v = r then some 0 else none
  | .consume v length => if v = r then some length else none
  | _ => none

theorem carried_toDrop_eq_zero {r : LoopID} {frames : Multiset Frame} (h : load (readChain r) frames = 0) :
    carried (toDrop r) frames = 0 := by
  rw [carried_eq_zero_iff]
  intro frame hFrame
  have hNone := (load_eq_zero_iff (readChain r)).mp h frame hFrame
  cases frame <;> simp only [toDrop]
  all_goals
    rw [if_neg]
    intro hLoop
    simp [readChain, hLoop] at hNone

section Steps

variable (platform : Platform) (configuration : Configuration)

/-- What has been found, and what is still to be found in these bytes, is what the
reads of the loop yield. -/
def ParsedTo (r : LoopID) (notes : List Receipt) (left : List UInt8) : Prop :=
  let received := Vst.receive configuration.vstVersion platform.behind (readsOf r notes)
  let ahead := parseLoop configuration.vstVersion platform.behind left
  received.1.map Iteration.chunk = foundBy r notes ++ ahead.1.map Iteration.chunk ∧
    received.2 = ahead.2

structure Parses (r : LoopID) (s : Shared) (frames : Multiset Frame) (notes : List Receipt) :
    Prop where
  fresh : s.readLoopCount ≤ r → readsOf r notes = [] ∧ foundBy r notes = []
  busy : ∀ length ∈ carried (toDrop r) frames,
    ParsedTo platform configuration r notes ((s.readLoops r).receiveBuffer.drop length)
  idle : carried (toDrop r) frames = 0 →
    ParsedTo platform configuration r notes (s.readLoops r).receiveBuffer ∧
      nextChunk configuration.vstVersion platform.behind (s.readLoops r).receiveBuffer = none

variable {platform configuration} {thread : Nat} {frame : Frame} {choice : Choice} {s s' : Shared}
  {rest before after : Multiset Frame} {frames : List Frame} {spawned : List (List Frame)}
  {notes more : List Receipt} {r : LoopID} {left bytes : List UInt8}

theorem ParsedTo.of_same (h : ParsedTo platform configuration r notes left)
    (hReads : readsOf r more = []) (hFound : foundBy r more = []) :
    ParsedTo platform configuration r (notes ++ more) left := by
  simpa only [ParsedTo, readsOf_append, foundBy_append, hReads, hFound, List.append_nil] using h

/-- A read that meets a buffer without a complete chunk. -/
theorem ParsedTo.received (h : ParsedTo platform configuration r notes left)
    (hNone : nextChunk configuration.vstVersion platform.behind left = none) :
    ParsedTo platform configuration r (notes ++ [.received r bytes]) (left ++ bytes) := by
  obtain ⟨hFound, hLeft⟩ := h
  rw [parseLoop_of_none hNone] at hFound hLeft
  simp only [ParsedTo, readsOf_append, foundBy_append, readsOf_received, foundBy_received,
    if_true, List.append_nil, receive_append_singleton, hLeft]
  rw [List.map_append, hFound, List.map_nil, List.append_nil]
  exact ⟨rfl, trivial⟩

theorem ParsedTo.found {iteration : Iteration} {ahead : List UInt8}
    (h : ParsedTo platform configuration r notes left)
    (hSome : nextChunk configuration.vstVersion platform.behind left = some (iteration, ahead)) :
    ParsedTo platform configuration r (notes ++ [.found r iteration.chunk])
      (left.drop iteration.chunk.chunkLength.toNat) := by
  obtain ⟨hFound, hLeft⟩ := h
  rw [parseLoop_of_some hSome] at hFound hLeft
  simp only [ParsedTo, readsOf_append, foundBy_append, readsOf_found, foundBy_found, if_true,
    List.append_nil, ← nextChunk_rest hSome]
  rw [hFound, hLeft, List.append_assoc]
  exact ⟨rfl, rfl⟩

theorem Parses.of_same (h : Parses platform configuration r s before notes)
    (hBuffer : (s'.readLoops r).receiveBuffer = (s.readLoops r).receiveBuffer)
    (hCount : s.readLoopCount ≤ s'.readLoopCount) (hParsing : carried (toDrop r) after = carried (toDrop r) before) :
    Parses platform configuration r s' after notes := by
  constructor
  · intro hFresh
    exact h.fresh (hCount.trans hFresh)
  · intro length hLength
    rw [hBuffer]
    exact h.busy length (hParsing ▸ hLength)
  · intro hIdle
    rw [hBuffer]
    exact h.idle (hParsing ▸ hIdle)

/-- Notes that do not tell of the loop. -/
theorem Parses.noting (h : Parses platform configuration r s before notes)
    (hReads : readsOf r more = []) (hFound : foundBy r more = []) :
    Parses platform configuration r s before (notes ++ more) := by
  constructor
  · intro hFresh
    simpa [hReads, hFound] using h.fresh hFresh
  · intro length hLength
    exact (h.busy length hLength).of_same hReads hFound
  · intro hIdle
    obtain ⟨hParsed, hNone⟩ := h.idle hIdle
    exact ⟨hParsed.of_same hReads hFound, hNone⟩

/-- The loop goes on with the buffer and drops `length` bytes of it first. -/
theorem Parses.of_busy (length : Nat) (hFresh : r < s'.readLoopCount)
    (hParsing : carried (toDrop r) after = {length})
    (hParsed : ParsedTo platform configuration r notes ((s'.readLoops r).receiveBuffer.drop length)) :
    Parses platform configuration r s' after notes := by
  constructor
  · intro hLe
    exact absurd hFresh (Nat.not_lt_of_le hLe)
  · intro other hOther
    rw [hParsing, Multiset.mem_singleton] at hOther
    exact hOther ▸ hParsed
  · intro hIdle
    simp [hParsing] at hIdle

theorem Parses.of_created (h : Parses platform configuration r s before notes)
    (hChains : ReadChains s before) {loop : ReadLoop} (hLoop : loop.receiveBuffer = [])
    (hLoops : s'.readLoops = Function.update s.readLoops s.readLoopCount loop)
    (hCount : s'.readLoopCount = s.readLoopCount + 1)
    (hParsing : carried (toDrop r) after = carried (toDrop r) before) :
    Parses platform configuration r s' after notes := by
  by_cases hNew : r = s.readLoopCount
  · have hNone : carried (toDrop r) after = 0 :=
      hParsing.trans (carried_toDrop_eq_zero (hChains.fresh r hNew.ge))
    obtain ⟨hReads, hFound⟩ := h.fresh hNew.ge
    have hBuffer : (s'.readLoops r).receiveBuffer = [] := by
      rw [hLoops, hNew, Function.update_self, hLoop]
    have hNext : nextChunk configuration.vstVersion platform.behind [] = none :=
      Framing.next_nil (shrinking_nextChunk _ _)
    refine ⟨fun _ => ⟨hReads, hFound⟩, fun length hLength => ?_, fun _ => ?_⟩
    · simp [hNone] at hLength
    · rw [hBuffer]
      refine ⟨?_, hNext⟩
      rw [ParsedTo, hReads, hFound, parseLoop_of_none hNext]
      exact ⟨rfl, rfl⟩
  · exact h.of_same (by rw [hLoops, Function.update_of_ne hNew]) (by omega) hParsing

theorem receiveBuffer_of_ne (s : Shared) (change : ReadLoop → ReadLoop) {v : LoopID} (h : v ≠ r) :
    ((s.updateReadLoop v change).readLoops r).receiveBuffer = (s.readLoops r).receiveBuffer := by
  simp only [Shared.updateReadLoop, Function.update_of_ne h.symm]

/-- Where a frame of the loop is executed, no other frame is parsing its buffer. -/
theorem ReadChains.rest_idle (h : ReadChains s (frame ::ₘ rest)) (r : LoopID)
    (hFrame : readChain r frame = 1) :
    carried (toDrop r) rest = 0 ∧ r < s.readLoopCount := by
  have hOnce := h.once r
  rw [load_cons, hFrame] at hOnce
  refine ⟨carried_toDrop_eq_zero (by omega), ?_⟩
  by_contra hLe
  have hFresh := h.fresh r (Nat.le_of_not_lt hLe)
  rw [load_cons, hFrame] at hFresh
  omega

theorem Parses.awaitRead {v : LoopID} (hI : Parses platform configuration r s (.awaitRead v ::ₘ rest) notes)
    (hChains : ReadChains s (.awaitRead v ::ₘ rest))
    (h : awaitRead v choice s = some (s', frames, spawned)) :
    Parses platform configuration r s' (↑(frames ++ spawned.flatten) + rest)
      (notes ++ receipts platform configuration (.awaitRead v) choice s) := by
  cases choice <;> simp only [Connection.awaitRead, Shared.next] at h
  case received bytes =>
    split at h
    · cases h
    cases h
    by_cases hLoop : v = r
    · subst hLoop
      obtain ⟨hRest, hOld⟩ := hChains.rest_idle v (by simp [readChain])
      obtain ⟨hParsed, hNone⟩ := hI.idle (by simp [toDrop, hRest])
      apply Parses.of_busy 0
      · exact hOld
      · simp [toDrop, hRest]
      · simp only [Shared.updateReadLoop, Function.update_self, List.drop_zero]
        exact hParsed.received hNone
    · apply Parses.noting
      · apply hI.of_same
        · exact receiveBuffer_of_ne s _ hLoop
        · exact Nat.le_refl _
        · simp [toDrop, hLoop]
      · simp [receipts, hLoop]
      · simp [receipts]
  case failed =>
    cases h
    apply Parses.noting
    · exact hI.of_same rfl (Nat.le_refl _) (by simp [toDrop])
    · rfl
    · rfl
  all_goals cases h

theorem Parses.inspect {v : LoopID} (hI : Parses platform configuration r s (.inspect v ::ₘ rest) notes)
    (hChains : ReadChains s (.inspect v ::ₘ rest))
    (h : inspect platform configuration v s = some (s', frames, spawned)) :
    Parses platform configuration r s' (↑(frames ++ spawned.flatten) + rest)
      (notes ++ receipts platform configuration (.inspect v) choice s) := by
  simp only [Connection.inspect, Shared.next] at h
  split at h
  · rename_i hNone
    cases h
    have hSilent : receipts platform configuration (.inspect v) choice s = [] := by
      simp only [receipts, hNone]
    rw [hSilent, List.append_nil]
    by_cases hLoop : v = r
    · subst hLoop
      obtain ⟨hRest, hOld⟩ := hChains.rest_idle v (by simp [readChain])
      have hParsed := hI.busy 0 (by simp [toDrop])
      refine ⟨fun hLe => absurd hOld (Nat.not_lt_of_le hLe), fun length hLength => ?_,
        fun _ => ⟨hParsed, hNone⟩⟩
      simp [toDrop, hRest] at hLength
    · apply hI.of_same rfl (Nat.le_refl _)
      simp [toDrop, hLoop]
  · rename_i iteration ahead hSome
    cases h
    have hNoted : receipts platform configuration (.inspect v) choice s =
        [.found v iteration.chunk] := by
      simp only [receipts, hSome]
    rw [hNoted]
    by_cases hLoop : v = r
    · subst hLoop
      obtain ⟨hRest, hOld⟩ := hChains.rest_idle v (by simp [readChain])
      apply Parses.of_busy iteration.chunk.chunkLength.toNat
      · exact hOld
      · simp [toDrop, hRest]
      · exact (hI.busy 0 (by simp [toDrop])).found hSome
    · apply Parses.noting
      · apply hI.of_same rfl (Nat.le_refl _)
        simp [toDrop, hLoop]
      · simp
      · simp [hLoop]

theorem Parses.consume {v : LoopID} {length : Nat}
    (hI : Parses platform configuration r s (.consume v length ::ₘ rest) notes)
    (hChains : ReadChains s (.consume v length ::ₘ rest)) :
    Parses platform configuration r
      (s.updateReadLoop v fun loop => { loop with receiveBuffer := loop.receiveBuffer.drop length })
      (.inspect v ::ₘ rest) notes := by
  by_cases hLoop : v = r
  · subst hLoop
    obtain ⟨hRest, hOld⟩ := hChains.rest_idle v (by simp [readChain])
    apply Parses.of_busy 0
    · exact hOld
    · simp [toDrop, hRest]
    · simp only [Shared.updateReadLoop, Function.update_self, List.drop_zero]
      exact hI.busy length (by simp [toDrop])
  · apply hI.of_same
    · exact receiveBuffer_of_ne s _ hLoop
    · exact Nat.le_refl _
    · simp [toDrop, hLoop]

theorem Parses.step (hI : Parses platform configuration r s (frame ::ₘ rest) notes)
    (hChains : ReadChains s (frame ::ₘ rest))
    (h : perform platform configuration thread frame choice s = some (s', frames, spawned)) :
    Parses platform configuration r s' (↑(frames ++ spawned.flatten) + rest)
      (notes ++ receipts platform configuration frame choice s) := by
  have hStep : Step platform configuration thread frame choice s s' frames spawned :=
    step_of_perform h
  cases frame
  case awaitRead v => exact hI.awaitRead hChains h
  case inspect v => exact hI.inspect hChains h
  case addChunk id chunk =>
    apply Parses.noting
    · cases hStep <;> exact hI.of_same rfl (Nat.le_refl _) (by simp [toDrop])
    · rfl
    · rfl
  all_goals
    simp only [receipts, List.append_nil]
    cases hStep
  case consume.consume v length => simpa using hI.consume hChains
  case startReading.startReading | listen.listen =>
    exact hI.of_created hChains rfl rfl rfl (by simp [toDrop])
  all_goals
    apply hI.of_same
    · first
        | rfl
        | (simp only [Shared.updateReadLoop, Function.update_apply]; split <;> simp_all)
    · exact Nat.le_refl _
    · simp [toDrop]

end Steps

/-! ## Every run -/

/-- The chunks of the loop are those that the parse loop finds in its reads, in their
order; and when the loop is not parsing its buffer, they are all there are. -/
structure ReceivedStream (platform : Platform) (configuration : Configuration) (r : LoopID)
    (c : Config (Shared × List Receipt) Frame) : Prop where
  front : foundBy r c.shared.2 <+: (Vst.receive configuration.vstVersion platform.behind
    (readsOf r c.shared.2)).1.map Iteration.chunk
  whole : carried (toDrop r) c.frames = 0 →
    (Vst.receive configuration.vstVersion platform.behind (readsOf r c.shared.2)).1.map
        Iteration.chunk = foundBy r c.shared.2 ∧
      (Vst.receive configuration.vstVersion platform.behind (readsOf r c.shared.2)).2 =
        (c.shared.1.readLoops r).receiveBuffer

section Machine

variable (platform : Platform) (configuration : Configuration)

def AllParse (s : Shared) (frames : Multiset Frame) (notes : List Receipt) : Prop :=
  ∀ r, Parses platform configuration r s frames notes

theorem parses_preserved :
    Preserved ((machine platform configuration).observed (receipts platform configuration))
      Guard.all.observed fun s frames =>
        LoopInvariant s.1 frames ∧ AllParse platform configuration s.1 frames s.2 := by
  apply (loopInvariant_preserved platform configuration).noting
  · intro thread frame choice s rest s' frames spawned notes hLoops hParses _ hExec r
    exact (hParses r).step hLoops.read (perform_of_exec hExec)
  · intro event quiet s rest s' frames notes hParses hEnter r
    rcases enter_cases hEnter with ⟨_, rfl, rfl⟩ | ⟨_, _, _, _, rfl, rfl⟩ <;>
      exact (hParses r).of_same rfl (Nat.le_refl _) (by simp [toDrop])

theorem parses_initial (r : LoopID) :
    Parses platform configuration r initial.shared initial.frames [] := by
  have hNext : nextChunk configuration.vstVersion platform.behind [] = none :=
    Framing.next_nil (shrinking_nextChunk _ _)
  constructor
  · exact fun _ => ⟨rfl, rfl⟩
  · simp [initial, Config.frames, toDrop]
  · intro _
    refine ⟨?_, hNext⟩
    simp only [ParsedTo, initial, parseLoop_of_none hNext]
    exact ⟨rfl, rfl⟩

variable {platform configuration} {c : Config (Shared × List Receipt) Frame}

theorem parses_of_reaches
    (h : Reaches ((machine platform configuration).observed (receipts platform configuration))
      Guard.all.observed initial.observed c) (r : LoopID) :
    Parses platform configuration r c.shared.1 c.frames c.shared.2 :=
  (h.invariant (parses_preserved platform configuration)
    ⟨loopInvariant_initial, parses_initial platform configuration⟩).2 r

theorem receivedStream_of_reaches
    (h : Reaches ((machine platform configuration).observed (receipts platform configuration))
      Guard.all.observed initial.observed c) (r : LoopID) :
    ReceivedStream platform configuration r c := by
  have hParses := parses_of_reaches h r
  constructor
  · by_cases hIdle : carried (toDrop r) c.frames = 0
    · rw [(hParses.idle hIdle).1.1]
      exact List.prefix_append _ _
    · obtain ⟨length, hLength⟩ := Multiset.exists_mem_of_ne_zero hIdle
      rw [(hParses.busy length hLength).1]
      exact List.prefix_append _ _
  · intro hIdle
    obtain ⟨⟨hFound, hLeft⟩, hNone⟩ := hParses.idle hIdle
    rw [parseLoop_of_none hNone, List.map_nil, List.append_nil] at hFound
    rw [parseLoop_of_none hNone] at hLeft
    exact ⟨hFound, hLeft⟩

/-- **Received streams.** In every run, whatever user code does between two chunks, each
read loop finds the chunks of its own reads, in their order, and keeps what is left over. -/
theorem received_stream
    (h : Reaches ((machine platform configuration).observed (receipts platform configuration))
      Guard.all.observed initial.observed c) (r : LoopID) :
    ReceivedStream platform configuration r c := receivedStream_of_reaches h r

/-- A read ends inside the second of two chunks. -/
theorem received_stream_cut_chunk : ∃ c : Config (Shared × List Receipt) Frame,
    (foundBy 1 c.shared.2).length = 1 ∧ (c.shared.1.readLoops 1).receiveBuffer.length = 5 ∧
      carried (toDrop 1) c.frames = 0 ∧ ReceivedStream shortPlatform {} 1 c := by
  have hRun : (((machine shortPlatform {}).observed (receipts shortPlatform {})).steps
      Guard.all.observed initial.observed
      (establish ++ sendFirst ++ receive 6 (answer 1 200 ++ (answer 2 200).take 5) ++ proceed 6 12)).any
      (fun c => (foundBy 1 c.shared.2).length = 1 ∧
        (c.shared.1.readLoops 1).receiveBuffer.length = 5 ∧ carried (toDrop 1) c.frames = 0) = true := by
    decide +kernel
  obtain ⟨c, hReaches, hTest⟩ := exists_reaches_of_steps hRun
  obtain ⟨hFound, hLeft, hIdle⟩ := of_decide_eq_true hTest
  exact ⟨c, hFound, hLeft, hIdle, received_stream hReaches 1⟩

end Machine

end Fuerte.Vst.Connection

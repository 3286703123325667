import Fuerte.Library.Framing
import Fuerte.Vst.ChunkHeader

/-! # Finding chunks in received bytes

The readers get a bare pointer, so the bytes they look at are recorded along
with what they return.
-/

namespace Fuerte.Vst

set_option autoImplicit false

open ByteMemory

/-- A load of `width` bytes at `offset` from the cursor. -/
structure Access where
  offset : Nat
  width : Nat
  deriving DecidableEq, Repr

/-- A computation that loads from memory, with its loads in order. -/
abbrev Loading := StateM (List Access)

def load32 (p : Pointer) (offset : Nat) : Loading UInt32 :=
  fun loads => (word32 (p.add offset), loads ++ [⟨offset, 4⟩])

def load64 (p : Pointer) (offset : Nat) : Loading UInt64 :=
  fun loads => (word64 (p.add offset), loads ++ [⟨offset, 8⟩])

def isChunkComplete (begin : Pointer) (lengthAvailable : Nat) : Loading Nat := do
  if lengthAvailable < 4 then
    return 0
  else
    let lengthThisChunk ← load32 begin 0
    if lengthAvailable < lengthThisChunk.toNat then
      return 0
    else
      return lengthThisChunk.toNat

/-- `_chunkLength - hdrLen`, computed in `size_t`. -/
def contentLength (chunkLength : UInt32) (hdrLen : Nat) : Nat :=
  (chunkLength.toUInt64 - UInt64.ofNat hdrLen).toNat

def readChunkHeaderVST1_0 (bufferBegin : Pointer) : Loading ChunkHeader := do
  let chunkLength ← load32 bufferBegin 0
  let chunkX ← load32 bufferBegin 4
  let messageID ← load64 bufferBegin 8
  let header : ChunkHeader := { chunkLength, chunkX, messageID, data := ConstBuffer.empty }
  if chunkX &&& 1 = 1 ∧ chunkX >>> 1 > 1 then
    let messageLength ← load64 bufferBegin 16
    return { header with
      messageLength
      data := ⟨bufferBegin, maxChunkHeaderSize, contentLength chunkLength maxChunkHeaderSize⟩ }
  else
    return { header with
      data := ⟨bufferBegin, minChunkHeaderSize, contentLength chunkLength minChunkHeaderSize⟩ }

def readChunkHeaderVST1_1 (bufferBegin : Pointer) : Loading ChunkHeader := do
  let chunkLength ← load32 bufferBegin 0
  let chunkX ← load32 bufferBegin 4
  let messageID ← load64 bufferBegin 8
  let messageLength ← load64 bufferBegin 16
  return {
    chunkLength, chunkX, messageID, messageLength
    data := ⟨bufferBegin, maxChunkHeaderSize, contentLength chunkLength maxChunkHeaderSize⟩ }

/-- The choice `asyncReadCallback` makes between the two readers. -/
def readChunkHeader (version : VSTVersion) (bufferBegin : Pointer) : Loading ChunkHeader :=
  match version with
  | .vst1_0 => readChunkHeaderVST1_0 bufferBegin
  | .vst1_1 => readChunkHeaderVST1_1 bufferBegin

/-- One round of the loop of `asyncReadCallback`: what was available at the
cursor, the chunk handed to `processChunk`, and the loads up to there. -/
structure Iteration where
  available : Nat
  chunk : ChunkHeader
  loads : List Access

/-- Test for a complete chunk, read its header and consume it; with all loads, also
those of a test that fails. -/
def findChunk (version : VSTVersion) (behind : Pointer) (receiveBuffer : List UInt8) :
    Option (Iteration × List UInt8) × List Access :=
  let cursor := Pointer.ofList receiveBuffer behind
  let available := receiveBuffer.length
  let complete := isChunkComplete cursor available []
  if complete.1 = 0 then (none, complete.2)
  else
    let read := readChunkHeader version cursor complete.2
    (some (⟨available, read.1, read.2⟩, receiveBuffer.drop read.1.chunkLength.toNat), read.2)

def nextChunk (version : VSTVersion) (behind : Pointer) (receiveBuffer : List UInt8) :
    Option (Iteration × List UInt8) :=
  (findChunk version behind receiveBuffer).1

/-- The loop of `asyncReadCallback` over the accumulated receive buffer. -/
def parseLoop (version : VSTVersion) (behind : Pointer) (receiveBuffer : List UInt8) :
    List Iteration × List UInt8 :=
  Framing.drain (nextChunk version behind) receiveBuffer.length receiveBuffer

/-- The loop after each of several reads. -/
def receive (version : VSTVersion) (behind : Pointer) (reads : List (List UInt8)) :
    List Iteration × List UInt8 :=
  Framing.feed (nextChunk version behind) [] reads

/-! ## What the functions return -/

def lengthField (p : Pointer) : UInt32 := word32 p

def chunkXField (p : Pointer) : UInt32 := word32 (p.add 4)

/-- The header length that version and first-chunk word call for. -/
def headerLength (version : VSTVersion) (chunkX : UInt32) : Nat :=
  match version with
  | .vst1_0 => if chunkX &&& 1 = 1 ∧ chunkX >>> 1 > 1 then maxChunkHeaderSize else minChunkHeaderSize
  | .vst1_1 => maxChunkHeaderSize

theorem isChunkComplete_eq (p : Pointer) (available : Nat) (loads : List Access) :
    isChunkComplete p available loads =
      if available < 4 then (0, loads)
      else if available < (lengthField p).toNat then (0, loads ++ [⟨0, 4⟩])
      else ((lengthField p).toNat, loads ++ [⟨0, 4⟩]) := by
  unfold isChunkComplete
  split
  · rfl
  · change (if available < (lengthField p).toNat then (pure 0 : Loading Nat)
      else pure (lengthField p).toNat) (loads ++ [⟨0, 4⟩]) = _
    split <;> rfl

/-- The header fields a reader loads. -/
def headerLoads (version : VSTVersion) (chunkX : UInt32) : List Access :=
  ⟨0, 4⟩ :: ⟨4, 4⟩ :: ⟨8, 8⟩ ::
    if headerLength version chunkX = maxChunkHeaderSize then [⟨16, 8⟩] else []

def headerAt (version : VSTVersion) (p : Pointer) : ChunkHeader :=
  let hdrLen := headerLength version (chunkXField p)
  { chunkLength := lengthField p
    chunkX := chunkXField p
    messageID := word64 (p.add 8)
    messageLength := if hdrLen = maxChunkHeaderSize then word64 (p.add 16) else 0
    data := ⟨p, hdrLen, contentLength (lengthField p) hdrLen⟩ }

theorem pure_apply {α : Type} (a : α) (loads : List Access) :
    (pure a : Loading α) loads = (a, loads) := rfl

theorem readChunkHeader_eq (version : VSTVersion) (p : Pointer) (loads : List Access) :
    readChunkHeader version p loads =
      (headerAt version p, loads ++ headerLoads version (chunkXField p)) := by
  cases version with
  | vst1_0 =>
    by_cases h : chunkXField p &&& 1 = 1 ∧ chunkXField p >>> 1 > 1
    · have hLength : headerLength .vst1_0 (chunkXField p) = maxChunkHeaderSize := if_pos h
      simp only [headerAt, headerLoads, hLength]
      simp only [chunkXField] at h
      simp only [readChunkHeader, readChunkHeaderVST1_0, load32, load64, bind, StateT.bind, if_pos h,
        Pointer.add_zero, chunkXField, lengthField]
      simp [pure_apply]
    · have hLength : headerLength .vst1_0 (chunkXField p) = minChunkHeaderSize := if_neg h
      simp only [headerAt, headerLoads, hLength]
      simp only [chunkXField] at h
      simp only [readChunkHeader, readChunkHeaderVST1_0, load32, load64, bind, StateT.bind, if_neg h,
        Pointer.add_zero, chunkXField, lengthField]
      simp [pure_apply, minChunkHeaderSize, maxChunkHeaderSize]
  | vst1_1 =>
    simp only [readChunkHeader, readChunkHeaderVST1_1, load32, load64, bind, StateT.bind,
      Pointer.add_zero, headerAt, headerLoads, headerLength, chunkXField, lengthField]
    simp [pure_apply]

/-- The chunk that starts a buffer is complete: its length is there and positive. -/
def Complete (p : Pointer) (available : Nat) : Prop :=
  4 ≤ available ∧ 0 < (lengthField p).toNat ∧ (lengthField p).toNat ≤ available

theorem isChunkComplete_of_complete {p : Pointer} {available : Nat} (h : Complete p available)
    (loads : List Access) :
    isChunkComplete p available loads = ((lengthField p).toNat, loads ++ [⟨0, 4⟩]) := by
  rw [isChunkComplete_eq, if_neg (Nat.not_lt.mpr h.1), if_neg (Nat.not_lt.mpr h.2.2)]

theorem isChunkComplete_of_not_complete {p : Pointer} {available : Nat}
    (h : ¬ Complete p available) (loads : List Access) : (isChunkComplete p available loads).1 = 0 := by
  rw [isChunkComplete_eq]
  split
  · rfl
  · split
    · rfl
    · simp only [Complete] at h
      dsimp only
      omega

/-- What `nextChunk` finds at the start of a buffer with a complete chunk. -/
def iterationAt (version : VSTVersion) (behind : Pointer) (buffer : List UInt8) : Iteration :=
  let cursor := Pointer.ofList buffer behind
  ⟨buffer.length, headerAt version cursor, ⟨0, 4⟩ :: headerLoads version (chunkXField cursor)⟩

theorem nextChunk_of_complete {version : VSTVersion} {behind : Pointer} {buffer : List UInt8}
    (h : Complete (Pointer.ofList buffer behind) buffer.length) :
    nextChunk version behind buffer = some (iterationAt version behind buffer,
      buffer.drop (lengthField (Pointer.ofList buffer behind)).toNat) := by
  unfold nextChunk findChunk
  dsimp only
  rw [isChunkComplete_of_complete h, if_neg (Nat.ne_of_gt h.2.1), readChunkHeader_eq]
  rfl

theorem nextChunk_of_not_complete {version : VSTVersion} {behind : Pointer} {buffer : List UInt8}
    (h : ¬ Complete (Pointer.ofList buffer behind) buffer.length) :
    nextChunk version behind buffer = none := by
  rw [nextChunk, findChunk, if_pos (isChunkComplete_of_not_complete h [])]

theorem shrinking_nextChunk (version : VSTVersion) (behind : Pointer) :
    Framing.Shrinking (nextChunk version behind) := by
  intro buffer iteration rest h
  by_cases hComplete : Complete (Pointer.ofList buffer behind) buffer.length
  · rw [nextChunk_of_complete hComplete] at h
    cases h
    have := hComplete.2
    rw [List.length_drop]
    omega
  · rw [nextChunk_of_not_complete hComplete] at h
    cases h

end Fuerte.Vst

import Fuerte.VelocyPack
import Fuerte.Library.Sorting

/-! # Chunks and their headers

A message travels as a list of chunks. The first chunk announces their number,
every other one carries its index. Version 1.0 leaves the message length out of
the header wherever the receiver does not need it.
-/

namespace Fuerte.Vst

set_option autoImplicit false

open ByteMemory

def minChunkHeaderSize : Nat := 16

def maxChunkHeaderSize : Nat := 24

def defaultMaxChunkSize : Nat := 30000

/-- Fields the source leaves unset are zero here; nothing reads them. -/
structure ChunkHeader where
  chunkLength : UInt32 := 0
  chunkX : UInt32
  messageID : UInt64
  messageLength : UInt64 := 0
  data : ConstBuffer
  responseChunkContentOffset : Nat := 0
  responseContentLength : Nat := 0

namespace ChunkHeader

def isFirst (chunk : ChunkHeader) : Bool := chunk.chunkX &&& 1 == 1

def index (chunk : ChunkHeader) : UInt32 :=
  if chunk.chunkX &&& 1 == 1 then 0 else chunk.chunkX >>> 1

def numberOfChunks (chunk : ChunkHeader) : UInt32 :=
  if chunk.chunkX &&& 1 == 1 then chunk.chunkX >>> 1 else 0

/-- The key that `chunkByIndex` compares. -/
def key (chunk : ChunkHeader) : Nat := chunk.index.toNat

/-- The bytes that `writeHeaderToVST1_0` appends to the buffer. -/
def writeHeaderToVST1_0 (chunk : ChunkHeader) : List UInt8 :=
  let extended := chunk.isFirst && 1 < chunk.numberOfChunks
  let hdrLength := if extended then maxChunkHeaderSize else minChunkHeaderSize
  bytes32 (UInt32.ofNat (hdrLength + chunk.data.size)) ++ bytes32 chunk.chunkX ++
    bytes64 chunk.messageID ++ if extended then bytes64 chunk.messageLength else []

/-- The bytes that `writeHeaderToVST1_1` appends to the buffer. -/
def writeHeaderToVST1_1 (chunk : ChunkHeader) : List UInt8 :=
  bytes32 (UInt32.ofNat (maxChunkHeaderSize + chunk.data.size)) ++ bytes32 chunk.chunkX ++
    bytes64 chunk.messageID ++ bytes64 chunk.messageLength

/-- The choice `prepareForNetwork` makes between the two writers. -/
def writeHeader (version : VSTVersion) (chunk : ChunkHeader) : List UInt8 :=
  match version with
  | .vst1_0 => chunk.writeHeaderToVST1_0
  | .vst1_1 => chunk.writeHeaderToVST1_1

/-- A chunk as it travels: header and data. -/
def encode (version : VSTVersion) (chunk : ChunkHeader) : List UInt8 :=
  chunk.writeHeader version ++ chunk.data.bytes

theorem isFirst_iff (chunk : ChunkHeader) : chunk.isFirst = true ↔ chunk.chunkX.toNat % 2 = 1 := by
  rw [isFirst, beq_iff_eq, ← UInt32.toNat_inj, UInt32.toNat_and]
  exact Iff.of_eq (congrArg (· = 1) (Nat.and_one_is_mod _))

theorem key_of_isFirst {chunk : ChunkHeader} (h : chunk.isFirst = true) : chunk.key = 0 := by
  rw [isFirst] at h
  rw [key, index, if_pos h]
  rfl

theorem key_of_not_isFirst {chunk : ChunkHeader} (h : chunk.isFirst = false) :
    chunk.key = chunk.chunkX.toNat / 2 := by
  rw [isFirst] at h
  rw [key, index, if_neg (by simp [h]), UInt32.toNat_shiftRight]
  exact Nat.shiftRight_eq_div_pow _ 1

theorem numberOfChunks_of_isFirst {chunk : ChunkHeader} (h : chunk.isFirst = true) :
    chunk.numberOfChunks.toNat = chunk.chunkX.toNat / 2 := by
  rw [isFirst] at h
  rw [numberOfChunks, if_pos h, UInt32.toNat_shiftRight]
  exact Nat.shiftRight_eq_div_pow _ 1

end ChunkHeader

/-- What the driver takes from the libraries it is linked with: velocypack, and
a `std::sort` that promises no order among chunks of equal index. -/
structure Platform where
  vpack : VelocyPack
  sort : Sorting.KeySort ChunkHeader.key
  /-- Whether `assert` is compiled in. -/
  assertions : Bool
  /-- The memory behind the receive buffers. -/
  behind : Pointer
  /-- What a `size_t` that nobody has set holds. -/
  uninitialised : Nat

end Fuerte.Vst

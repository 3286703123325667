import Fuerte.Vst.Receive

/-! # Framing of arbitrary server bytes

`isChunkComplete` compares the announced length with what has been received, but
nothing compares it with the header that is read next. The loop is safe on
exactly the buffers whose announced lengths leave room for their headers.
-/

namespace Fuerte.Vst

set_option autoImplicit false

open ByteMemory

theorem headerLength_cases (version : VSTVersion) (chunkX : UInt32) :
    headerLength version chunkX = 16 ∨ headerLength version chunkX = 24 := by
  cases version with
  | vst1_0 =>
    simp only [headerLength]
    split
    · exact .inr rfl
    · exact .inl rfl
  | vst1_1 => exact .inr rfl

theorem contentLength_of_le {chunkLength : UInt32} {hdrLen : Nat}
    (h : hdrLen ≤ chunkLength.toNat) :
    contentLength chunkLength hdrLen = chunkLength.toNat - hdrLen := by
  have hLt := chunkLength.toNat_lt
  have hHeader : (UInt64.ofNat hdrLen).toNat = hdrLen := by
    rw [UInt64.toNat_ofNat']
    omega
  have hLe : UInt64.ofNat hdrLen ≤ chunkLength.toUInt64 := by
    rw [UInt64.le_iff_toNat_le, hHeader, UInt32.toNat_toUInt64]
    exact h
  rw [contentLength, UInt64.toNat_sub_of_le _ _ hLe, hHeader, UInt32.toNat_toUInt64]

end Fuerte.Vst

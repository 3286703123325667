import Fuerte.Message

/-! # Adding a payload to a request

A payload is velocypack or binary, never both. Calls that come too late throw for
velocypack and do nothing for binary data.
-/

namespace Fuerte

set_option autoImplicit false

open ByteMemory

/-- The library's `Buffer`, as far as it is reset: it gets the size asked for, and
the bytes that it had within that size stay. -/
structure BufferLibrary where
  resetTo : List UInt8 → Nat → List UInt8
  length_resetTo (bytes : List UInt8) (size : Nat) : (resetTo bytes size).length = size
  take_resetTo (bytes : List UInt8) (size : Nat) :
    (resetTo bytes size).take bytes.length = bytes.take size

namespace BufferLibrary

theorem resetTo_length (buffers : BufferLibrary) (bytes : List UInt8) :
    buffers.resetTo bytes bytes.length = bytes := by
  have hKept := buffers.take_resetTo bytes bytes.length
  have hSame := Nat.le_of_eq (buffers.length_resetTo bytes bytes.length)
  rwa [List.take_length, List.take_of_length_le hSame] at hKept

/-- A buffer that grows has what its memory held before. -/
def ofMemory (behind : Pointer) : BufferLibrary where
  resetTo bytes size := bytes.take size ++ behind.read (size - bytes.length)
  length_resetTo bytes size := by
    simp only [List.length_append, List.length_take, Pointer.length_read]
    omega
  take_resetTo bytes size := by
    rcases Nat.le_total size bytes.length with hLess | hMore
    · rw [Nat.sub_eq_zero_of_le hLess, Pointer.read, List.range_zero, List.map_nil, List.append_nil]
      exact List.take_of_length_le (by simp [hLess])
    · rw [List.take_of_length_le hMore, List.take_left]

theorem resetTo_ofMemory (behind : Pointer) (bytes : List UInt8) (size : Nat) :
    (ofMemory behind).resetTo bytes size = bytes.take size ++ behind.read (size - bytes.length) :=
  rfl

/-- All memory is zero. -/
def zeroed : BufferLibrary := ofMemory fun _ => 0

end BufferLibrary

namespace Request

section Operations

variable (vpack : VelocyPack) (buffers : BufferLibrary)

/-- A request right after its construction. -/
def ofHeader (header : MessageHeader) : Request where
  header := { header with type := some .request }

/-- `addVPack(VSlice const&)`, for a slice that starts at this memory. -/
def addVPackSlice (memory : List UInt8) (request : Request) : Except Fault Request :=
  if request.sealed || request.isVpack == some false then
    .error (.logicError "Message is sealed or of wrong type (vst/binary)")
  else do
    let header ← request.header.contentType .vpack
    let payloadLength := request.payloadLength + vpack.byteSize memory
    return { request with
      builder := true
      header
      isVpack := some true
      modified := true
      payload := buffers.resetTo (request.payload ++ memory.take (vpack.byteSize memory)) payloadLength
      payloadLength }

/-- The loop of `addVPack(VBuffer const&)`. The size it goes on by is that of the
last slice in `_slices`, which it does not add to. -/
def addSlices (sliceSize : Nat) : Nat → List UInt8 → Request → Except Fault Request
  | 0, _, request => .ok request
  | fuel + 1, cursor, request =>
    if cursor.length = 0 then .ok request
    else
      let payload := request.payload ++ cursor.take (vpack.byteSize cursor)
      if cursor.length < sliceSize then .error (.logicError "invalid buffer")
      else if sliceSize = 0 then .error .diverges
      else
        let payloadLength := request.payloadLength + sliceSize
        addSlices sliceSize fuel (cursor.drop sliceSize)
          { request with payload := buffers.resetTo payload payloadLength, payloadLength }

/-- `addVPack(VBuffer const&)`. -/
def addVPackBuffer (buffer : List UInt8) (request : Request) : Except Fault Request :=
  if request.sealed || request.isVpack == some false then
    .error (.logicError "Message is sealed or of wrong type (vst/binary)")
  else do
    let header ← request.header.contentType .vpack
    let request :=
      { request with isVpack := some true, header, modified := true, builder := true }
    if buffer.length = 0 then return request
    else
      match request.sliceCache.getLast? with
      | none => throw .outOfBounds
      | some last => addSlices vpack buffers last.byteSize buffer.length buffer request

/-- `addVPack(VBuffer&&)`. -/
def addVPackMoved (buffer : List UInt8) (request : Request) : Except Fault Request :=
  if request.sealed || request.isVpack.isSome then
    .error (.logicError "Message is sealed or of wrong type (vst/binary)")
  else do
    let header ← request.header.contentType .vpack
    let payloadLength := request.payloadLength + buffer.length
    return { request with
      header
      isVpack := some true
      sealed := true
      modified := true
      payload := buffers.resetTo buffer payloadLength
      payloadLength }

def addBinary (data : List UInt8) (request : Request) : Request :=
  if request.sealed || request.isVpack == some true then request
  else
    let payloadLength := request.payloadLength + data.length
    { request with
      isVpack := some false
      modified := true
      payload := buffers.resetTo (request.payload ++ data) payloadLength
      payloadLength }

def addBinarySingle (buffer : List UInt8) (request : Request) : Request :=
  if request.sealed || request.isVpack == some true then request
  else
    let payloadLength := request.payloadLength + buffer.length
    { request with
      isVpack := some false
      sealed := true
      modified := true
      payload := buffers.resetTo buffer payloadLength
      payloadLength }

end Operations

/-- `Request::payload`. -/
def payloadBuffer (request : Request) : ConstBuffer :=
  ⟨Pointer.ofList request.payload fun _ => 0, 0, request.payloadLength⟩

/-- What `payload` hands out is the stored payload if its length is right. -/
theorem bytes_payloadBuffer {request : Request}
    (h : request.payloadLength = request.payload.length) :
    request.payloadBuffer.bytes = request.payload := by
  rw [ConstBuffer.bytes, payloadBuffer, h]
  exact ConstBuffer.bytes_ofList request.payload

end Request

/-! ## Sequences of calls -/

inductive PayloadCall where
  | addVPackSlice (memory : List UInt8)
  | addVPackBuffer (buffer : List UInt8)
  | addVPackMoved (buffer : List UInt8)
  | addBinary (data : List UInt8)
  | addBinarySingle (buffer : List UInt8)

theorem VelocyPack.IsValue.length_take {vpack : VelocyPack} {memory : List UInt8}
    (h : vpack.IsValue (memory.take (vpack.byteSize memory))) :
    (memory.take (vpack.byteSize memory)).length = vpack.byteSize memory := by
  have hDeclared := h.2 (memory.drop (vpack.byteSize memory))
  rw [List.take_append_drop] at hDeclared
  exact hDeclared.symm

theorem VelocyPack.values_eq_nil {vpack : VelocyPack} {values : List (List UInt8)}
    (hValues : ∀ value ∈ values, vpack.IsValue value) (h : values.flatten = []) : values = [] := by
  cases values with
  | nil => rfl
  | cons value values =>
    exact absurd (List.append_eq_nil_iff.mp h).1 (hValues value List.mem_cons_self).1

/-- What is passed as velocypack is velocypack. -/
def PayloadCall.Valid (vpack : VelocyPack) : PayloadCall → Prop
  | .addVPackSlice memory => vpack.IsValue (memory.take (vpack.byteSize memory))
  | .addVPackBuffer buffer => vpack.AreValues buffer
  | .addVPackMoved buffer => vpack.AreValues buffer
  | .addBinary _ => True
  | .addBinarySingle _ => True

namespace Request

def call (vpack : VelocyPack) (buffers : BufferLibrary) (request : Request) :
    PayloadCall → Except Fault Request
  | .addVPackSlice memory => request.addVPackSlice vpack buffers memory
  | .addVPackBuffer buffer => request.addVPackBuffer vpack buffers buffer
  | .addVPackMoved buffer => request.addVPackMoved buffers buffer
  | .addBinary data => .ok (request.addBinary buffers data)
  | .addBinarySingle buffer => .ok (request.addBinarySingle buffers buffer)

/-- The requests that accepted calls lead to. What is passed as velocypack is velocypack. -/
inductive Built (vpack : VelocyPack) (buffers : BufferLibrary) : Request → Prop
  | ofHeader (header : MessageHeader) : Built vpack buffers (ofHeader header)
  | call {request result : Request} (c : PayloadCall) : Built vpack buffers request →
      c.Valid vpack → request.call vpack buffers c = .ok result → Built vpack buffers result

/-- The length is that of the payload, no slices have been cut, and the payload
is of its kind. -/
structure Uncut (vpack : VelocyPack) (request : Request) : Prop where
  length : request.payload.length = request.payloadLength
  modified : request.modified = true
  sliceCache : request.sliceCache = []
  empty : request.isVpack = none → request.payload = []
  values : request.isVpack = some true → vpack.AreValues request.payload

variable {vpack : VelocyPack} {buffers : BufferLibrary} {request result : Request}

theorem Uncut.of_binary {sealed : Bool} {payload : List UInt8} {payloadLength : Nat}
    (h : request.Uncut vpack) :
    { request with
      isVpack := some false
      sealed
      modified := true
      payload := buffers.resetTo payload payloadLength
      payloadLength : Request }.Uncut vpack :=
  ⟨buffers.length_resetTo _ _, rfl, h.sliceCache, nofun, nofun⟩

theorem Uncut.areValues (h : request.Uncut vpack) (hKind : request.isVpack ≠ some false) :
    vpack.AreValues request.payload := by
  cases hVpack : request.isVpack with
  | none =>
    rw [h.empty hVpack]
    exact ⟨[], fun _ hMem => absurd hMem List.not_mem_nil, rfl⟩
  | some kind =>
    cases kind with
    | false => exact absurd hVpack hKind
    | true => exact h.values hVpack

theorem Uncut.addVPackSlice (h : request.Uncut vpack) {memory : List UInt8}
    (hValue : vpack.IsValue (memory.take (vpack.byteSize memory)))
    (hCall : request.addVPackSlice vpack buffers memory = .ok result) : result.Uncut vpack := by
  rw [Request.addVPackSlice] at hCall
  split at hCall
  · cases hCall
  · rename_i hAllowed
    simp only [Bool.or_eq_true, beq_iff_eq, not_or] at hAllowed
    obtain ⟨header, -, hCall⟩ := exists_of_bind_ok hCall
    cases hCall
    refine ⟨buffers.length_resetTo _ _, rfl, h.sliceCache, nofun, fun _ => ?_⟩
    obtain ⟨values, hValues, hPayload⟩ := h.areValues hAllowed.2
    have hSize := hValue.length_take
    have hLength : request.payloadLength + vpack.byteSize memory =
        (request.payload ++ memory.take (vpack.byteSize memory)).length := by
      rw [List.length_append, hSize, h.length]
    refine ⟨values ++ [memory.take (vpack.byteSize memory)], ?_, ?_⟩
    · intro value hMem
      rcases List.mem_append.mp hMem with hMem | hMem
      · exact hValues value hMem
      · rw [List.mem_singleton.mp hMem]
        exact hValue
    · rw [hLength, buffers.resetTo_length, List.flatten_append, hPayload, List.flatten_singleton]

theorem Uncut.addVPackBuffer (h : request.Uncut vpack) {buffer : List UInt8}
    (hCall : request.addVPackBuffer vpack buffers buffer = .ok result) : result.Uncut vpack := by
  rw [Request.addVPackBuffer] at hCall
  split at hCall
  · cases hCall
  · rename_i hAllowed
    simp only [Bool.or_eq_true, beq_iff_eq, not_or] at hAllowed
    obtain ⟨header, -, hCall⟩ := exists_of_bind_ok hCall
    split at hCall
    · cases hCall
      exact ⟨h.length, rfl, h.sliceCache, nofun,
        fun _ => h.areValues hAllowed.2⟩
    · rw [h.sliceCache] at hCall
      cases hCall

theorem Uncut.addVPackMoved (h : request.Uncut vpack) {buffer : List UInt8}
    (hValues : vpack.AreValues buffer)
    (hCall : request.addVPackMoved buffers buffer = .ok result) : result.Uncut vpack := by
  rw [Request.addVPackMoved] at hCall
  split at hCall
  · cases hCall
  · rename_i hAllowed
    simp only [Bool.or_eq_true, not_or] at hAllowed
    obtain ⟨header, -, hCall⟩ := exists_of_bind_ok hCall
    cases hCall
    refine ⟨buffers.length_resetTo _ _, rfl, h.sliceCache, nofun, fun _ => ?_⟩
    have hEmpty := h.empty (Option.not_isSome_iff_eq_none.mp hAllowed.2)
    have hLength : request.payloadLength = 0 := by rw [← h.length, hEmpty]; rfl
    rw [hLength, Nat.zero_add, buffers.resetTo_length]
    exact hValues

theorem Uncut.call (h : request.Uncut vpack) (c : PayloadCall) (hValid : c.Valid vpack)
    (hCall : request.call vpack buffers c = .ok result) : result.Uncut vpack := by
  cases c with
  | addVPackSlice memory => exact h.addVPackSlice hValid hCall
  | addVPackBuffer buffer => exact h.addVPackBuffer hCall
  | addVPackMoved buffer => exact h.addVPackMoved hValid hCall
  | addBinary data =>
    simp only [Request.call, addBinary] at hCall
    split at hCall
    · cases hCall
      exact h
    · cases hCall
      exact h.of_binary
  | addBinarySingle buffer =>
    simp only [Request.call, addBinarySingle] at hCall
    split at hCall
    · cases hCall
      exact h
    · cases hCall
      exact h.of_binary

theorem Uncut.bytes_payloadBuffer (h : request.Uncut vpack) :
    request.payloadBuffer.bytes = request.payload := Request.bytes_payloadBuffer h.length.symm

theorem Built.uncut (h : Built vpack buffers request) : request.Uncut vpack := by
  induction h with
  | ofHeader header => exact ⟨rfl, rfl, rfl, fun _ => rfl, nofun⟩
  | call c _ hValid hCall ih => exact ih.call c hValid hCall

end Request

/-! ## Payloads that can be cut -/

/-- Each value has the length that velocypack reads at its start. -/
inductive Tiled (vpack : VelocyPack) : List UInt8 → Prop
  | nil : Tiled vpack []
  | cons {value rest : List UInt8} : value ≠ [] → vpack.byteSize (value ++ rest) = value.length →
      Tiled vpack rest → Tiled vpack (value ++ rest)

section Cutting

variable {vpack : VelocyPack} {buffers : BufferLibrary}

theorem Tiled.cut {payload : List UInt8} (h : Tiled vpack payload) (fuel : Nat)
    (hFuel : payload.length ≤ fuel) (found : List VSlice) :
    ∃ slices, splitSlices vpack fuel payload found = (slices, none) := by
  induction h generalizing fuel found with
  | nil => exact ⟨found, by cases fuel <;> rfl⟩
  | @cons value rest hNonempty hSize _ ih =>
    have hPos : 0 < value.length := List.length_pos_iff.mpr hNonempty
    rw [List.length_append] at hFuel
    obtain ⟨fuel, rfl⟩ : ∃ less, fuel = less + 1 := ⟨fuel - 1, by omega⟩
    have hLength : (value ++ rest).length ≠ 0 := by rw [List.length_append]; omega
    have hWithin : ¬ (value ++ rest).length < value.length := by rw [List.length_append]; omega
    simp only [splitSlices, if_neg hLength, hSize, if_neg hWithin,
      if_neg (Nat.ne_of_gt hPos), List.drop_left]
    exact ih fuel (by omega) _

theorem Tiled.of_cut (fuel : Nat) (payload : List UInt8) (found slices : List VSlice)
    (hFuel : payload.length ≤ fuel) (h : splitSlices vpack fuel payload found = (slices, none)) :
    Tiled vpack payload := by
  induction fuel generalizing payload found with
  | zero =>
    rw [List.length_eq_zero_iff.mp (Nat.le_zero.mp hFuel)]
    exact .nil
  | succ fuel ih =>
    rw [splitSlices] at h
    split at h
    · rename_i hLength
      rw [List.length_eq_zero_iff.mp hLength]
      exact .nil
    · dsimp only at h
      split at h
      · cases h
      · rename_i hWithin
        split at h
        · cases h
        · rename_i hPos
          have hRest := ih (payload.drop (vpack.byteSize payload)) _
            (by rw [List.length_drop]; omega) h
          have hTake : (payload.take (vpack.byteSize payload)).length = vpack.byteSize payload :=
            List.length_take_of_le (by omega)
          rw [← List.take_append_drop (vpack.byteSize payload) payload]
          refine .cons ?_ ?_ hRest
          · intro hEmpty
            rw [hEmpty, List.length_nil] at hTake
            exact hPos hTake.symm
          · rw [List.take_append_drop, hTake]

theorem VelocyPack.AreValues.tiled {bytes : List UInt8} (h : vpack.AreValues bytes) :
    Tiled vpack bytes := by
  obtain ⟨values, hValues, rfl⟩ := h
  induction values with
  | nil => exact .nil
  | cons value values ih =>
    obtain ⟨hNonempty, hSize⟩ := hValues value List.mem_cons_self
    rw [List.flatten_cons]
    exact .cons hNonempty (hSize _) (ih fun v hv => hValues v (List.mem_cons_of_mem _ hv))

end Cutting

end Fuerte

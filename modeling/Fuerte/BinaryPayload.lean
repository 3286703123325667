import Fuerte.RequestPayload

/-! # Binary payloads

One call appends to the payload, the other replaces it, and both add to its
length. A buffer that is shorter than its length ends in bytes nobody supplied.
-/

namespace Fuerte

set_option autoImplicit false

open ByteMemory

inductive BinaryCall where
  | addBinary (data : List UInt8)
  | addBinarySingle (buffer : List UInt8)

namespace BinaryCall

def bytes : BinaryCall → List UInt8
  | addBinary data => data
  | addBinarySingle buffer => buffer

def isSingle : BinaryCall → Bool
  | addBinary _ => false
  | addBinarySingle _ => true

end BinaryCall

namespace Request

def binaryCall (buffers : BufferLibrary) (request : Request) : BinaryCall → Request
  | .addBinary data => request.addBinary buffers data
  | .addBinarySingle buffer => request.addBinarySingle buffers buffer

/-- Both calls return at once if the request does not accept binary data. -/
def acceptsBinary (request : Request) : Bool := !(request.sealed || request.isVpack == some true)

/-- The request after some calls, and the bytes of the accepted ones. -/
def binaryCalls (buffers : BufferLibrary) : Request → List BinaryCall → Request × List UInt8
  | request, [] => (request, [])
  | request, c :: calls =>
    let (result, supplied) := binaryCalls buffers (request.binaryCall buffers c) calls
    (result, if request.acceptsBinary then c.bytes ++ supplied else supplied)

/-- The payload is what has been supplied, and its length is known. -/
structure PayloadIs (request : Request) (supplied : List UInt8) : Prop where
  payload : request.payloadBuffer.bytes = supplied
  stored : request.payloadLength = request.payload.length
  length : request.payloadLength = supplied.length

/-- The request accepts binary data, and has stored these bytes. -/
structure Stores (request : Request) (stored : List UInt8) : Prop where
  accepts : request.acceptsBinary = true
  payload : request.payload = stored
  length : request.payloadLength = stored.length

section Calls

variable {buffers : BufferLibrary} {request : Request} {stored : List UInt8}

theorem Stores.payloadIs (h : request.Stores stored) : request.PayloadIs stored := by
  have hLength : request.payloadLength = request.payload.length := by rw [h.length, h.payload]
  exact ⟨(bytes_payloadBuffer hLength).trans h.payload, hLength, h.length⟩

theorem not_refused (h : request.acceptsBinary = true) :
    ¬(request.sealed || request.isVpack == some true) = true := by
  simpa [acceptsBinary] using h

theorem binaryCall_of_refused (h : request.acceptsBinary = false) (c : BinaryCall) :
    request.binaryCall buffers c = request := by
  have hRefused : (request.sealed || request.isVpack == some true) = true := by
    simpa only [acceptsBinary, Bool.not_eq_false'] using h
  cases c with
  | addBinary data => rw [binaryCall, Request.addBinary, if_pos hRefused]
  | addBinarySingle buffer => rw [binaryCall, Request.addBinarySingle, if_pos hRefused]

theorem binaryCalls_of_refused (h : request.acceptsBinary = false) (calls : List BinaryCall) :
    request.binaryCalls buffers calls = (request, []) := by
  induction calls with
  | nil => rfl
  | cons c calls ih =>
    rw [binaryCalls, binaryCall_of_refused h, ih, h]
    rfl

theorem binaryCalls_cons (buffers : BufferLibrary) (h : request.acceptsBinary = true)
    (c : BinaryCall) (calls : List BinaryCall) : request.binaryCalls buffers (c :: calls) =
      (((request.binaryCall buffers c).binaryCalls buffers calls).1,
        c.bytes ++ ((request.binaryCall buffers c).binaryCalls buffers calls).2) := by
  rw [binaryCalls]
  simp only [h, if_true]

theorem Stores.addBinary (h : request.Stores stored) (data : List UInt8) :
    (request.addBinary buffers data).Stores (stored ++ data) := by
  have hOpen := not_refused h.accepts
  have hLength : request.payloadLength + data.length = (request.payload ++ data).length := by
    rw [List.length_append, h.length, h.payload]
  rw [Request.addBinary, if_neg hOpen]
  refine ⟨?_, ?_, ?_⟩
  · simp only [Bool.or_eq_true, not_or] at hOpen
    simp [acceptsBinary, Bool.eq_false_iff.mpr hOpen.1]
  · dsimp only
    rw [hLength, buffers.resetTo_length, h.payload]
  · dsimp only
    rw [h.length, List.length_append]

/-- What replaces the payload is reset to the length of both. -/
theorem Stores.addBinarySingle (h : request.Stores stored) (buffers : BufferLibrary)
    (buffer : List UInt8) :
    (request.addBinarySingle buffers buffer).acceptsBinary = false ∧
      (request.addBinarySingle buffers buffer).payload =
        buffers.resetTo buffer (stored.length + buffer.length) ∧
      (request.addBinarySingle buffers buffer).payloadLength = stored.length + buffer.length := by
  rw [Request.addBinarySingle, if_neg (not_refused h.accepts)]
  dsimp only
  rw [h.length]
  exact ⟨rfl, rfl, rfl⟩

/-- Nothing can be relied on in a buffer that grows. -/
theorem eq_nil_of_forall_resetTo {buffer : List UInt8}
    (h : ∀ buffers : BufferLibrary,
      buffers.resetTo buffer (stored.length + buffer.length) = stored ++ buffer) : stored = [] := by
  have hGrown (behind : Pointer) :
      (BufferLibrary.ofMemory behind).resetTo buffer (stored.length + buffer.length) =
        buffer ++ behind.read stored.length := by
    rw [BufferLibrary.resetTo_ofMemory, Nat.add_sub_cancel,
      List.take_of_length_le (Nat.le_add_left _ _)]
  have hSame :
      Pointer.read (fun _ => 0) stored.length = Pointer.read (fun _ => 1) stored.length := by
    have hZeros := (hGrown fun _ => 0).symm.trans (h _)
    have hOnes := (hGrown fun _ => 1).symm.trans (h _)
    exact List.append_cancel_left (hZeros.trans hOnes.symm)
  cases stored with
  | nil => rfl
  | cons b stored =>
    have hHead := congrArg (fun l => l[0]?) hSame
    simp [Pointer.read] at hHead

/-- However buffers grow, the payload stays what is supplied, if and only if
nothing has been supplied when the first `addBinarySingle` comes. -/
theorem Stores.binaryCalls_iff {stored : List UInt8} (calls : List BinaryCall)
    {start : BufferLibrary → Request} (h : ∀ buffers, (start buffers).Stores stored) :
    (∀ buffers, ((start buffers).binaryCalls buffers calls).1.PayloadIs
        (stored ++ ((start buffers).binaryCalls buffers calls).2)) ↔
      ∀ front buffer back, calls = front ++ .addBinarySingle buffer :: back →
        (∀ c ∈ front, c.isSingle = false) → stored = [] ∧ ∀ c ∈ front, c.bytes = [] := by
  induction calls generalizing stored start with
  | nil =>
    refine iff_of_true (fun buffers => ?_) fun front buffer back hCalls => ?_
    · rw [binaryCalls, List.append_nil]
      exact (h buffers).payloadIs
    · exact absurd hCalls.symm (by simp)
  | cons c calls ih =>
    simp only [fun buffers => binaryCalls_cons buffers (h buffers).accepts c calls,
      ← List.append_assoc]
    cases c with
    | addBinary data =>
      refine (ih fun buffers => (h buffers).addBinary data).trans ?_
      constructor
      · intro hFronts front buffer back hCalls hNoSingle
        cases front with
        | nil => cases hCalls
        | cons first front =>
          obtain ⟨rfl, rfl⟩ := List.cons.inj hCalls
          obtain ⟨hEmpty, hRest⟩ := hFronts front buffer back rfl
            fun c hc => hNoSingle c (List.mem_cons_of_mem _ hc)
          obtain ⟨hStored, hData⟩ := List.append_eq_nil_iff.mp hEmpty
          exact ⟨hStored, List.forall_mem_cons.mpr ⟨hData, hRest⟩⟩
      · rintro hFronts front buffer back rfl hNoSingle
        obtain ⟨hStored, hBytes⟩ := hFronts (.addBinary data :: front) buffer back rfl
          (List.forall_mem_cons.mpr ⟨rfl, hNoSingle⟩)
        obtain ⟨hData, hRest⟩ := List.forall_mem_cons.mp hBytes
        exact ⟨List.append_eq_nil_iff.mpr ⟨hStored, hData⟩, hRest⟩
    | addBinarySingle buffer =>
      have hSingle buffers := (h buffers).addBinarySingle buffers buffer
      have hAfter buffers :
          ((start buffers).binaryCall buffers (.addBinarySingle buffer)).binaryCalls buffers calls = ((start buffers).addBinarySingle buffers buffer, []) :=
        binaryCalls_of_refused (hSingle buffers).1 calls
      have hLength buffers : ((start buffers).addBinarySingle buffers buffer).payloadLength =
          ((start buffers).addBinarySingle buffers buffer).payload.length := by
        rw [(hSingle buffers).2.1, (hSingle buffers).2.2, buffers.length_resetTo]
      simp only [hAfter, List.append_nil]
      constructor
      · intro hPayload front other back hCalls hNoSingle
        cases front with
        | nil =>
          have hRead (buffers : BufferLibrary) :
              buffers.resetTo buffer (stored.length + buffer.length) = stored ++ buffer := by
            rw [← (hSingle buffers).2.1, ← bytes_payloadBuffer (hLength buffers)]
            exact (hPayload buffers).payload
          exact ⟨eq_nil_of_forall_resetTo hRead, by simp⟩
        | cons first front =>
          obtain ⟨rfl, -⟩ := List.cons.inj hCalls
          exact absurd (hNoSingle _ List.mem_cons_self) (by simp [BinaryCall.isSingle])
      · intro hFronts buffers
        obtain ⟨rfl, -⟩ := hFronts [] buffer calls rfl (by simp)
        refine ⟨?_, hLength buffers, (hSingle buffers).2.2.trans (Nat.zero_add _)⟩
        rw [bytes_payloadBuffer (hLength buffers), (hSingle buffers).2.1, List.length_nil,
          Nat.zero_add, buffers.resetTo_length, List.nil_append]
        rfl

end Calls

end Request

/-- No call brings bytes before the first `addBinarySingle`. -/
def SingleFirst (calls : List BinaryCall) : Prop :=
  ∀ front buffer back, calls = front ++ .addBinarySingle buffer :: back →
    (∀ c ∈ front, c.isSingle = false) → ∀ c ∈ front, c.bytes = []

/-- On a fresh request the payload is what was supplied, however buffers grow, if
and only if no call brings bytes before the first `addBinarySingle`. -/
theorem binary_payload (header : MessageHeader) (calls : List BinaryCall) :
    (∀ buffers, ((Request.ofHeader header).binaryCalls buffers calls).1.PayloadIs
      ((Request.ofHeader header).binaryCalls buffers calls).2) ↔ SingleFirst calls := by
  have hFresh : ∀ buffers : BufferLibrary, (Request.ofHeader header).Stores [] :=
    fun _ => ⟨rfl, rfl, rfl⟩
  refine (Request.Stores.binaryCalls_iff calls hFresh).trans ?_
  simp only [SingleFirst, true_and]

/-- The second call replaces what the first one stored. -/
theorem single_after_binary :
    ¬∀ buffers, ((Request.ofHeader {}).binaryCalls buffers
        [.addBinary (ascii "a"), .addBinarySingle (ascii "b")]).1.PayloadIs
      ((Request.ofHeader {}).binaryCalls buffers
        [.addBinary (ascii "a"), .addBinarySingle (ascii "b")]).2 := by
  intro h
  have hPayload := (h .zeroed).payload
  exact absurd hPayload (by decide)

end Fuerte

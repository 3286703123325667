import Fuerte.VPackPayload

/-! # Copies of a request

A request owns its payload buffer. Its builder and its cached slices only point
to a buffer, and a copy of the request gets them as they are.
-/

namespace Fuerte

set_option autoImplicit false

open ByteMemory

abbrev BufferID := Nat

/-- A `VBuffer`: its bytes, how many of them fit before its memory moves, and how
often it has moved. -/
structure VBuffer where
  bytes : List UInt8
  capacity : Nat
  moved : Nat

/-- A `VSlice` in the memory that a buffer had after so many moves. -/
structure SlicePointer where
  buffer : BufferID
  moved : Nat
  offset : Nat

/-- The slices that have been cut from a buffer. -/
def VBuffer.pointers (buffer : VBuffer) (id : BufferID) (found : List VSlice) : List SlicePointer :=
  found.map fun slice => ⟨id, buffer.moved, buffer.bytes.length - slice.memory.length⟩

abbrev BufferStore := BufferID → VBuffer

/-- The library around the buffers: velocypack, its buffers, and the capacity
chosen for a buffer that has to grow. -/
structure BufferPlatform where
  vpack : VelocyPack
  buffers : BufferLibrary
  grow : Nat → Nat → Nat

namespace BufferStore

def append (platform : BufferPlatform) (store : BufferStore) (id : BufferID) (data : List UInt8) :
    BufferStore :=
  let needed := (store id).bytes.length + data.length
  Function.update store id
    (if needed ≤ (store id).capacity then { store id with bytes := (store id).bytes ++ data }
    else ⟨(store id).bytes ++ data, platform.grow (store id).capacity needed, (store id).moved + 1⟩)

def resetTo (platform : BufferPlatform) (store : BufferStore) (id : BufferID) (size : Nat) :
    BufferStore :=
  Function.update store id
    { store id with bytes := platform.buffers.resetTo (store id).bytes size }

/-- What a slice points to, as long as the memory is still there. -/
def memoryAt (store : BufferStore) (pointer : SlicePointer) : Except Fault (List UInt8) :=
  if pointer.moved = (store pointer.buffer).moved then
    .ok ((store pointer.buffer).bytes.drop pointer.offset)
  else .error .outOfBounds

def read (platform : BufferPlatform) (store : BufferStore) (slices : List SlicePointer) :
    Except Fault (List (List UInt8)) :=
  slices.mapM fun pointer => do
    let memory ← store.memoryAt pointer
    return memory.take (platform.vpack.byteSize memory)

end BufferStore

/-- A `Request` as an object in memory. -/
structure RequestObject where
  header : MessageHeader
  /-- `_payload`. -/
  buffer : BufferID
  sealed : Bool := false
  modified : Bool := true
  isVpack : Option Bool := none
  /-- The buffer that `_builder` adds to, once it has been created. -/
  builder : Option BufferID := none
  slices : List SlicePointer := []
  payloadLength : Nat := 0

namespace RequestObject

variable (platform : BufferPlatform)

def addVPackSlice (memory : List UInt8) (store : BufferStore) (object : RequestObject) :
    Except Fault (BufferStore × RequestObject) :=
  if object.sealed || object.isVpack == some false then .error tooLate
  else do
    let builder := object.builder.getD object.buffer
    let header ← object.header.contentType .vpack
    let store := store.append platform builder (memory.take (platform.vpack.byteSize memory))
    let payloadLength := object.payloadLength + platform.vpack.byteSize memory
    return (store.resetTo platform object.buffer payloadLength,
      { object with
        builder := some builder, header, isVpack := some true, modified := true, payloadLength })

/-- The loop of `addVPack(VBuffer const&)`. -/
def addSlices (builder : BufferID) :
    Nat → List UInt8 → BufferStore → RequestObject → Except Fault (BufferStore × RequestObject)
  | 0, _, store, object => .ok (store, object)
  | fuel + 1, cursor, store, object =>
    if cursor.length = 0 then .ok (store, object)
    else do
      let store := store.append platform builder (cursor.take (platform.vpack.byteSize cursor))
      match object.slices.getLast? with
      | none => throw .outOfBounds
      | some last =>
        let memory ← store.memoryAt last
        let sliceSize := platform.vpack.byteSize memory
        if cursor.length < sliceSize then throw (.logicError "invalid buffer")
        else if sliceSize = 0 then throw .diverges
        else
          let payloadLength := object.payloadLength + sliceSize
          addSlices builder fuel (cursor.drop sliceSize)
            (store.resetTo platform object.buffer payloadLength) { object with payloadLength }

def addVPackBuffer (buffer : List UInt8) (store : BufferStore) (object : RequestObject) :
    Except Fault (BufferStore × RequestObject) :=
  if object.sealed || object.isVpack == some false then .error tooLate
  else do
    let header ← object.header.contentType .vpack
    let builder := object.builder.getD object.buffer
    addSlices platform builder buffer.length buffer store
      { object with isVpack := some true, header, modified := true, builder := some builder }

def addVPackMoved (buffer : List UInt8) (store : BufferStore) (object : RequestObject) :
    Except Fault (BufferStore × RequestObject) :=
  if object.sealed || object.isVpack.isSome then .error tooLate
  else do
    let header ← object.header.contentType .vpack
    let payloadLength := object.payloadLength + buffer.length
    let store : BufferStore := Function.update store object.buffer
      ⟨buffer, buffer.length, (store object.buffer).moved + 1⟩
    return (store.resetTo platform object.buffer payloadLength,
      { object with
        header, isVpack := some true, sealed := true, modified := true, payloadLength })

/-- The slices or the exception, and the object afterwards. -/
def cutSlices (store : BufferStore) (object : RequestObject) :
    Except Fault (List (List UInt8)) × RequestObject :=
  if object.isVpack.isSome && object.modified then
    let payload := store object.buffer
    let (found, fault) := splitSlices platform.vpack payload.bytes.length payload.bytes []
    let slices := payload.pointers object.buffer found
    match fault with
    | some fault => (.error fault, { object with slices })
    | none => (store.read platform slices, { object with slices, modified := false })
  else (store.read platform object.slices, object)

def payload (store : BufferStore) (object : RequestObject) : ConstBuffer :=
  ⟨Pointer.ofList (store object.buffer).bytes fun _ => 0, 0, object.payloadLength⟩

end RequestObject

/-! ## A request and its copy -/

inductive Side where
  | original
  | copy
  deriving DecidableEq, Repr

def Side.other : Side → Side
  | original => copy
  | copy => original

theorem Side.eq_or_eq_other (side s : Side) : s = side ∨ s = side.other := by
  cases side <;> cases s <;> decide

theorem Side.other_ne (side : Side) : side.other ≠ side := by
  cases side <;> decide

theorem Side.other_other (side : Side) : side.other.other = side := by
  cases side <;> rfl

structure TwoRequests where
  store : BufferStore
  objects : Side → RequestObject

namespace TwoRequests

/-- `Request(Request const&)`: the bytes go to a buffer of their own, everything
else is copied as it is. -/
def ofCopy (store : BufferStore) (original : RequestObject) (id : BufferID) (capacity : Nat) :
    TwoRequests where
  store := Function.update store id ⟨(store original.buffer).bytes, capacity, 0⟩
  objects
    | .original => original
    | .copy => { original with buffer := id }

/-- One call. An exception that `slices` throws is caught by its caller. -/
def call (platform : BufferPlatform) (two : TwoRequests) (side : Side) :
    VPackCall → Except Fault TwoRequests
  | .addVPackSlice memory => do
    let (store, object) ← (two.objects side).addVPackSlice platform memory two.store
    return ⟨store, Function.update two.objects side object⟩
  | .addVPackBuffer buffer => do
    let (store, object) ← (two.objects side).addVPackBuffer platform buffer two.store
    return ⟨store, Function.update two.objects side object⟩
  | .addVPackMoved buffer => do
    let (store, object) ← (two.objects side).addVPackMoved platform buffer two.store
    return ⟨store, Function.update two.objects side object⟩
  | .slices => .ok ⟨two.store, Function.update two.objects side
      ((two.objects side).cutSlices platform two.store).2⟩

/-- The pairs of a request and its copy that permitted calls lead to, with the
values of the accepted calls on each side. -/
inductive Run (platform : BufferPlatform) (permitted : TwoRequests → Side → VPackCall → Prop)
    (start : TwoRequests) : TwoRequests → (Side → List (List UInt8)) → Prop
  | start : Run platform permitted start start fun _ => []
  | accepted {two result : TwoRequests} {added : Side → List (List UInt8)} {side : Side}
      {c : VPackCall} {values : List (List UInt8)} : Run platform permitted start two added →
      c.Adds platform.vpack values → permitted two side c → two.call platform side c = .ok result →
      Run platform permitted start result (Function.update added side (added side ++ values))
  | refused {two : TwoRequests} {added : Side → List (List UInt8)} {side : Side} {c : VPackCall}
      {values : List (List UInt8)} : Run platform permitted start two added →
      c.Adds platform.vpack values → permitted two side c →
      two.call platform side c = .error tooLate → Run platform permitted start two added

/-- Either object shows what the request had at the moment of copying, followed
by the values added to the object itself. -/
def Independent (platform : BufferPlatform) (store : BufferStore) (original : RequestObject)
    (two : TwoRequests) (added : Side → List (List UInt8)) : Prop :=
  ∀ side, ((two.objects side).payload two.store).bytes =
      (original.payload store).bytes ++ (added side).flatten ∧
    ((two.objects side).cutSlices platform two.store).1 =
      (original.cutSlices platform store).1.map fun slices => slices ++ added side

end TwoRequests

/-! ## What an object owns -/

namespace BufferStore

variable {platform : BufferPlatform} {store : BufferStore} {id : BufferID}

theorem append_of_ne {other : BufferID} (h : other ≠ id) (data : List UInt8) :
    store.append platform id data other = store other := Function.update_of_ne h _ _

theorem bytes_append (data : List UInt8) :
    (store.append platform id data id).bytes = (store id).bytes ++ data := by
  rw [append, Function.update_self]
  split <;> rfl

theorem moved_append {data : List UInt8}
    (h : (store id).bytes.length + data.length ≤ (store id).capacity) :
    (store.append platform id data id).moved = (store id).moved := by
  rw [append, Function.update_self, if_pos h]

theorem resetTo_length : store.resetTo platform id (store id).bytes.length = store := by
  rw [resetTo, platform.buffers.resetTo_length]
  exact Function.update_eq_self id store

/-- The memory of the buffer has stayed, and its bytes have at most been added to. -/
def Extends (store after : BufferStore) (id : BufferID) : Prop :=
  (after id).moved = (store id).moved ∧ ∃ more, (after id).bytes = (store id).bytes ++ more

/-- The memory at the pointer starts with this value. -/
def PointsTo (store : BufferStore) (pointer : SlicePointer) (value : List UInt8) : Prop :=
  pointer.moved = (store pointer.buffer).moved ∧
    ∃ rest, (store pointer.buffer).bytes.drop pointer.offset = value ++ rest

theorem PointsTo.extends {after : BufferStore} {pointer : SlicePointer} {value : List UInt8}
    (h : store.PointsTo pointer value) (hValue : value ≠ [])
    (hAfter : store.Extends after pointer.buffer) : after.PointsTo pointer value := by
  obtain ⟨hMoved, rest, hRest⟩ := h
  obtain ⟨hSame, more, hMore⟩ := hAfter
  refine ⟨hMoved.trans hSame.symm, rest ++ more, ?_⟩
  have hInside : pointer.offset ≤ (store pointer.buffer).bytes.length := by
    have hLength := congrArg List.length hRest
    have hPos := List.length_pos_iff.mpr hValue
    rw [List.length_drop, List.length_append] at hLength
    omega
  rw [hMore, List.drop_append_of_le_length hInside, hRest, List.append_assoc]

theorem pointsTo_extends {after : BufferStore} {slices : List SlicePointer}
    {values : List (List UInt8)} (h : List.Forall₂ store.PointsTo slices values)
    (hValues : ∀ value ∈ values, value ≠ [])
    (hAfter : ∀ pointer ∈ slices, store.Extends after pointer.buffer) :
    List.Forall₂ after.PointsTo slices values := by
  induction h with
  | nil => exact .nil
  | cons hPoints _ ih =>
    obtain ⟨hFirst, hRest⟩ := List.forall_mem_cons.mp hAfter
    obtain ⟨hValue, hOthers⟩ := List.forall_mem_cons.mp hValues
    exact .cons (hPoints.extends hValue hFirst) (ih hOthers hRest)

theorem read_of_pointsTo {slices : List SlicePointer} {values : List (List UInt8)}
    (h : List.Forall₂ store.PointsTo slices values)
    (hValues : ∀ value ∈ values, platform.vpack.IsValue value) :
    store.read platform slices = .ok values := by
  induction h with
  | nil => rfl
  | @cons pointer value slices values hPoints _ ih =>
    obtain ⟨hValue, hRest⟩ := List.forall_mem_cons.mp hValues
    obtain ⟨hMoved, rest, hMemory⟩ := hPoints
    have hRead : store.memoryAt pointer = .ok (value ++ rest) := by
      rw [memoryAt, if_pos hMoved, hMemory]
    have hBack := ih hRest
    rw [read] at hBack ⊢
    rw [List.mapM_cons, hBack, hRead]
    simp only [bind, Except.bind, pure, Except.pure, hValue.2 rest, List.take_left]

theorem read_congr {after : BufferStore} {slices : List SlicePointer}
    (h : ∀ pointer ∈ slices, after pointer.buffer = store pointer.buffer) :
    after.read platform slices = store.read platform slices := by
  induction slices with
  | nil => rfl
  | cons pointer slices ih =>
    obtain ⟨hFirst, hRest⟩ := List.forall_mem_cons.mp h
    have hBack := ih hRest
    rw [read, read] at hBack ⊢
    rw [List.mapM_cons, List.mapM_cons, hBack, memoryAt, memoryAt, hFirst]

/-- Slices that have just been cut are read from the bytes of their buffer. -/
theorem read_pointers_congr {after : BufferStore} {other : BufferID}
    (h : (after other).bytes = (store id).bytes) (found : List VSlice) :
    after.read platform ((after other).pointers other found) =
      store.read platform ((store id).pointers id found) := by
  induction found with
  | nil => rfl
  | cons slice found ih =>
    rw [read, read, VBuffer.pointers, VBuffer.pointers] at ih ⊢
    rw [List.map_cons, List.map_cons, List.mapM_cons, List.mapM_cons, ih]
    simp only [memoryAt, if_true, h]

end BufferStore

namespace RequestObject

section Slices

variable {platform : BufferPlatform} {store after : BufferStore} {object left : RequestObject}

/-- Slices depend on the bytes of the payload and on what the cache points to. -/
theorem cutSlices_congr (hBytes : (after left.buffer).bytes = (store object.buffer).bytes)
    (hKind : left.isVpack = object.isVpack) (hModified : left.modified = object.modified)
    (hCache : after.read platform left.slices = store.read platform object.slices) :
    (left.cutSlices platform after).1 = (object.cutSlices platform store).1 := by
  rw [cutSlices, cutSlices, hKind, hModified, hCache]
  split
  · dsimp only
    rw [hBytes]
    cases splitSlices platform.vpack (store object.buffer).bytes.length
        (store object.buffer).bytes [] with
    | mk found fault =>
      cases fault with
      | some fault => rfl
      | none => exact BufferStore.read_pointers_congr hBytes found
  · rfl

theorem payload_congr (hBytes : (after left.buffer).bytes = (store object.buffer).bytes)
    (hLength : left.payloadLength = object.payloadLength) :
    left.payload after = object.payload store := by
  rw [payload, payload, hBytes, hLength]

/-- Every further call that adds something comes too late. -/
def Closed (object : RequestObject) : Prop := object.sealed = true ∨ object.isVpack = some false

theorem Closed.late (h : object.Closed) :
    (object.sealed || object.isVpack == some false) = true := by
  simpa [Closed] using h

theorem Closed.late_moved (h : object.Closed) :
    (object.sealed || object.isVpack.isSome) = true := by
  rcases h with hSealed | hBinary
  · rw [hSealed, Bool.true_or]
  · rw [hBinary, Option.isSome_some, Bool.or_true]

theorem cutSlices_frame (platform : BufferPlatform) (store : BufferStore) (object : RequestObject) :
    ((object.cutSlices platform store).2.Closed ↔ object.Closed) ∧
      (object.cutSlices platform store).2.payload store = object.payload store := by
  rw [cutSlices]
  split
  · dsimp only
    split <;> exact ⟨Iff.rfl, rfl⟩
  · exact ⟨Iff.rfl, rfl⟩

theorem cutSlices_again : ((object.cutSlices platform store).2.cutSlices platform store).1 =
    (object.cutSlices platform store).1 := by
  by_cases hCut : (object.isVpack.isSome && object.modified) = true
  · rw [cutSlices.eq_def platform store object, if_pos hCut]
    cases hSplit : splitSlices platform.vpack (store object.buffer).bytes.length
        (store object.buffer).bytes [] with
    | mk found fault =>
      cases fault with
      | some fault =>
        simp only [hSplit]
        rw [cutSlices, if_pos hCut]
        simp only [hSplit]
      | none =>
        simp only [hSplit]
        rw [cutSlices, if_neg (by simp)]
  · have hSame : object.cutSlices platform store = (store.read platform object.slices, object) := by
      rw [cutSlices, if_neg hCut]
    rw [hSame, hSame]

end Slices

/-- Payload, length and cached slices of an object are those of the added values. -/
structure Owns (vpack : VelocyPack) (store : BufferStore) (object : RequestObject)
    (held : List (List UInt8)) : Prop where
  payload : (store object.buffer).bytes = held.flatten
  length : object.payloadLength = (store object.buffer).bytes.length
  values : ∀ value ∈ held, vpack.IsValue value
  kind : object.isVpack ≠ some false
  untouched : object.isVpack = none → held = [] ∧ object.slices = []
  cache : object.isVpack = some true → object.modified = false →
    List.Forall₂ store.PointsTo object.slices held

section Objects

variable {platform : BufferPlatform} {store after : BufferStore} {object : RequestObject}
  {held : List (List UInt8)}

theorem bytes_payload (h : object.payloadLength = (store object.buffer).bytes.length) :
    (object.payload store).bytes = (store object.buffer).bytes := by
  rw [payload, h]
  exact ConstBuffer.bytes_ofList _

/-- An object notices a change only of its own buffer, or of one that its cached
slices point into. -/
theorem Owns.frame (h : object.Owns platform.vpack store held)
    (hOwn : (after object.buffer).bytes = (store object.buffer).bytes)
    (hPointers : object.modified = false → ∀ pointer ∈ object.slices,
      store.Extends after pointer.buffer) : object.Owns platform.vpack after held := by
  refine ⟨hOwn.trans h.payload, by rw [hOwn]; exact h.length, h.values, h.kind, h.untouched, ?_⟩
  intro hKind hModified
  exact BufferStore.pointsTo_extends (h.cache hKind hModified) (fun value hValue =>
    (h.values value hValue).1) (hPointers hModified)

theorem Owns.of_modified (hPayload : (store object.buffer).bytes = held.flatten)
    (hLength : object.payloadLength = (store object.buffer).bytes.length)
    (hValues : ∀ value ∈ held, platform.vpack.IsValue value) (hKind : object.isVpack = some true)
    (hModified : object.modified = true) : object.Owns platform.vpack store held := by
  refine ⟨hPayload, hLength, hValues, ?_, ?_, ?_⟩
  · rw [hKind]
    decide
  · intro hNone
    rw [hKind] at hNone
    cases hNone
  · intro _ hCut
    rw [hModified] at hCut
    cases hCut

theorem Owns.cutSlices (h : object.Owns platform.vpack store held) :
    ∃ left, object.cutSlices platform store = (.ok held, left) ∧
      left.Owns platform.vpack store held ∧
      (left = object ∨ ∃ slices, (∀ pointer ∈ slices, pointer.buffer = object.buffer) ∧
        left = { object with slices, modified := false }) := by
  by_cases hCut : (object.isVpack.isSome && object.modified) = true
  · obtain ⟨found, hFound, -, hPlaces⟩ := splitSlices_values (store object.buffer).bytes.length held
      [] (Nat.le_of_eq (by rw [h.payload])) h.values
    rw [← h.payload, List.nil_append] at hFound
    have hPoints : List.Forall₂ store.PointsTo
        ((store object.buffer).pointers object.buffer found) held := by
      rw [VBuffer.pointers, List.forall₂_map_left_iff]
      refine hPlaces.imp ?_
      rintro slice value ⟨hSuffix, rest, hRest⟩
      refine ⟨rfl, rest, ?_⟩
      rw [← h.payload] at hSuffix
      exact (List.suffix_iff_eq_drop.mp hSuffix).symm.trans hRest
    refine ⟨{ object with
      slices := (store object.buffer).pointers object.buffer found, modified := false },
      ?_, ?_, .inr ⟨_, ?_, rfl⟩⟩
    · rw [RequestObject.cutSlices, if_pos hCut]
      simp only [hFound, BufferStore.read_of_pointsTo hPoints h.values]
    · refine ⟨h.payload, h.length, h.values, h.kind, ?_, fun _ _ => hPoints⟩
      intro hNone
      have hKind : object.isVpack = none := hNone
      simp [hKind] at hCut
    · intro pointer hPointer
      obtain ⟨slice, -, rfl⟩ := List.mem_map.mp hPointer
      rfl
  · refine ⟨object, ?_, h, .inl rfl⟩
    have hRead : store.read platform object.slices = .ok held := by
      cases hKind : object.isVpack with
      | none =>
        obtain ⟨rfl, hEmpty⟩ := h.untouched hKind
        rw [hEmpty]
        rfl
      | some kind =>
        cases kind with
        | false => exact absurd hKind h.kind
        | true =>
          exact BufferStore.read_of_pointsTo (h.cache hKind (by simpa [hKind] using hCut)) h.values
    rw [RequestObject.cutSlices, if_neg hCut, hRead]

theorem Owns.addVPackSlice (h : object.Owns platform.vpack store held) {memory value : List UInt8}
    (hTake : memory.take (platform.vpack.byteSize memory) = value)
    (hValue : platform.vpack.IsValue value)
    (hBuilder : object.builder.getD object.buffer = object.buffer) :
    object.addVPackSlice platform memory store = .error tooLate ∨
      ∃ left, object.addVPackSlice platform memory store =
          .ok (store.append platform object.buffer value, left) ∧
        left.Owns platform.vpack (store.append platform object.buffer value) (held ++ [value]) ∧
        left.buffer = object.buffer ∧ left.slices = object.slices ∧ left.isVpack = some true := by
  by_cases hLate : (object.sealed || object.isVpack == some false) = true
  · left
    rw [RequestObject.addVPackSlice, if_pos hLate]
  · right
    have hSize : platform.vpack.byteSize memory = value.length := by
      rw [← hTake] at hValue ⊢
      exact hValue.length_take.symm
    have hBytes : (store.append platform object.buffer value object.buffer).bytes =
        (store object.buffer).bytes ++ value := BufferStore.bytes_append value
    have hLength : object.payloadLength + value.length =
        (store.append platform object.buffer value object.buffer).bytes.length := by
      rw [hBytes, List.length_append, h.length]
    refine ⟨{ object with
        builder := some object.buffer
        header := object.header.addMeta fuContentTypeKey (ascii "application/x-velocypack")
        isVpack := some true
        modified := true
        payloadLength := object.payloadLength + value.length }, ?_, ?_, rfl, rfl, rfl⟩
    · rw [RequestObject.addVPackSlice, if_neg hLate]
      simp only [hBuilder, hTake]
      simp only [hSize, hLength, BufferStore.resetTo_length]
      rfl
    · refine .of_modified ?_ hLength ?_ rfl rfl
      · rw [hBytes, h.payload, List.flatten_append, List.flatten_singleton]
      · intro v hv
        rcases List.mem_append.mp hv with hv | hv
        · exact h.values v hv
        · rw [List.mem_singleton.mp hv]
          exact hValue

theorem Owns.addVPackBuffer_nil (h : object.Owns platform.vpack store held) :
    object.addVPackBuffer platform [] store = .error tooLate ∨
      ∃ left, object.addVPackBuffer platform [] store = .ok (store, left) ∧
        left.Owns platform.vpack store held ∧ left.buffer = object.buffer ∧
        left.slices = object.slices ∧ left.isVpack = some true := by
  by_cases hLate : (object.sealed || object.isVpack == some false) = true
  · left
    rw [RequestObject.addVPackBuffer, if_pos hLate]
  · right
    refine ⟨{ object with
        isVpack := some true
        header := object.header.addMeta fuContentTypeKey (ascii "application/x-velocypack")
        modified := true
        builder := some (object.builder.getD object.buffer) }, ?_, ?_, rfl, rfl, rfl⟩
    · rw [RequestObject.addVPackBuffer, if_neg hLate]
      rfl
    · exact .of_modified h.payload h.length h.values rfl rfl

theorem Owns.addVPackMoved (h : object.Owns platform.vpack store held)
    {values : List (List UInt8)} (hValues : ∀ value ∈ values, platform.vpack.IsValue value) :
    object.addVPackMoved platform values.flatten store = .error tooLate ∨
      object.isVpack = none ∧ ∃ after left,
        object.addVPackMoved platform values.flatten store = .ok (after, left) ∧
        left.Owns platform.vpack after (held ++ values) ∧
        (∀ id ≠ object.buffer, after id = store id) ∧ left.buffer = object.buffer ∧
        left.slices = object.slices ∧ left.isVpack = some true := by
  by_cases hLate : (object.sealed || object.isVpack.isSome) = true
  · left
    rw [RequestObject.addVPackMoved, if_pos hLate]
  · right
    have hKind : object.isVpack = none := by
      simp only [Bool.or_eq_true, not_or, Bool.not_eq_true, Option.isSome_eq_false_iff,
        Option.isNone_iff_eq_none] at hLate
      exact hLate.2
    obtain ⟨rfl, -⟩ := h.untouched hKind
    have hEmpty : object.payloadLength = 0 := by
      rw [h.length, h.payload]
      rfl
    refine ⟨hKind, BufferStore.resetTo platform (Function.update store object.buffer
        ⟨values.flatten, values.flatten.length, (store object.buffer).moved + 1⟩) object.buffer
        (object.payloadLength + values.flatten.length), { object with
        header := object.header.addMeta fuContentTypeKey (ascii "application/x-velocypack")
        isVpack := some true
        sealed := true
        modified := true
        payloadLength := object.payloadLength + values.flatten.length }, ?_, ?_, ?_, rfl, rfl, rfl⟩
    · rw [RequestObject.addVPackMoved, if_neg hLate]
      rfl
    · have hBytes : ((BufferStore.resetTo platform (Function.update store object.buffer
          ⟨values.flatten, values.flatten.length, (store object.buffer).moved + 1⟩) object.buffer
          (object.payloadLength + values.flatten.length)) object.buffer).bytes = values.flatten := by
        rw [BufferStore.resetTo, Function.update_self, Function.update_self, hEmpty, Nat.zero_add]
        exact platform.buffers.resetTo_length _
      rw [List.nil_append]
      refine .of_modified hBytes ?_ hValues rfl rfl
      dsimp only
      rw [hBytes, hEmpty, Nat.zero_add]
    · intro id hid
      rw [BufferStore.resetTo, Function.update_of_ne hid, Function.update_of_ne hid]

end Objects

end RequestObject

namespace TwoRequests

variable {platform : BufferPlatform} {two result : TwoRequests} {side : Side}
  {held : Side → List (List UInt8)}

/-- Both objects own what they hold, each in a buffer of its own. Only an object
that holds something can have cached slices elsewhere. -/
structure Apart (vpack : VelocyPack) (two : TwoRequests) (held : Side → List (List UInt8)) :
    Prop where
  owns : ∀ side, (two.objects side).Owns vpack two.store (held side)
  buffers : ∀ side, (two.objects side.other).buffer ≠ (two.objects side).buffer
  pointers : ∀ side, (two.objects side).isVpack = none →
    ∀ pointer ∈ (two.objects side.other).slices, pointer.buffer ≠ (two.objects side).buffer

/-- An object hands out cached slices that point into this buffer. -/
def Shows (object : RequestObject) (id : BufferID) : Prop :=
  object.modified = false ∧ ∃ pointer ∈ object.slices, pointer.buffer = id

/-- The object is closed, or the call adds one value to a builder of the object's
own in memory that stays where the other object has cached slices, or it does
not enter the loop of `addVPack(VBuffer const&)`. -/
def Separate (vpack : VelocyPack) (two : TwoRequests) (side : Side) : VPackCall → Prop
  | .addVPackSlice memory =>
    (two.objects side).Closed ∨
      ((two.objects side).builder = none ∨
        (two.objects side).builder = some (two.objects side).buffer) ∧
      (Shows (two.objects side.other) (two.objects side).buffer →
        (two.store (two.objects side).buffer).bytes.length +
          (memory.take (vpack.byteSize memory)).length ≤
            (two.store (two.objects side).buffer).capacity)
  | .addVPackBuffer buffer => (two.objects side).Closed ∨ buffer = []
  | _ => True

/-- What one object does to its own buffer leaves the objects apart. -/
theorem Apart.replace (h : two.Apart platform.vpack held) {after : BufferStore}
    {left : RequestObject} {values : List (List UInt8)}
    (hOwns : left.Owns platform.vpack after (held side ++ values))
    (hBuffer : left.buffer = (two.objects side).buffer)
    (hKind : left.isVpack = none → (two.objects side).isVpack = none)
    (hSlices : ∀ pointer ∈ left.slices,
      pointer.buffer = left.buffer ∨ pointer ∈ (two.objects side).slices)
    (hStore : ∀ id ≠ (two.objects side).buffer, after id = two.store id)
    (hOther : Shows (two.objects side.other) (two.objects side).buffer →
      two.store.Extends after (two.objects side).buffer) :
    Apart platform.vpack ⟨after, Function.update two.objects side left⟩
      (Function.update held side (held side ++ values)) := by
  have hSame (id : BufferID) (hid : id ≠ (two.objects side).buffer) : two.store.Extends after id := by
    rw [BufferStore.Extends, hStore id hid]
    exact ⟨rfl, [], (List.append_nil _).symm⟩
  refine ⟨fun s => ?_, fun s => ?_, fun s hNone => ?_⟩
  · rcases side.eq_or_eq_other s with rfl | rfl
    · simp only [Function.update_self]
      exact hOwns
    · simp only [Function.update_of_ne side.other_ne]
      refine (h.owns side.other).frame ?_ ?_
      · rw [hStore _ (h.buffers side)]
      · intro hModified pointer hPointer
        by_cases hHere : pointer.buffer = (two.objects side).buffer
        · rw [hHere]
          exact hOther ⟨hModified, pointer, hPointer, hHere⟩
        · exact hSame _ hHere
  · rcases side.eq_or_eq_other s with rfl | rfl
    · simp only [Function.update_self, Function.update_of_ne s.other_ne, hBuffer]
      exact h.buffers s
    · simp only [side.other_other, Function.update_self, Function.update_of_ne side.other_ne, hBuffer]
      exact (h.buffers side).symm
  · rcases side.eq_or_eq_other s with rfl | rfl
    · simp only [Function.update_self, Function.update_of_ne s.other_ne, hBuffer] at hNone ⊢
      exact h.pointers s (hKind hNone)
    · simp only [side.other_other, Function.update_self,
        Function.update_of_ne side.other_ne] at hNone ⊢
      intro pointer hPointer
      rcases hSlices pointer hPointer with hOwn | hOld
      · rw [hOwn, hBuffer]
        exact (h.buffers side).symm
      · have hBefore := h.pointers side.other hNone
        rw [side.other_other] at hBefore
        exact hBefore pointer hOld

theorem Apart.call (h : two.Apart platform.vpack held) {c : VPackCall}
    {values : List (List UInt8)} (hAdds : c.Adds platform.vpack values)
    (hSeparate : two.Separate platform.vpack side c) :
    two.call platform side c = .error tooLate ∨
      ∃ result, two.call platform side c = .ok result ∧
        result.Apart platform.vpack (Function.update held side (held side ++ values)) := by
  have hOwns := h.owns side
  cases hAdds with
  | @addVPackSlice memory hValue =>
    rcases hSeparate with hClosed | ⟨hBuilder, hStays⟩
    · left
      rw [TwoRequests.call, RequestObject.addVPackSlice, if_pos hClosed.late]
      rfl
    · have hOwn : (two.objects side).builder.getD (two.objects side).buffer =
          (two.objects side).buffer := by
        rcases hBuilder with hNone | hSome
        · rw [hNone]
          rfl
        · rw [hSome]
          rfl
      rcases hOwns.addVPackSlice rfl hValue hOwn with hLate | ⟨left, hCall, hLeft, hBuffer, hSlices,
        hKind⟩
      · left
        rw [TwoRequests.call, hLate]
        rfl
      · right
        refine ⟨⟨_, Function.update two.objects side left⟩, by rw [TwoRequests.call, hCall]; rfl, ?_⟩
        refine h.replace hLeft hBuffer (by simp [hKind]) ?_ ?_ ?_
        · intro pointer hPointer
          exact .inr (hSlices ▸ hPointer)
        · exact fun id hid => BufferStore.append_of_ne hid _
        · exact fun hShows =>
            ⟨BufferStore.moved_append (hStays hShows), _, BufferStore.bytes_append _⟩
  | @addVPackBuffer values hValues =>
    rcases hSeparate with hClosed | hEmpty
    · left
      rw [TwoRequests.call, RequestObject.addVPackBuffer, if_pos hClosed.late]
      rfl
    · rw [VelocyPack.values_eq_nil hValues hEmpty, List.flatten_nil]
      rcases hOwns.addVPackBuffer_nil with hLate | ⟨left, hCall, hLeft, hBuffer, hSlices, hKind⟩
      · left
        rw [TwoRequests.call, hLate]
        rfl
      · right
        refine ⟨⟨two.store, Function.update two.objects side left⟩,
          by rw [TwoRequests.call, hCall]; rfl, ?_⟩
        refine h.replace (by rwa [List.append_nil]) hBuffer (by simp [hKind]) ?_ (fun _ _ => rfl) ?_
        · intro pointer hPointer
          exact .inr (hSlices ▸ hPointer)
        · exact fun _ => ⟨rfl, [], (List.append_nil _).symm⟩
  | addVPackMoved hValues =>
    rcases hOwns.addVPackMoved hValues with hLate | ⟨hNone, after, left, hCall, hLeft, hStore,
      hBuffer, hSlices, hKind⟩
    · left
      rw [TwoRequests.call, hLate]
      rfl
    · right
      refine ⟨⟨after, Function.update two.objects side left⟩,
        by rw [TwoRequests.call, hCall]; rfl, ?_⟩
      refine h.replace hLeft hBuffer (by simp [hKind]) ?_ hStore ?_
      · intro pointer hPointer
        exact .inr (hSlices ▸ hPointer)
      · rintro ⟨-, pointer, hPointer, hHere⟩
        exact absurd hHere (h.pointers side hNone pointer hPointer)
  | slices =>
    right
    obtain ⟨left, hCut, hLeft, hCases⟩ := hOwns.cutSlices
    refine ⟨⟨two.store, Function.update two.objects side left⟩,
      by rw [TwoRequests.call, hCut], ?_⟩
    have hExtends : two.store.Extends two.store (two.objects side).buffer :=
      ⟨rfl, [], (List.append_nil _).symm⟩
    rcases hCases with rfl | ⟨slices, hOwnSlices, rfl⟩
    · exact h.replace (by rwa [List.append_nil]) rfl (fun hNone => hNone)
        (fun pointer hPointer => .inr hPointer) (fun _ _ => rfl) fun _ => hExtends
    · exact h.replace (by rwa [List.append_nil]) rfl (fun hNone => hNone)
        (fun pointer hPointer => .inl (hOwnSlices pointer hPointer)) (fun _ _ => rfl)
        fun _ => hExtends

theorem Apart.shown (h : two.Apart platform.vpack held) (side : Side) :
    ((two.objects side).payload two.store).bytes = (held side).flatten ∧
      ((two.objects side).cutSlices platform two.store).1 = .ok (held side) := by
  have hOwns := h.owns side
  obtain ⟨left, hCut, -⟩ := hOwns.cutSlices
  exact ⟨(RequestObject.bytes_payload hOwns.length).trans hOwns.payload, congrArg Prod.fst hCut⟩

theorem Run.apart {start : TwoRequests} {had : List (List UInt8)}
    {added : Side → List (List UInt8)} (hStart : start.Apart platform.vpack fun _ => had)
    (hRun : Run platform (Separate platform.vpack) start two added) :
    two.Apart platform.vpack fun side => had ++ added side := by
  induction hRun with
  | start =>
    simp only [List.append_nil]
    exact hStart
  | @accepted two result added side c values _ hAdds hSeparate hCall ih =>
    rcases ih.call hAdds hSeparate with hLate | ⟨other, hOther, hApart⟩
    · rw [hCall] at hLate
      cases hLate
    · rw [hCall] at hOther
      cases hOther
      convert hApart using 1
      funext s
      by_cases hSide : s = side
      · rw [hSide, Function.update_self, Function.update_self, List.append_assoc]
      · rw [Function.update_of_ne hSide, Function.update_of_ne hSide]
  | refused _ _ _ _ ih => exact ih

section Copying

variable {store : BufferStore} {original : RequestObject} {id : BufferID}

theorem store_ofCopy (capacity : Nat) {other : BufferID} (h : other ≠ id) :
    (ofCopy store original id capacity).store other = store other := Function.update_of_ne h _ _

theorem bytes_ofCopy (capacity : Nat) :
    ((ofCopy store original id capacity).store id).bytes = (store original.buffer).bytes := by
  have hCopy : (ofCopy store original id capacity).store id =
      ⟨(store original.buffer).bytes, capacity, 0⟩ := Function.update_self id _ store
  rw [hCopy]

/-- Right after copying, both objects own what the request held. -/
theorem apart_ofCopy {had : List (List UInt8)} (h : original.Owns platform.vpack store had)
    (hBuffer : original.buffer ≠ id) (hPointers : ∀ pointer ∈ original.slices, pointer.buffer ≠ id)
    (capacity : Nat) :
    (ofCopy store original id capacity).Apart platform.vpack fun _ => had := by
  have hExtends : ∀ pointer ∈ original.slices,
      store.Extends (ofCopy store original id capacity).store pointer.buffer := by
    intro pointer hPointer
    rw [BufferStore.Extends, store_ofCopy capacity (hPointers pointer hPointer)]
    exact ⟨rfl, [], (List.append_nil _).symm⟩
  have hBytes : ((ofCopy store original id capacity).store id).bytes =
      (store original.buffer).bytes := bytes_ofCopy capacity
  refine ⟨fun side => ?_, fun side => ?_, fun side hNone => ?_⟩
  · cases side with
    | original =>
      exact h.frame (congrArg VBuffer.bytes (store_ofCopy capacity hBuffer)) fun _ => hExtends
    | copy =>
      refine ⟨hBytes.trans h.payload, h.length.trans (congrArg List.length hBytes).symm, h.values,
        h.kind, h.untouched, fun hKind hModified => ?_⟩
      exact BufferStore.pointsTo_extends (h.cache hKind hModified)
        (fun value hValue => (h.values value hValue).1) hExtends
  · cases side with
    | original => exact hBuffer.symm
    | copy => exact hBuffer
  · have hKind : original.isVpack = none := by
      cases side <;> exact hNone
    have hEmpty := (h.untouched hKind).2
    have hNoSlices : ((ofCopy store original id capacity).objects side.other).slices = [] := by
      cases side <;> exact hEmpty
    intro pointer hPointer
    rw [hNoSlices] at hPointer
    exact absurd hPointer List.not_mem_nil

/-- Slices depend on what the store holds where the request points to. -/
theorem cutSlices_ofCopy (hBuffer : original.buffer ≠ id)
    (hPointers : ∀ pointer ∈ original.slices, pointer.buffer ≠ id) (capacity : Nat) (side : Side) :
    (((ofCopy store original id capacity).objects side).cutSlices platform
      (ofCopy store original id capacity).store).1 = (original.cutSlices platform store).1 := by
  have hRead : (ofCopy store original id capacity).store.read platform original.slices =
      store.read platform original.slices :=
    BufferStore.read_congr fun pointer hPointer => store_ofCopy capacity (hPointers pointer hPointer)
  cases side with
  | original =>
    exact RequestObject.cutSlices_congr (congrArg VBuffer.bytes (store_ofCopy capacity hBuffer))
      rfl rfl hRead
  | copy => exact RequestObject.cutSlices_congr (bytes_ofCopy capacity) rfl rfl hRead

end Copying

/-! ## Requests that take nothing more -/

/-- Both objects are closed and show the same for ever. -/
structure Frozen (platform : BufferPlatform) (two : TwoRequests) (payload : List UInt8)
    (slices : Except Fault (List (List UInt8))) : Prop where
  closed : ∀ side, (two.objects side).Closed
  payload : ∀ side, ((two.objects side).payload two.store).bytes = payload
  slices : ∀ side, ((two.objects side).cutSlices platform two.store).1 = slices

theorem Frozen.call {payload : List UInt8} {slices : Except Fault (List (List UInt8))}
    (h : two.Frozen platform payload slices) {c : VPackCall} {values : List (List UInt8)}
    (hAdds : c.Adds platform.vpack values) (hCall : two.call platform side c = .ok result) :
    result.Frozen platform payload slices ∧ values = [] := by
  have hClosed := h.closed side
  cases hAdds with
  | addVPackSlice _ =>
    rw [TwoRequests.call, RequestObject.addVPackSlice, if_pos hClosed.late] at hCall
    cases hCall
  | addVPackBuffer _ =>
    rw [TwoRequests.call, RequestObject.addVPackBuffer, if_pos hClosed.late] at hCall
    cases hCall
  | addVPackMoved _ =>
    rw [TwoRequests.call, RequestObject.addVPackMoved, if_pos hClosed.late_moved] at hCall
    cases hCall
  | slices =>
    cases hCall
    obtain ⟨hFrameClosed, hFramePayload⟩ :=
      RequestObject.cutSlices_frame platform two.store (two.objects side)
    refine ⟨⟨fun s => ?_, fun s => ?_, fun s => ?_⟩, rfl⟩
    all_goals
      rcases side.eq_or_eq_other s with rfl | rfl
    · simpa only [Function.update_self, hFrameClosed] using h.closed s
    · simpa only [Function.update_of_ne side.other_ne] using h.closed side.other
    · simpa only [Function.update_self, hFramePayload] using h.payload s
    · simpa only [Function.update_of_ne side.other_ne] using h.payload side.other
    · simpa only [Function.update_self, RequestObject.cutSlices_again] using h.slices s
    · simpa only [Function.update_of_ne side.other_ne] using h.slices side.other

theorem Run.frozen {permitted : TwoRequests → Side → VPackCall → Prop} {start : TwoRequests}
    {added : Side → List (List UInt8)} {payload : List UInt8}
    {slices : Except Fault (List (List UInt8))} (hStart : start.Frozen platform payload slices)
    (hRun : Run platform permitted start two added) :
    two.Frozen platform payload slices ∧ ∀ side, added side = [] := by
  induction hRun with
  | start => exact ⟨hStart, fun _ => rfl⟩
  | @accepted two result added side c values _ hAdds _ hCall ih =>
    obtain ⟨hFrozen, hNothing⟩ := ih
    obtain ⟨hResult, rfl⟩ := hFrozen.call hAdds hCall
    refine ⟨hResult, fun s => ?_⟩
    rw [List.append_nil, Function.update_eq_self]
    exact hNothing s
  | refused _ _ _ _ ih => exact ih

end TwoRequests

open TwoRequests

/-- The request takes nothing more, or it hands out the values that make up its
payload. What a request is sealed with need not be velocypack. -/
def RequestObject.Sound (vpack : VelocyPack) (store : BufferStore) (object : RequestObject) : Prop :=
  object.Closed ∨ ∃ held, object.Owns vpack store held

/-- A request and its copy stay independent as long as every call keeps to what
is the object's own. -/
theorem copies_independent {platform : BufferPlatform} {store : BufferStore}
    {original : RequestObject} (hSound : original.Sound platform.vpack store) {id : BufferID}
    (hBuffer : original.buffer ≠ id) (hPointers : ∀ pointer ∈ original.slices, pointer.buffer ≠ id)
    (capacity : Nat) {two : TwoRequests} {added : Side → List (List UInt8)}
    (hRun : Run platform (Separate platform.vpack) (ofCopy store original id capacity) two added) :
    Independent platform store original two added := by
  rcases hSound with hClosed | ⟨had, hOwns⟩
  · have hStart : (ofCopy store original id capacity).Frozen platform (original.payload store).bytes
        (original.cutSlices platform store).1 := by
      refine ⟨fun side => ?_, fun side => ?_, cutSlices_ofCopy hBuffer hPointers capacity⟩
      · cases side <;> exact hClosed
      · cases side with
        | original =>
          exact congrArg ConstBuffer.bytes (RequestObject.payload_congr
            (congrArg VBuffer.bytes (store_ofCopy capacity hBuffer)) rfl)
        | copy =>
          exact congrArg ConstBuffer.bytes (RequestObject.payload_congr (bytes_ofCopy capacity) rfl)
    obtain ⟨hFrozen, hNothing⟩ := hRun.frozen hStart
    intro side
    rw [hFrozen.payload side, hFrozen.slices side, hNothing side]
    refine ⟨(List.append_nil _).symm, ?_⟩
    cases (original.cutSlices platform store).1 with
    | error fault => rfl
    | ok slices => exact congrArg Except.ok (List.append_nil slices).symm
  · have hApart := hRun.apart (apart_ofCopy hOwns hBuffer hPointers capacity)
    obtain ⟨left, hCut, -⟩ := hOwns.cutSlices
    have hHad := (RequestObject.bytes_payload hOwns.length).trans hOwns.payload
    intro side
    obtain ⟨hPayload, hSlices⟩ := hApart.shown side
    rw [hPayload, hSlices, hHad, hCut, List.flatten_append]
    exact ⟨rfl, rfl⟩

def shortBuffers : BufferPlatform := ⟨.short, .zeroed, fun _ needed => 2 * needed⟩

/-- Empty buffers with room for 192 bytes. -/
def emptyBuffers : BufferStore := fun _ => ⟨[], 192, 0⟩

def freshObject : RequestObject := { header := { type := some .request }, buffer := 0 }

theorem owns_freshObject : freshObject.Owns .short emptyBuffers [] := by
  refine ⟨rfl, rfl, ?_, by simp [freshObject], fun _ => ⟨rfl, rfl⟩, by simp [freshObject]⟩
  exact fun value hValue => absurd hValue List.not_mem_nil

theorem adds_one : (VPackCall.addVPackSlice [0x31]).Adds .short [[0x31]] :=
  .addVPackSlice ⟨by decide, fun _ => rfl⟩

/-- A copy of a fresh request gets a value of its own. -/
theorem copies_independent_fresh : ∃ two added,
    Run shortBuffers (Separate .short) (ofCopy emptyBuffers freshObject 1 192) two added ∧
      Independent shortBuffers emptyBuffers freshObject two added := by
  have hRun := @Run.accepted shortBuffers (Separate .short)
    (ofCopy emptyBuffers freshObject 1 192) _ _ _ .copy _ _ .start adds_one
    (.inr ⟨.inl rfl, fun _ => by decide⟩) rfl
  exact ⟨_, _, hRun, copies_independent (.inr ⟨_, owns_freshObject⟩) (by decide)
    (fun pointer hPointer => absurd hPointer List.not_mem_nil) 192 hRun⟩

/-- Once the request has a builder, what is added to a copy goes to the request. -/
theorem copy_adds_to_original : ∃ store original,
    freshObject.addVPackSlice shortBuffers [0x31] emptyBuffers = .ok (store, original) ∧
      ∃ two added, Run shortBuffers (fun _ _ _ => True) (ofCopy store original 1 192) two added ∧
        ¬Independent shortBuffers store original two added := by
  refine ⟨_, _, rfl, _, _, @Run.accepted _ _ _ _ _ _ .copy _ _ .start adds_one trivial rfl,
    fun h => ?_⟩
  exact absurd (h .copy).1 (by decide)

end Fuerte

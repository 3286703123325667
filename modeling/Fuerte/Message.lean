import Mathlib.Data.List.Forall2
import Fuerte.VelocyPack

/-! # Message headers, requests and responses

A request keeps its payload as one buffer and hands it out as velocypack
slices. Cutting the buffer into slices trusts the length each value declares.
-/

namespace Fuerte

set_option autoImplicit false

/-- A `std::map<std::string, std::string>`: entries in ascending key order. -/
abbrev StringMap := List (ByteString × ByteString)

namespace StringMap

/-- `map.insert`: an entry that is already there stays. -/
def insert : StringMap → ByteString → ByteString → StringMap
  | [], key, value => [(key, value)]
  | entry :: map, key, value =>
    if key = entry.1 then entry :: map
    else if key < entry.1 then (key, value) :: entry :: map
    else entry :: insert map key value

/-- `map[key] = value`. -/
def set : StringMap → ByteString → ByteString → StringMap
  | [], key, value => [(key, value)]
  | entry :: map, key, value =>
    if key = entry.1 then (key, value) :: map
    else if key < entry.1 then (key, value) :: entry :: map
    else entry :: set map key value

end StringMap

def fuContentTypeKey : ByteString := ascii "content-type"

/-- `to_string(ContentType)`. -/
def ContentType.toText : ContentType → Except Fault ByteString
  | .unset => .ok (ascii "unset")
  | .vpack => .ok (ascii "application/x-velocypack")
  | .json => .ok (ascii "application/json")
  | .html => .ok (ascii "text/html")
  | .text => .ok (ascii "text/plain")
  | .dump => .ok (ascii "application/x-arango-dump")
  | .custom => .error (.logicError
      "custom content type could take different values and is therefor not convertible to string")

structure MessageHeader where
  version : Option Int := none
  type : Option MessageType := none
  responseCode : Option Nat := none
  database : Option ByteString := none
  restVerb : Option RestVerb := none
  path : Option ByteString := none
  parameters : Option StringMap := none
  metadata : Option StringMap := none
  encryption : Option ByteString := none
  user : Option ByteString := none
  password : Option ByteString := none
  token : Option ByteString := none
  byteSize : Option Nat := none
  deriving DecidableEq, Repr

namespace MessageHeader

def addMeta (header : MessageHeader) (key value : ByteString) : MessageHeader :=
  { header with metadata := some (StringMap.set (header.metadata.getD []) key value) }

def contentType (header : MessageHeader) (type : ContentType) : Except Fault MessageHeader := do
  let text ← type.toText
  return header.addMeta fuContentTypeKey text

end MessageHeader

/-- `Request::_defaultTimeout`, in milliseconds. -/
def defaultTimeout : Nat := 30 * 1000

structure Request where
  header : MessageHeader
  messageID : MessageID := 123456789
  payload : List UInt8 := []
  sealed : Bool := false
  modified : Bool := true
  isVpack : Option Bool := none
  /-- Whether `_builder` has been created. -/
  builder : Bool := false
  sliceCache : List VSlice := []
  payloadLength : Nat := 0
  /-- In milliseconds. -/
  timeout : Nat := defaultTimeout
  deriving DecidableEq, Repr

/-- The loop that cuts a buffer into slices. It stores a slice before it looks
at its length, so the slices found so far survive an exception. A slice of
length zero is stored for ever. -/
def splitSlices (vpack : VelocyPack) : Nat → List UInt8 → List VSlice → List VSlice × Option Fault
  | 0, _, found => (found, none)
  | fuel + 1, cursor, found =>
    if cursor.length = 0 then (found, none)
    else
      let sliceSize := vpack.byteSize cursor
      let found := found ++ [⟨cursor, sliceSize⟩]
      if cursor.length < sliceSize then (found, some (.logicError "invalid buffer"))
      else if sliceSize = 0 then (found, some .diverges)
      else splitSlices vpack fuel (cursor.drop sliceSize) found

/-- `Request::slices`: the slices or the exception, and the request afterwards. -/
def Request.slices (vpack : VelocyPack) (request : Request) :
    Except Fault (List VSlice) × Request :=
  if request.isVpack.isSome && request.modified then
    match splitSlices vpack request.payload.length request.payload [] with
    | (found, some fault) => (.error fault, { request with sliceCache := found })
    | (found, none) => (.ok found, { request with sliceCache := found, modified := false })
  else (.ok request.sliceCache, request)

structure Response where
  header : MessageHeader
  messageID : MessageID := 123456789
  payload : List UInt8 := []
  payloadOffset : Nat
  sliceCache : List VSlice := []
  deriving DecidableEq, Repr

namespace Response

/-- `Response(MessageHeader&&)`; `_payloadOffset` keeps what its memory held. -/
def ofHeader (header : MessageHeader) (uninitialised : Nat) : Response :=
  { header := { header with type := some .response }, payloadOffset := uninitialised }

def statusCode (response : Response) : Nat := response.header.responseCode.getD 0

def setPayload (response : Response) (buffer : List UInt8) (payloadOffset : Nat) : Response :=
  { response with sliceCache := [], payloadOffset := payloadOffset, payload := buffer }

end Response

section SplitSlices

variable (vpack : VelocyPack)

/-- The slices that a successful cut adds lie one behind the other, each within
its buffer, and make up the whole buffer. -/
theorem splitSlices_ok (fuel : Nat) (cursor : List UInt8) (found result : List VSlice)
    (hFuel : cursor.length ≤ fuel) (h : splitSlices vpack fuel cursor found = (result, none)) :
    ∃ added, result = found ++ added ∧ (∀ s ∈ added, s.Within) ∧
      added.flatMap VSlice.bytes = cursor := by
  induction fuel generalizing cursor found with
  | zero =>
    have hEmpty : cursor = [] := List.length_eq_zero_iff.mp (by omega)
    obtain ⟨rfl, _⟩ := Prod.mk.inj h
    exact ⟨[], by simp, by simp, by simp [hEmpty]⟩
  | succ fuel ih =>
    rw [splitSlices] at h
    split at h
    · rename_i hLength
      obtain ⟨rfl, _⟩ := Prod.mk.inj h
      exact ⟨[], by simp, by simp, by simp [List.length_eq_zero_iff.mp hLength]⟩
    · dsimp only at h
      split at h
      · cases h
      · rename_i hWithin
        split at h
        · cases h
        · rename_i hPos
          obtain ⟨added, hResult, hAdded, hBytes⟩ :=
            ih (cursor.drop (vpack.byteSize cursor)) _ (by rw [List.length_drop]; omega) h
          refine ⟨⟨cursor, vpack.byteSize cursor⟩ :: added, by rw [hResult]; simp, ?_, ?_⟩
          · intro s hs
            rcases List.mem_cons.mp hs with rfl | hs
            · exact Nat.le_of_not_lt hWithin
            · exact hAdded s hs
          · rw [List.flatMap_cons, hBytes]
            exact List.take_append_drop _ _

/-- Cutting values that lie one behind the other gives them back, each at the
place where it starts. -/
theorem splitSlices_values {vpack : VelocyPack} (fuel : Nat) (values : List (List UInt8))
    (found : List VSlice) (hFuel : values.flatten.length ≤ fuel)
    (hValues : ∀ value ∈ values, vpack.IsValue value) :
    ∃ added, splitSlices vpack fuel values.flatten found = (found ++ added, none) ∧
      added.map VSlice.bytes = values ∧
      List.Forall₂ (fun slice value => slice.memory <:+ values.flatten ∧
        ∃ rest, slice.memory = value ++ rest) added values := by
  induction values generalizing fuel found with
  | nil =>
    refine ⟨[], ?_, rfl, .nil⟩
    cases fuel <;> simp [splitSlices]
  | cons value values ih =>
    obtain ⟨hNonempty, hSize⟩ := hValues value List.mem_cons_self
    have hPos : 0 < value.length := List.length_pos_iff.mpr hNonempty
    rw [List.flatten_cons, List.length_append] at hFuel
    obtain ⟨fuel, rfl⟩ : ∃ less, fuel = less + 1 := ⟨fuel - 1, by omega⟩
    obtain ⟨added, hAdded, hBytes, hPlaces⟩ := ih fuel
      (found ++ [⟨value ++ values.flatten, value.length⟩]) (by omega)
      fun v hv => hValues v (List.mem_cons_of_mem _ hv)
    refine ⟨⟨value ++ values.flatten, value.length⟩ :: added, ?_, ?_, ?_⟩
    · have hLength : (value ++ values.flatten).length ≠ 0 := by rw [List.length_append]; omega
      have hWithin : ¬ (value ++ values.flatten).length < value.length := by
        rw [List.length_append]; omega
      rw [List.flatten_cons, splitSlices, if_neg hLength]
      simp only [hSize, if_neg hWithin, if_neg (Nat.ne_of_gt hPos), List.drop_left, hAdded,
        List.append_assoc, List.singleton_append]
    · rw [List.map_cons, hBytes, VSlice.bytes, List.take_left]
    · rw [List.flatten_cons]
      refine .cons ⟨List.suffix_rfl, values.flatten, rfl⟩ (hPlaces.imp ?_)
      rintro slice v ⟨hSuffix, hStart⟩
      exact ⟨hSuffix.trans (List.suffix_append _ _), hStart⟩

/-- Where the cached slices are handed out, they are those of the payload. -/
def Request.CacheValid (request : Request) : Prop :=
  (request.isVpack.isSome && request.modified) = false →
    splitSlices vpack request.payload.length request.payload [] = (request.sliceCache, none)

variable {vpack} {request : Request} {slices : List VSlice}

/-- The slices of a request lie within their buffers and make up its payload,
and the cache stays valid. -/
theorem Request.slices_ok {left : Request} (hCache : request.CacheValid vpack)
    (h : request.slices vpack = (.ok slices, left)) :
    (∀ s ∈ slices, s.Within) ∧ slices.flatMap VSlice.bytes = request.payload ∧
      left.CacheValid vpack ∧ left.payload = request.payload := by
  rw [Request.slices] at h
  split at h
  · split at h
    · cases h
    · rename_i found hSplit
      cases h
      obtain ⟨added, hAdded, hWithin, hBytes⟩ :=
        splitSlices_ok vpack _ request.payload [] _ (Nat.le_refl _) hSplit
      rw [List.nil_append] at hAdded
      exact ⟨hAdded ▸ hWithin, hAdded ▸ hBytes, fun _ => hSplit, rfl⟩
  · rename_i hModified
    cases h
    have hSplit := hCache (Bool.eq_false_iff.mpr hModified)
    obtain ⟨added, hAdded, hWithin, hBytes⟩ :=
      splitSlices_ok vpack _ request.payload [] _ (Nat.le_refl _) hSplit
    rw [List.nil_append] at hAdded
    exact ⟨hAdded ▸ hWithin, hAdded ▸ hBytes, hCache, rfl⟩

end SplitSlices

end Fuerte

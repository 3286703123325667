import Fuerte.Types

/-! # The velocypack library, as far as the driver uses it

Velocypack is not part of the repository. Its `Builder`, `Slice` and `Validator`
enter as operations on bytes; what a result relies on is stated as a named
property of these operations where it is used.
-/

namespace Fuerte

set_option autoImplicit false

/-- What the driver hands to a `Builder`. -/
inductive VValue where
  | int (n : Int)
  | uint (n : Nat)
  | string (s : ByteString)
  | array (members : List VValue)
  | object (members : List (ByteString × VValue))

/-- The operations of velocypack. A slice is given by the memory at its start. -/
structure VelocyPack where
  /-- The contents of a builder's buffer once it has been given a closed value. -/
  build : VValue → List UInt8
  /-- `Slice::byteSize`. -/
  byteSize : List UInt8 → Nat
  /-- `Validator::validate` with `isSubPart`: what it throws, if it throws. -/
  validate : List UInt8 → Option String
  isArray : List UInt8 → Bool
  isObject : List UInt8 → Bool
  /-- `Slice::length`. -/
  length : List UInt8 → Except String Nat
  /-- `Slice::at`. -/
  atIndex : List UInt8 → Nat → Except String (List UInt8)
  /-- `Slice::getNumber<int>`. -/
  getNumberInt : List UInt8 → Except String Int
  /-- `Slice::getInt`. -/
  getInt : List UInt8 → Except String Int
  /-- `Slice::getUInt`. -/
  getUInt : List UInt8 → Except String Nat
  /-- `Slice::copyString`. -/
  copyString : List UInt8 → Except String ByteString
  /-- The keys and values an `ObjectIterator` visits. -/
  members : List UInt8 → Except String (List (List UInt8 × List UInt8))

namespace VelocyPack

/-- `byteSize` of a freshly built value is the size of its buffer, and no value
is empty. -/
structure SizesBuilt (vpack : VelocyPack) : Prop where
  byteSize_build : ∀ value, vpack.byteSize (vpack.build value) = (vpack.build value).length
  build_nonempty : ∀ value, vpack.build value ≠ []

/-- A velocypack value has the length that it declares. -/
def IsValue (vpack : VelocyPack) (value : List UInt8) : Prop :=
  value ≠ [] ∧ ∀ rest, vpack.byteSize (value ++ rest) = value.length

/-- The bytes of values, one behind the other. -/
def AreValues (vpack : VelocyPack) (bytes : List UInt8) : Prop :=
  ∃ values : List (List UInt8), (∀ value ∈ values, vpack.IsValue value) ∧ values.flatten = bytes

end VelocyPack

/-! ## Short values

The format of velocypack for flat arrays whose lengths fit into one byte, and for
numbers of at most two, which is what short headers are made of.
-/

namespace ShortValue

def byteAt (memory : List UInt8) (i : Nat) : Nat := (memory[i]?.getD 0).toNat

def atom : VValue → List UInt8
  | .int n =>
    if 0 ≤ n ∧ n ≤ 9 then [UInt8.ofNat (0x30 + n.toNat)]
    else if -128 ≤ n ∧ n < 128 then [0x20, UInt8.ofInt n]
    else [0x21, UInt8.ofInt n, UInt8.ofInt (n / 256)]
  | .uint n =>
    if n ≤ 9 then [UInt8.ofNat (0x30 + n)]
    else if n < 256 then [0x28, UInt8.ofNat n]
    else [0x29, UInt8.ofNat n, UInt8.ofNat (n / 256)]
  | .string s => UInt8.ofNat (0x40 + s.length) :: s
  | .object _ => [0x0a]
  | .array _ => [0x01]

/-- Where each item starts, the first one at `start`. -/
def indexTable : Nat → List (List UInt8) → List UInt8
  | _, [] => []
  | start, item :: items => UInt8.ofNat start :: indexTable (start + item.length) items

/-- An array with an index table. -/
def array (items : List (List UInt8)) : List UInt8 :=
  0x06 :: UInt8.ofNat (3 + items.flatten.length + items.length) :: UInt8.ofNat items.length ::
    (items.flatten ++ indexTable 3 items)

def encode : VValue → List UInt8
  | .array members => array (members.map atom)
  | value => atom value

def byteSize (memory : List UInt8) : Nat :=
  let head := byteAt memory 0
  if head = 0x06 then byteAt memory 1
  else if head = 0x21 ∨ head = 0x29 then 3
  else if head = 0x20 ∨ head = 0x28 then 2
  else if 0x40 ≤ head ∧ head ≤ 0xbe then 1 + (head - 0x40)
  else 1

/-- A value that is too long for the format becomes null. -/
def build (value : VValue) : List UInt8 :=
  if encode value ≠ [] ∧ byteSize (encode value) = (encode value).length then encode value
  else [0x18]

/-- The numbers that are not negative. -/
def number (memory : List UInt8) : Except String Nat :=
  let head := byteAt memory 0
  if 0x30 ≤ head ∧ head ≤ 0x39 then .ok (head - 0x30)
  else if head = 0x28 then .ok (byteAt memory 1)
  else if head = 0x29 then .ok (byteAt memory 1 + 256 * byteAt memory 2)
  else if head = 0x20 ∧ byteAt memory 1 < 128 then .ok (byteAt memory 1)
  else if head = 0x21 ∧ byteAt memory 2 < 128 then .ok (byteAt memory 1 + 256 * byteAt memory 2)
  else .error "Expecting numeric type"

def atIndex (memory : List UInt8) (i : Nat) : Except String (List UInt8) :=
  if byteAt memory 0 ≠ 0x06 then .error "Expecting type Array"
  else if byteAt memory 2 ≤ i then .error "Index out of bounds"
  else .ok (memory.drop (byteAt memory (byteAt memory 1 - byteAt memory 2 + i)))

def copyString (memory : List UInt8) : Except String ByteString :=
  let head := byteAt memory 0
  if 0x40 ≤ head ∧ head ≤ 0xbe then .ok ((memory.drop 1).take (head - 0x40))
  else .error "Expecting type String"

end ShortValue

def VelocyPack.short : VelocyPack where
  build := ShortValue.build
  byteSize := ShortValue.byteSize
  validate memory :=
    if memory.length < ShortValue.byteSize memory ∨ memory = [] then some "ValidatorInvalidLength"
    else none
  isArray memory := ShortValue.byteAt memory 0 = 0x06
  isObject memory := ShortValue.byteAt memory 0 = 0x0a
  length memory :=
    if ShortValue.byteAt memory 0 = 0x06 then .ok (ShortValue.byteAt memory 2)
    else .error "Expecting type Array or Object"
  atIndex := ShortValue.atIndex
  getNumberInt memory := (ShortValue.number memory).map Int.ofNat
  getInt memory := (ShortValue.number memory).map Int.ofNat
  getUInt := ShortValue.number
  copyString := ShortValue.copyString
  members memory :=
    if ShortValue.byteAt memory 0 = 0x0a then .ok [] else .error "Expecting type Object"

theorem VelocyPack.short_sizesBuilt : VelocyPack.short.SizesBuilt := by
  refine ⟨fun value => ?_, fun value => ?_⟩
  · simp only [short, ShortValue.build]
    split
    · rename_i h
      exact h.2
    · rfl
  · simp only [short, ShortValue.build]
    split
    · rename_i h
      exact h.1
    · exact List.cons_ne_nil _ _

/-- A velocypack exception as it leaves the driver's function. -/
def velocypack {α : Type} (r : Except String α) : Except Fault α := r.mapError Fault.velocypack

/-- A `VSlice`: the memory from its start to the end of its buffer, and the
length it declares for itself. -/
structure VSlice where
  memory : List UInt8
  byteSize : Nat
  deriving DecidableEq, Repr

namespace VSlice

def bytes (s : VSlice) : List UInt8 := s.memory.take s.byteSize

/-- The slice ends within its buffer. -/
def Within (s : VSlice) : Prop := s.byteSize ≤ s.memory.length

instance (s : VSlice) : Decidable s.Within := inferInstanceAs (Decidable (_ ≤ _))

theorem Within.length_bytes {s : VSlice} (h : s.Within) : s.bytes.length = s.byteSize :=
  List.length_take_of_le h

end VSlice

end Fuerte

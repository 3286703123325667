import Fuerte.Library.Bytes

/-! # Basic types of the driver

Enumerations keep the numbers of the C++ enums; a cast from an integer that no
enumerator carries keeps the integer.
-/

namespace Fuerte

set_option autoImplicit false

/-- A `std::string`: bytes, in no particular encoding. -/
abbrev ByteString := List UInt8

def ascii (s : String) : ByteString := s.toList.map fun c => UInt8.ofNat c.toNat

/-- Numbers that identify requests. The connection's 64-bit counter is never
exhausted, so they are natural numbers until they are written to a header. -/
abbrev MessageID := Nat

inductive ErrorCondition where
  | noError
  | errorCastError
  | connectionError
  | couldNotConnect
  | timeout
  | vstReadError
  | vstWriteError
  | canceledDuringReset
  | malformedURL
  | curlError
  deriving DecidableEq, Repr

def errorToInt : ErrorCondition → Nat
  | .noError => 0
  | .errorCastError => 1
  | .connectionError => 1000
  | .couldNotConnect => 1001
  | .timeout => 1002
  | .vstReadError => 1102
  | .vstWriteError => 1103
  | .canceledDuringReset => 1104
  | .malformedURL => 1105
  | .curlError => 3000

theorem errorToInt_eq_zero_iff (e : ErrorCondition) : errorToInt e = 0 ↔ e = .noError := by
  cases e <;> simp [errorToInt]

inductive MessageType where
  | undefined
  | request
  | response
  | responseUnfinished
  | authentication
  | unnamed (n : Int)
  deriving DecidableEq, Repr

namespace MessageType

def toInt : MessageType → Int
  | undefined => 0
  | request => 1
  | response => 2
  | responseUnfinished => 3
  | authentication => 1000
  | unnamed n => n

def ofInt (n : Int) : MessageType :=
  if n = 0 then undefined
  else if n = 1 then request
  else if n = 2 then response
  else if n = 3 then responseUnfinished
  else if n = 1000 then authentication
  else unnamed n

end MessageType

inductive RestVerb where
  | illegal
  | delete
  | get
  | post
  | put
  | head
  | patch
  | options
  | unnamed (n : Int)
  deriving DecidableEq, Repr

namespace RestVerb

def toInt : RestVerb → Int
  | illegal => -1
  | delete => 0
  | get => 1
  | post => 2
  | put => 3
  | head => 4
  | patch => 5
  | options => 6
  | unnamed n => n

/-- `static_cast<RestVerb>`, whose underlying type is `int`. -/
def ofInt (n : Int) : RestVerb :=
  let n := n.bmod (2 ^ 32)
  if n = -1 then illegal
  else if n = 0 then delete
  else if n = 1 then get
  else if n = 2 then post
  else if n = 3 then put
  else if n = 4 then head
  else if n = 5 then patch
  else if n = 6 then options
  else unnamed n

end RestVerb

inductive ContentType where
  | unset
  | custom
  | vpack
  | dump
  | json
  | html
  | text
  deriving DecidableEq, Repr

inductive AuthenticationType where
  | none
  | basic
  | jwt
  deriving DecidableEq, Repr

inductive VSTVersion where
  | vst1_0
  | vst1_1
  deriving DecidableEq, Repr

/-- How a C++ function ends when it does not return. -/
inductive Fault where
  | runtimeError (what : String)
  | logicError (what : String)
  | invalidArgument (what : String)
  | velocypack (what : String)
  /-- `get` on an empty `boost::optional`. -/
  | emptyOptional
  /-- A failed `assert`. -/
  | assertion
  /-- A member access through an empty smart pointer. -/
  | nullPointer
  /-- `pop_front` on an empty deque. -/
  | emptyQueue
  /-- An access to an object that has been destroyed. -/
  | useAfterFree
  /-- A read outside of a buffer. -/
  | outOfBounds
  /-- A loop that makes no progress. -/
  | diverges
  deriving DecidableEq, Repr

theorem exists_of_bind_ok {ε α β : Type} {first : Except ε α} {next : α → Except ε β} {b : β}
    (h : first >>= next = .ok b) : ∃ a, first = .ok a ∧ next a = .ok b := by
  cases first with
  | error fault => cases h
  | ok a => exact ⟨a, rfl, h⟩

/-- A `boost::asio::const_buffer`: `size` bytes from `offset` on in the memory at `base`. -/
structure ConstBuffer where
  base : ByteMemory.Pointer
  offset : Nat
  size : Nat

namespace ConstBuffer

def bytes (b : ConstBuffer) : List UInt8 := (b.base.add b.offset).read b.size

def ofList (block : List UInt8) : ConstBuffer :=
  ⟨ByteMemory.Pointer.ofList block fun _ => 0, 0, block.length⟩

def empty : ConstBuffer := ⟨fun _ => 0, 0, 0⟩

@[simp] theorem length_bytes (b : ConstBuffer) : b.bytes.length = b.size :=
  ByteMemory.Pointer.length_read _ _

@[simp] theorem bytes_ofList (block : List UInt8) : (ofList block).bytes = block := by
  rw [bytes, ofList, ByteMemory.Pointer.add_zero, ByteMemory.Pointer.read_ofList]

end ConstBuffer

end Fuerte

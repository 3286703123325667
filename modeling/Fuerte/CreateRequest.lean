import Fuerte.RequestPayload

/-! # Creating requests

Six functions are called `createRequest`, and they call one another. Which one a
call reaches is decided by its arguments.
-/

namespace Fuerte

set_option autoImplicit false

open ByteMemory

namespace CreateRequest

inductive Argument where
  | messageHeader (header : MessageHeader)
  | stringMap (strings : StringMap)
  | string (text : ByteString)
  | restVerb (verb : RestVerb)
  | contentType (type : ContentType)
  | vbuffer (buffer : List UInt8)
  /-- A slice that starts at this memory. -/
  | vslice (memory : List UInt8)

inductive ArgumentType where
  | messageHeader
  | stringMap
  | string
  | restVerb
  | contentType
  | vbuffer
  | vslice
  deriving DecidableEq, Repr

def Argument.type : Argument → ArgumentType
  | messageHeader _ => .messageHeader
  | stringMap _ => .stringMap
  | string _ => .string
  | restVerb _ => .restVerb
  | contentType _ => .contentType
  | vbuffer _ => .vbuffer
  | vslice _ => .vslice

/-- An argument as it is passed: as a temporary or moved, or by its name. -/
structure Passed where
  argument : Argument
  rvalue : Bool

inductive Passing where
  | value
  | constReference
  | rvalueReference
  deriving DecidableEq, Repr

structure Parameter where
  type : ArgumentType
  passing : Passing
  hasDefault : Bool := false

/-- The argument initialises the parameter without a conversion. -/
def Parameter.accepts (parameter : Parameter) (passed : Passed) : Bool :=
  parameter.type = passed.argument.type && (parameter.passing ≠ .rvalueReference || passed.rvalue)

inductive Overload where
  | base
  | withDatabase
  | withoutHeader
  | withBuffer
  | withSlice
  | withoutPayload
  deriving DecidableEq, Repr

/-- The declarations in `requests.h`. -/
def Overload.parameters : Overload → List Parameter
  | base => [⟨.messageHeader, .rvalueReference, false⟩, ⟨.stringMap, .rvalueReference, false⟩,
      ⟨.restVerb, .constReference, false⟩, ⟨.contentType, .constReference, false⟩]
  | withDatabase => [⟨.messageHeader, .constReference, false⟩, ⟨.stringMap, .constReference, false⟩,
      ⟨.string, .constReference, false⟩, ⟨.restVerb, .constReference, false⟩,
      ⟨.contentType, .constReference, false⟩]
  | withoutHeader => [⟨.restVerb, .constReference, false⟩, ⟨.contentType, .constReference, false⟩]
  | withBuffer => [⟨.restVerb, .value, false⟩, ⟨.string, .constReference, false⟩,
      ⟨.stringMap, .constReference, false⟩, ⟨.vbuffer, .rvalueReference, false⟩]
  | withSlice => [⟨.restVerb, .value, false⟩, ⟨.string, .constReference, false⟩,
      ⟨.stringMap, .constReference, false⟩, ⟨.vslice, .constReference, false⟩]
  | withoutPayload => [⟨.restVerb, .value, false⟩, ⟨.string, .constReference, false⟩,
      ⟨.stringMap, .constReference, true⟩]

/-- Every argument has its parameter, and the other parameters have defaults. -/
def viable : List Parameter → List Passed → Bool
  | parameters, [] => parameters.all Parameter.hasDefault
  | [], _ :: _ => false
  | parameter :: parameters, passed :: arguments =>
    parameter.accepts passed && viable parameters arguments

/-- Overload resolution, where one function alone is viable. -/
def resolve (arguments : List Passed) : Option Overload :=
  match [Overload.base, .withDatabase, .withoutHeader, .withBuffer, .withSlice, .withoutPayload].filter
    fun overload => viable overload.parameters arguments with
  | [overload] => some overload
  | _ => none

/-! ## What the functions do -/

/-- `std::move` of a local variable, or a temporary. -/
def moved (argument : Argument) : Passed := ⟨argument, true⟩

/-- A variable by its name. -/
def named (argument : Argument) : Passed := ⟨argument, false⟩

def fuAcceptKey : ByteString := ascii "accept"

/-- `MessageHeader::acceptType(ContentType)`. -/
def acceptType (header : MessageHeader) (type : ContentType) : Except Fault MessageHeader := do
  let text ← type.toText
  return header.addMeta fuAcceptKey text

/-- `Request(MessageHeader&&, StringMap&&)`. -/
def construct (messageHeader : MessageHeader) (headerStrings : StringMap) : Request :=
  Request.ofHeader
    (if headerStrings = [] then messageHeader
    else { messageHeader with metadata := some headerStrings })

/-- The body of the base case. -/
def createBase (messageHeader : MessageHeader) (headerStrings : StringMap) (verb : RestVerb)
    (contentType : ContentType) : Except Fault Request := do
  let request := construct messageHeader headerStrings
  let header := { request.header with restVerb := some verb }
  let header := if header.type = none then { header with type := some .request } else header
  let header ← header.contentType contentType
  let header ← acceptType header .vpack
  return { request with header }

/-- What the functions for users add to a request without a payload. -/
def withPath (path : ByteString) (parameters : StringMap) (request : Request) : Request :=
  { request with
    header := { request.header with path := some path, parameters := some parameters } }

section Calls

variable (vpack : VelocyPack) (buffers : BufferLibrary)

/-- A call of `createRequest`. The first argument bounds the depth of the calls. -/
def createRequest : Nat → List Passed → Option (Except Fault Request)
  | 0, _ => none
  | depth + 1, arguments =>
    match resolve arguments, arguments.map Passed.argument with
    | some .base, [.messageHeader messageHeader, .stringMap headerStrings, .restVerb verb,
        .contentType contentType] =>
      some (createBase messageHeader headerStrings verb contentType)
    | some .withDatabase, [.messageHeader messageHeader, .stringMap headerStrings, .string database,
        .restVerb verb, .contentType contentType] =>
      createRequest depth [moved (.messageHeader messageHeader), moved (.stringMap headerStrings),
        named (.string database), named (.restVerb verb), named (.contentType contentType)]
    | some .withoutHeader, [.restVerb verb, .contentType contentType] =>
      createRequest depth [moved (.messageHeader {}), moved (.stringMap []), named (.restVerb verb),
        named (.contentType contentType)]
    | some .withBuffer, [.restVerb verb, .string path, .stringMap parameters, .vbuffer payload] => do
      let request ← createRequest depth [named (.restVerb verb), moved (.contentType .vpack)]
      return request >>= fun request => (withPath path parameters request).addVPackMoved buffers payload
    | some .withSlice, [.restVerb verb, .string path, .stringMap parameters, .vslice payload] => do
      let request ← createRequest depth [named (.restVerb verb), moved (.contentType .vpack)]
      return request >>= fun request =>
        (withPath path parameters request).addVPackSlice vpack buffers payload
    | some .withoutPayload, .restVerb verb :: .string path :: parameters => do
      let request ← createRequest depth [named (.restVerb verb), moved (.contentType .vpack)]
      return request.map (withPath path (match parameters with
        | [.stringMap parameters] => parameters
        | _ => []))
    | _, _ => none

end Calls

/-! ## The function with a database -/

/-- A call with a database; the last argument says how the others are passed. -/
def databaseCall (messageHeader : MessageHeader) (headerStrings : StringMap) (database : ByteString)
    (verb : RestVerb) (contentType : ContentType) (rvalue : Nat → Bool) : List Passed :=
  [⟨.messageHeader messageHeader, rvalue 0⟩, ⟨.stringMap headerStrings, rvalue 1⟩,
    ⟨.string database, rvalue 2⟩, ⟨.restVerb verb, rvalue 3⟩, ⟨.contentType contentType, rvalue 4⟩]

/-- The call returns what the base case makes of the other arguments, for this database. -/
def ReturnsForDatabase (vpack : VelocyPack) (buffers : BufferLibrary) (messageHeader : MessageHeader)
    (headerStrings : StringMap) (database : ByteString) (verb : RestVerb)
    (contentType : ContentType) (rvalue : Nat → Bool) : Prop :=
  ∃ depth base, createBase messageHeader headerStrings verb contentType = .ok base ∧
    createRequest vpack buffers depth
        (databaseCall messageHeader headerStrings database verb contentType rvalue) =
      some (.ok { base with header := { base.header with database := some database } })

section Resolution

variable (vpack : VelocyPack) (buffers : BufferLibrary) (messageHeader : MessageHeader)
  (headerStrings : StringMap) (database : ByteString) (verb : RestVerb) (contentType : ContentType)

/-- Five arguments reach the function with a database, however they are passed. -/
theorem resolve_databaseCall (rvalue : Nat → Bool) :
    resolve (databaseCall messageHeader headerStrings database verb contentType rvalue) =
      some .withDatabase := by
  simp [resolve, databaseCall, viable, Overload.parameters, Parameter.accepts, Argument.type]

theorem createRequest_databaseCall (depth : Nat) (rvalue : Nat → Bool) :
    createRequest vpack buffers (depth + 1)
        (databaseCall messageHeader headerStrings database verb contentType rvalue) =
      createRequest vpack buffers depth
        (databaseCall messageHeader headerStrings database verb contentType fun i => i < 2) := by
  rw [createRequest, resolve_databaseCall]
  rfl

theorem createRequest_databaseCall_eq_none (depth : Nat) (rvalue : Nat → Bool) :
    createRequest vpack buffers depth
      (databaseCall messageHeader headerStrings database verb contentType rvalue) = none := by
  induction depth generalizing rvalue with
  | zero => rfl
  | succ depth ih => rw [createRequest_databaseCall, ih]

/-- The base case is what the header is passed to as a temporary. -/
theorem createRequest_base (depth : Nat) (rvalue : Nat → Bool) :
    createRequest vpack buffers (depth + 1) [moved (.messageHeader messageHeader),
        moved (.stringMap headerStrings), ⟨.restVerb verb, rvalue 0⟩,
        ⟨.contentType contentType, rvalue 1⟩] =
      some (createBase messageHeader headerStrings verb contentType) := by
  have hResolve : resolve [moved (.messageHeader messageHeader), moved (.stringMap headerStrings),
      ⟨.restVerb verb, rvalue 0⟩, ⟨.contentType contentType, rvalue 1⟩] = some .base := by
    simp [resolve, moved, viable, Overload.parameters, Parameter.accepts, Argument.type]
  rw [createRequest, hResolve]
  rfl

theorem createBase_returns {contentType : ContentType} (h : contentType ≠ .custom) :
    ∃ request, createBase messageHeader headerStrings verb contentType = .ok request := by
  cases contentType
  case custom => exact absurd rfl h
  all_goals exact ⟨_, rfl⟩

end Resolution

/-- The function with a database never returns. -/
theorem database_call_diverges (vpack : VelocyPack) (buffers : BufferLibrary)
    (messageHeader : MessageHeader) (headerStrings : StringMap) (database : ByteString)
    (verb : RestVerb) (contentType : ContentType) (rvalue : Nat → Bool) :
    ¬ ReturnsForDatabase vpack buffers messageHeader headerStrings database verb contentType
      rvalue := by
  rintro ⟨depth, base, -, hCall⟩
  rw [createRequest_databaseCall_eq_none] at hCall
  cases hCall

/-- The base case makes a request of an empty header, the function with a
database none. -/
theorem no_request_for_system_database :
    (∃ base, createBase {} [] .get .vpack = .ok base) ∧
      ¬ ReturnsForDatabase .short .zeroed {} [] (ascii "_system") .get .vpack
        (fun _ => false) := by
  refine ⟨createBase_returns {} [] .get ContentType.noConfusion, ?_⟩
  rintro ⟨depth, base, -, hCall⟩
  rw [createRequest_databaseCall_eq_none] at hCall
  cases hCall

end CreateRequest

end Fuerte

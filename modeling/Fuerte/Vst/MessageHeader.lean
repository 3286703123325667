import Fuerte.Message

/-! # The header of a VST message

A message starts with one velocypack array. Encoder and decoder address its
members by position, with another layout for every message type.
-/

namespace Fuerte.Vst

set_option autoImplicit false

section Encoding

variable {α : Type}

/-- `optional.get()`. -/
def getOptional : Option α → Except Fault α
  | some a => .ok a
  | none => .error .emptyOptional

/-- A member the encoder checks before it reads it. -/
def getChecked (name : String) : Option α → Except Fault α
  | some a => .ok a
  | none => .error (.runtimeError (name ++ " for message not set"))

end Encoding

def stringMapValue (map : Option StringMap) : VValue :=
  .object ((map.getD []).map fun entry => (entry.1, .string entry.2))

def createVstMessageHeader (header : MessageHeader) : Except Fault VValue := do
  let version ← getOptional header.version
  let type ← getOptional header.type
  let members ← match type with
    | .authentication => do
      let encryption ← getOptional header.encryption
      if encryption = ascii "plain" then
        let user ← getOptional header.user
        let password ← getOptional header.password
        pure [.string encryption, .string user, .string password]
      else if encryption = ascii "jwt" then
        let token ← getOptional header.token
        pure [.string encryption, .string token]
      else
        throw (.invalidArgument ("unknown encryption: " ++
          String.ofList (encryption.map fun b => Char.ofNat b.toNat)))
    | .request => do
      let database ← getChecked "database" header.database
      let restVerb ← getChecked "rest verb" header.restVerb
      let path ← getChecked "path" header.path
      pure [.string database, .int restVerb.toInt, .string path,
        stringMapValue header.parameters, stringMapValue header.metadata]
    | .response => do
      let responseCode ← getChecked "response code" header.responseCode
      pure [.uint responseCode]
    | _ => pure []
  return .array (.int version :: .int type.toInt :: members)

/-- An `assert`, as it behaves when the build has assertions and when it has not. -/
def assertThat (assertions condition : Bool) : Except Fault Unit :=
  if assertions && !condition then .error .assertion else .ok ()

def sliceToStringMap (vpack : VelocyPack) (assertions : Bool) (slice : List UInt8) :
    Except Fault StringMap := do
  assertThat assertions (vpack.isObject slice)
  let members ← velocypack (vpack.members slice)
  members.foldlM (fun map (key, value) => do
    let key ← velocypack (vpack.copyString key)
    let value ← velocypack (vpack.copyString value)
    return StringMap.insert map key value) []

/-- The part of `messageHeaderFromSlice` that depends on the type. -/
def readMembers (vpack : VelocyPack) (assertions : Bool) (headerSlice : List UInt8)
    (header : MessageHeader) : MessageType → Except Fault MessageHeader
  | .authentication => do
    let user ← velocypack (vpack.copyString (← velocypack (vpack.atIndex headerSlice 2)))
    let password ← velocypack (vpack.copyString (← velocypack (vpack.atIndex headerSlice 3)))
    return { header with user := some user, password := some password }
  | .request => do
    let database ← velocypack (vpack.copyString (← velocypack (vpack.atIndex headerSlice 2)))
    let restVerb ← velocypack (vpack.getInt (← velocypack (vpack.atIndex headerSlice 3)))
    let path ← velocypack (vpack.copyString (← velocypack (vpack.atIndex headerSlice 4)))
    let parameters ← sliceToStringMap vpack assertions (← velocypack (vpack.atIndex headerSlice 5))
    let metadata ← sliceToStringMap vpack assertions (← velocypack (vpack.atIndex headerSlice 6))
    return { header with
      database := some database
      restVerb := some (.ofInt restVerb)
      path := some path
      parameters := some parameters
      metadata := some metadata }
  | .response => do
    let responseCode ← velocypack (vpack.getUInt (← velocypack (vpack.atIndex headerSlice 2)))
    let header ← { header with responseCode := some (responseCode % 2 ^ 32) }.contentType .vpack
    let length ← velocypack (vpack.length headerSlice)
    if 4 ≤ length then
      let metadata ← sliceToStringMap vpack assertions (← velocypack (vpack.atIndex headerSlice 3))
      return { header with metadata := some metadata }
    else
      return header
  | _ => return header

def messageHeaderFromSlice (vpack : VelocyPack) (assertions : Bool) (vstVersionID : Int)
    (headerSlice : List UInt8) : Except Fault MessageHeader := do
  assertThat assertions (vpack.isArray headerSlice)
  let header : MessageHeader := { byteSize := some (vpack.byteSize headerSlice) }
  let header ← header.contentType (if vstVersionID = 1 then .vpack else .unset)
  let version ← velocypack (vpack.getNumberInt (← velocypack (vpack.atIndex headerSlice 0)))
  let typeNumber ← velocypack (vpack.getNumberInt (← velocypack (vpack.atIndex headerSlice 1)))
  readMembers vpack assertions headerSlice
    { header with version := some version, type := some (.ofInt typeNumber) } (.ofInt typeNumber)

/-- The decoded header and the number of bytes its slice takes up. -/
def validateAndExtractMessageHeader (vpack : VelocyPack) (assertions : Bool) (vstVersionID : Int)
    (message : List UInt8) : Except Fault (MessageHeader × Nat) :=
  match vpack.validate message with
  | some what => .error (.runtimeError
      ("error during validation of incoming VPack (HEADER): " ++ what))
  | none => do
    let header ← messageHeaderFromSlice vpack assertions vstVersionID message
    return (header, vpack.byteSize message)

end Fuerte.Vst

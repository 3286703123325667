import Fuerte.StringMap
import Fuerte.Vst.MessageHeader

/-! # What the decoder of message headers gets back from the encoder

The encoder puts the encryption of an authentication header in front of the
credentials, and the decoder takes the first string it finds for the user. All
other headers come back.
-/

namespace Fuerte

set_option autoImplicit false

/-! ## Values that are read back -/

/-- At this memory the operations of velocypack find this value. -/
inductive VelocyPack.Decodes (vpack : VelocyPack) : List UInt8 → VValue → Prop
  | int {memory : List UInt8} {n : Int} : vpack.getNumberInt memory = .ok n →
      vpack.getInt memory = .ok n → Decodes vpack memory (.int n)
  | uint {memory : List UInt8} {n : Nat} : vpack.getUInt memory = .ok n →
      Decodes vpack memory (.uint n)
  | string {memory : List UInt8} {s : ByteString} : vpack.copyString memory = .ok s →
      Decodes vpack memory (.string s)
  | array {memory : List UInt8} {members : List VValue} (slices : Nat → List UInt8) :
      vpack.isArray memory = true → vpack.length memory = .ok members.length →
      (∀ i < members.length, vpack.atIndex memory i = .ok (slices i)) →
      (∀ i member, members[i]? = some member → Decodes vpack (slices i) member) →
      Decodes vpack memory (.array members)
  | object {memory : List UInt8} {members : List (ByteString × VValue)}
      (visited : List ((List UInt8 × List UInt8) × ByteString × VValue)) :
      vpack.isObject memory = true → vpack.members memory = .ok (visited.map Prod.fst) →
      (visited.map Prod.snd).Perm members →
      (∀ entry ∈ visited, vpack.copyString entry.1.1 = .ok entry.2.1) →
      (∀ entry ∈ visited, Decodes vpack entry.1.2 entry.2.2) →
      Decodes vpack memory (.object members)

namespace VelocyPack.Decodes

variable {vpack : VelocyPack} {memory : List UInt8}

theorem getString {s : ByteString} (h : vpack.Decodes memory (.string s)) :
    velocypack (vpack.copyString memory) = .ok s := by
  cases h with
  | string hString => rw [hString]; rfl

theorem getNumberInt {n : Int} (h : vpack.Decodes memory (.int n)) :
    velocypack (vpack.getNumberInt memory) = .ok n := by
  cases h with
  | int hNumber hInt => rw [hNumber]; rfl

theorem getInt {n : Int} (h : vpack.Decodes memory (.int n)) :
    velocypack (vpack.getInt memory) = .ok n := by
  cases h with
  | int hNumber hInt => rw [hInt]; rfl

theorem getUInt {n : Nat} (h : vpack.Decodes memory (.uint n)) :
    velocypack (vpack.getUInt memory) = .ok n := by
  cases h with
  | uint hNumber => rw [hNumber]; rfl

/-- The members of an array, one after the other. -/
theorem array_iff {members : List VValue} (h : vpack.Decodes memory (.array members)) :
    vpack.isArray memory = true ∧ velocypack (vpack.length memory) = .ok members.length ∧
      ∀ i member, members[i]? = some member →
        ∃ slice, velocypack (vpack.atIndex memory i) = .ok slice ∧ vpack.Decodes slice member := by
  cases h with
  | array slices hArray hLength hAt hMembers =>
    refine ⟨hArray, by rw [hLength]; rfl, fun i member hMember => ⟨slices i, ?_, hMembers i member hMember⟩⟩
    rw [hAt i (List.getElem?_eq_some_iff.mp hMember).1]
    rfl

end VelocyPack.Decodes

namespace Vst

/-! ## Objects as maps -/

def text : VValue → ByteString
  | .string s => s
  | _ => []

section Members

variable {vpack : VelocyPack}

theorem foldlM_members (visited : List ((List UInt8 × List UInt8) × ByteString × VValue))
    (hKeys : ∀ entry ∈ visited, vpack.copyString entry.1.1 = .ok entry.2.1)
    (hValues : ∀ entry ∈ visited, vpack.copyString entry.1.2 = .ok (text entry.2.2))
    (start : StringMap) :
    (visited.map Prod.fst).foldlM (fun (map : StringMap) ((key, value) : List UInt8 × List UInt8) => do
      let key ← velocypack (vpack.copyString key)
      let value ← velocypack (vpack.copyString value)
      return StringMap.insert map key value) start =
    (.ok ((visited.map fun entry => (entry.2.1, text entry.2.2)).foldl
      (fun map entry => StringMap.insert map entry.1 entry.2) start) : Except Fault StringMap) := by
  induction visited generalizing start with
  | nil => rfl
  | cons entry visited ih =>
    obtain ⟨⟨key, value⟩, entry⟩ := entry
    have hKey : vpack.copyString key = .ok entry.1 := hKeys _ List.mem_cons_self
    have hValue : vpack.copyString value = .ok (text entry.2) := hValues _ List.mem_cons_self
    rw [List.map_cons, List.foldlM_cons, List.map_cons, List.foldl_cons]
    dsimp only
    rw [hKey, hValue]
    exact ih (fun e he => hKeys e (List.mem_cons_of_mem _ he))
      (fun e he => hValues e (List.mem_cons_of_mem _ he)) _

theorem sliceToStringMap_decodes (assertions : Bool) {slice : List UInt8} {map : Option StringMap}
    (hMap : StringMap.Ordered (map.getD []))
    (hSlice : vpack.Decodes slice (stringMapValue map)) :
    sliceToStringMap vpack assertions slice = .ok (map.getD []) := by
  rw [stringMapValue] at hSlice
  cases hSlice with
  | object visited hObject hMembers hPerm hKeys hDecodes =>
    have hValues : ∀ entry ∈ visited, vpack.copyString entry.1.2 = .ok (text entry.2.2) := by
      intro entry hEntry
      have hMem := hPerm.subset (List.mem_map_of_mem (f := Prod.snd) hEntry)
      obtain ⟨source, -, hSource⟩ := List.mem_map.mp hMem
      have hString := hDecodes entry hEntry
      rw [← hSource] at hString ⊢
      cases hString with
      | string hCopy => exact hCopy
    have hEntries : (visited.map fun entry => (entry.2.1, text entry.2.2)).Perm (map.getD []) := by
      have hText := hPerm.map fun entry => (entry.1, text entry.2)
      simpa [List.map_map, Function.comp_def, text] using hText
    rw [sliceToStringMap, hMembers, assertThat, hObject]
    rw [Bool.not_true, Bool.and_false]
    refine Eq.trans (foldlM_members visited hKeys hValues []) ?_
    rw [StringMap.foldl_insert hEntries hMap]

end Members

/-! ## The layouts of the encoder -/

/-- The numbers fit into their types, a verb is given by its name where it has
one, and the maps are ordered. -/
structure WellFormed (header : MessageHeader) : Prop where
  restVerb : ∀ verb, header.restVerb = some verb → RestVerb.ofInt verb.toInt = verb
  responseCode : ∀ code, header.responseCode = some code → code < 2 ^ 32
  parameters : StringMap.Ordered (header.parameters.getD [])
  metadata : StringMap.Ordered (header.metadata.getD [])

/-- The members of the encoded array after version and type. -/
inductive Layout (header : MessageHeader) : MessageType → List VValue → Prop
  | plain {user password : ByteString} : header.encryption = some (ascii "plain") →
      header.user = some user → header.password = some password →
      Layout header .authentication [.string (ascii "plain"), .string user, .string password]
  | jwt {token : ByteString} : header.encryption = some (ascii "jwt") →
      header.token = some token →
      Layout header .authentication [.string (ascii "jwt"), .string token]
  | request {database path : ByteString} {restVerb : RestVerb} : header.database = some database →
      header.restVerb = some restVerb → header.path = some path →
      Layout header .request [.string database, .int restVerb.toInt, .string path,
        stringMapValue header.parameters, stringMapValue header.metadata]
  | response {responseCode : Nat} : header.responseCode = some responseCode →
      Layout header .response [.uint responseCode]

theorem getOptional_ok {α : Type} {member : Option α} {a : α} (h : getOptional member = .ok a) :
    member = some a := by
  cases member with
  | none => cases h
  | some b => cases h; rfl

theorem getChecked_ok {α : Type} {name : String} {member : Option α} {a : α}
    (h : getChecked name member = .ok a) : member = some a := by
  cases member with
  | none => cases h
  | some b => cases h; rfl

theorem layout_of_createVstMessageHeader {header : MessageHeader} {value : VValue}
    {type : MessageType} (hType : header.type = some type)
    (hKind : type = .authentication ∨ type = .request ∨ type = .response)
    (h : createVstMessageHeader header = .ok value) :
    ∃ version members, header.version = some version ∧ Layout header type members ∧
      value = .array (.int version :: .int type.toInt :: members) := by
  rw [createVstMessageHeader, hType] at h
  obtain ⟨version, hVersion, h⟩ := exists_of_bind_ok h
  obtain ⟨type', hType', h⟩ := exists_of_bind_ok h
  cases hType'
  have hVersion := getOptional_ok hVersion
  rcases hKind with rfl | rfl | rfl
  · obtain ⟨encryption, hEncryption, h⟩ := exists_of_bind_ok h
    have hEncryption := getOptional_ok hEncryption
    split at h
    · rename_i hPlain
      obtain ⟨user, hUser, h⟩ := exists_of_bind_ok h
      obtain ⟨password, hPassword, h⟩ := exists_of_bind_ok h
      cases h
      rw [hPlain] at hEncryption ⊢
      exact ⟨version, _, hVersion,
        .plain hEncryption (getOptional_ok hUser) (getOptional_ok hPassword), rfl⟩
    · split at h
      · rename_i hJwt
        obtain ⟨token, hToken, h⟩ := exists_of_bind_ok h
        cases h
        rw [hJwt] at hEncryption ⊢
        exact ⟨version, _, hVersion, .jwt hEncryption (getOptional_ok hToken), rfl⟩
      · cases h
  · obtain ⟨database, hDatabase, h⟩ := exists_of_bind_ok h
    obtain ⟨restVerb, hRestVerb, h⟩ := exists_of_bind_ok h
    obtain ⟨path, hPath, h⟩ := exists_of_bind_ok h
    cases h
    exact ⟨version, _, hVersion,
      .request (getChecked_ok hDatabase) (getChecked_ok hRestVerb) (getChecked_ok hPath), rfl⟩
  · obtain ⟨responseCode, hResponseCode, h⟩ := exists_of_bind_ok h
    cases h
    exact ⟨version, _, hVersion, .response (getChecked_ok hResponseCode), rfl⟩

/-! ## The decoder on these layouts -/

section Decoding

variable {vpack : VelocyPack} (assertions : Bool) (vstVersionID : Int) {memory : List UInt8}
  {version : Int}

theorem contentType_ok (header : MessageHeader) :
    ∃ metadata, header.contentType (if vstVersionID = 1 then .vpack else .unset) =
      .ok { header with metadata } := by
  split <;> exact ⟨_, rfl⟩

theorem decode_authentication {first second : ByteString} {members : List VValue}
    (h : vpack.Decodes memory (.array (.int version :: .int MessageType.authentication.toInt ::
      .string first :: .string second :: members))) :
    ∃ decoded, messageHeaderFromSlice vpack assertions vstVersionID memory = .ok decoded ∧
      decoded.version = some version ∧ decoded.type = some .authentication ∧
      decoded.user = some first ∧ decoded.password = some second ∧ decoded.token = none := by
  obtain ⟨hArray, -, hAt⟩ := h.array_iff
  obtain ⟨s0, h0, hVersion⟩ := hAt 0 _ rfl
  obtain ⟨s1, h1, hType⟩ := hAt 1 _ rfl
  obtain ⟨s2, h2, hFirst⟩ := hAt 2 _ rfl
  obtain ⟨s3, h3, hSecond⟩ := hAt 3 _ rfl
  obtain ⟨metadata, hContentType⟩ :=
    contentType_ok vstVersionID { byteSize := some (vpack.byteSize memory) }
  rw [messageHeaderFromSlice, assertThat, hArray]
  simp only [Bool.not_true, Bool.and_false, hContentType, h0, h1, h2, h3, hVersion.getNumberInt,
    hType.getNumberInt, bind, Except.bind, Bool.false_eq_true, if_false,
    readMembers, MessageType.ofInt, MessageType.toInt, hFirst.getString, hSecond.getString, pure,
    Except.pure]
  exact ⟨_, rfl, rfl, rfl, rfl, rfl, rfl⟩

theorem decode_request {database path : ByteString} {restVerb : RestVerb}
    {parameters metadata : Option StringMap} (hVerb : RestVerb.ofInt restVerb.toInt = restVerb)
    (hParameters : StringMap.Ordered (parameters.getD []))
    (hMetadata : StringMap.Ordered (metadata.getD []))
    (h : vpack.Decodes memory (.array [.int version, .int MessageType.request.toInt,
      .string database, .int restVerb.toInt, .string path, stringMapValue parameters,
      stringMapValue metadata])) :
    ∃ decoded, messageHeaderFromSlice vpack assertions vstVersionID memory = .ok decoded ∧
      decoded.version = some version ∧ decoded.type = some .request ∧
      decoded.database = some database ∧ decoded.restVerb = some restVerb ∧
      decoded.path = some path ∧ decoded.parameters = some (parameters.getD []) ∧
      decoded.metadata = some (metadata.getD []) := by
  obtain ⟨hArray, -, hAt⟩ := h.array_iff
  obtain ⟨s0, h0, hVersion⟩ := hAt 0 _ rfl
  obtain ⟨s1, h1, hType⟩ := hAt 1 _ rfl
  obtain ⟨s2, h2, hDatabase⟩ := hAt 2 _ rfl
  obtain ⟨s3, h3, hRestVerb⟩ := hAt 3 _ rfl
  obtain ⟨s4, h4, hPath⟩ := hAt 4 _ rfl
  obtain ⟨s5, h5, hFifth⟩ := hAt 5 _ rfl
  obtain ⟨s6, h6, hSixth⟩ := hAt 6 _ rfl
  obtain ⟨contentType, hContentType⟩ :=
    contentType_ok vstVersionID { byteSize := some (vpack.byteSize memory) }
  have hFifth := sliceToStringMap_decodes assertions hParameters hFifth
  have hSixth := sliceToStringMap_decodes assertions hMetadata hSixth
  rw [messageHeaderFromSlice, assertThat, hArray]
  simp only [Bool.not_true, Bool.and_false, hContentType, h0, h1, h2, h3, h4, h5, h6,
    hVersion.getNumberInt, hType.getNumberInt, bind, Except.bind, Bool.false_eq_true, if_false,
    readMembers, MessageType.ofInt, MessageType.toInt, hDatabase.getString, hRestVerb.getInt,
    hPath.getString, hFifth, hSixth, hVerb, pure, Except.pure]
  exact ⟨_, rfl, rfl, rfl, rfl, rfl, rfl, rfl, rfl⟩

theorem decode_response {responseCode : Nat} (hCode : responseCode < 2 ^ 32)
    (h : vpack.Decodes memory (.array [.int version, .int MessageType.response.toInt,
      .uint responseCode])) :
    ∃ decoded, messageHeaderFromSlice vpack assertions vstVersionID memory = .ok decoded ∧
      decoded.version = some version ∧ decoded.type = some .response ∧
      decoded.responseCode = some responseCode := by
  obtain ⟨hArray, hLength, hAt⟩ := h.array_iff
  obtain ⟨s0, h0, hVersion⟩ := hAt 0 _ rfl
  obtain ⟨s1, h1, hType⟩ := hAt 1 _ rfl
  obtain ⟨s2, h2, hResponseCode⟩ := hAt 2 _ rfl
  obtain ⟨metadata, hContentType⟩ :=
    contentType_ok vstVersionID { byteSize := some (vpack.byteSize memory) }
  rw [messageHeaderFromSlice, assertThat, hArray]
  simp only [Bool.not_true, Bool.and_false, hContentType, h0, h1, h2, hVersion.getNumberInt,
    hType.getNumberInt, bind, Except.bind, Bool.false_eq_true, if_false,
    readMembers, MessageType.ofInt, MessageType.toInt, hResponseCode.getUInt, hLength, pure,
    Except.pure, Nat.mod_eq_of_lt hCode]
  exact ⟨_, rfl, rfl, rfl, rfl⟩

end Decoding

/-! ## The codec -/

/-- The decoded header has every field that the encoding carries. -/
def Recovers (header decoded : MessageHeader) : Prop :=
  decoded.version = header.version ∧ decoded.type = header.type ∧
    match header.type with
    | some .authentication =>
      if header.encryption = some (ascii "plain") then
        decoded.user = header.user ∧ decoded.password = header.password
      else decoded.token = header.token
    | some .request =>
      decoded.database = header.database ∧ decoded.restVerb = header.restVerb ∧
        decoded.path = header.path ∧ decoded.parameters = some (header.parameters.getD []) ∧
        decoded.metadata = some (header.metadata.getD [])
    | some .response => decoded.responseCode = header.responseCode
    | _ => True

/-- The decoder reads the credentials one position too early, so that it takes
the encryption for the user and the user, or the token, for the password. -/
theorem header_codec (vpack : VelocyPack) (assertions : Bool) (vstVersionID : Int)
    (header : MessageHeader) (value : VValue) (hWellFormed : WellFormed header)
    (hType : header.type = some .authentication ∨ header.type = some .request ∨
      header.type = some .response)
    (hValue : createVstMessageHeader header = .ok value)
    (hDecodes : vpack.Decodes (vpack.build value) value) :
    (∃ decoded, messageHeaderFromSlice vpack assertions vstVersionID (vpack.build value) =
        .ok decoded ∧ Recovers header decoded) ↔
      (header.type = some .authentication → header.encryption = some (ascii "plain") ∧
        header.user = some (ascii "plain") ∧ header.password = some (ascii "plain")) := by
  obtain ⟨type, hSome⟩ : ∃ type, header.type = some type := by
    rcases hType with h | h | h <;> exact ⟨_, h⟩
  rw [hSome, Option.some_inj, Option.some_inj, Option.some_inj] at hType
  obtain ⟨version, members, hVersion, hLayout, rfl⟩ :=
    layout_of_createVstMessageHeader hSome hType hValue
  cases hLayout with
  | plain hEncryption hUser hPassword =>
    rename_i user password
    obtain ⟨decoded, hDecoded, hVersion', hType', hUser', hPassword', -⟩ :=
      decode_authentication assertions vstVersionID hDecodes
    simp only [hDecoded, Except.ok.injEq, exists_eq_left', Recovers, hSome, hVersion, hVersion',
      hType', hEncryption, hUser, hUser', hPassword, hPassword', if_true, true_and,
      forall_const, Option.some_inj]
    constructor
    · rintro ⟨rfl, rfl⟩
      exact ⟨rfl, rfl⟩
    · rintro ⟨rfl, rfl⟩
      exact ⟨rfl, rfl⟩
  | jwt hEncryption hToken =>
    obtain ⟨decoded, hDecoded, -, -, -, -, hToken'⟩ :=
      decode_authentication assertions vstVersionID hDecodes
    have hOther : ascii "jwt" ≠ ascii "plain" := by decide
    simp only [hDecoded, Except.ok.injEq, exists_eq_left', Recovers, hSome, hEncryption, hToken,
      hToken', Option.some_inj, hOther, if_false, reduceCtorEq, and_false, false_and,
      forall_const]
  | request hDatabase hRestVerb hPath =>
    obtain ⟨decoded, hDecoded, hFields⟩ := decode_request assertions vstVersionID
      (hWellFormed.restVerb _ hRestVerb) hWellFormed.parameters hWellFormed.metadata hDecodes
    refine iff_of_true ⟨decoded, hDecoded, ?_⟩ ?_
    · simpa only [Recovers, hSome, hVersion, hDatabase, hRestVerb, hPath] using hFields
    · rw [hSome]
      intro hOther
      cases hOther
  | response hResponseCode =>
    obtain ⟨decoded, hDecoded, hFields⟩ := decode_response assertions vstVersionID
      (hWellFormed.responseCode _ hResponseCode) hDecodes
    refine iff_of_true ⟨decoded, hDecoded, ?_⟩ ?_
    · simpa only [Recovers, hSome, hVersion, hResponseCode] using hFields
    · rw [hSome]
      intro hOther
      cases hOther

def versionHeader : MessageHeader where
  version := some 1
  type := some .request
  database := some (ascii "_system")
  restVerb := some .get
  path := some (ascii "/_api/version")

def versionValue : VValue :=
  .array [.int 1, .int 1, .string (ascii "_system"), .int 1, .string (ascii "/_api/version"),
    .object [], .object []]

theorem decodes_versionValue :
    VelocyPack.short.Decodes (VelocyPack.short.build versionValue) versionValue := by
  refine .array (fun i => (VelocyPack.short.atIndex (VelocyPack.short.build versionValue) i).toOption.getD [])
    (by decide) (by decide) (by decide) fun i member hMember => ?_
  rcases i with _ | _ | _ | _ | _ | _ | _ | i
  · cases hMember; exact .int (by decide) (by decide)
  · cases hMember; exact .int (by decide) (by decide)
  · cases hMember; exact .string (by decide)
  · cases hMember; exact .int (by decide) (by decide)
  · cases hMember; exact .string (by decide)
  · cases hMember; exact .object [] (by decide) (by decide) (List.Perm.refl _) (by decide) (by simp)
  · cases hMember; exact .object [] (by decide) (by decide) (List.Perm.refl _) (by decide) (by simp)
  · cases hMember

theorem header_codec_version :
    ∃ decoded, messageHeaderFromSlice .short true 1 (VelocyPack.short.build versionValue) =
      .ok decoded ∧ Recovers versionHeader decoded :=
  (header_codec .short true 1 versionHeader versionValue
    ⟨by decide, by decide, by decide, by decide⟩ (by decide) rfl decodes_versionValue).mpr (by decide)

def rootHeader : MessageHeader where
  version := some 1
  type := some .authentication
  encryption := some (ascii "plain")
  user := some (ascii "root")
  password := some (ascii "secret")

def rootValue : VValue :=
  .array [.int 1, .int 1000, .string (ascii "plain"), .string (ascii "root"), .string (ascii "secret")]

theorem decodes_rootValue :
    VelocyPack.short.Decodes (VelocyPack.short.build rootValue) rootValue := by
  refine .array (fun i => (VelocyPack.short.atIndex (VelocyPack.short.build rootValue) i).toOption.getD [])
    (by decide) (by decide) (by decide) fun i member hMember => ?_
  rcases i with _ | _ | _ | _ | _ | i
  · cases hMember; exact .int (by decide) (by decide)
  · cases hMember; exact .int (by decide) (by decide)
  · cases hMember; exact .string (by decide)
  · cases hMember; exact .string (by decide)
  · cases hMember; exact .string (by decide)
  · cases hMember

theorem header_codec_root :
    WellFormed rootHeader ∧ createVstMessageHeader rootHeader = .ok rootValue ∧
      VelocyPack.short.Decodes (VelocyPack.short.build rootValue) rootValue ∧
      ∃ decoded, messageHeaderFromSlice .short true 1 (VelocyPack.short.build rootValue) =
          .ok decoded ∧ decoded.user = some (ascii "plain") ∧
        decoded.password = some (ascii "root") ∧ ¬ Recovers rootHeader decoded := by
  refine ⟨⟨by decide, by decide, by decide, by decide⟩, rfl, decodes_rootValue, ?_⟩
  obtain ⟨decoded, hDecoded, -, -, hUser, hPassword, -⟩ :=
    decode_authentication true 1 decodes_rootValue
  refine ⟨decoded, hDecoded, hUser, hPassword, ?_⟩
  rintro ⟨-, -, hSame, -⟩
  rw [hUser] at hSame
  exact absurd hSame (by decide)

end Vst

end Fuerte

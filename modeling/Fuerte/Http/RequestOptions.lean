import Mathlib.Data.List.Nodup
import Mathlib.Data.List.TakeWhile
import Fuerte.Http.Connection
import Fuerte.Http.ReadHeaders
import Fuerte.RequestPayload

/-! # A request on its way through curl

The metadata and the payload of a request become options of a curl handle. What curl
receives becomes the metadata and the payload of the response. The two ways fit together:
what a server sends back arrives as it was sent.
-/

namespace Fuerte.Http.RequestOptions

set_option autoImplicit false

/-- What a `const char*` to the string is read as. -/
def cString (s : ByteString) : ByteString := s.takeWhile (· ≠ 0)

structure ConnectionConfiguration extends Connection.ConnectionConfiguration where
  user : ByteString := []
  password : ByteString := []

/-- `Options::connectionTimeout`, in seconds. -/
def connectionTimeout : Int := 2

/-- The options of a handle that depend on the request or the configuration. -/
structure Options where
  httpHeader : List ByteString
  url : ByteString
  timeoutMs : Nat
  connectTimeout : Int
  post : Bool := false
  customRequest : Option ByteString := none
  /-- User and password, for basic authentication. -/
  credentials : Option (ByteString × ByteString) := none
  /-- The bytes that curl copies, as many as `CURLOPT_POSTFIELDSIZE` says. -/
  copyPostFields : Option ByteString := none
  deriving DecidableEq, Repr

def headerLine (header : ByteString × ByteString) : ByteString :=
  cString (header.1 ++ ascii ": " ++ header.2)

/-- Nothing is set for `GET`, nor for a number that is no verb. -/
def setVerb (verb : RestVerb) (options : Options) : Except Fault Options :=
  match verb with
  | .post => .ok { options with post := true }
  | .put => .ok { options with customRequest := some (ascii "PUT") }
  | .delete => .ok { options with customRequest := some (ascii "DELETE") }
  | .head => .ok { options with customRequest := some (ascii "HEAD") }
  | .patch => .ok { options with customRequest := some (ascii "PATCH") }
  | .options => .ok { options with customRequest := some (ascii "OPTIONS") }
  | .get => .ok options
  | .illegal => .error (.runtimeError "Invalid request type illegal")
  | .unnamed _ => .ok options

def setAuthentication (configuration : ConnectionConfiguration) (options : Options) :
    Except Fault Options :=
  match configuration.authenticationType with
  | .none => .ok options
  | .basic =>
    .ok { options with
      credentials := some (cString configuration.user, cString configuration.password) }
  | .jwt => .error (.invalidArgument "Jwt authentication is not yet support")

def setBody (pay : ConstBuffer) (options : Options) : Options :=
  if 0 < pay.size then { options with copyPostFields := some pay.bytes } else options

/-- `createRequestItem` as far as it tells curl what to do. -/
def createOptions (configuration : ConnectionConfiguration) (destination : ByteString)
    (request : Request) : Except Fault Options :=
  let options : Options :=
    { httpHeader := (request.header.metadata.getD []).map headerLine
      url := cString (createSafeDottedCurlUrl destination)
      timeoutMs := request.timeout
      connectTimeout := if connectionTimeout ≤ 0 then 1 else connectionTimeout }
  match request.header.restVerb with
  | none => .error .emptyOptional
  | some verb => do
    let options ← setVerb verb options
    let options ← setAuthentication configuration options
    return setBody request.payloadBuffer options

/-- Curl passes the body on in pieces. -/
def readBody (responseBody data : ByteString) : ByteString := responseBody ++ data

/-! ## What is told -/

section Options

variable {configuration : ConnectionConfiguration} {destination : ByteString} {request : Request}
  {options : Options}

/-- Curl is told what to do for exactly the requests that are stored. -/
theorem createOptions_agrees (configuration : ConnectionConfiguration) (destination : ByteString)
    (request : Request) :
    (createOptions configuration destination request).map (fun _ => ()) =
      (Connection.createRequestItem configuration.toConnectionConfiguration destination
        request).map fun _ => () := by
  rw [createOptions, Connection.createRequestItem]
  cases request.header.restVerb with
  | none => rfl
  | some verb =>
    cases hType : configuration.authenticationType <;> cases verb <;>
      simp [setVerb, setAuthentication, hType] <;> rfl

theorem setVerb_kept {verb : RestVerb} {before : Options} (h : setVerb verb before = .ok options) :
    options.httpHeader = before.httpHeader ∧ options.copyPostFields = before.copyPostFields := by
  cases verb <;> cases h <;> exact ⟨rfl, rfl⟩

theorem setAuthentication_kept {before : Options}
    (h : setAuthentication configuration before = .ok options) :
    options.httpHeader = before.httpHeader ∧ options.copyPostFields = before.copyPostFields := by
  rw [setAuthentication] at h
  split at h <;> cases h <;> exact ⟨rfl, rfl⟩

theorem setBody_bytes (pay : ConstBuffer) {before : Options} (h : before.copyPostFields = none) :
    (setBody pay before).copyPostFields.getD [] = pay.bytes := by
  rw [setBody]
  split
  · rfl
  · rename_i hSize
    rw [h]
    exact (List.eq_nil_of_length_eq_zero (by rw [ConstBuffer.length_bytes]; omega)).symm

theorem httpHeader_setBody (pay : ConstBuffer) (before : Options) :
    (setBody pay before).httpHeader = before.httpHeader := by
  rw [setBody]
  split <;> rfl

/-- All metadata and the whole payload are handed to curl. -/
theorem createOptions_told (h : createOptions configuration destination request = .ok options) :
    options.httpHeader = (request.header.metadata.getD []).map headerLine ∧
      options.copyPostFields.getD [] = request.payloadBuffer.bytes := by
  rw [createOptions] at h
  cases hVerb : request.header.restVerb with
  | none =>
    rw [hVerb] at h
    cases h
  | some verb =>
    rw [hVerb] at h
    obtain ⟨first, hFirst, h⟩ := exists_of_bind_ok h
    obtain ⟨second, hSecond, h⟩ := exists_of_bind_ok h
    obtain ⟨hHeader, hFields⟩ := setVerb_kept hFirst
    obtain ⟨hHeader', hFields'⟩ := setAuthentication_kept hSecond
    cases h
    constructor
    · rw [httpHeader_setBody, hHeader', hHeader]
    · exact setBody_bytes _ (hFields'.trans hFields)

end Options

/-! ## What comes back -/

/-- A line that is stored under this key. -/
def Reads (line key value : ByteString) : Prop := readHeaders [] line = .ok [(key, value)]

theorem exists_colon_of_reads {line key value : ByteString} (h : Reads line key value) :
    byte ':' ∈ line := by
  by_contra hColon
  have hNone := readHeaders_of_no_colon hColon []
  rw [Reads, hNone] at h
  cases h

theorem Reads.unique {line key value other content : ByteString} (h : Reads line key value)
    (hOther : Reads line other content) : key = other ∧ value = content :=
  Prod.mk.inj (List.cons.inj (Except.ok.inj (h.symm.trans hOther))).1

theorem Reads.insert {line key value : ByteString} (h : Reads line key value) (map : StringMap) :
    readHeaders map line = .ok (StringMap.insert map key value) := by
  obtain ⟨name, rest, rfl, hName⟩ := List.eq_append_cons_of_mem (exists_colon_of_reads h)
  rw [Reads, readHeaders_eq hName] at h
  rw [readHeaders_eq hName]
  split at h
  · cases h
  · rename_i hRest
    cases h
    rw [if_neg hRest]

/-- What the connection can read: every line of it leaves the entries of the others. -/
def Readable (line : ByteString) : Prop := byte ':' ∉ line ∨ ∃ key value, Reads line key value

theorem exists_of_readable {lines : List ByteString} (h : ∀ line ∈ lines, Readable line)
    (start : StringMap) : ∃ after, lines.foldlM readHeaders start = .ok after := by
  induction lines generalizing start with
  | nil => exact ⟨start, rfl⟩
  | cons line lines ih =>
    have hLater := ih fun later hMem => h later (List.mem_cons_of_mem _ hMem)
    rw [List.foldlM_cons]
    rcases h line List.mem_cons_self with hColon | ⟨key, value, hReads⟩
    · rw [readHeaders_of_no_colon hColon]
      exact hLater start
    · rw [hReads.insert]
      exact hLater _

/-- Where all lines of a key agree on its value, one of them is enough. -/
theorem lookup_of_run {lines : List ByteString} {start after : StringMap} {key value : ByteString}
    (hReadable : ∀ line ∈ lines, Readable line) (hOrdered : start.Ordered)
    (hAgree : ∀ line ∈ lines, ∀ other, Reads line key other → other = value)
    (hFound : start.lookup key = some value ∨
      (start.lookup key = none ∧ ∃ line ∈ lines, Reads line key value))
    (hRun : lines.foldlM readHeaders start = .ok after) : after.lookup key = some value := by
  induction lines generalizing start with
  | nil =>
    cases hRun
    rcases hFound with hFound | ⟨-, line, hMem, -⟩
    · exact hFound
    · cases hMem
  | cons line lines ih =>
    rw [List.foldlM_cons] at hRun
    obtain ⟨next, hNext, hRun⟩ := exists_of_bind_ok hRun
    apply ih (fun later hMem => hReadable later (List.mem_cons_of_mem _ hMem))
      (readHeaders_ordered hOrdered hNext)
      (fun later hMem => hAgree later (List.mem_cons_of_mem _ hMem)) _ hRun
    rcases hReadable line List.mem_cons_self with hColon | ⟨stored, content, hReads⟩
    · rw [readHeaders_of_no_colon hColon] at hNext
      cases hNext
      refine hFound.imp_right fun ⟨hNone, hLine⟩ => ⟨hNone, ?_⟩
      apply ((List.exists_mem_cons_iff _ _ _).mp hLine).resolve_left
      intro hHere
      exact hColon (exists_colon_of_reads hHere)
    · rw [hReads.insert] at hNext
      cases hNext
      rw [hOrdered.lookup_insert]
      by_cases hKey : key = stored
      · left
        subst hKey
        rw [if_pos rfl]
        rcases hFound with hFound | ⟨hNone, -⟩
        · rw [hFound]
          rfl
        · rw [hNone, Option.getD_none, hAgree line List.mem_cons_self content hReads]
      · rw [if_neg hKey]
        refine hFound.imp_right fun ⟨hNone, hLine⟩ => ⟨hNone, ?_⟩
        apply ((List.exists_mem_cons_iff _ _ _).mp hLine).resolve_left
        intro hHere
        exact hKey (hHere.unique hReads).1

/-- Metadata that header lines can carry. -/
structure Carried (metadata : StringMap) : Prop where
  name_plain : ∀ entry ∈ metadata, byte ':' ∉ entry.1
  no_zero : ∀ entry ∈ metadata, 0 ∉ entry.1 ∧ 0 ∉ entry.2
  length_lt : ∀ entry ∈ metadata, entry.2.length < 2 ^ 64
  distinct : (metadata.map fun entry => entry.1.map tolower).Nodup

/-- A line that is sent comes back as the entry it was made from. -/
theorem Carried.reads {metadata : StringMap} (h : Carried metadata)
    {entry : ByteString × ByteString} (hEntry : entry ∈ metadata) :
    Reads (headerLine entry ++ crlf) (entry.1.map tolower) entry.2 := by
  obtain ⟨hName, hValue⟩ := h.no_zero entry hEntry
  have hLength := h.length_lt entry hEntry
  have hWhole : headerLine entry = entry.1 ++ ascii ": " ++ entry.2 := by
    apply List.takeWhile_eq_self_iff.mpr
    intro c hc
    apply decide_eq_true
    rintro rfl
    rcases List.mem_append.mp hc with hc | hc
    · rcases List.mem_append.mp hc with hc | hc
      · exact hName hc
      · exact absurd hc (by decide)
    · exact hValue hc
  have hLine : headerLine entry ++ crlf =
      entry.1 ++ byte ':' :: (0x20 :: (entry.2 ++ crlf)) := by
    rw [hWhole, show ascii ": " = [byte ':', 0x20] from by decide]
    simp
  rw [Reads, hLine, readHeaders_eq (h.name_plain entry hEntry), if_neg (List.cons_ne_nil _ _)]
  have hCount : ((0x20 :: (entry.2 ++ crlf)).length + 2 ^ 64 - 3) % 2 ^ 64 = entry.2.length := by
    rw [List.length_cons, List.length_append, show crlf.length = 2 from rfl]
    omega
  rw [hCount, List.drop_one, List.tail_cons, List.take_left]
  rfl

/-- What curl passes on when a server sends a request back: its header lines in any order,
further ones of other names, lines that are no headers, and the body in pieces. -/
structure Echoes (options : Options) (metadata : StringMap) (lines pieces : List ByteString) :
    Prop where
  headers : ∃ more, (lines.filter fun line => byte ':' ∈ line).Perm
      (options.httpHeader.map (· ++ crlf) ++ more) ∧
    ∀ line ∈ more, ∃ key value, Reads line key value ∧
      key ∉ metadata.map fun entry => entry.1.map tolower
  body : pieces.flatten = options.copyPostFields.getD []

section Echo

variable {options : Options} {metadata : StringMap} {lines pieces : List ByteString}

/-- Every line is that of an entry of the metadata, or has another key. -/
theorem Echoes.line (h : Echoes options metadata lines pieces) (hCarried : Carried metadata)
    (hHeader : options.httpHeader = metadata.map headerLine) {line : ByteString}
    (hLine : line ∈ lines) : byte ':' ∉ line ∨
      (∃ entry ∈ metadata, Reads line (entry.1.map tolower) entry.2) ∨
        ∃ key value, Reads line key value ∧ key ∉ metadata.map fun entry => entry.1.map tolower := by
  by_cases hColon : byte ':' ∈ line
  · right
    obtain ⟨more, hPerm, hMore⟩ := h.headers
    have hMem := hPerm.mem_iff.mp (List.mem_filter.mpr ⟨hLine, decide_eq_true hColon⟩)
    rcases List.mem_append.mp hMem with hMem | hMem
    · left
      rw [hHeader, List.map_map] at hMem
      obtain ⟨entry, hEntry, rfl⟩ := List.mem_map.mp hMem
      exact ⟨entry, hEntry, hCarried.reads hEntry⟩
    · exact .inr (hMore line hMem)
  · exact .inl hColon

theorem Echoes.exists_line (h : Echoes options metadata lines pieces) (hCarried : Carried metadata)
    (hHeader : options.httpHeader = metadata.map headerLine) {entry : ByteString × ByteString}
    (hEntry : entry ∈ metadata) : ∃ line ∈ lines, Reads line (entry.1.map tolower) entry.2 := by
  obtain ⟨more, hPerm, -⟩ := h.headers
  have hReads := hCarried.reads hEntry
  refine ⟨headerLine entry ++ crlf, (List.mem_filter.mp (hPerm.mem_iff.mpr ?_)).1, hReads⟩
  apply List.mem_append_left
  rw [hHeader, List.map_map]
  exact List.mem_map.mpr ⟨entry, hEntry, rfl⟩

/-- The map that is read has every entry of the metadata, under its name in lower case. -/
theorem Echoes.lookup (h : Echoes options metadata lines pieces) (hCarried : Carried metadata)
    (hHeader : options.httpHeader = metadata.map headerLine) :
    ∃ responseHeaders, lines.foldlM readHeaders [] = .ok responseHeaders ∧
      responseHeaders.Ordered ∧
        ∀ entry ∈ metadata, responseHeaders.lookup (entry.1.map tolower) = some entry.2 := by
  have hReadable : ∀ line ∈ lines, Readable line := by
    intro line hLine
    rcases h.line hCarried hHeader hLine with hColon | ⟨entry, -, hReads⟩ | ⟨key, value, hReads, -⟩
    · exact .inl hColon
    · exact .inr ⟨_, _, hReads⟩
    · exact .inr ⟨_, _, hReads⟩
  obtain ⟨after, hRun⟩ := exists_of_readable hReadable []
  refine ⟨after, hRun, readHeaders_run_ordered List.Pairwise.nil hRun, fun entry hEntry => ?_⟩
  have hAgree : ∀ line ∈ lines, ∀ other, Reads line (entry.1.map tolower) other → other = entry.2 := by
    intro line hLine other hOther
    rcases h.line hCarried hHeader hLine with hColon | ⟨sent, hSent, hReads⟩ | ⟨key, value, hReads, hKey⟩
    · exact absurd (exists_colon_of_reads hOther) hColon
    · obtain ⟨hKey, hValue⟩ := hReads.unique hOther
      obtain rfl := List.inj_on_of_nodup_map hCarried.distinct hSent hEntry hKey
      exact hValue.symm
    · obtain ⟨rfl, -⟩ := hReads.unique hOther
      exact absurd (List.mem_map.mpr ⟨entry, hEntry, rfl⟩) hKey
  exact lookup_of_run hReadable List.Pairwise.nil hAgree
    (.inr ⟨rfl, h.exists_line hCarried hHeader hEntry⟩) hRun

theorem foldl_readBody (pieces : List ByteString) (start : ByteString) :
    pieces.foldl readBody start = start ++ pieces.flatten := by
  induction pieces generalizing start with
  | nil => simp
  | cons piece pieces ih =>
    rw [List.foldl_cons, ih, readBody, List.flatten_cons, List.append_assoc]

end Echo

/-! ## There and back -/

theorem payload_handleResult (messageID : MessageID) (httpStatusCode : Nat)
    (responseHeaders : StringMap) (responseBody : ByteString) (uninitialised : Nat) :
    (Http.handleResult messageID httpStatusCode responseHeaders responseBody uninitialised).payload =
      responseBody := by
  simp only [Http.handleResult, transformResult]
  split
  · rfl
  · rename_i hLength
    exact (List.eq_nil_of_length_eq_zero (of_not_not hLength)).symm

/-- **A request that is sent back.** What curl is told of a request, and a server sends back
as it gets it, becomes a response with the payload of the request and with all its
metadata, the names in lower case; whatever the order of the lines, and however the body is
cut into pieces. -/
theorem request_echoed {configuration : ConnectionConfiguration} {destination : ByteString}
    {request : Request} {options : Options}
    (hTold : createOptions configuration destination request = .ok options)
    (hCarried : Carried (request.header.metadata.getD [])) {lines pieces : List ByteString}
    (hEchoes : Echoes options (request.header.metadata.getD []) lines pieces)
    (messageID : MessageID) (httpStatusCode uninitialised : Nat) :
    ∃ responseHeaders response metadata, lines.foldlM readHeaders [] = .ok responseHeaders ∧
      response = Http.handleResult messageID httpStatusCode responseHeaders
        (pieces.foldl readBody []) uninitialised ∧
      response.payload = request.payloadBuffer.bytes ∧
      response.header.metadata = some metadata ∧
      ∀ entry ∈ request.header.metadata.getD [],
        metadata.lookup (entry.1.map tolower) = some entry.2 := by
  obtain ⟨hHeader, hFields⟩ := createOptions_told hTold
  obtain ⟨responseHeaders, hRun, hOrdered, hLookup⟩ := hEchoes.lookup hCarried hHeader
  refine ⟨responseHeaders, _, StringMap.insert responseHeaders fuContentTypeKey [], hRun, rfl, ?_,
    rfl, fun entry hEntry => ?_⟩
  · rw [payload_handleResult, foldl_readBody, List.nil_append, hEchoes.body, hFields]
  · have hFound := hLookup entry hEntry
    rw [hOrdered.lookup_insert]
    split
    · rename_i hKey
      rw [← hKey, hFound]
      rfl
    · exact hFound

def numberedRequest : Request where
  header := { restVerb := some .post, metadata := some [(ascii "X-Id", ascii "7"), (ascii "a", ascii "b")] }
  payload := ascii "text"
  payloadLength := 4

theorem request_echoed_numbered : ∃ responseHeaders response metadata,
    [ascii "HTTP/1.1 200 OK" ++ crlf, ascii "a: b" ++ crlf, ascii "Server: S" ++ crlf,
      ascii "X-Id: 7" ++ crlf, crlf].foldlM readHeaders [] = .ok responseHeaders ∧
    response = Http.handleResult 1 200 responseHeaders
      ([ascii "te", ascii "xt"].foldl readBody []) 0 ∧
    response.payload = numberedRequest.payloadBuffer.bytes ∧
    response.header.metadata = some metadata ∧
    ∀ entry ∈ numberedRequest.header.metadata.getD [],
      metadata.lookup (entry.1.map tolower) = some entry.2 :=
  @request_echoed {} [] numberedRequest _ rfl
    { name_plain := by decide
      no_zero := by decide
      length_lt := by decide
      distinct := by decide }
    _ _
    { headers := ⟨[ascii "Server: S" ++ crlf], by decide, fun line hLine => by
        rw [List.mem_singleton.mp hLine]
        exact ⟨ascii "server", ascii "S", rfl, by decide⟩⟩
      body := by decide } 1 200 0

end Fuerte.Http.RequestOptions

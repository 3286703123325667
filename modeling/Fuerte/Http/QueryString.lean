import Fuerte.Http.UrlEncoding
import Fuerte.Message

/-! # The URL of an HTTP request

The parameters of a request are encoded into the query string. A last pass over
the finished URL protects path segments that are a single dot.
-/

namespace Fuerte.Http

set_option autoImplicit false

structure Configuration where
  ssl : Bool := false
  host : ByteString := ascii "localhost"
  port : ByteString := []

/-- The loop of `sendRequest` over the parameters. -/
def addParameters (destination sep : ByteString) : StringMap → Except Fault ByteString
  | [] => .ok destination
  | (key, value) :: parameters => do
    let key ← urlEncode key
    let value ← urlEncode value
    addParameters (destination ++ sep ++ key ++ ascii "=" ++ value) (ascii "&") parameters

/-- The destination that `sendRequest` puts into the request item. -/
def destination (configuration : Configuration) (header : MessageHeader) :
    Except Fault ByteString :=
  let dbString := match header.database with
    | some database => ascii "/_db/" ++ database
    | none => []
  match header.path with
  | none => .error .emptyOptional
  | some path =>
    addParameters ((if configuration.ssl then ascii "https://" else ascii "http://") ++
      configuration.host ++ ascii ":" ++ configuration.port ++ dbString ++ path) (ascii "?")
      (header.parameters.getD [])

def urlDotSeparators : List UInt8 := [byte '/', byte '#', byte '?']

def createSafeDottedCurlUrl : ByteString → ByteString
  | [] => []
  | [c] => [c]
  | c :: d :: rest =>
    if c = byte '/' ∧ d = byte '.' then
      (if rest.head?.all (· ∈ urlDotSeparators) then ascii "/%2E" else ascii "/.") ++
        createSafeDottedCurlUrl rest
    else c :: createSafeDottedCurlUrl (d :: rest)

/-! ## Reading the query string -/

def parsePart (part : ByteString) : ByteString × ByteString :=
  (urlDecode (part.takeWhile (· ≠ byte '=')), urlDecode ((part.dropWhile (· ≠ byte '=')).drop 1))

/-- What a server finds behind the first question mark. -/
def parseQuery (url : ByteString) : StringMap :=
  match url.dropWhile (· ≠ byte '?') with
  | [] => []
  | _ :: query => (query.splitOn (byte '&')).map parsePart

theorem parsePart_append {key value : ByteString} (hKey : byte '=' ∉ key) :
    parsePart (key ++ ascii "=" ++ value) = (urlDecode key, urlDecode value) := by
  have hPlain : ∀ c ∈ key, decide (c ≠ byte '=') = true := by
    intro c hc
    exact decide_eq_true fun hEqual => hKey (hEqual ▸ hc)
  rw [parsePart, List.append_assoc, List.takeWhile_append_of_pos hPlain,
    List.dropWhile_append_of_pos hPlain]
  simp [ascii, byte]

theorem parseQuery_append {address query : ByteString} (hAddress : byte '?' ∉ address) :
    parseQuery (address ++ ascii "?" ++ query) = (query.splitOn (byte '&')).map parsePart := by
  have hPlain : ∀ c ∈ address, decide (c ≠ byte '?') = true := by
    intro c hc
    exact decide_eq_true fun hEqual => hAddress (hEqual ▸ hc)
  rw [parseQuery, List.append_assoc, List.dropWhile_append_of_pos hPlain]
  simp [ascii, byte]

theorem parseQuery_nil {address : ByteString} (hAddress : byte '?' ∉ address) :
    parseQuery address = [] := by
  have hPlain : ∀ c ∈ address, decide (c ≠ byte '?') = true := by
    intro c hc
    exact decide_eq_true fun hEqual => hAddress (hEqual ▸ hc)
  have hNone : (address ++ []).dropWhile (· ≠ byte '?') = List.dropWhile (· ≠ byte '?') [] :=
    List.dropWhile_append_of_pos hPlain
  rw [List.append_nil, List.dropWhile_nil] at hNone
  rw [parseQuery, hNone]

/-! ## Writing it -/

/-- A part of the query string has no separators but its own. -/
theorem part_ok {entry : ByteString × ByteString} (hKey : entry.1.length < (sizeMax - 1) / 3)
    (hValue : entry.2.length < (sizeMax - 1) / 3) :
    ∃ key value, urlEncode entry.1 = .ok key ∧ urlEncode entry.2 = .ok value ∧
      parsePart (key ++ ascii "=" ++ value) = entry ∧
      ∀ c ∈ key ++ ascii "=" ++ value, c ≠ byte '&' ∧ c ≠ byte '?' ∧ c ≠ byte '/' := by
  obtain ⟨key, hKeyEncode, hKeyDecode, hKeySafe⟩ := urlEncode_ok hKey
  obtain ⟨value, hValueEncode, hValueDecode, hValueSafe⟩ := urlEncode_ok hValue
  refine ⟨key, value, hKeyEncode, hValueEncode, ?_, ?_⟩
  · rw [parsePart_append fun hMem => (hKeySafe _ hMem).2.1 rfl, hKeyDecode, hValueDecode]
  · intro c hc
    rcases List.mem_append.mp hc with hc | hc
    · rcases List.mem_append.mp hc with hc | hc
      · obtain ⟨hAmpersand, -, hMark, hSlash⟩ := hKeySafe c hc
        exact ⟨hAmpersand, hMark, hSlash⟩
      · rw [List.mem_singleton.mp hc]
        decide
    · obtain ⟨hAmpersand, -, hMark, hSlash⟩ := hValueSafe c hc
      exact ⟨hAmpersand, hMark, hSlash⟩

theorem addParameters_ok (destination sep : ByteString) (entry : ByteString × ByteString)
    (parameters : StringMap)
    (hMemory : ∀ e ∈ entry :: parameters,
      e.1.length < (sizeMax - 1) / 3 ∧ e.2.length < (sizeMax - 1) / 3) :
    ∃ parts, addParameters destination sep (entry :: parameters) =
        .ok (destination ++ sep ++ [byte '&'].intercalate parts) ∧
      parts ≠ [] ∧ parts.map parsePart = entry :: parameters ∧
      ∀ part ∈ parts, ∀ c ∈ part, c ≠ byte '&' ∧ c ≠ byte '?' ∧ c ≠ byte '/' := by
  induction parameters generalizing destination sep entry with
  | nil =>
    obtain ⟨hKey, hValue⟩ := hMemory entry List.mem_cons_self
    obtain ⟨key, value, hKey, hValue, hPart, hSafe⟩ := part_ok hKey hValue
    refine ⟨[key ++ ascii "=" ++ value], ?_, List.cons_ne_nil _ _, ?_, ?_⟩
    · rw [addParameters, hKey, hValue, List.intercalate_singleton]
      simp only [List.append_assoc]
      rfl
    · rw [List.map_singleton, hPart]
    · intro part hMem
      rw [List.mem_singleton.mp hMem]
      exact hSafe
  | cons next parameters ih =>
    obtain ⟨hKey, hValue⟩ := hMemory entry List.mem_cons_self
    obtain ⟨key, value, hKey, hValue, hPart, hSafe⟩ := part_ok hKey hValue
    obtain ⟨parts, hParts, hNonempty, hDecode, hPartsSafe⟩ :=
      ih (destination ++ sep ++ key ++ ascii "=" ++ value) (ascii "&") next
        fun e he => hMemory e (List.mem_cons_of_mem _ he)
    refine ⟨(key ++ ascii "=" ++ value) :: parts, ?_, List.cons_ne_nil _ _, ?_, ?_⟩
    · rw [addParameters, hKey, hValue, List.intercalate_cons_of_ne_nil hNonempty]
      refine hParts.trans (congrArg Except.ok ?_)
      simp only [List.append_assoc]
      rfl
    · rw [List.map_cons, hPart, hDecode]
    · intro part hMem
      rcases List.mem_cons.mp hMem with rfl | hMem
      · exact hSafe
      · exact hPartsSafe part hMem

theorem not_mem_intercalate {c : UInt8} (hAmpersand : c ≠ byte '&') (parts : List ByteString)
    (h : ∀ part ∈ parts, c ∉ part) : c ∉ [byte '&'].intercalate parts := by
  induction parts with
  | nil => exact List.not_mem_nil
  | cons part parts ih =>
    cases parts with
    | nil =>
      rw [List.intercalate_singleton]
      exact h part List.mem_cons_self
    | cons next parts =>
      rw [List.intercalate_cons_cons]
      simp only [List.mem_append, List.mem_singleton, not_or]
      exact ⟨⟨h part List.mem_cons_self, hAmpersand⟩,
        ih fun p hp => h p (List.mem_cons_of_mem _ hp)⟩

/-! ## Protecting the dots -/

theorem createSafeDottedCurlUrl_eq {query : ByteString} (h : byte '/' ∉ query) :
    createSafeDottedCurlUrl query = query := by
  induction query with
  | nil => rfl
  | cons c query ih =>
    simp only [List.mem_cons, not_or] at h
    cases query with
    | nil => rfl
    | cons d rest => 
      rw [createSafeDottedCurlUrl, if_neg fun hDot => h.1 hDot.1.symm, ih h.2]

/-- The pass leaves the query string alone and puts no question mark in front of it. -/
theorem createSafeDottedCurlUrl_append (address query : ByteString)
    (hAddress : byte '?' ∉ address) (hQuery : byte '/' ∉ query)
    (hStart : query = [] ∨ ∃ rest, query = byte '?' :: rest) :
    ∃ safe, byte '?' ∉ safe ∧ createSafeDottedCurlUrl (address ++ query) = safe ++ query := by
  fun_induction createSafeDottedCurlUrl address with
  | case1 => exact ⟨[], List.not_mem_nil, createSafeDottedCurlUrl_eq hQuery⟩
  | case2 c =>
    refine ⟨[c], hAddress, ?_⟩
    rcases hStart with rfl | ⟨rest, rfl⟩
    · rfl
    · have hNoDot : ¬ (c = byte '/' ∧ byte '?' = byte '.') := fun hDot => absurd hDot.2 (by decide)
      rw [List.singleton_append, createSafeDottedCurlUrl, if_neg hNoDot,
        createSafeDottedCurlUrl_eq hQuery]
  | case3 c d rest hDot ih =>
    simp only [List.mem_cons, not_or] at hAddress
    obtain ⟨safe, hSafe, hRest⟩ := ih hAddress.2.2
    refine ⟨(if (rest ++ query).head?.all (· ∈ urlDotSeparators) then ascii "/%2E"
      else ascii "/.") ++ safe, ?_, ?_⟩
    · rw [List.mem_append, not_or]
      refine ⟨?_, hSafe⟩
      split <;> decide
    · rw [List.cons_append, List.cons_append, createSafeDottedCurlUrl, if_pos hDot, hRest,
        List.append_assoc]
  | case4 c d rest hDot ih =>
    simp only [List.mem_cons, not_or] at hAddress ih
    obtain ⟨safe, hSafe, hRest⟩ := ih hAddress.2
    refine ⟨c :: safe, ?_, ?_⟩
    · rw [List.mem_cons, not_or]
      exact ⟨hAddress.1, hSafe⟩
    · rw [List.cons_append, List.cons_append, createSafeDottedCurlUrl, if_neg hDot,
        ← List.cons_append, hRest]
      rfl

/-! ## The round trip -/

/-- The parts of an URL in front of its query string. -/
def address (configuration : Configuration) (database : Option ByteString) (path : ByteString) :
    ByteString :=
  (if configuration.ssl then ascii "https://" else ascii "http://") ++ configuration.host ++
    ascii ":" ++ configuration.port ++
    (match database with
    | some database => ascii "/_db/" ++ database
    | none => []) ++ path

theorem not_mem_address {configuration : Configuration} {database : Option ByteString}
    {path : ByteString} (hHost : byte '?' ∉ configuration.host)
    (hPort : byte '?' ∉ configuration.port)
    (hDatabase : ∀ name, database = some name → byte '?' ∉ name) (hPath : byte '?' ∉ path) :
    byte '?' ∉ address configuration database path := by
  simp only [address, List.mem_append, not_or]
  refine ⟨⟨⟨⟨⟨?_, hHost⟩, by decide⟩, hPort⟩, ?_⟩, hPath⟩
  · split <;> decide
  · cases database with
    | none => exact List.not_mem_nil
    | some name =>
      rw [List.mem_append, not_or]
      exact ⟨by decide, hDatabase name rfl⟩

/-- What a server reads from the finished URL are the parameters of the request. -/
theorem query_round_trip (configuration : Configuration) (header : MessageHeader)
    (path : ByteString) (hSome : header.path = some path) (hHost : byte '?' ∉ configuration.host)
    (hPort : byte '?' ∉ configuration.port)
    (hDatabase : ∀ name, header.database = some name → byte '?' ∉ name)
    (hPath : byte '?' ∉ path)
    (hMemory : ∀ entry ∈ header.parameters.getD [],
      entry.1.length < (sizeMax - 1) / 3 ∧ entry.2.length < (sizeMax - 1) / 3) :
    ∃ url, (destination configuration header).map createSafeDottedCurlUrl = .ok url ∧
      (byte '?' ∈ url ↔ header.parameters.getD [] ≠ []) ∧
      parseQuery url = header.parameters.getD [] := by
  have hAddress := not_mem_address hHost hPort hDatabase hPath
  have hDestination : destination configuration header =
      addParameters (address configuration header.database path) (ascii "?")
        (header.parameters.getD []) := by
    rw [destination, hSome]
    rfl
  rw [hDestination]
  cases hParameters : header.parameters.getD [] with
  | nil =>
    obtain ⟨safe, hSafe, hUrl⟩ :=
      createSafeDottedCurlUrl_append _ [] hAddress List.not_mem_nil (.inl rfl)
    rw [List.append_nil, List.append_nil] at hUrl
    exact ⟨safe, congrArg Except.ok hUrl, iff_of_false hSafe fun h => h rfl, parseQuery_nil hSafe⟩
  | cons entry parameters =>
    rw [hParameters] at hMemory
    obtain ⟨parts, hParts, hNonempty, hDecode, hSafeParts⟩ :=
      addParameters_ok (address configuration header.database path) (ascii "?") entry parameters
        hMemory
    have hSlash : byte '/' ∉ ascii "?" ++ [byte '&'].intercalate parts := by
      rw [List.mem_append, not_or]
      exact ⟨by decide, not_mem_intercalate (by decide) parts
        fun part hPart hMem => (hSafeParts part hPart _ hMem).2.2 rfl⟩
    obtain ⟨safe, hSafe, hUrl⟩ :=
      createSafeDottedCurlUrl_append _ _ hAddress hSlash (.inr ⟨_, rfl⟩)
    rw [← List.append_assoc] at hUrl
    refine ⟨_, (congrArg _ hParts).trans (congrArg Except.ok hUrl), ?_, ?_⟩
    · exact iff_of_true (by simp [ascii, byte]) (List.cons_ne_nil _ _)
    · rw [← List.append_assoc, parseQuery_append hSafe, List.splitOn_intercalate, hDecode]
      · exact fun part hPart hMem => (hSafeParts part hPart _ hMem).1 rfl
      · exact hNonempty

def dottedRequest : MessageHeader where
  database := some (ascii "_system")
  path := some (ascii "/a/.")
  parameters := some [([], []), (ascii "a b&c", [0x25, 0xff, 0x2f, 0x2e])]

theorem query_round_trip_dotted :
    ∃ url, (destination { port := ascii "8529" } dottedRequest).map createSafeDottedCurlUrl =
        .ok url ∧
      (byte '?' ∈ url ↔ dottedRequest.parameters.getD [] ≠ []) ∧
      parseQuery url = dottedRequest.parameters.getD [] :=
  query_round_trip _ dottedRequest (ascii "/a/.") rfl (by decide) (by decide)
    (fun _ h => Option.some.inj h ▸ by decide) (by decide) (by decide +kernel)

/-- A port is not checked when it is taken out of the address of a server. -/
theorem question_mark_in_port :
    ∃ url, (destination { host := ascii "localhost", port := ascii "8529?" }
        { path := some (ascii "/_api/version"), parameters := some [] }).map
        createSafeDottedCurlUrl = .ok url ∧
      byte '?' ∈ url ∧ parseQuery url ≠ [] :=
  ⟨_, rfl, by decide, by decide⟩

end Fuerte.Http

import Fuerte.Http.UrlEncoding
import Fuerte.Library.Outcome
import Fuerte.StringMap

/-! # Reading the header lines of a response

The value of a line is cut out at fixed distances from the colon and from the end.
They are right for one space behind the colon and a line end of two bytes.
-/

namespace Fuerte.Http

set_option autoImplicit false

/-- `std::string::substr`, which throws a `std::out_of_range`. -/
def substr (s : ByteString) (pos count : Nat) : Except Fault ByteString :=
  if s.length < pos then .error (.logicError "basic_string::substr")
  else .ok ((s.drop pos).take count)

def tolower (c : UInt8) : UInt8 := if byte 'A' ≤ c ∧ c ≤ byte 'Z' then c + 0x20 else c

/-- The third argument of `substr` is computed without sign. -/
def readHeaders (responseHeaders : StringMap) (header : ByteString) : Except Fault StringMap :=
  match header.findIdx? (· = byte ':') with
  | none => .ok responseHeaders
  | some pivot => do
    let key := (header.take pivot).map tolower
    let value ← substr header (pivot + 2) ((header.length + 2 ^ 64 - pivot - 4) % 2 ^ 64)
    return StringMap.insert responseHeaders key value

def crlf : ByteString := [0x0d, 0x0a]

def IsSpace (c : UInt8) : Prop := c = 0x20 ∨ c = 0x09

instance (c : UInt8) : Decidable (IsSpace c) := inferInstanceAs (Decidable (_ ∨ _))

/-- A header line as a server may write it. -/
structure HeaderLine where
  name : ByteString
  before : ByteString := []
  value : ByteString
  after : ByteString := []
  name_plain : byte ':' ∉ name
  before_space : ∀ c ∈ before, IsSpace c
  after_space : ∀ c ∈ after, IsSpace c
  value_head : ∀ c, value.head? = some c → ¬IsSpace c
  value_last : ∀ c, value.getLast? = some c → ¬IsSpace c
  length_lt : name.length + before.length + value.length + after.length + 3 < 2 ^ 64

namespace HeaderLine

/-- What stands between the colon and the line end. -/
def content (line : HeaderLine) : ByteString := line.before ++ line.value ++ line.after

def bytes (line : HeaderLine) : ByteString := line.name ++ byte ':' :: (line.content ++ crlf)

def key (line : HeaderLine) : ByteString := line.name.map tolower

end HeaderLine

/-! ## What is stored -/

theorem findIdx?_eq_none {name : ByteString} (hName : byte ':' ∉ name) :
    name.findIdx? (· = byte ':') = none := by
  rw [List.findIdx?_eq_none_iff]
  intro c hc
  apply decide_eq_false
  rintro rfl
  exact hName hc

theorem readHeaders_of_no_colon {header : ByteString} (h : byte ':' ∉ header)
    (responseHeaders : StringMap) : readHeaders responseHeaders header = .ok responseHeaders := by
  rw [readHeaders, findIdx?_eq_none h]

theorem readHeaders_eq {name : ByteString} (hName : byte ':' ∉ name) (rest : ByteString)
    (responseHeaders : StringMap) :
    readHeaders responseHeaders (name ++ byte ':' :: rest) =
      if rest = [] then .error (.logicError "basic_string::substr")
      else .ok (StringMap.insert responseHeaders (name.map tolower)
        ((rest.drop 1).take ((rest.length + 2 ^ 64 - 3) % 2 ^ 64))) := by
  have hPivot : (name ++ byte ':' :: rest).findIdx? (· = byte ':') = some name.length := by
    rw [List.findIdx?_append, findIdx?_eq_none hName, List.findIdx?_cons, if_pos (by simp)]
    simp
  have hCount : (name ++ byte ':' :: rest).length + 2 ^ 64 - name.length - 4 =
      rest.length + 2 ^ 64 - 3 := by
    rw [List.length_append, List.length_cons]
    omega
  have hDrop : (name ++ byte ':' :: rest).drop (name.length + 2) = rest.drop 1 := by
    rw [List.drop_append, List.drop_eq_nil_of_le (by omega), Nat.add_sub_cancel_left]
    rfl
  rw [readHeaders, hPivot]
  dsimp only
  rw [substr, hCount, hDrop, List.take_left]
  cases rest with
  | nil =>
    rw [if_pos (by rw [List.length_append]; simp), if_pos rfl]
    rfl
  | cons c rest =>
    rw [if_neg (by rw [List.length_append]; simp), if_neg (List.cons_ne_nil _ _)]
    rfl

/-- No exception escapes if and only if the first colon is not the last byte. -/
theorem returns_readHeaders_iff (responseHeaders : StringMap) (header : ByteString) :
    Outcome.Returns (readHeaders responseHeaders header) ↔
      ¬∃ name, byte ':' ∉ name ∧ header = name ++ [byte ':'] := by
  by_cases hColon : byte ':' ∈ header
  · obtain ⟨name, rest, rfl, hName⟩ := List.eq_append_cons_of_mem hColon
    rw [readHeaders_eq hName]
    split
    · rename_i hRest
      rw [hRest]
      exact iff_of_false (Outcome.not_returns_error _) fun h => h ⟨name, hName, rfl⟩
    · rename_i hRest
      refine iff_of_true (Outcome.returns_ok _) ?_
      rintro ⟨other, hOther, hEqual⟩
      have hFront := congrArg List.dropLast hEqual
      rw [List.dropLast_concat, List.dropLast_append_of_ne_nil (List.cons_ne_nil _ _),
        List.dropLast_cons_of_ne_nil hRest] at hFront
      rw [← hFront] at hOther
      exact hOther (List.mem_append_right _ List.mem_cons_self)
  · rw [readHeaders_of_no_colon hColon]
    refine iff_of_true (Outcome.returns_ok _) ?_
    rintro ⟨name, -, rfl⟩
    exact hColon (List.mem_append_right _ List.mem_cons_self)

namespace HeaderLine

variable (line : HeaderLine)

def cut : ByteString :=
  ((line.content ++ crlf).drop 1).take (((line.content ++ crlf).length + 2 ^ 64 - 3) % 2 ^ 64)

/-- One white space is expected, in front of the value. -/
def ExpectedSpace : Prop :=
  line.before.length + line.after.length = 1 ∧ (line.value = [] ∨ line.before.length = 1)

theorem length_content :
    line.content.length = line.before.length + line.value.length + line.after.length := by
  rw [content, List.length_append, List.length_append]

theorem cut_of_nonempty (h : line.content ≠ []) : line.cut = line.content.drop 1 := by
  have hLength := line.length_lt
  have hContent := line.length_content
  have hPos := List.length_pos_iff.mpr h
  have hCount : ((line.content ++ crlf).length + 2 ^ 64 - 3) % 2 ^ 64 =
      (line.content.drop 1).length := by
    rw [List.length_append, List.length_drop, show crlf.length = 2 from rfl]
    omega
  rw [cut, hCount, List.drop_append_of_le_length hPos, List.take_left]

theorem cut_of_empty (h : line.content = []) : line.cut = [0x0a] := by
  rw [cut, h]
  rfl

/-- The value is cut out exactly where the white space is as expected. -/
theorem cut_eq_value_iff : line.cut = line.value ↔ line.ExpectedSpace := by
  have hContent := line.length_content
  by_cases hEmpty : line.content = []
  · rw [cut_of_empty _ hEmpty]
    rw [hEmpty, List.length_nil] at hContent
    have hValue : line.value = [] := List.eq_nil_of_length_eq_zero (by omega)
    refine iff_of_false ?_ fun h => ?_
    · rw [hValue]
      exact List.cons_ne_nil _ _
    · have hSpace := h.1
      omega
  · rw [cut_of_nonempty _ hEmpty]
    constructor
    · intro h
      have hLength := congrArg List.length h
      rw [List.length_drop] at hLength
      have hPos := List.length_pos_iff.mpr hEmpty
      have hOne : line.before.length + line.after.length = 1 := by omega
      refine ⟨hOne, ?_⟩
      rcases Nat.eq_zero_or_pos line.before.length with hBefore | hBefore
      · obtain ⟨w, hAfter⟩ := List.length_eq_one_iff.mp (show line.after.length = 1 by omega)
        rw [content, List.eq_nil_of_length_eq_zero hBefore, List.nil_append, hAfter] at h
        cases hValue : line.value with
        | nil => exact .inl rfl
        | cons c value =>
          -- the last byte of the value would be the white space behind it
          rw [hValue, List.cons_append, List.drop_one, List.tail_cons] at h
          have hLast : line.value.getLast? = some w := by
            rw [hValue, ← h]
            exact List.getLast?_concat
          refine absurd (line.after_space w ?_) (line.value_last w hLast)
          rw [hAfter]
          exact List.mem_singleton_self w
      · exact .inr (by omega)
    · rintro ⟨hOne, hValue | hBefore⟩
      · rw [hValue, List.length_nil] at hContent
        rw [hValue]
        exact List.drop_eq_nil_of_le (by omega)
      · obtain ⟨w, hBefore'⟩ := List.length_eq_one_iff.mp hBefore
        have hAfter : line.after = [] := List.eq_nil_of_length_eq_zero (by omega)
        rw [content, hBefore', hAfter, List.append_nil]
        rfl

theorem readHeaders_bytes (responseHeaders : StringMap) :
    readHeaders responseHeaders line.bytes =
      .ok (StringMap.insert responseHeaders line.key line.cut) := by
  rw [bytes, readHeaders_eq line.name_plain, if_neg]
  · rfl
  · exact List.append_ne_nil_of_right_ne_nil _ (List.cons_ne_nil _ _)

end HeaderLine

/-! ## All header lines of a response -/

theorem readHeaders_ordered {responseHeaders after : StringMap} (h : responseHeaders.Ordered)
    {header : ByteString} (hRead : readHeaders responseHeaders header = .ok after) :
    after.Ordered := by
  by_cases hColon : byte ':' ∈ header
  · obtain ⟨name, rest, rfl, hName⟩ := List.eq_append_cons_of_mem hColon
    rw [readHeaders_eq hName] at hRead
    split at hRead
    · cases hRead
    · cases hRead
      exact h.emplace _ _
  · rw [readHeaders_of_no_colon hColon] at hRead
    cases hRead
    exact h

/-- What curl has passed on leaves a map in order. -/
theorem readHeaders_run_ordered {responseHeaders after : StringMap} (h : responseHeaders.Ordered)
    {headers : List ByteString} (hRead : headers.foldlM readHeaders responseHeaders = .ok after) :
    after.Ordered := by
  induction headers generalizing responseHeaders with
  | nil =>
    cases hRead
    exact h
  | cons header headers ih =>
    rw [List.foldlM_cons] at hRead
    obtain ⟨next, hNext, hRead⟩ := exists_of_bind_ok hRead
    exact ih (readHeaders_ordered h hNext) hRead

/-- The value of the line is stored under its name, and nothing else has changed. -/
def StoresValue (responseHeaders : StringMap) (line : HeaderLine) : Prop :=
  ∃ after, readHeaders responseHeaders line.bytes = .ok after ∧
    after.lookup line.key = some line.value ∧
    ∀ other, other ≠ line.key → after.lookup other = responseHeaders.lookup other

theorem getD_eq_iff (found : Option ByteString) (cut value : ByteString) :
    found.getD cut = value ↔ found = some value ∨ (found = none ∧ cut = value) := by
  cases found with
  | none => simp
  | some stored => simp

theorem storesValue_iff {responseHeaders : StringMap} (h : responseHeaders.Ordered)
    (line : HeaderLine) : StoresValue responseHeaders line ↔
      responseHeaders.lookup line.key = some line.value ∨
        (responseHeaders.lookup line.key = none ∧ line.ExpectedSpace) := by
  have hLookup := h.lookup_insert line.key line.cut
  have hBytes := line.readHeaders_bytes responseHeaders
  rw [← line.cut_eq_value_iff, ← getD_eq_iff]
  constructor
  · rintro ⟨after, hAfter, hKey, -⟩
    obtain rfl := Except.ok.inj (hBytes.symm.trans hAfter)
    rw [hLookup, if_pos rfl] at hKey
    exact Option.some.inj hKey
  · intro hKey
    refine ⟨_, hBytes, ?_, fun other hOther => ?_⟩
    · rw [hLookup, if_pos rfl, hKey]
    · rw [hLookup, if_neg hOther]

/-- Reading header lines throws on a line that ends with its first colon and on no
other. A value is stored as it is meant if the line has one white space in front of
it and no earlier line of this name had another value. -/
theorem read_headers {headers : List ByteString} {responseHeaders : StringMap}
    (hRead : headers.foldlM readHeaders [] = .ok responseHeaders) :
    (∀ header, Outcome.Returns (readHeaders responseHeaders header) ↔
      ¬∃ name, byte ':' ∉ name ∧ header = name ++ [byte ':']) ∧
    ∀ line, StoresValue responseHeaders line ↔
      responseHeaders.lookup line.key = some line.value ∨
        (responseHeaders.lookup line.key = none ∧ line.ExpectedSpace) := by
  have hOrdered := readHeaders_run_ordered List.Pairwise.nil hRead
  exact ⟨returns_readHeaders_iff responseHeaders, storesValue_iff hOrdered⟩

theorem read_headers_server :
    (∀ header, Outcome.Returns (readHeaders [(ascii "server", ascii "ArangoDB")] header) ↔
      ¬∃ name, byte ':' ∉ name ∧ header = name ++ [byte ':']) ∧
    ∀ line, StoresValue [(ascii "server", ascii "ArangoDB")] line ↔
      List.lookup line.key [(ascii "server", ascii "ArangoDB")] = some line.value ∨
        (List.lookup line.key [(ascii "server", ascii "ArangoDB")] = none ∧ line.ExpectedSpace) :=
  @read_headers [ascii "HTTP/1.1 200 OK" ++ crlf, ascii "Server: ArangoDB" ++ crlf] _ rfl

def unspaced : HeaderLine where
  name := ascii "Content-Type"
  value := ascii "text/html"
  name_plain := by decide
  before_space := fun _ hc => absurd hc List.not_mem_nil
  after_space := fun _ hc => absurd hc List.not_mem_nil
  value_head := fun c hc => Option.some.inj hc ▸ by decide
  value_last := fun c hc => Option.some.inj hc ▸ by decide
  length_lt := by decide

/-- Without a space the first byte of the value is lost, and a line that ends with
its colon throws. -/
theorem read_headers_unspaced : ¬StoresValue [] unspaced ∧
    ¬Outcome.Returns (readHeaders [] (ascii "Content-Type:")) := by
  constructor
  · rintro ⟨after, hAfter, hKey, -⟩
    cases hAfter
    exact absurd hKey (by decide)
  · rintro ⟨after, hAfter⟩
    cases hAfter

end Fuerte.Http

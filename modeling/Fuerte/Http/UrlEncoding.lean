import Fuerte.Types

/-! # Percent encoding

The encoder leaves letters, digits and three marks alone. The decoder copes with
every input, also with a percent sign that no two hexadecimal digits follow.
-/

namespace Fuerte.Http

set_option autoImplicit false

def byte (c : Char) : UInt8 := UInt8.ofNat c.toNat

/-! ## The encoder -/

def isPlain (c : UInt8) : Bool :=
  (byte '0' ≤ c && c ≤ byte '9') || (byte 'a' ≤ c && c ≤ byte 'z') ||
    (byte 'A' ≤ c && c ≤ byte 'Z') || (c = byte '-' || c = byte '_' || c = byte '~')

def hexChars : ByteString := ascii "0123456789ABCDEF"

def urlEncodeByte (c : UInt8) : ByteString :=
  if isPlain c then [c]
  else [byte '%', hexChars.getD (c >>> 4).toNat 0, hexChars.getD (c &&& 0x0F).toNat 0]

def sizeMax : Nat := 2 ^ 64 - 1

/-- The exception is a `std::overflow_error`. -/
def urlEncode (src : ByteString) : Except Fault ByteString :=
  if (sizeMax - 1) / 3 ≤ src.length then .error (.runtimeError "out of memory")
  else .ok (src.flatMap urlEncodeByte)

/-! ## The decoder -/

def hex2int (ch : UInt8) (errorValue : Int) : Int :=
  if byte '0' ≤ ch ∧ ch ≤ byte '9' then ch.toNat - (byte '0').toNat
  else if byte 'A' ≤ ch ∧ ch ≤ byte 'F' then ch.toNat - (byte 'A').toNat + 10
  else if byte 'a' ≤ ch ∧ ch ≤ byte 'f' then ch.toNat - (byte 'a').toNat + 10
  else errorValue

def urlDecode : ByteString → ByteString
  | [] => []
  | [c] => if c = byte '%' then [] else if c = byte '+' then [byte ' '] else [c]
  | [c, d] =>
    if c = byte '%' then
      let h1 := hex2int d (-1)
      if h1 = -1 then urlDecode [d] else [UInt8.ofInt h1]
    else (if c = byte '+' then byte ' ' else c) :: urlDecode [d]
  | c :: d :: e :: rest =>
    if c = byte '%' then
      let h1 := hex2int d (-1)
      let h2 := hex2int e (-1)
      if h1 = -1 then urlDecode (d :: e :: rest)
      else if h2 = -1 then UInt8.ofInt h1 :: urlDecode (e :: rest)
      else (UInt8.ofInt h1 <<< 4 ||| UInt8.ofInt h2) :: urlDecode rest
    else (if c = byte '+' then byte ' ' else c) :: urlDecode (d :: e :: rest)

theorem urlDecode_cons {c : UInt8} (hPercent : c ≠ byte '%') (rest : ByteString) :
    urlDecode (c :: rest) = (if c = byte '+' then byte ' ' else c) :: urlDecode rest := by
  rcases rest with _ | ⟨d, _ | ⟨e, rest⟩⟩
  · simp only [urlDecode, if_neg hPercent]
    split <;> rfl
  · simp only [urlDecode, if_neg hPercent]
  · simp only [urlDecode, if_neg hPercent]

/-! ## The round trip -/

theorem forall_byte {P : UInt8 → Prop} (h : ∀ n < 256, P (UInt8.ofNat n)) (c : UInt8) : P c := by
  have hByte := h c.toNat (UInt8.toNat_lt c)
  rwa [UInt8.ofNat_toNat] at hByte

theorem hex2int_hexChars (c : UInt8) :
    hex2int (hexChars.getD (c >>> 4).toNat 0) (-1) ≠ -1 ∧
      hex2int (hexChars.getD (c &&& 0x0F).toNat 0) (-1) ≠ -1 ∧
      UInt8.ofInt (hex2int (hexChars.getD (c >>> 4).toNat 0) (-1)) <<< 4 |||
        UInt8.ofInt (hex2int (hexChars.getD (c &&& 0x0F).toNat 0) (-1)) = c := by
  revert c
  apply forall_byte
  decide +kernel

theorem not_special_of_isPlain (c : UInt8) (h : isPlain c = true) :
    c ≠ byte '%' ∧ c ≠ byte '+' := by
  revert c
  apply forall_byte
  decide +kernel

theorem urlDecode_urlEncodeByte (c : UInt8) (rest : ByteString) :
    urlDecode (urlEncodeByte c ++ rest) = c :: urlDecode rest := by
  rw [urlEncodeByte]
  split
  · rename_i hPlain
    obtain ⟨hPercent, hPlus⟩ := not_special_of_isPlain c hPlain
    rw [List.singleton_append, urlDecode_cons hPercent, if_neg hPlus]
  · obtain ⟨hHigh, hLow, hByte⟩ := hex2int_hexChars c
    rw [List.cons_append, List.cons_append, List.singleton_append, urlDecode, if_pos rfl]
    dsimp only
    rw [if_neg hHigh, if_neg hLow, hByte]

theorem urlDecode_flatMap (src : ByteString) : urlDecode (src.flatMap urlEncodeByte) = src := by
  induction src with
  | nil => rfl
  | cons c src ih => rw [List.flatMap_cons, urlDecode_urlEncodeByte, ih]

/-- Nothing that separates the parts of an URL is left in an encoded string. -/
theorem not_separator_of_mem_urlEncodeByte (c : UInt8) :
    ∀ d ∈ urlEncodeByte c, d ≠ byte '&' ∧ d ≠ byte '=' ∧ d ≠ byte '?' ∧ d ≠ byte '/' := by
  revert c
  apply forall_byte
  decide +kernel

theorem urlEncode_ok {src : ByteString} (h : src.length < (sizeMax - 1) / 3) :
    ∃ encoded, urlEncode src = .ok encoded ∧ urlDecode encoded = src ∧
      ∀ d ∈ encoded, d ≠ byte '&' ∧ d ≠ byte '=' ∧ d ≠ byte '?' ∧ d ≠ byte '/' := by
  refine ⟨src.flatMap urlEncodeByte, ?_, urlDecode_flatMap src, ?_⟩
  · rw [urlEncode, if_neg (Nat.not_le_of_lt h)]
  · intro d hd
    obtain ⟨c, -, hd⟩ := List.mem_flatMap.mp hd
    exact not_separator_of_mem_urlEncodeByte c d hd

end Fuerte.Http

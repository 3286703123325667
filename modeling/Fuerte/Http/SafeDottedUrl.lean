import Fuerte.Http.QueryString

/-! # Protecting the dots in an URL

The pass over a finished URL escapes a dot that is a path segment of its own. It
changes nothing that a server decodes, and a second pass finds nothing to do.
-/

namespace Fuerte.Http

set_option autoImplicit false

/-! ## The loop -/

/-- `std::string::find("/.", currentFind)`, in the rest of the URL that starts there. -/
def findDot : ByteString → Option Nat
  | [] => none
  | [_] => none
  | c :: d :: rest =>
    if c = byte '/' ∧ d = byte '.' then some 0 else (findDot (d :: rest)).map (· + 1)

/-- The loop of `createSafeDottedCurlUrl`: the rest of `originalUrl` from
`currentFind` on, and what `url` holds so far. `fuel` bounds the rounds. -/
def safeDottedLoop : Nat → ByteString → ByteString → Option ByteString
  | 0, _, _ => none
  | fuel + 1, rest, url =>
    match findDot rest with
    | none => some (url ++ rest)
    | some found =>
      let url := url ++ rest.take found
      match rest.drop (found + 2) with
      | [] => safeDottedLoop fuel [] (url ++ ascii "/%2E")
      | c :: rest =>
        if c ∈ urlDotSeparators then safeDottedLoop fuel (c :: rest) (url ++ ascii "/%2E")
        else safeDottedLoop fuel (c :: rest) (url ++ ascii "/.")

theorem createSafeDottedCurlUrl_of_findDot (rest : ByteString) :
    (findDot rest = none ∧ createSafeDottedCurlUrl rest = rest) ∨
    ∃ found, findDot rest = some found ∧ found + 2 ≤ rest.length ∧
      createSafeDottedCurlUrl rest = rest.take found ++
        ((if (rest.drop (found + 2)).head?.all (· ∈ urlDotSeparators) then ascii "/%2E"
          else ascii "/.") ++ createSafeDottedCurlUrl (rest.drop (found + 2))) := by
  induction rest using findDot.induct with
  | case1 => exact .inl ⟨rfl, rfl⟩
  | case2 c => exact .inl ⟨rfl, rfl⟩
  | case3 c d rest hDot =>
    refine .inr ⟨0, by rw [findDot, if_pos hDot], by simp, ?_⟩
    rw [createSafeDottedCurlUrl, if_pos hDot]
    rfl
  | case4 c d rest hDot ih =>
    rw [findDot, if_neg hDot, createSafeDottedCurlUrl, if_neg hDot]
    obtain ⟨hNone, hSame⟩ | ⟨found, hFound, hLength, hSame⟩ := ih
    · exact .inl ⟨by rw [hNone]; rfl, by rw [hSame]⟩
    · refine .inr ⟨found + 1, by rw [hFound]; rfl, by simpa using hLength, ?_⟩
      rw [hSame]
      rfl

/-- Every round takes at least two characters. -/
theorem safeDottedLoop_eq {fuel : Nat} {rest : ByteString} (hFuel : rest.length < fuel)
    (url : ByteString) :
    safeDottedLoop fuel rest url = some (url ++ createSafeDottedCurlUrl rest) := by
  induction fuel generalizing rest url with
  | zero => exact absurd hFuel (Nat.not_lt_zero _)
  | succ fuel ih =>
    rw [safeDottedLoop]
    obtain ⟨hNone, hSame⟩ | ⟨found, hFound, hLength, hSame⟩ :=
      createSafeDottedCurlUrl_of_findDot rest
    · rw [hNone, hSame]
    · rw [hFound, hSame]
      have hLess : (rest.drop (found + 2)).length < fuel := by
        rw [List.length_drop]
        omega
      dsimp only
      generalize rest.drop (found + 2) = left at hLess ⊢
      cases left with
      | nil =>
        rw [ih hLess]
        simp [List.append_assoc]
      | cons c left =>
        dsimp only
        split
        · rename_i hSeparator
          rw [ih hLess, List.head?_cons, Option.all_some, if_pos (decide_eq_true hSeparator)]
          simp only [List.append_assoc]
        · rename_i hSeparator
          rw [ih hLess, List.head?_cons, Option.all_some, decide_eq_false hSeparator]
          simp only [List.append_assoc, Bool.false_eq_true, if_false]

/-! ## The characters that stay -/

theorem createSafeDottedCurlUrl_append_left {front : ByteString} (hFront : byte '/' ∉ front)
    (rest : ByteString) :
    createSafeDottedCurlUrl (front ++ rest) = front ++ createSafeDottedCurlUrl rest := by
  induction front with
  | nil => rfl
  | cons c front ih =>
    simp only [List.mem_cons, not_or] at hFront
    rw [List.cons_append, List.cons_append, ← ih hFront.2]
    cases front ++ rest with
    | nil => rfl
    | cons d left => rw [createSafeDottedCurlUrl, if_neg fun hDot => hFront.1 hDot.1.symm]

theorem head_createSafeDottedCurlUrl (url : ByteString) :
    (createSafeDottedCurlUrl url).head? = url.head? := by
  fun_cases createSafeDottedCurlUrl url with
  | case1 => rfl
  | case2 c => rfl
  | case3 c d rest hDot =>
    rw [hDot.1]
    split <;> rfl
  | case4 c d rest hDot => rfl

theorem createSafeDottedCurlUrl_cons {c : UInt8} (h : c ≠ byte '/') (rest : ByteString) :
    createSafeDottedCurlUrl (c :: rest) = c :: createSafeDottedCurlUrl rest := by
  have hFront : byte '/' ∉ [c] := fun hSlash => h (List.mem_singleton.mp hSlash).symm
  exact createSafeDottedCurlUrl_append_left hFront rest

theorem exists_createSafeDottedCurlUrl_cons (c : UInt8) (rest : ByteString) :
    ∃ later, createSafeDottedCurlUrl (c :: rest) = c :: later := by
  have hHead := head_createSafeDottedCurlUrl (c :: rest)
  cases h : createSafeDottedCurlUrl (c :: rest) with
  | nil =>
    rw [h] at hHead
    cases hHead
  | cons d later =>
    rw [h] at hHead
    cases hHead
    exact ⟨later, rfl⟩

/-! ## Decoding -/

/-- A percent sign that no hexadecimal digit follows is skipped. -/
theorem urlDecode_of_not_hex {d : UInt8} (h : hex2int d (-1) = -1) (rest : ByteString) :
    urlDecode (byte '%' :: d :: rest) = urlDecode (d :: rest) := by
  cases rest with
  | nil => exact (if_pos rfl).trans (if_pos h)
  | cons e rest => exact (if_pos rfl).trans (if_pos h)

/-- Of an escape with one digit the digit is the value. -/
theorem urlDecode_half {d e : UInt8} (hHex : hex2int d (-1) ≠ -1) (h : hex2int e (-1) = -1)
    (rest : ByteString) :
    urlDecode (byte '%' :: d :: e :: rest) =
      UInt8.ofInt (hex2int d (-1)) :: urlDecode (e :: rest) :=
  (if_pos rfl).trans ((if_neg hHex).trans (if_pos h))

theorem urlDecode_escape {d e : UInt8} (hHigh : hex2int d (-1) ≠ -1) (hLow : hex2int e (-1) ≠ -1)
    (rest : ByteString) :
    urlDecode (byte '%' :: d :: e :: rest) =
      (UInt8.ofInt (hex2int d (-1)) <<< 4 ||| UInt8.ofInt (hex2int e (-1))) :: urlDecode rest :=
  (if_pos rfl).trans ((if_neg hHigh).trans (if_neg hLow))

theorem ne_slash_of_hex {d : UInt8} (h : hex2int d (-1) ≠ -1) : d ≠ byte '/' := by
  rintro rfl
  exact h rfl

/-- A dot behind a slash is decoded alike, escaped or not. -/
theorem urlDecode_createSafeDottedCurlUrl_cons {c : UInt8} (h : c ≠ byte '%') (rest : ByteString) :
    urlDecode (createSafeDottedCurlUrl (c :: rest)) =
      (if c = byte '+' then byte ' ' else c) :: urlDecode (createSafeDottedCurlUrl rest) := by
  cases rest with
  | nil => exact urlDecode_cons h []
  | cons d rest =>
    rw [createSafeDottedCurlUrl]
    split
    · rename_i hDot
      rw [hDot.1, hDot.2, createSafeDottedCurlUrl_cons (by decide), urlDecode_cons (by decide)]
      split
      · rfl
      · exact (urlDecode_cons (by decide) _).trans (congrArg _ (urlDecode_cons (by decide) _))
    · exact urlDecode_cons h _

theorem urlDecode_createSafeDottedCurlUrl (url : ByteString) :
    urlDecode (createSafeDottedCurlUrl url) = urlDecode url := by
  induction url using urlDecode.induct with
  | case1 => rfl
  | case2 => rfl
  | case3 => rfl
  | case4 => rfl
  | case5 d h1 hNot ih =>
    obtain ⟨later, hLater⟩ := exists_createSafeDottedCurlUrl_cons d []
    rw [createSafeDottedCurlUrl_cons (by decide), hLater, urlDecode_of_not_hex hNot, ← hLater, ih,
      urlDecode_of_not_hex hNot]
  | case6 d h1 hHex =>
    rw [createSafeDottedCurlUrl_cons (by decide), createSafeDottedCurlUrl_cons (ne_slash_of_hex hHex)]
    rfl
  | case7 c d hPercent ih =>
    rw [urlDecode_createSafeDottedCurlUrl_cons hPercent, ih, urlDecode_cons hPercent]
  | case8 d e rest h1 hNot ih =>
    obtain ⟨later, hLater⟩ := exists_createSafeDottedCurlUrl_cons d (e :: rest)
    rw [createSafeDottedCurlUrl_cons (by decide), hLater, urlDecode_of_not_hex hNot, ← hLater, ih,
      urlDecode_of_not_hex hNot]
  | case9 d e rest h1 h2 hHex hNot ih =>
    obtain ⟨later, hLater⟩ := exists_createSafeDottedCurlUrl_cons e rest
    rw [createSafeDottedCurlUrl_cons (by decide), createSafeDottedCurlUrl_cons (ne_slash_of_hex hHex),
      hLater, urlDecode_half hHex hNot, ← hLater, ih, urlDecode_half hHex hNot]
  | case10 d e rest h1 h2 hHigh hLow ih =>
    rw [createSafeDottedCurlUrl_cons (by decide), createSafeDottedCurlUrl_cons (ne_slash_of_hex hHigh),
      createSafeDottedCurlUrl_cons (ne_slash_of_hex hLow), urlDecode_escape hHigh hLow, ih,
      urlDecode_escape hHigh hLow]
  | case11 c d e rest hPercent ih =>
    rw [urlDecode_createSafeDottedCurlUrl_cons hPercent, ih, urlDecode_cons hPercent]

/-! ## A second pass -/

theorem createSafeDottedCurlUrl_idempotent (url : ByteString) :
    createSafeDottedCurlUrl (createSafeDottedCurlUrl url) = createSafeDottedCurlUrl url := by
  induction url using createSafeDottedCurlUrl.induct with
  | case1 => rfl
  | case2 c => rfl
  | case3 c d rest hDot ih =>
    have hHead := head_createSafeDottedCurlUrl rest
    rw [createSafeDottedCurlUrl, if_pos hDot]
    split
    · have hEscape : createSafeDottedCurlUrl (ascii "/%2E" ++ createSafeDottedCurlUrl rest) =
          byte '/' :: createSafeDottedCurlUrl (ascii "%2E" ++ createSafeDottedCurlUrl rest) := rfl
      rw [hEscape, createSafeDottedCurlUrl_append_left (by decide), ih]
      rfl
    · rename_i hEnds
      rw [← hHead] at hEnds
      have hDots : createSafeDottedCurlUrl (ascii "/." ++ createSafeDottedCurlUrl rest) =
          (if (createSafeDottedCurlUrl rest).head?.all (· ∈ urlDotSeparators) then ascii "/%2E"
            else ascii "/.") ++ createSafeDottedCurlUrl (createSafeDottedCurlUrl rest) := rfl
      rw [hDots, if_neg hEnds, ih]
  | case4 c d rest hDot ih =>
    obtain ⟨later, hLater⟩ := exists_createSafeDottedCurlUrl_cons d rest
    rw [createSafeDottedCurlUrl, if_neg hDot]
    rw [hLater] at ih ⊢
    rw [createSafeDottedCurlUrl, if_neg hDot, ih]

/-- The pass over a finished URL ends, what a server decodes is the same, and a
second pass changes nothing. -/
theorem rewriting_preserves_meaning (url : ByteString) :
    safeDottedLoop (url.length + 1) url [] = some (createSafeDottedCurlUrl url) ∧
      urlDecode (createSafeDottedCurlUrl url) = urlDecode url ∧
      createSafeDottedCurlUrl (createSafeDottedCurlUrl url) = createSafeDottedCurlUrl url :=
  ⟨safeDottedLoop_eq (Nat.lt_succ_self _) [], urlDecode_createSafeDottedCurlUrl url,
    createSafeDottedCurlUrl_idempotent url⟩

end Fuerte.Http

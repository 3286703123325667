import Fuerte.Http.ReadHeaders
import Fuerte.Library.DotSegments

/-! # Recognising content types

`to_ContentType` looks for known texts anywhere in the value. A value is
recognised for what it is as long as its parameters do not contain such a text.
-/

namespace Fuerte

set_option autoImplicit false

open Http

/-- The media types that have a category of their own. -/
def mediaTypes : List (ByteString × ContentType) := [
  (ascii "application/x-velocypack", .vpack),
  (ascii "application/json", .json),
  (ascii "text/html", .html),
  (ascii "text/plain", .text),
  (ascii "application/x-arango-dump", .dump)]

/-- The texts that are looked for, in this order. -/
def contentTypes : List (ByteString × ContentType) := (ascii "unset", .unset) :: mediaTypes

/-- `val.find(text) != std::string::npos`. -/
def occurs (text : ByteString) : ByteString → Bool
  | [] => text.isEmpty
  | c :: val => text.isPrefixOf (c :: val) || occurs text val

theorem occurs_iff (text val : ByteString) : occurs text val ↔ text <:+: val := by
  induction val with
  | nil => simp [occurs]
  | cons c val ih => rw [occurs, Bool.or_eq_true, List.isPrefixOf_iff_prefix, ih, List.infix_cons_iff]

/-- `to_ContentType`. -/
def toContentType (val : ByteString) : ContentType :=
  -- `strcasecmp` reads up to the first zero
  if val.takeWhile (· ≠ 0) = [] then .unset
  else
    match contentTypes.find? fun entry => occurs entry.1 val with
    | some entry => entry.2
    | none => .custom

/-! ## Substrings -/

section Substrings

variable {α : Type}

/-- A text does not reach across a character that it does not contain. -/
theorem infix_append_cons_iff {text : List α} {sep : α} (hSep : sep ∉ text) (front back : List α) :
    text <:+: front ++ sep :: back ↔ text <:+: front ∨ text <:+: back := by
  constructor
  · rintro ⟨before, after, h⟩
    rw [List.append_assoc, List.append_eq_append_iff] at h
    rcases h with ⟨middle, rfl, h⟩ | ⟨middle, rfl, h⟩
    · rcases List.append_eq_append_iff.mp h with ⟨rest, rfl, -⟩ | ⟨rest, rfl, hRest⟩
      · exact .inl ⟨before, rest, by rw [List.append_assoc]⟩
      · cases rest with
        | nil => exact .inl ⟨before, [], by rw [List.append_nil, List.append_nil]⟩
        | cons c rest =>
          cases hRest
          exact absurd (List.mem_append_right _ List.mem_cons_self) hSep
    · cases middle with
      | nil =>
        cases text with
        | nil => exact .inl List.nil_infix
        | cons c text =>
          cases h
          exact absurd List.mem_cons_self hSep
      | cons c middle =>
        cases h
        exact .inr ⟨middle, after, List.append_assoc _ _ _⟩
  · rintro (h | h)
    · exact h.trans List.infix_append_left
    · exact h.trans (List.infix_cons_iff.mpr (.inr List.infix_rfl) |>.trans List.infix_append_right)

/-- A search ends at an entry exactly where it succeeds there and nowhere before. -/
theorem find?_map_eq_iff {β : Type} [DecidableEq α] {p : α → Bool} {entries : List (α × β)}
    (hKeys : (entries.map Prod.fst).Nodup) (hValues : (entries.map Prod.snd).Nodup)
    {entry : α × β} (hEntry : entry ∈ entries) :
    (entries.find? fun e => p e.1).map Prod.snd = some entry.2 ↔
      p entry.1 ∧ ∀ key ∈ (entries.map Prod.fst).takeWhile (· ≠ entry.1), ¬ p key := by
  induction entries with
  | nil => cases hEntry
  | cons first entries ih =>
    rw [List.map_cons, List.nodup_cons] at hKeys hValues
    rcases List.mem_cons.mp hEntry with rfl | hLater
    · have hFirst : (List.map Prod.fst (entry :: entries)).takeWhile (· ≠ entry.1) = [] := by
        rw [List.map_cons, List.takeWhile_cons, if_neg (by simp)]
      rw [hFirst, List.find?_cons]
      cases hp : p entry.1 with
      | true => simp
      | false =>
        refine iff_of_false (fun hFound => ?_) (fun h => by cases h.1)
        obtain ⟨found, hFound, hSame⟩ := Option.map_eq_some_iff.mp hFound
        exact hValues.1 (hSame ▸ List.mem_map_of_mem (List.mem_of_find?_eq_some hFound))
    · have hNe : first.1 ≠ entry.1 := fun h => hKeys.1 (h ▸ List.mem_map_of_mem hLater)
      have hCons : (List.map Prod.fst (first :: entries)).takeWhile (· ≠ entry.1) =
          first.1 :: (entries.map Prod.fst).takeWhile (· ≠ entry.1) := by
        rw [List.map_cons, List.takeWhile_cons, if_pos (by simpa using hNe)]
      rw [hCons, List.find?_cons, List.forall_mem_cons]
      cases hp : p first.1 with
      | true =>
        refine iff_of_false (fun hFound => ?_) (fun h => h.2.1 rfl)
        exact hValues.1 (Option.some.inj hFound ▸ List.mem_map_of_mem hLater)
      | false =>
        rw [ih hKeys.2 hValues.2 hLater]
        simp

end Substrings

/-! ## Values with parameters -/

/-- The value up to the first semicolon. -/
def mediaType (val : ByteString) : ByteString := val.takeWhile (· ≠ byte ';')

/-- The rest of the value, from the first semicolon on. -/
def parameters (val : ByteString) : ByteString := val.dropWhile (· ≠ byte ';')

/-- The media type is this one, in whatever letter case. -/
def HasMediaType (val text : ByteString) : Prop := (mediaType val).map tolower = text

/-- The media type is none of the known ones. -/
def HasOtherMediaType (val : ByteString) : Prop :=
  mediaType val ≠ [] ∧ mediaType val ≠ ascii "unset" ∧
    ∀ entry ∈ mediaTypes, ¬ HasMediaType val entry.1

/-- A value is recognised by its media type alone. -/
structure Recognised (val : ByteString) : Prop where
  known : ∀ entry ∈ mediaTypes, HasMediaType val entry.1 → toContentType val = entry.2
  other : HasOtherMediaType val → toContentType val = .custom

/-- The texts that are looked for before this one. -/
def triedBefore (text : ByteString) : List ByteString :=
  (contentTypes.map Prod.fst).takeWhile (· ≠ text)

/-- A known media type is written in small letters, or once more among the
parameters, and no text that is looked for earlier is there; another media type
and its parameters contain no text that is looked for, and it does not begin with
a zero. -/
structure Plain (val : ByteString) : Prop where
  known : ∀ entry ∈ mediaTypes, HasMediaType val entry.1 →
    (mediaType val = entry.1 ∨ entry.1 <:+: parameters val) ∧
      ∀ text ∈ triedBefore entry.1, ¬ text <:+: parameters val
  other : HasOtherMediaType val → (mediaType val).head? ≠ some 0 ∧
    ∀ entry ∈ contentTypes, ¬ entry.1 <:+: mediaType val ∧ ¬ entry.1 <:+: parameters val

theorem text_lower {text : ByteString} (h : text ∈ contentTypes.map Prod.fst) :
    text.map tolower = text ∧ byte ';' ∉ text ∧ text ≠ [] ∧ text.head? ≠ some 0 := by
  simp only [contentTypes, mediaTypes, List.map_cons, List.map_nil, List.mem_cons,
    List.not_mem_nil, or_false] at h
  rcases h with rfl | rfl | rfl | rfl | rfl | rfl <;> decide +kernel

/-- No text is a part of another one's media type. -/
theorem text_infix {text : ByteString} (h : text ∈ contentTypes.map Prod.fst)
    {entry : ByteString × ContentType} (hEntry : entry ∈ mediaTypes) (hInfix : text <:+: entry.1) :
    text = entry.1 := by
  rw [← occurs_iff] at hInfix
  simp only [contentTypes, mediaTypes, List.map_cons, List.map_nil, List.mem_cons,
    List.not_mem_nil, or_false] at h hEntry
  revert hInfix
  rcases h with rfl | rfl | rfl | rfl | rfl | rfl <;>
    rcases hEntry with rfl | rfl | rfl | rfl | rfl <;> decide +kernel

section Recognition

variable {val text : ByteString}

theorem mediaType_append_parameters (val : ByteString) : mediaType val ++ parameters val = val :=
  List.takeWhile_append_dropWhile

theorem parameters_cases (val : ByteString) :
    parameters val = [] ∨ ∃ rest, parameters val = byte ';' :: rest := by
  obtain ⟨_, left, -, -, -, hLeft, hCases⟩ := DotSegments.exists_first_segment (byte ';') val
  rw [parameters, hLeft]
  exact hCases

theorem infix_iff (h : text ∈ contentTypes.map Prod.fst) :
    text <:+: val ↔ text <:+: mediaType val ∨ text <:+: parameters val := by
  obtain ⟨-, hSemicolon, hText, -⟩ := text_lower h
  have hNil : ¬ text <:+: [] := fun hInfix => hText (List.infix_nil.mp hInfix)
  have hParts := mediaType_append_parameters val
  rcases parameters_cases val with hEmpty | ⟨rest, hRest⟩
  · rw [hEmpty, List.append_nil] at hParts
    rw [hEmpty, or_iff_left hNil, hParts]
  · have hFrom := infix_append_cons_iff hSemicolon [] rest
    rw [List.nil_append, or_iff_right hNil] at hFrom
    rw [hRest, hFrom, ← infix_append_cons_iff hSemicolon, ← hRest, hParts]

/-- A known media type contains no text but its own, and that only in small letters. -/
theorem infix_mediaType_iff (h : text ∈ contentTypes.map Prod.fst)
    {entry : ByteString × ContentType} (hEntry : entry ∈ mediaTypes)
    (hType : HasMediaType val entry.1) :
    text <:+: mediaType val ↔ text = entry.1 ∧ mediaType val = entry.1 := by
  constructor
  · intro hInfix
    have hLower := hInfix.map tolower
    rw [(text_lower h).1, hType] at hLower
    have hText := text_infix h hEntry hLower
    have hLength : text.length = (mediaType val).length := by
      rw [hText, ← hType, List.length_map]
    exact ⟨hText, (hInfix.eq_of_length hLength).symm.trans hText⟩
  · rintro ⟨rfl, hSame⟩
    exact hSame.symm ▸ List.infix_rfl

theorem takeWhile_ne_nil_iff : val.takeWhile (· ≠ 0) ≠ [] ↔ val ≠ [] ∧ val.head? ≠ some 0 := by
  cases val with
  | nil => simp
  | cons c val => by_cases h : c = 0 <;> simp [h]

theorem head?_mediaType (h : mediaType val ≠ []) : val.head? = (mediaType val).head? := by
  have hParts := congrArg List.head? (mediaType_append_parameters val)
  rw [← hParts, List.head?_append_of_ne_nil _ h]

/-- What a zero does not hide is decided by the search. -/
theorem toContentType_eq (hHead : (mediaType val).head? ≠ some 0) (hType : mediaType val ≠ []) :
    toContentType val =
      ((contentTypes.find? fun entry => occurs entry.1 val).map Prod.snd).getD .custom := by
  have hVal : val ≠ [] := by
    rintro rfl
    exact hType rfl
  rw [toContentType, if_neg (takeWhile_ne_nil_iff.mpr ⟨hVal, head?_mediaType hType ▸ hHead⟩)]
  split <;> rename_i hFind <;> rw [hFind] <;> rfl

theorem known_iff {entry : ByteString × ContentType} (hEntry : entry ∈ mediaTypes)
    (hType : HasMediaType val entry.1) :
    toContentType val = entry.2 ↔ (mediaType val = entry.1 ∨ entry.1 <:+: parameters val) ∧
      ∀ text ∈ triedBefore entry.1, ¬ text <:+: parameters val := by
  have hMem : entry ∈ contentTypes := List.mem_cons_of_mem _ hEntry
  have hKey : entry.1 ∈ contentTypes.map Prod.fst := List.mem_map_of_mem hMem
  obtain ⟨-, -, hText, hZero⟩ := text_lower hKey
  have hSome : mediaType val ≠ [] := by
    intro hNil
    rw [HasMediaType, hNil] at hType
    exact hText hType.symm
  have hHead : (mediaType val).head? ≠ some 0 := by
    intro hHead
    have hLower := congrArg List.head? hType
    rw [List.head?_map, hHead] at hLower
    exact hZero hLower.symm
  have hCustom : entry.2 ≠ .custom := by
    simp only [mediaTypes, List.mem_cons, List.not_mem_nil, or_false] at hEntry
    rcases hEntry with rfl | rfl | rfl | rfl | rfl <;> exact ContentType.noConfusion
  have hFound : toContentType val = entry.2 ↔
      (contentTypes.find? fun e => occurs e.1 val).map Prod.snd = some entry.2 := by
    rw [toContentType_eq hHead hSome]
    cases (contentTypes.find? fun e => occurs e.1 val).map Prod.snd with
    | none => exact iff_of_false hCustom.symm (Option.some_ne_none _).symm
    | some type => exact Option.some_inj.symm
  have hKeys : (contentTypes.map Prod.fst).Nodup := by decide +kernel
  have hValues : (contentTypes.map Prod.snd).Nodup := by decide
  rw [hFound, find?_map_eq_iff (p := fun key => occurs key val) hKeys hValues hMem]
  have hOwn : occurs entry.1 val = true ↔ mediaType val = entry.1 ∨ entry.1 <:+: parameters val := by
    rw [occurs_iff, infix_iff hKey, infix_mediaType_iff hKey hEntry hType]
    simp
  have hEarlier (text : ByteString) (h : text ∈ triedBefore entry.1) :
      occurs text val = true ↔ text <:+: parameters val := by
    have hNe : text ≠ entry.1 := by simpa using List.mem_takeWhile_imp h
    have hTried : text ∈ contentTypes.map Prod.fst := (List.takeWhile_sublist _).mem h
    rw [occurs_iff, infix_iff hTried, infix_mediaType_iff hTried hEntry hType]
    simp [hNe]
  rw [hOwn]
  exact and_congr_right fun _ => forall₂_congr fun text h => not_congr (hEarlier text h)

theorem custom_iff (hType : mediaType val ≠ []) :
    toContentType val = .custom ↔ (mediaType val).head? ≠ some 0 ∧
      ∀ entry ∈ contentTypes, ¬ entry.1 <:+: mediaType val ∧ ¬ entry.1 <:+: parameters val := by
  have hNone : (∀ entry ∈ contentTypes, ¬ entry.1 <:+: mediaType val ∧ ¬ entry.1 <:+: parameters val) ↔
      contentTypes.find? (fun entry => occurs entry.1 val) = none := by
    rw [List.find?_eq_none]
    refine forall₂_congr fun entry hEntry => ?_
    rw [occurs_iff, @infix_iff val _ (List.mem_map_of_mem hEntry), not_or]
  rw [hNone]
  by_cases hHead : (mediaType val).head? = some 0
  · refine iff_of_false ?_ fun h => h.1 hHead
    rw [toContentType, if_pos]
    · exact ContentType.noConfusion
    · by_contra hVal
      exact (takeWhile_ne_nil_iff.mp hVal).2 (head?_mediaType hType ▸ hHead)
  · rw [toContentType_eq hHead hType, and_iff_right hHead]
    cases hFind : contentTypes.find? fun entry => occurs entry.1 val with
    | none => exact iff_of_true rfl rfl
    | some entry =>
      have hEntry := List.mem_of_find?_eq_some hFind
      refine iff_of_false ?_ (Option.some_ne_none _)
      simp only [contentTypes, mediaTypes, List.mem_cons, List.not_mem_nil, or_false] at hEntry
      rcases hEntry with rfl | rfl | rfl | rfl | rfl | rfl <;> exact ContentType.noConfusion

end Recognition

/-- Values are recognised by their media type exactly if the rest does not mislead. -/
theorem recognised_iff (val : ByteString) : Recognised val ↔ Plain val := by
  constructor
  · intro h
    constructor
    · intro entry hEntry hType
      exact (known_iff hEntry hType).mp (h.known entry hEntry hType)
    · intro hOther
      exact (custom_iff hOther.1).mp (h.other hOther)
  · intro h
    constructor
    · intro entry hEntry hType
      exact (known_iff hEntry hType).mpr (h.known entry hEntry hType)
    · intro hOther
      exact (custom_iff hOther.1).mpr (h.other hOther)

/-- A comment among the parameters turns plain text into JSON. -/
theorem misleading_parameter :
    toContentType (ascii "text/plain; note=application/json") = .json ∧
      ¬ Recognised (ascii "text/plain; note=application/json") := by
  have hFound : toContentType (ascii "text/plain; note=application/json") = .json := by
    decide +kernel
  refine ⟨hFound, fun h => ?_⟩
  have hType := h.known (ascii "text/plain", .text) (by decide +kernel) (by
    rw [HasMediaType]
    decide +kernel)
  rw [hFound] at hType
  cases hType

end Fuerte

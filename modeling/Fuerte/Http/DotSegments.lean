import Fuerte.Http.SafeDottedUrl
import Fuerte.Library.DotSegments

/-! # Dot segments in the path of an URL

A client takes dot segments out of the path before it sends it. A segment of one
dot is protected against that, one of two dots is not.
-/

namespace Fuerte.Http

set_option autoImplicit false

/-! ## Segments -/

/-- What becomes of a segment behind a slash. -/
def protect (segment : ByteString) : ByteString :=
  if segment = ascii "." then ascii "%2E" else segment

/-- A segment ends in front of a separator, or where the URL does. -/
def Ends (rest : ByteString) : Prop := rest.head?.all (· ∈ urlDotSeparators) = true

theorem createSafeDottedCurlUrl_segment {segment rest : ByteString}
    (hSegment : ∀ c ∈ segment, c ∉ urlDotSeparators) (hRest : Ends rest) :
    createSafeDottedCurlUrl (byte '/' :: (segment ++ rest)) =
      byte '/' :: (protect segment ++ createSafeDottedCurlUrl rest) := by
  have hSlash : byte '/' ∉ segment := fun h => hSegment _ h (by decide)
  cases segment with
  | nil =>
    rw [List.nil_append, protect, if_neg (by decide), List.nil_append]
    cases rest with
    | nil => rfl
    | cons c rest =>
      have hNoDot : ¬(byte '/' = byte '/' ∧ c = byte '.') := by
        rintro ⟨-, rfl⟩
        have hEnd : decide (byte '.' ∈ urlDotSeparators) = true := hRest
        exact absurd hEnd (by decide)
      rw [createSafeDottedCurlUrl, if_neg hNoDot]
  | cons c segment =>
    simp only [List.mem_cons, not_or] at hSlash
    rw [List.cons_append, createSafeDottedCurlUrl]
    by_cases hDot : c = byte '.'
    · rw [if_pos ⟨rfl, hDot⟩, createSafeDottedCurlUrl_append_left hSlash.2, hDot]
      cases segment with
      | nil =>
        have hEnd : rest.head?.all (· ∈ urlDotSeparators) = true := hRest
        rw [List.nil_append, if_pos hEnd]
        rfl
      | cons d segment =>
        have hInner : d ∉ urlDotSeparators :=
          hSegment d (List.mem_cons_of_mem _ List.mem_cons_self)
        rw [List.cons_append, List.head?_cons, Option.all_some, decide_eq_false hInner, protect,
          if_neg (by simp)]
        rfl
    · have hProtect : protect (c :: segment) = c :: segment := by
        rw [protect, if_neg]
        intro h
        exact hDot (List.cons.inj h).1
      rw [if_neg fun h => hDot h.2, hProtect, ← List.cons_append,
        createSafeDottedCurlUrl_append_left (List.not_mem_cons_of_ne_of_not_mem hSlash.1 hSlash.2)]

theorem intercalate_cons_eq (sep : UInt8) (first : ByteString) (segments : List ByteString) :
    [sep].intercalate (first :: segments) = first ++ segments.flatMap (sep :: ·) := by
  induction segments generalizing first with
  | nil => rw [List.intercalate_singleton, List.flatMap_nil, List.append_nil]
  | cons next segments ih =>
    rw [List.intercalate_cons_cons, ih, List.flatMap_cons, List.append_assoc, List.singleton_append,
      List.cons_append]

theorem ends_flatMap (segments : List ByteString) {rest : ByteString} (hRest : Ends rest) :
    Ends (segments.flatMap (byte '/' :: ·) ++ rest) := by
  cases segments with
  | nil => exact hRest
  | cons segment segments => rfl

/-- The first segment stays, of the others the single dots are escaped. -/
theorem createSafeDottedCurlUrl_segments {first : ByteString} {segments : List ByteString}
    (hAll : ∀ segment ∈ first :: segments, ∀ c ∈ segment, c ∉ urlDotSeparators)
    {rest : ByteString} (hRest : Ends rest) :
    createSafeDottedCurlUrl ([byte '/'].intercalate (first :: segments) ++ rest) =
      [byte '/'].intercalate (first :: segments.map protect) ++ createSafeDottedCurlUrl rest := by
  obtain ⟨hFirst, hSegments⟩ := List.forall_mem_cons.mp hAll
  rw [intercalate_cons_eq, intercalate_cons_eq, List.append_assoc, List.append_assoc,
    createSafeDottedCurlUrl_append_left fun h => hFirst _ h (by decide)]
  congr 1
  clear hFirst hAll
  induction segments with
  | nil => rfl
  | cons segment segments ih =>
    obtain ⟨hSegment, hSegments⟩ := List.forall_mem_cons.mp hSegments
    rw [List.flatMap_cons, List.map_cons, List.flatMap_cons, List.append_assoc, List.cons_append,
      createSafeDottedCurlUrl_segment hSegment (ends_flatMap segments hRest), ih hSegments]
    simp only [List.cons_append, List.append_assoc]

/-! ## The path of an URL -/

/-- The part in front of the query and the fragment. -/
def hierarchy (url : ByteString) : ByteString :=
  url.takeWhile fun c => c ≠ byte '?' ∧ c ≠ byte '#'

/-- The first piece without a scheme and its colon. -/
def dropScheme (first : ByteString) : ByteString :=
  match first.dropWhile (· ≠ byte ':') with
  | [] => first
  | colon :: rest => if first.head? = some colon then first else rest

/-- Between the scheme and the path there may be an authority, behind two slashes. -/
def dropAuthority : List ByteString → List ByteString
  | [] => []
  | [first] => [dropScheme first]
  | [first, second] => [dropScheme first, second]
  | first :: second :: third :: rest =>
    if dropScheme first = [] ∧ second = [] then [] :: rest
    else dropScheme first :: second :: third :: rest

def pathSegments (url : ByteString) : List ByteString :=
  dropAuthority ((hierarchy url).splitOn (byte '/'))

def path (url : ByteString) : ByteString := [byte '/'].intercalate (pathSegments url)

def IsPlain (segment : ByteString) : Prop :=
  ∀ c ∈ segment, c ≠ byte '/' ∧ c ≠ byte '?' ∧ c ≠ byte '#'

theorem IsPlain.protect {segment : ByteString} (h : IsPlain segment) : IsPlain (protect segment) := by
  rw [Http.protect]
  split
  · intro c hc
    have hEscape : c = byte '%' ∨ c = byte '2' ∨ c = byte 'E' := by simpa [ascii, byte] using hc
    rcases hEscape with rfl | rfl | rfl <;> decide
  · exact h

theorem IsPlain.not_mem_urlDotSeparators {segment : ByteString} (h : IsPlain segment) :
    ∀ c ∈ segment, c ∉ urlDotSeparators := by
  intro c hc hSeparator
  obtain ⟨hSlash, hMark, hHash⟩ := h c hc
  simp only [urlDotSeparators, List.mem_cons, List.not_mem_nil, or_false] at hSeparator
  rcases hSeparator with rfl | rfl | rfl
  · exact hSlash rfl
  · exact hHash rfl
  · exact hMark rfl

theorem isPlain_of_mem_splitOn {url segment : ByteString}
    (h : segment ∈ (hierarchy url).splitOn (byte '/')) : IsPlain segment := by
  intro c hc
  obtain ⟨hSlash, hIn⟩ := DotSegments.of_mem_splitOn h hc
  have hMark := List.mem_takeWhile_imp hIn
  exact ⟨hSlash, of_decide_eq_true hMark⟩

/-- What follows the hierarchy. -/
def IsQuery (rest : ByteString) : Prop :=
  rest.head?.all (fun c => c = byte '?' ∨ c = byte '#') = true

theorem IsQuery.ends {rest : ByteString} (h : IsQuery rest) : Ends rest := by
  cases rest with
  | nil => rfl
  | cons c later =>
    have hHead : decide (c = byte '?' ∨ c = byte '#') = true := h
    rcases of_decide_eq_true hHead with rfl | rfl <;> rfl

theorem exists_query (url : ByteString) : ∃ rest, url = hierarchy url ++ rest ∧ IsQuery rest := by
  refine ⟨_, List.takeWhile_append_dropWhile.symm, ?_⟩
  rw [IsQuery]
  cases hHead : (url.dropWhile fun c => decide (c ≠ byte '?' ∧ c ≠ byte '#')).head? with
  | none => rfl
  | some c =>
    have hNot := List.head?_dropWhile_not (fun c => decide (c ≠ byte '?' ∧ c ≠ byte '#')) url
    rw [hHead] at hNot
    simp only [decide_eq_false_iff_not, not_and_or, ne_eq, not_not] at hNot
    exact decide_eq_true hNot

theorem hierarchy_append {front rest : ByteString}
    (hFront : ∀ c ∈ front, c ≠ byte '?' ∧ c ≠ byte '#') (hRest : IsQuery rest) :
    hierarchy (front ++ rest) = front := by
  rw [hierarchy, List.takeWhile_append_of_pos fun c hc => decide_eq_true (hFront c hc)]
  cases rest with
  | nil => rw [List.takeWhile_nil, List.append_nil]
  | cons c later =>
    have hHead : decide (c = byte '?' ∨ c = byte '#') = true := hRest
    rw [List.takeWhile_cons_of_neg, List.append_nil]
    rcases of_decide_eq_true hHead with rfl | rfl <;> decide

theorem intercalate_isPlain {segments : List ByteString}
    (h : ∀ segment ∈ segments, IsPlain segment) :
    ∀ c ∈ [byte '/'].intercalate segments, c ≠ byte '?' ∧ c ≠ byte '#' := by
  cases segments with
  | nil => exact fun c hc => absurd hc List.not_mem_nil
  | cons first segments =>
    obtain ⟨hFirst, hSegments⟩ := List.forall_mem_cons.mp h
    intro c hc
    rw [intercalate_cons_eq] at hc
    rcases List.mem_append.mp hc with hc | hc
    · exact (hFirst c hc).2
    · obtain ⟨segment, hSegment, hc⟩ := List.mem_flatMap.mp hc
      rcases List.mem_cons.mp hc with rfl | hc
      · decide
      · exact (hSegments segment hSegment c hc).2

/-- The pieces of the hierarchy in the finished URL. -/
theorem splitOn_hierarchy_createSafeDottedCurlUrl {url first : ByteString}
    {segments : List ByteString} (h : (hierarchy url).splitOn (byte '/') = first :: segments) :
    (hierarchy (createSafeDottedCurlUrl url)).splitOn (byte '/') =
      first :: segments.map protect := by
  obtain ⟨rest, hUrl, hRest⟩ := exists_query url
  have hPlain : ∀ segment ∈ first :: segments, IsPlain segment := by
    intro segment hSegment
    exact isPlain_of_mem_splitOn (h ▸ hSegment)
  have hProtected : ∀ segment ∈ first :: segments.map protect, IsPlain segment := by
    obtain ⟨hFirst, hSegments⟩ := List.forall_mem_cons.mp hPlain
    refine List.forall_mem_cons.mpr ⟨hFirst, ?_⟩
    intro segment hSegment
    obtain ⟨original, hOriginal, rfl⟩ := List.mem_map.mp hSegment
    exact (hSegments original hOriginal).protect
  have hSafe : createSafeDottedCurlUrl url =
      [byte '/'].intercalate (first :: segments.map protect) ++ createSafeDottedCurlUrl rest := by
    rw [← createSafeDottedCurlUrl_segments
      (fun segment hSegment => (hPlain segment hSegment).not_mem_urlDotSeparators) hRest.ends, ← h,
      List.intercalate_splitOn, ← hUrl]
  have hQuery : IsQuery (createSafeDottedCurlUrl rest) := by
    rw [IsQuery, head_createSafeDottedCurlUrl]
    exact hRest
  rw [hSafe, hierarchy_append (intercalate_isPlain hProtected) hQuery, List.splitOn_intercalate]
  · exact fun segment hSegment hSlash => (hProtected segment hSegment _ hSlash).1 rfl
  · exact List.cons_ne_nil _ _

/-- No dot segment is in the path, so that the removal of dot segments leaves it alone. -/
def DotsProtected (url : ByteString) : Prop :=
  (∀ segment ∈ pathSegments url, segment ≠ ascii "." ∧ segment ≠ ascii "..") ∧
    DotSegments.remove (byte '/') (byte '.') (path url) = path url

theorem protect_eq_nil_iff (segment : ByteString) : protect segment = [] ↔ segment = [] := by
  rw [protect]
  split
  · rename_i hDot
    rw [hDot]
    decide
  · rfl

def protectLater : List ByteString → List ByteString
  | [] => []
  | first :: segments => first :: segments.map protect

theorem dropAuthority_protectLater (segments : List ByteString) :
    dropAuthority (protectLater segments) = protectLater (dropAuthority segments) := by
  fun_cases dropAuthority segments with
  | case1 => rfl
  | case2 first => rfl
  | case3 first second => rfl
  | case4 first second third rest hAuthority =>
    rw [protectLater, List.map_cons, List.map_cons, dropAuthority,
      if_pos ⟨hAuthority.1, (protect_eq_nil_iff second).mpr hAuthority.2⟩]
    rfl
  | case5 first second third rest hPath =>
    rw [protectLater, List.map_cons, List.map_cons, dropAuthority, if_neg]
    · rfl
    · exact fun h => hPath ⟨h.1, (protect_eq_nil_iff second).mp h.2⟩

theorem pathSegments_createSafeDottedCurlUrl (url : ByteString) :
    pathSegments (createSafeDottedCurlUrl url) = protectLater (pathSegments url) := by
  rw [pathSegments, pathSegments, ← dropAuthority_protectLater]
  cases h : (hierarchy url).splitOn (byte '/') with
  | nil => exact absurd h (List.splitOn_ne_nil _ _)
  | cons first segments => rw [splitOn_hierarchy_createSafeDottedCurlUrl h, protectLater]

theorem IsPlain.dropScheme {first : ByteString} (h : IsPlain first) : IsPlain (dropScheme first) := by
  intro c hc
  rw [Http.dropScheme] at hc
  split at hc
  · exact h c hc
  · rename_i colon rest hColon
    split at hc
    · exact h c hc
    · have hIn := List.mem_cons_of_mem colon hc
      rw [← hColon] at hIn
      exact h c ((List.dropWhile_suffix _).subset hIn)

theorem isPlain_dropAuthority {segments : List ByteString}
    (h : ∀ segment ∈ segments, IsPlain segment) :
    ∀ segment ∈ dropAuthority segments, IsPlain segment := by
  have hNil : IsPlain [] := fun c hc => absurd hc List.not_mem_nil
  fun_cases dropAuthority segments with
  | case1 => exact h
  | case2 first =>
    simp only [List.forall_mem_cons] at h ⊢
    exact ⟨h.1.dropScheme, h.2⟩
  | case3 first second =>
    simp only [List.forall_mem_cons] at h ⊢
    exact ⟨h.1.dropScheme, h.2⟩
  | case4 first second third rest hAuthority =>
    simp only [List.forall_mem_cons] at h ⊢
    exact ⟨hNil, h.2.2.2⟩
  | case5 first second third rest hPath =>
    simp only [List.forall_mem_cons] at h ⊢
    exact ⟨h.1.dropScheme, h.2⟩

theorem dropAuthority_ne_nil {segments : List ByteString} (h : segments ≠ []) :
    dropAuthority segments ≠ [] := by
  fun_cases dropAuthority segments with
  | case1 => exact absurd rfl h
  | case2 first => exact List.cons_ne_nil _ _
  | case3 first second => exact List.cons_ne_nil _ _
  | case4 first second third rest hAuthority => exact List.cons_ne_nil _ _
  | case5 first second third rest hPath => exact List.cons_ne_nil _ _

/-- The removal of dot segments leaves a path alone just where there are none. -/
theorem dotsProtected_iff (url : ByteString) :
    DotsProtected url ↔ ∀ segment ∈ pathSegments url, segment ≠ ascii "." ∧ segment ≠ ascii ".." := by
  have hPlain : ∀ segment ∈ pathSegments url, IsPlain segment :=
    isPlain_dropAuthority fun segment => isPlain_of_mem_splitOn
  have hSplit : (path url).splitOn (byte '/') = pathSegments url := by
    refine List.splitOn_intercalate _ ?_ (dropAuthority_ne_nil (List.splitOn_ne_nil _ _))
    exact fun segment hSegment hSlash => (hPlain segment hSegment _ hSlash).1 rfl
  rw [DotsProtected, DotSegments.remove_eq_iff, DotSegments.Free, hSplit]
  refine and_iff_left_of_imp fun h segment hSegment => ?_
  exact not_or.mpr (h segment hSegment)

/-- The path of a finished URL is protected if and only if the original has no
segment of two dots, and none of one dot that no slash precedes. -/
theorem dots_protected (url : ByteString) :
    DotsProtected (createSafeDottedCurlUrl url) ↔
      ascii ".." ∉ pathSegments url ∧ (pathSegments url).head? ≠ some (ascii ".") := by
  rw [dotsProtected_iff, pathSegments_createSafeDottedCurlUrl]
  cases pathSegments url with
  | nil => simp [protectLater]
  | cons first segments =>
    rw [protectLater, List.forall_mem_cons, List.forall_mem_map, List.mem_cons, List.head?_cons]
    have hProtect (segment : ByteString) :
        (protect segment ≠ ascii "." ∧ protect segment ≠ ascii "..") ↔ segment ≠ ascii ".." := by
      rw [protect]
      split
      · rename_i hDot
        rw [hDot]
        decide
      · rename_i hDot
        exact and_iff_right hDot
    simp only [hProtect]
    constructor
    · rintro ⟨⟨hOne, hTwo⟩, hLater⟩
      refine ⟨?_, fun h => hOne (Option.some.inj h)⟩
      rintro (hFirst | hIn)
      · exact hTwo hFirst.symm
      · exact hLater _ hIn rfl
    · rintro ⟨hTwo, hOne⟩
      refine ⟨⟨fun h => hOne (congrArg some h), fun h => hTwo (.inl h.symm)⟩, ?_⟩
      rintro segment hIn rfl
      exact hTwo (.inr hIn)

/-- A document whose key is two dots. -/
theorem two_dots_unprotected :
    ¬DotsProtected (createSafeDottedCurlUrl
      (ascii "http://localhost:8529/_api/document/c/..")) := by
  rw [dotsProtected_iff]
  decide

end Fuerte.Http

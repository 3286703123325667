import Mathlib.Algebra.GroupWithZero.Nat
import Mathlib.Data.List.TakeWhile

/-! # Dot segments of a path

A resolver takes the segments of one or two dots out of a path, and with two dots
also the segment in front of them. A path without them is left as it is, and no
other is.
-/

namespace DotSegments

set_option autoImplicit false

universe u

variable {α : Type u} [DecidableEq α] (slash dot : α)

/-- The last segment goes, with the slash in front of it. -/
def removeLast (output : List α) : List α :=
  ((output.reverse.dropWhile (· ≠ slash)).drop 1).reverse

/-- Every round takes the first segment of the input, and its slash where it has
one, so the length of the input bounds the rounds. -/
def removeLoop : Nat → List α → List α → List α
  | 0, _, output => output
  | _ + 1, [], output => output
  | fuel + 1, c :: rest, output =>
    let front := if c = slash then [slash] else []
    let body := if c = slash then rest else c :: rest
    let segment := body.takeWhile (· ≠ slash)
    let left := body.dropWhile (· ≠ slash)
    if segment = [dot] then removeLoop fuel (front ++ left.drop 1) output
    else if segment = [dot, dot] then
      removeLoop fuel (front ++ left.drop 1) (if c = slash then removeLast slash output else output)
    else removeLoop fuel left (output ++ front ++ segment)

def remove (path : List α) : List α := removeLoop slash dot path.length path []

def IsDots (segment : List α) : Prop := segment = [dot] ∨ segment = [dot, dot]

def Free (path : List α) : Prop := ∀ segment ∈ path.splitOn slash, ¬IsDots dot segment

variable {slash dot}

theorem length_removeLast_le (output : List α) : (removeLast slash output).length ≤ output.length := by
  have hDrop := (List.dropWhile_suffix (· ≠ slash) (l := output.reverse)).length_le
  simp only [removeLast, List.length_reverse, List.length_drop] at hDrop ⊢
  omega

/-- The first segment, and what a slash begins. -/
theorem exists_first_segment (slash : α) (path : List α) :
    ∃ segment left, path = segment ++ left ∧ slash ∉ segment ∧
      path.takeWhile (· ≠ slash) = segment ∧ path.dropWhile (· ≠ slash) = left ∧
      (left = [] ∨ ∃ later, left = slash :: later) := by
  refine ⟨_, _, List.takeWhile_append_dropWhile.symm, ?_, rfl, rfl, ?_⟩
  · intro h
    have hNot := List.mem_takeWhile_imp h
    simp at hNot
  · cases hLeft : path.dropWhile (· ≠ slash) with
    | nil => exact .inl rfl
    | cons c later =>
      have hHead := List.head?_dropWhile_not (fun c => decide (c ≠ slash)) path
      rw [hLeft] at hHead
      obtain rfl : c = slash := by simpa using hHead
      exact .inr ⟨later, rfl⟩

theorem of_mem_splitOn {path : List α} {segment : List α} (hSegment : segment ∈ path.splitOn slash)
    {c : α} (hc : c ∈ segment) : c ≠ slash ∧ c ∈ path := by
  induction path generalizing segment with
  | nil => simp_all
  | cons d path ih =>
    rw [List.splitOn_cons_eq_if_modifyHead] at hSegment
    split at hSegment
    · rcases List.mem_cons.mp hSegment with rfl | hSegment
      · cases hc
      · obtain ⟨hSlash, hPath⟩ := ih hSegment hc
        exact ⟨hSlash, List.mem_cons_of_mem _ hPath⟩
    · rename_i hSlash
      cases hSplit : path.splitOn slash with
      | nil => exact absurd hSplit (List.splitOn_ne_nil _ _)
      | cons first segments =>
        rw [hSplit] at ih hSegment
        rcases List.mem_cons.mp hSegment with rfl | hSegment
        · rcases List.mem_cons.mp hc with rfl | hc
          · exact ⟨by simpa using hSlash, List.mem_cons_self⟩
          · obtain ⟨hNe, hPath⟩ := ih List.mem_cons_self hc
            exact ⟨hNe, List.mem_cons_of_mem _ hPath⟩
        · obtain ⟨hNe, hPath⟩ := ih (List.mem_cons_of_mem _ hSegment) hc
          exact ⟨hNe, List.mem_cons_of_mem _ hPath⟩

theorem free_slash (body : List α) : Free slash dot (slash :: body) ↔ Free slash dot body := by
  rw [Free, ← List.nil_append (slash :: body), List.splitOn_append_cons_self_of_not_mem List.not_mem_nil,
    List.forall_mem_cons]
  exact and_iff_right (by simp [IsDots])

theorem free_append {segment left : List α} (hSegment : slash ∉ segment)
    (hLeft : left = [] ∨ ∃ later, left = slash :: later) :
    Free slash dot (segment ++ left) ↔ ¬IsDots dot segment ∧ Free slash dot left := by
  rcases hLeft with rfl | ⟨later, rfl⟩
  · rw [List.append_nil, Free, Free, List.splitOn_eq_singleton hSegment]
    simp [IsDots]
  · rw [free_slash, Free, List.splitOn_append_cons_self_of_not_mem hSegment, List.forall_mem_cons]
    rfl

/-- A round takes a dot segment out, or moves a segment to the output. -/
theorem removeLoop_step (fuel : Nat) {input : List α} (hInput : input ≠ [])
    (output : List α) :
    (¬Free slash dot input ∧ ∃ input' output', input'.length < input.length ∧
      output'.length ≤ output.length ∧
      removeLoop slash dot (fuel + 1) input output = removeLoop slash dot fuel input' output') ∨
    ∃ taken left, input = taken ++ left ∧ taken ≠ [] ∧
      (Free slash dot input ↔ Free slash dot left) ∧
      removeLoop slash dot (fuel + 1) input output =
        removeLoop slash dot fuel left (output ++ taken) := by
  cases input with
  | nil => exact absurd rfl hInput
  | cons c rest =>
    rw [removeLoop]
    generalize hFront : (if c = slash then [slash] else []) = front
    generalize hBody : (if c = slash then rest else c :: rest) = body
    obtain ⟨segment, left, hSplit, hSegment, hTake, hDrop, hLeft⟩ := exists_first_segment slash body
    have hWhole : c :: rest = front ++ body := by
      rw [← hFront, ← hBody]
      split
      · rename_i hSlash
        rw [hSlash, List.singleton_append]
      · rfl
    have hFree : Free slash dot (c :: rest) ↔ ¬IsDots dot segment ∧ Free slash dot left := by
      rw [← free_append hSegment hLeft, ← hSplit, hWhole, ← hFront]
      split
      · exact free_slash body
      · rfl
    have hLength : (c :: rest).length = front.length + segment.length + left.length := by
      rw [hWhole, hSplit, List.length_append, List.length_append, Nat.add_assoc]
    rw [hTake, hDrop]
    split
    · rename_i hOne
      refine .inl ⟨fun h => (hFree.mp h).1 (.inl hOne), _, _, ?_, Nat.le_refl _, rfl⟩
      rw [hLength, hOne, List.length_append, List.length_drop, List.length_singleton]
      omega
    · split
      · rename_i hTwo
        refine .inl ⟨fun h => (hFree.mp h).1 (.inr hTwo), _, _, ?_, ?_, rfl⟩
        · rw [hLength, hTwo, List.length_append, List.length_drop, List.length_cons]
          omega
        · split
          · exact length_removeLast_le output
          · exact Nat.le_refl _
      · rename_i hOne hTwo
        refine .inr ⟨front ++ segment, left, ?_, ?_, ?_, ?_⟩
        · rw [hWhole, hSplit, List.append_assoc]
        · intro hNil
          obtain ⟨rfl, rfl⟩ := List.append_eq_nil_iff.mp hNil
          rcases hLeft with rfl | ⟨later, rfl⟩
          · rw [hWhole, hSplit] at hInput
            exact hInput rfl
          · rw [hSplit] at hWhole
            obtain ⟨hSlash, -⟩ := List.cons.inj hWhole
            rw [if_pos hSlash] at hFront
            cases hFront
        · rw [hFree]
          exact and_iff_right (not_or.mpr ⟨hOne, hTwo⟩)
        · rw [List.append_assoc]

theorem length_removeLoop_le (slash dot : α) (fuel : Nat) (input output : List α) :
    (removeLoop slash dot fuel input output).length ≤ output.length + input.length := by
  induction fuel generalizing input output with
  | zero => exact Nat.le_add_right _ _
  | succ fuel ih =>
    rcases eq_or_ne input [] with rfl | hInput
    · exact Nat.le_add_right _ _
    · obtain ⟨-, input', output', hLess, hLe, hStep⟩ | ⟨taken, left, rfl, -, -, hStep⟩ :=
        removeLoop_step fuel hInput output
      · have hRest := ih input' output'
        rw [hStep]
        omega
      · have hRest := ih left (output ++ taken)
        rw [hStep, List.length_append]
        rw [List.length_append] at hRest
        omega

theorem removeLoop_eq_iff {fuel : Nat} {input : List α}
    (hFuel : input.length ≤ fuel) (output : List α) :
    removeLoop slash dot fuel input output = output ++ input ↔ Free slash dot input := by
  induction fuel generalizing input output with
  | zero =>
    obtain rfl := List.eq_nil_of_length_eq_zero (Nat.le_zero.mp hFuel)
    simp [removeLoop, Free, IsDots]
  | succ fuel ih =>
    rcases eq_or_ne input [] with rfl | hInput
    · simp [removeLoop, Free, IsDots]
    · obtain ⟨hDots, input', output', hLess, hLe, hStep⟩ | ⟨taken, left, rfl, hTaken, hFree, hStep⟩ :=
        removeLoop_step fuel hInput output
      · refine iff_of_false ?_ hDots
        intro h
        have hLength := length_removeLoop_le slash dot fuel input' output'
        rw [← hStep, h, List.length_append] at hLength
        omega
      · have hPos := List.length_pos_iff.mpr hTaken
        rw [List.length_append] at hFuel
        rw [hStep, hFree, ← ih (by omega) (output ++ taken), List.append_assoc]

theorem remove_eq_iff (path : List α) :
    remove slash dot path = path ↔ Free slash dot path :=
  removeLoop_eq_iff (Nat.le_refl _) []

end DotSegments

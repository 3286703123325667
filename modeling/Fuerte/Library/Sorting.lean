import Mathlib.Data.List.Perm.Subperm
import Mathlib.Data.List.Sort

/-! # Sorting by a key without stability

A sort that only promises to permute its input into key order may place equal
keys in any order. Where the keys are distinct it has no choice left.
-/

namespace Sorting

set_option autoImplicit false

universe u v

variable {α : Type u}

/-- Distinct keys leave no choice in what order their elements are sorted. -/
theorem eq_of_perm {key : α → Nat} {l target : List α} (hPerm : l.Perm target)
    (hSorted : l.Pairwise fun a b => key a ≤ key b)
    (hTarget : target.Pairwise fun a b => key a < key b) : l = target := by
  refine List.Perm.eq_of_pairwise ?_ hSorted (hTarget.imp Nat.le_of_lt) hPerm
  intro a b ha hb hab hba
  have hInjective := List.inj_on_of_nodup_map (f := key)
    ((List.pairwise_map.mpr hTarget).imp Nat.ne_of_lt)
  exact hInjective (hPerm.mem_iff.mp ha) hb (Nat.le_antisymm hab hba)

/-- A sorting procedure together with what it promises. -/
structure KeySort (key : α → Nat) where
  run : List α → List α
  perm : ∀ l, (run l).Perm l
  sorted : ∀ l, (run l).Pairwise fun a b => key a ≤ key b

namespace KeySort

variable {key : α → Nat}

/-- Insertion sort keeps the promise. -/
def insertion (key : α → Nat) : KeySort key where
  run := List.insertionSort fun a b => key a ≤ key b
  perm := List.perm_insertionSort _
  sorted l := by
    have : Std.Total fun a b : α => key a ≤ key b := ⟨fun a b => Nat.le_total (key a) (key b)⟩
    have : IsTrans α fun a b => key a ≤ key b := ⟨fun _ _ _ => Nat.le_trans⟩
    exact List.pairwise_insertionSort _ l

/-- On distinct keys the result is determined by what is sorted. -/
theorem run_eq (sort : KeySort key) {l target : List α} (hPerm : l.Perm target)
    (hTarget : target.Pairwise fun a b => key a < key b) : sort.run l = target :=
  eq_of_perm ((sort.perm l).trans hPerm) (sort.sorted l) hTarget

end KeySort

/-- One element for each key below `n`, in the order of the keys. -/
structure Picked (key : α → Nat) (n : Nat) (l picked : List α) : Prop where
  subset : ∀ a ∈ picked, a ∈ l
  keys : picked.map key = List.range n

namespace Picked

variable {key : α → Nat} {n : Nat} {l picked : List α}

theorem key_lt (h : Picked key n l picked) {a : α} (ha : a ∈ picked) : key a < n := by
  rw [← List.mem_range, ← h.keys]
  exact List.mem_map_of_mem ha

theorem pairwise (h : Picked key n l picked) : picked.Pairwise fun a b => key a < key b := by
  rw [← List.pairwise_map, h.keys]
  exact List.pairwise_lt_range

theorem exists_rest (h : Picked key n l picked) : ∃ rest, l.Perm (picked ++ rest) := by
  have hNodup : picked.Nodup := h.pairwise.imp fun hLt hEq => absurd (congrArg key hEq) (Nat.ne_of_lt hLt)
  obtain ⟨front, hFront, hSublist⟩ := List.subperm_of_subset hNodup h.subset
  obtain ⟨rest, hRest⟩ := hSublist.exists_perm_append
  exact ⟨rest, hRest.trans (hFront.append_right rest)⟩

/-- There is something to pick where every key occurs. -/
theorem exists_of_forall {good : α → Prop} (h : ∀ i < n, ∃ a ∈ l, key a = i ∧ good a) :
    ∃ picked, Picked key n l picked ∧ ∀ a ∈ picked, good a := by
  induction n with
  | zero => exact ⟨[], ⟨by simp, rfl⟩, by simp⟩
  | succ n ih =>
    obtain ⟨picked, hPicked, hGood⟩ := ih fun i hi => h i (Nat.lt_succ_of_lt hi)
    obtain ⟨last, hLast, hKey, hLastGood⟩ := h n (Nat.lt_succ_self n)
    refine ⟨picked ++ [last], ⟨?_, ?_⟩, ?_⟩
    · intro a ha
      rcases List.mem_append.mp ha with ha | ha
      · exact hPicked.subset a ha
      · rwa [List.mem_singleton.mp ha]
    · rw [List.map_append, hPicked.keys, List.range_succ, List.map_singleton, hKey]
    · intro a ha
      rcases List.mem_append.mp ha with ha | ha
      · exact hGood a ha
      · rwa [List.mem_singleton.mp ha]

end Picked

section Content

variable {β : Type v} {key : α → Nat} {n : Nat} {l order picked rest : List α} {content : α → List β}

theorem flatMap_filter (l : List α) :
    (l.filter fun a => content a ≠ []).flatMap content = l.flatMap content := by
  induction l with
  | nil => rfl
  | cons a l ih =>
    by_cases hEmpty : content a = []
    · rw [List.filter_cons_of_neg (by simpa using hEmpty), ih, List.flatMap_cons, hEmpty,
        List.nil_append]
    · rw [List.filter_cons_of_pos (by simpa using hEmpty), List.flatMap_cons, ih, List.flatMap_cons]

/-- Sorted elements read like the picked ones if and only if nothing else has content. -/
theorem Picked.flatMap_eq_iff (h : Picked key n l picked) (hRest : l.Perm (picked ++ rest))
    (hOrder : order.Perm l) (hSorted : order.Pairwise fun a b => key a ≤ key b) :
    order.flatMap content = picked.flatMap content ↔ ∀ a ∈ rest, content a = [] := by
  have hPerm := hOrder.trans hRest
  constructor
  · intro hEq
    have hLength := (hPerm.flatMap_right content).length_eq
    rw [hEq, List.flatMap_append, List.length_append] at hLength
    apply List.flatMap_eq_nil_iff.mp
    apply List.length_eq_zero_iff.mp
    omega
  · intro hEmpty
    have hNone : (rest.filter fun a => content a ≠ []) = [] := by
      apply List.filter_eq_nil_iff.mpr
      intro a ha
      simpa using hEmpty a ha
    have hFiltered := hPerm.filter fun a => content a ≠ []
    rw [List.filter_append, hNone, List.append_nil] at hFiltered
    have hSame := eq_of_perm hFiltered (hSorted.filter _) (h.pairwise.filter _)
    rw [← flatMap_filter order, hSame, flatMap_filter]

/-- When sorted elements read like one element for each key below `n`. -/
theorem exists_picked_iff (n : Nat) (content : α → List β) (hOrder : order.Perm l)
    (hSorted : order.Pairwise fun a b => key a ≤ key b) :
    (∃ picked, Picked key n l picked ∧ order.flatMap content = picked.flatMap content) ↔
      (∀ i < n, ∃ a ∈ l, key a = i) ∧
        (∀ i < n, (l.countP fun a => key a = i ∧ content a ≠ []) ≤ 1) ∧
        ∀ a ∈ l, n ≤ key a → content a = [] := by
  constructor
  · rintro ⟨picked, hPicked, hEq⟩
    obtain ⟨rest, hRest⟩ := hPicked.exists_rest
    have hEmpty := (hPicked.flatMap_eq_iff hRest hOrder hSorted).mp hEq
    refine ⟨?_, ?_, ?_⟩
    · intro i hi
      obtain ⟨a, ha, hKey⟩ := List.mem_map.mp (hPicked.keys ▸ List.mem_range.mpr hi)
      exact ⟨a, hPicked.subset a ha, hKey⟩
    · intro i _
      have hNone : (rest.countP fun a => key a = i ∧ content a ≠ []) = 0 := by
        apply List.countP_eq_zero.mpr
        intro a ha
        simp [hEmpty a ha]
      have hOnce : (picked.map key).count i ≤ 1 := by
        rw [hPicked.keys]
        exact List.nodup_iff_count_le_one.mp List.nodup_range i
      rw [hRest.countP_eq, List.countP_append, hNone, Nat.add_zero]
      refine Nat.le_trans ?_ hOnce
      rw [List.count, List.countP_map]
      apply List.countP_mono_left
      intro a _ ha
      simpa using (of_decide_eq_true ha).1
    · intro a ha hKey
      rcases List.mem_append.mp (hRest.mem_iff.mp ha) with ha | ha
      · exact absurd (hPicked.key_lt ha) (Nat.not_lt_of_le hKey)
      · exact hEmpty a ha
  · rintro ⟨hEvery, hOnce, hSurplus⟩
    -- where some element with the key has content, such an element is picked
    have hGood : ∀ i < n, ∃ a ∈ l, key a = i ∧
        ((∃ b ∈ l, key b = key a ∧ content b ≠ []) → content a ≠ []) := by
      intro i hi
      by_cases hContent : ∃ b ∈ l, key b = i ∧ content b ≠ []
      · obtain ⟨b, hb, hKey, hNonempty⟩ := hContent
        exact ⟨b, hb, hKey, fun _ => hNonempty⟩
      · obtain ⟨a, ha, hKey⟩ := hEvery i hi
        exact ⟨a, ha, hKey, fun hOther => absurd (hKey ▸ hOther) hContent⟩
    obtain ⟨picked, hPicked, hPickedGood⟩ := Picked.exists_of_forall hGood
    obtain ⟨rest, hRest⟩ := hPicked.exists_rest
    refine ⟨picked, hPicked, (hPicked.flatMap_eq_iff hRest hOrder hSorted).mpr ?_⟩
    intro a ha
    by_contra hNonempty
    have haL : a ∈ l := hRest.mem_iff.mpr (List.mem_append_right picked ha)
    have hKey : key a < n := by
      by_contra hLe
      exact hNonempty (hSurplus a haL (Nat.le_of_not_lt hLe))
    obtain ⟨b, hb, hSame⟩ := List.mem_map.mp (hPicked.keys ▸ List.mem_range.mpr hKey)
    have hbContent := hPickedGood b hb ⟨a, haL, hSame.symm, hNonempty⟩
    have hTwice := hOnce (key a) hKey
    rw [hRest.countP_eq, List.countP_append] at hTwice
    have hInPicked : 0 < picked.countP fun c => key c = key a ∧ content c ≠ [] :=
      List.countP_pos_iff.mpr ⟨b, hb, by simp [hSame, hbContent]⟩
    have hInRest : 0 < rest.countP fun c => key c = key a ∧ content c ≠ [] :=
      List.countP_pos_iff.mpr ⟨a, ha, by simp [hNonempty]⟩
    omega

end Content

end Sorting

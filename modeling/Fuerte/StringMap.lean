import Fuerte.Message

/-! # Maps from strings to strings

A `std::map` keeps its keys in order, and so does the list that stands for it. A
list of entries becomes the same map in whatever order they come.
-/

namespace Fuerte

set_option autoImplicit false

namespace StringMap

/-- The keys ascend, as they do in every `std::map`. -/
def Ordered (map : StringMap) : Prop := map.Pairwise fun entry later => entry.1 < later.1

instance (map : StringMap) : Decidable map.Ordered :=
  inferInstanceAs (Decidable (List.Pairwise _ _))

theorem insert_perm (map : StringMap) {key : ByteString} (value : ByteString)
    (hKey : key ∉ map.map Prod.fst) : (insert map key value).Perm ((key, value) :: map) := by
  induction map with
  | nil => exact List.Perm.refl _
  | cons entry map ih =>
    simp only [List.map_cons, List.mem_cons, not_or] at hKey
    rw [insert, if_neg hKey.1]
    split
    · exact List.Perm.refl _
    · exact ((ih hKey.2).cons entry).trans (List.Perm.swap _ _ _)

theorem Ordered.insert {map : StringMap} (h : map.Ordered) {key : ByteString}
    (value : ByteString) (hKey : key ∉ map.map Prod.fst) :
    (StringMap.insert map key value).Ordered := by
  induction map with
  | nil => exact List.pairwise_singleton _ _
  | cons entry map ih =>
    obtain ⟨hEntry, hMap⟩ := List.pairwise_cons.mp h
    simp only [List.map_cons, List.mem_cons, not_or] at hKey
    rw [StringMap.insert, if_neg hKey.1]
    split
    · rename_i hLess
      refine List.pairwise_cons.mpr ⟨fun later hLater => ?_, h⟩
      rcases List.mem_cons.mp hLater with rfl | hLater
      · exact hLess
      · exact Std.lt_trans hLess (hEntry later hLater)
    · rename_i hNotLess
      refine List.pairwise_cons.mpr ⟨fun later hLater => ?_, ih hMap hKey.2⟩
      rcases List.mem_cons.mp ((insert_perm map value hKey.2).subset hLater) with rfl | hLater
      · exact Std.lt_of_le_of_ne (Std.not_lt.mp hNotLess) fun hEqual => hKey.1 hEqual.symm
      · exact hEntry later hLater

theorem lookup_cons_eq_if (entry : ByteString × ByteString) (map : StringMap) (key : ByteString) :
    List.lookup key (entry :: map) = if key = entry.1 then some entry.2 else map.lookup key := by
  split
  · rename_i hEqual
    rw [hEqual]
    exact List.lookup_cons_self
  · rename_i hNe
    rw [List.lookup_cons, beq_false_of_ne hNe]

theorem Ordered.lookup_eq_none {map : StringMap} {entry : ByteString × ByteString} {key : ByteString}
    (h : Ordered (entry :: map)) (hKey : key < entry.1) : (entry :: map).lookup key = none := by
  rw [List.lookup_eq_none_iff]
  intro later hLater
  have hLess : key < later.1 := by
    rcases List.mem_cons.mp hLater with rfl | hLater
    · exact hKey
    · exact Std.lt_trans hKey ((List.pairwise_cons.mp h).1 later hLater)
  simpa using Std.ne_of_lt hLess

theorem Ordered.lookup_insert {map : StringMap} (h : map.Ordered) (key value other : ByteString) :
    (StringMap.insert map key value).lookup other =
      if other = key then some ((map.lookup key).getD value) else map.lookup other := by
  induction map with
  | nil => exact lookup_cons_eq_if (key, value) [] other
  | cons entry map ih =>
    rw [StringMap.insert]
    split
    · rename_i hEqual
      rw [lookup_cons_eq_if, lookup_cons_eq_if, if_pos hEqual, hEqual]
      split <;> rfl
    · rename_i hNe
      split
      · rename_i hLess
        rw [h.lookup_eq_none hLess]
        exact lookup_cons_eq_if (key, value) (entry :: map) other
      · rw [lookup_cons_eq_if, ih (List.pairwise_cons.mp h).2, lookup_cons_eq_if, lookup_cons_eq_if,
          if_neg hNe]
        split
        · rename_i hOther
          rw [if_neg fun hKey => hNe (hKey.symm.trans hOther)]
        · rfl

theorem Ordered.insert_of_lookup {map : StringMap} (h : map.Ordered) {key stored : ByteString}
    (hKey : map.lookup key = some stored) (value : ByteString) :
    StringMap.insert map key value = map := by
  induction map with
  | nil => cases hKey
  | cons entry map ih =>
    rw [StringMap.insert]
    split
    · rfl
    · rename_i hNe
      split
      · rename_i hLess
        rw [h.lookup_eq_none hLess] at hKey
        cases hKey
      · rw [lookup_cons_eq_if, if_neg hNe] at hKey
        rw [ih (List.pairwise_cons.mp h).2 hKey]

theorem Ordered.emplace {map : StringMap} (h : map.Ordered) (key value : ByteString) :
    (StringMap.insert map key value).Ordered := by
  cases hKey : map.lookup key with
  | some stored => rwa [h.insert_of_lookup hKey]
  | none =>
    apply h.insert
    intro hIn
    obtain ⟨entry, hEntry, rfl⟩ := List.mem_map.mp hIn
    simpa using List.lookup_eq_none_iff.mp hKey entry hEntry

/-- Entries with different keys make up the same map in every order. -/
theorem foldl_insert {entries map : StringMap} (hPerm : entries.Perm map) (hMap : map.Ordered) :
    entries.foldl (fun map entry => insert map entry.1 entry.2) [] = map := by
  have hKeys : (entries.map Prod.fst).Nodup := by
    apply (hPerm.map Prod.fst).nodup_iff.mpr
    apply List.pairwise_map.mpr
    exact hMap.imp Std.ne_of_lt
  have hInserted : ∀ (entries start : StringMap), start.Ordered →
      ((start ++ entries).map Prod.fst).Nodup →
      (entries.foldl (fun map entry => insert map entry.1 entry.2) start).Perm (start ++ entries) ∧
        (entries.foldl (fun map entry => insert map entry.1 entry.2) start).Ordered := by
    intro entries
    induction entries with
    | nil =>
      intro start hStart _
      rw [List.append_nil]
      exact ⟨List.Perm.refl _, hStart⟩
    | cons entry entries ih =>
      intro start hStart hNodup
      have hMiddle : (start ++ entry :: entries).Perm (entry :: (start ++ entries)) :=
        List.perm_middle
      have hSplit := (hMiddle.map Prod.fst).nodup_iff.mp hNodup
      rw [List.map_cons, List.nodup_cons, List.map_append] at hSplit
      have hKey : entry.1 ∉ start.map Prod.fst :=
        fun hMem => hSplit.1 (List.mem_append_left _ hMem)
      have hFirst := insert_perm start entry.2 hKey
      have hFrame : (StringMap.insert start entry.1 entry.2 ++ entries).Perm
          (start ++ entry :: entries) := (hFirst.append_right entries).trans hMiddle.symm
      obtain ⟨hPerm, hOrdered⟩ := ih (StringMap.insert start entry.1 entry.2)
        (hStart.insert entry.2 hKey) ((hFrame.map Prod.fst).nodup_iff.mpr hNodup)
      exact ⟨hPerm.trans hFrame, hOrdered⟩
  obtain ⟨hFold, hOrdered⟩ := hInserted entries [] List.Pairwise.nil hKeys
  exact (hFold.trans hPerm).eq_of_pairwise
    (fun _ _ _ _ hLess hGreater => absurd (Std.lt_trans hLess hGreater) Std.lt_irrefl) hOrdered hMap

end StringMap

end Fuerte

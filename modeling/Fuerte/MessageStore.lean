import Fuerte.Types

/-! # The store of requests in flight

The store maps message numbers to items. An item is stored under its own number,
so the numbers alone say which items are there.
-/

namespace Fuerte

set_option autoImplicit false

/-- The keys of the map, in ascending order. -/
abbrev MessageStore := List MessageID

namespace MessageStore

/-- `emplace`: an entry that is already there stays. -/
def add : MessageStore → MessageID → MessageStore
  | [], id => [id]
  | key :: store, id =>
    if id = key then key :: store
    else if id < key then id :: key :: store
    else key :: add store id

def removeByID (store : MessageStore) (id : MessageID) : MessageStore :=
  store.filter fun key => key ≠ id

@[simp] theorem mem_add (store : MessageStore) (id other : MessageID) :
    other ∈ store.add id ↔ other = id ∨ other ∈ store := by
  induction store with
  | nil => simp [add]
  | cons key store ih =>
    rw [add]
    split
    · rename_i h
      subst h
      simp
    · split
      · simp
      · rw [List.mem_cons, ih, List.mem_cons]
        exact or_left_comm

@[simp] theorem mem_removeByID (store : MessageStore) (id other : MessageID) :
    other ∈ store.removeByID id ↔ other ∈ store ∧ other ≠ id := by
  simp [removeByID]

theorem pairwise_add {store : MessageStore} (h : store.Pairwise (· < ·)) (id : MessageID) :
    (store.add id).Pairwise (· < ·) := by
  induction store with
  | nil => exact List.pairwise_singleton _ id
  | cons key store ih =>
    obtain ⟨hKey, hStore⟩ := List.pairwise_cons.mp h
    rw [add]
    split
    · exact h
    · rename_i hNe
      split
      · rename_i hLt
        refine List.pairwise_cons.mpr ⟨fun other hOther => ?_, h⟩
        rcases List.mem_cons.mp hOther with rfl | hRest
        · exact hLt
        · exact Nat.lt_trans hLt (hKey other hRest)
      · rename_i hNotLt
        refine List.pairwise_cons.mpr ⟨fun other hOther => ?_, ih hStore⟩
        rcases (mem_add store id other).mp hOther with rfl | hRest
        · exact Nat.lt_of_le_of_ne (Nat.le_of_not_lt hNotLt) (Ne.symm hNe)
        · exact hKey other hRest

end MessageStore

end Fuerte

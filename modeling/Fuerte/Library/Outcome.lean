import Mathlib.Tactic.Common

/-! # How a sequence of fallible steps ends

A sequence returns if every step returns, and it ends with an error if some step
does, all steps before it having returned.
-/

namespace Outcome

set_option autoImplicit false

universe u v

variable {ε : Type u} {α β : Type v}

def Returns (x : Except ε α) : Prop := ∃ a, x = .ok a

@[simp] theorem returns_ok (a : α) : Returns (.ok a : Except ε α) := ⟨a, rfl⟩

@[simp] theorem returns_pure (a : α) : Returns (pure a : Except ε α) := ⟨a, rfl⟩

@[simp] theorem not_returns_error (e : ε) : ¬Returns (.error e : Except ε α) := by
  rintro ⟨a, h⟩
  cases h

theorem pure_ne_error (a : α) (e : ε) : (pure a : Except ε α) ≠ .error e := by
  rintro h
  cases h

theorem bind_eq_ok_iff {x : Except ε α} {next : α → Except ε β} {b : β} :
    (x >>= next) = .ok b ↔ ∃ a, x = .ok a ∧ next a = .ok b := by
  cases x with
  | error e =>
    constructor
    · intro h
      cases h
    · rintro ⟨_, h, _⟩
      cases h
  | ok a =>
    constructor
    · exact fun h => ⟨a, rfl, h⟩
    · rintro ⟨_, hFirst, h⟩
      cases hFirst
      exact h

theorem returns_bind_iff {x : Except ε α} {next : α → Except ε β} :
    Returns (x >>= next) ↔ ∃ a, x = .ok a ∧ Returns (next a) := by
  constructor
  · rintro ⟨b, h⟩
    obtain ⟨a, hFirst, hNext⟩ := bind_eq_ok_iff.mp h
    exact ⟨a, hFirst, b, hNext⟩
  · rintro ⟨a, hFirst, b, hNext⟩
    exact ⟨b, bind_eq_ok_iff.mpr ⟨a, hFirst, hNext⟩⟩

theorem returns_bind_iff_of_forall {x : Except ε α} {next : α → Except ε β}
    (h : ∀ a, Returns (next a)) : Returns (x >>= next) ↔ Returns x := by
  rw [returns_bind_iff]
  exact exists_congr fun a => and_iff_left (h a)

theorem bind_eq_error_iff {x : Except ε α} {next : α → Except ε β} {e : ε} :
    (x >>= next) = .error e ↔ x = .error e ∨ ∃ a, x = .ok a ∧ next a = .error e := by
  cases x with
  | error e' =>
    constructor
    · intro h
      cases h
      exact .inl rfl
    · rintro (h | ⟨_, h, _⟩)
      · cases h
        rfl
      · cases h
  | ok a =>
    constructor
    · exact fun h => .inr ⟨a, rfl, h⟩
    · rintro (h | ⟨_, hFirst, h⟩)
      · cases h
      · cases hFirst
        exact h

theorem bind_eq_error_iff_of_forall {x : Except ε α} {next : α → Except ε β} {e : ε}
    (h : ∀ a, next a ≠ .error e) : (x >>= next) = .error e ↔ x = .error e := by
  rw [bind_eq_error_iff]
  apply or_iff_left
  rintro ⟨a, _, hNext⟩
  exact h a hNext

theorem returns_ite_iff {p : Prop} [Decidable p] {x : Except ε α} {a : α} :
    Returns (if p then x else pure a) ↔ (p → Returns x) := by
  by_cases h : p <;> simp [h]

theorem ite_eq_error_iff {p : Prop} [Decidable p] {x : Except ε α} {a : α} {e : ε} :
    (if p then x else pure a) = .error e ↔ p ∧ x = .error e := by
  by_cases h : p <;> simp [h, pure, Except.pure]

theorem returns_foldlM_iff {γ : Type v} {step : β → γ → Except ε β} {good : γ → Prop}
    (hStep : ∀ b c, Returns (step b c) ↔ good c) (l : List γ) (b : β) :
    Returns (l.foldlM step b) ↔ ∀ c ∈ l, good c := by
  induction l generalizing b with
  | nil => simp
  | cons c l ih =>
    rw [List.foldlM_cons, returns_bind_iff, List.forall_mem_cons, ← hStep b c]
    constructor
    · rintro ⟨next, hNext, hRest⟩
      exact ⟨⟨next, hNext⟩, (ih next).mp hRest⟩
    · rintro ⟨⟨next, hNext⟩, hRest⟩
      exact ⟨next, hNext, (ih next).mpr hRest⟩

theorem foldlM_ne_error {γ : Type v} {step : β → γ → Except ε β} {e : ε}
    (hStep : ∀ b c, step b c ≠ .error e) (l : List γ) (b : β) : l.foldlM step b ≠ .error e := by
  induction l generalizing b with
  | nil => exact fun h => by cases h
  | cons c l ih =>
    rw [List.foldlM_cons]
    intro h
    rcases bind_eq_error_iff.mp h with h | ⟨next, _, h⟩
    · exact hStep b c h
    · exact ih next h

end Outcome

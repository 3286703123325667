import Mathlib.Data.List.Basic
import Mathlib.Logic.Function.Basic

/-! # Services

What a service does with the requests it gets, whatever they are about: it accepts each one
under a name of its own, and answers it at most once, not before, and with what fits it.
-/

namespace Serving

set_option autoImplicit false

universe u

inductive Operation (ι ρ β : Type u) where
  | accept (id : ι) (request : ρ)
  | answer (id : ι) (result : β)

namespace Operation

variable {ι ρ β : Type u}

def accepted? : Operation ι ρ β → Option ι
  | accept id _ => some id
  | answer _ _ => none

def answered? : Operation ι ρ β → Option ι
  | accept _ _ => none
  | answer id _ => some id

end Operation

/-- What has become of a name. -/
inductive Status (ρ : Type u) where
  | unused
  | waiting (request : ρ)
  | answered

section Runs

variable {ι ρ β : Type u} [DecidableEq ι] (fits : ι → ρ → β → Prop)

inductive Step (status : ι → Status ρ) : Operation ι ρ β → (ι → Status ρ) → Prop
  | accept (id : ι) (request : ρ) : status id = .unused →
    Step status (.accept id request) (Function.update status id (.waiting request))
  | answer (id : ι) (request : ρ) (result : β) : status id = .waiting request →
    fits id request result →
    Step status (.answer id result) (Function.update status id .answered)

/-- What a service may have done, and what it has come to. -/
inductive Run : List (Operation ι ρ β) → (ι → Status ρ) → Prop
  | start : Run [] fun _ => .unused
  | step {operations : List (Operation ι ρ β)} {operation : Operation ι ρ β}
    {status next : ι → Status ρ} : Run operations status → Step fits status operation next →
    Run (operations ++ [operation]) next

variable {fits} {operations : List (Operation ι ρ β)} {status : ι → Status ρ} {id : ι} {request : ρ}

/-- A name is unused until a request has been accepted under it. -/
theorem Run.unused_iff (h : Run fits operations status) (id : ι) :
    status id = .unused ↔ id ∉ operations.filterMap Operation.accepted? := by
  induction h with
  | start => simp
  | @step operations operation status next _ hStep ih =>
    rw [List.filterMap_append, List.mem_append, not_or, ← ih]
    cases hStep with
    | accept other sent hUnused =>
      by_cases hEq : id = other <;> simp [hEq, Operation.accepted?]
    | answer other sent result hWaiting hFits =>
      by_cases hEq : id = other
      · simp [hEq, hWaiting]
      · simp [Function.update_of_ne hEq, Operation.accepted?]

/-- A request that has been accepted waits for its answer. -/
theorem Run.waiting (h : Run fits operations status) (hAccepted : .accept id request ∈ operations)
    (hOpen : id ∉ operations.filterMap Operation.answered?) : status id = .waiting request := by
  induction h with
  | start => cases hAccepted
  | @step operations operation status next hRun hStep ih =>
    rw [List.filterMap_append, List.mem_append, not_or] at hOpen
    rcases List.mem_append.mp hAccepted with hOld | hNew
    · have hBefore := ih hOld hOpen.1
      have hNe : ∀ sent, operation ≠ .accept id sent := by
        rintro sent rfl
        cases hStep with
        | accept _ _ hUnused => cases hBefore.symm.trans hUnused
      cases hStep with
      | accept other sent hUnused =>
        rw [Function.update_of_ne fun hEq => hNe sent (by rw [hEq]), hBefore]
      | answer other sent result hWaiting hFits =>
        have hOther : id ≠ other := by
          rintro rfl
          exact hOpen.2 (by simp [Operation.answered?])
        rw [Function.update_of_ne hOther, hBefore]
    · obtain rfl := List.mem_singleton.mp hNew
      cases hStep with
      | accept => rw [Function.update_self]

theorem Run.accept (h : Run fits operations status)
    (hFresh : id ∉ operations.filterMap Operation.accepted?) (request : ρ) :
    ∃ next, Run fits (operations ++ [.accept id request]) next :=
  ⟨_, h.step (.accept id request ((h.unused_iff id).mpr hFresh))⟩

theorem Run.answer (h : Run fits operations status) {result : β}
    (hAccepted : .accept id request ∈ operations)
    (hOpen : id ∉ operations.filterMap Operation.answered?) (hFits : fits id request result) :
    ∃ next, Run fits (operations ++ [.answer id result]) next :=
  ⟨_, h.step (.answer id request result (h.waiting hAccepted hOpen) hFits)⟩

end Runs

end Serving

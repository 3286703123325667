import Fuerte.Library.Interleaving

/-! # Machines under observation

An observer notes what he sees of every step. A machine runs under observation as it
does without, and an invariant may speak of what has been noted so far.
-/

namespace Interleaving

set_option autoImplicit false

universe u

variable {σ φ χ ε ω : Type u}

/-- The observer sees the frame that is executed, the choice, and the state before. -/
def Machine.observed (M : Machine σ φ χ ε) (observe : φ → χ → σ → List ω) :
    Machine (σ × List ω) φ χ ε where
  exec thread frame choice s :=
    (M.exec thread frame choice s.1).map fun (shared, frames, spawned) =>
      ((shared, s.2 ++ observe frame choice s.1), frames, spawned)
  enter event quiet s :=
    (M.enter event quiet s.1).map fun (shared, frames) => ((shared, s.2), frames)

def Guard.observed (G : Guard σ φ χ ε) : Guard (σ × List ω) φ χ ε where
  run thread frame choice s frames := G.run thread frame choice s.1 frames
  enter event s frames := G.enter event s.1 frames

namespace Config

/-- Nothing has been noted yet. -/
def observed (c : Config σ φ) : Config (σ × List ω) φ := ⟨(c.shared, []), c.threads⟩

def unobserved (c : Config (σ × List ω) φ) : Config σ φ := ⟨c.shared.1, c.threads⟩

end Config

section Rules

variable {M : Machine σ φ χ ε} {G : Guard σ φ χ ε} {observe : φ → χ → σ → List ω}
  {start c : Config σ φ}

theorem exec_observed {thread : Nat} {frame : φ} {choice : χ} {s s' : σ × List ω}
    {frames : List φ} {spawned : List (List φ)} :
    (M.observed observe).exec thread frame choice s = some (s', frames, spawned) ↔
      M.exec thread frame choice s.1 = some (s'.1, frames, spawned) ∧
        s'.2 = s.2 ++ observe frame choice s.1 := by
  simp only [Machine.observed, Option.map_eq_some_iff, Prod.exists]
  constructor
  · rintro ⟨shared, frames, spawned, hExec, h⟩
    cases h
    exact ⟨hExec, rfl⟩
  · rintro ⟨hExec, hNotes⟩
    exact ⟨_, _, _, hExec, by rw [← hNotes]⟩

theorem enter_observed {event : ε} {quiet : Bool} {s s' : σ × List ω} {frames : List φ} :
    (M.observed observe).enter event quiet s = some (s', frames) ↔
      M.enter event quiet s.1 = some (s'.1, frames) ∧ s'.2 = s.2 := by
  simp only [Machine.observed, Option.map_eq_some_iff, Prod.exists]
  constructor
  · rintro ⟨shared, frames, hEnter, h⟩
    cases h
    exact ⟨hEnter, rfl⟩
  · rintro ⟨hEnter, hNotes⟩
    exact ⟨_, _, hEnter, by rw [← hNotes]⟩

theorem Preserved.observed {I : σ → Multiset φ → Prop} (hI : Preserved M G I) :
    Preserved (M.observed observe) G.observed fun s frames => I s.1 frames where
  exec _ _ _ _ _ _ _ _ h hRun hExec :=
    hI.exec _ _ _ _ _ _ _ _ h hRun (exec_observed.mp hExec).1
  enter _ _ _ _ _ _ h hQuiet hGuard hEnter :=
    hI.enter _ _ _ _ _ _ h hQuiet hGuard (enter_observed.mp hEnter).1

/-- A property of the notes, kept with the help of an invariant of the machine alone. -/
theorem Preserved.noting {I : σ → Multiset φ → Prop} {J : σ → Multiset φ → List ω → Prop}
    (hI : Preserved M G I)
    (hExec : ∀ thread frame choice s rest s' frames spawned notes, I s (frame ::ₘ rest) →
      J s (frame ::ₘ rest) notes → G.run thread frame choice s (frame ::ₘ rest) →
      M.exec thread frame choice s = some (s', frames, spawned) →
      J s' (↑(frames ++ spawned.flatten) + rest) (notes ++ observe frame choice s))
    (hEnter : ∀ event quiet s rest s' frames notes, J s rest notes →
      M.enter event quiet s = some (s', frames) → J s' (↑frames + rest) notes) :
    Preserved (M.observed observe) G.observed fun s frames => I s.1 frames ∧ J s.1 frames s.2 :=
  hI.observed.and
    (fun _ _ _ _ _ _ _ _ h hNotes hRun hStep => by
      obtain ⟨hStep, hMore⟩ := exec_observed.mp hStep
      rw [hMore]
      exact hExec _ _ _ _ _ _ _ _ _ h hNotes hRun hStep)
    (fun _ _ _ _ _ _ _ hNotes _ _ hStep => by
      obtain ⟨hStep, hSame⟩ := enter_observed.mp hStep
      rw [hSame]
      exact hEnter _ _ _ _ _ _ _ hNotes hStep)

theorem preserved_true : Preserved M G fun _ _ => True where
  exec _ _ _ _ _ _ _ _ _ _ _ := trivial
  enter _ _ _ _ _ _ _ _ _ _ := trivial

/-- What happens under observation also happens without. -/
theorem step_unobserved {d d' : Config (σ × List ω) φ} {label : Label χ ε}
    (h : (M.observed observe).step d label = some d') :
    M.step d.unobserved label = some d'.unobserved := by
  cases label with
  | run thread choice =>
    obtain ⟨frame, stack, shared, frames, spawned, hThread, hExec, rfl⟩ :=
      Machine.exists_of_step_run h
    simp only [Machine.step, Config.unobserved, hThread, (exec_observed.mp hExec).1]
  | enter event =>
    obtain ⟨shared, frames, hEnter, rfl⟩ := Machine.exists_of_step_enter h
    have hStep := (enter_observed.mp hEnter).1
    simp only [Config.quiet] at hStep
    simp only [Machine.step, Config.unobserved, Config.quiet, hStep]

theorem Reaches.unobserved {d : Config (σ × List ω) φ}
    (h : Reaches (M.observed observe) G.observed start.observed d) :
    Reaches M G start d.unobserved := by
  induction h with
  | start => exact .start
  | @step d d' label _ hAllowed hStep ih =>
    refine ih.step ?_ (step_unobserved hStep)
    cases label <;> exact hAllowed

/-- To observe a run does not prevent it. -/
theorem Reaches.exists_observed (h : Reaches M G start c) :
    ∃ notes : List ω, Reaches (M.observed observe) G.observed start.observed
      ⟨(c.shared, notes), c.threads⟩ := by
  induction h with
  | start => exact ⟨[], .start⟩
  | @step c c' label _ hAllowed hStep ih =>
    obtain ⟨notes, ih⟩ := ih
    cases label with
    | run thread choice =>
      obtain ⟨frame, stack, shared, frames, spawned, hThread, hExec, rfl⟩ :=
        Machine.exists_of_step_run hStep
      have hSame : G.observed.Allows ⟨(c.shared, notes), c.threads⟩ (.run thread choice) := hAllowed
      refine ⟨notes ++ observe frame choice c.shared, ih.step hSame ?_⟩
      have hObserved : (M.observed observe).exec thread frame choice (c.shared, notes) =
          some ((shared, notes ++ observe frame choice c.shared), frames, spawned) :=
        exec_observed.mpr ⟨hExec, rfl⟩
      simp only [Machine.step, hThread, hObserved]
    | enter event =>
      obtain ⟨shared, frames, hEnter, rfl⟩ := Machine.exists_of_step_enter hStep
      have hSame : G.observed.Allows ⟨(c.shared, notes), c.threads⟩ (.enter event) := hAllowed
      refine ⟨notes, ih.step hSame ?_⟩
      have hObserved : (M.observed observe).enter event c.quiet (c.shared, notes) =
          some ((shared, notes), frames) := enter_observed.mpr ⟨hEnter, rfl⟩
      simp only [Config.quiet] at hObserved
      simp only [Machine.step, Config.quiet, hObserved]

end Rules

section Listed

instance Guard.decidableAllRun (thread : Nat) (frame : φ) (choice : χ) (s : σ)
    (frames : Multiset φ) :
    Decidable ((Guard.all : Guard σ φ χ ε).run thread frame choice s frames) := .isTrue trivial

instance Guard.decidableAllEnter (event : ε) (s : σ) (frames : Multiset φ) :
    Decidable ((Guard.all : Guard σ φ χ ε).enter event s frames) := .isTrue trivial

variable {G : Guard σ φ χ ε}

instance Guard.decidableObservedRun (thread : Nat) (frame : φ) (choice : χ) (s : σ × List ω)
    (frames : Multiset φ) [Decidable (G.run thread frame choice s.1 frames)] :
    Decidable (G.observed.run thread frame choice s frames) :=
  inferInstanceAs (Decidable (G.run thread frame choice s.1 frames))

instance Guard.decidableObservedEnter (event : ε) (s : σ × List ω) (frames : Multiset φ)
    [Decidable (G.enter event s.1 frames)] : Decidable (G.observed.enter event s frames) :=
  inferInstanceAs (Decidable (G.enter event s.1 frames))

end Listed

end Interleaving

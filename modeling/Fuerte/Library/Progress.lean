import Fuerte.Library.Interleaving
import Mathlib.Data.Prod.Lex
import Mathlib.Logic.Relation

/-! # Progress of interleaved threads

A thread gets on if it is ready, or waits for a thread that gets on: then threads
do not wait for each other in a circle. Steps that a measure counts
down come to an end, whatever the order of the threads.
-/

namespace Interleaving

set_option autoImplicit false

universe u v

variable {σ φ χ ε : Type u}

def CanStep (M : Machine σ φ χ ε) (c : Config σ φ) (thread : Nat) : Prop :=
  ∃ choice c', M.step c (.run thread choice) = some c'

/-- The thread is ready, or waits for one that gets on. -/
inductive GetsOn (ready : Nat → Prop) (waitsFor : Nat → Nat → Prop) : Nat → Prop
  | ready {thread : Nat} : ready thread → GetsOn ready waitsFor thread
  | wait {thread other : Nat} :
    waitsFor thread other → GetsOn ready waitsFor other → GetsOn ready waitsFor thread

/-- At the end of the chain is a ready thread; what holds of this one and is handed on
to whoever it waits for holds there too. -/
theorem GetsOn.exists_ready {ready P : Nat → Prop} {waitsFor : Nat → Nat → Prop} {thread : Nat}
    (h : GetsOn ready waitsFor thread) (hStart : P thread)
    (hNext : ∀ thread other, waitsFor thread other → P other) : ∃ other, ready other ∧ P other := by
  induction h with
  | ready hReady => exact ⟨_, hReady, hStart⟩
  | wait hWaits _ ih => exact ih (hNext _ _ hWaits)

theorem canStep_of_exec {M : Machine σ φ χ ε} {c : Config σ φ} {thread : Nat} {frame : φ}
    {stack : List φ} {choice : χ} (hThread : c.threads[thread]? = some (frame :: stack))
    (h : M.exec thread frame choice c.shared ≠ none) : CanStep M c thread := by
  obtain ⟨⟨shared, frames, spawned⟩, hExec⟩ := Option.ne_none_iff_exists'.mp h
  refine ⟨choice, ⟨shared, c.threads.set thread (frames ++ stack) ++ spawned⟩, ?_⟩
  simp only [Machine.step, hThread, hExec]

/-! ## Work that comes to an end -/

section Work

variable (M : Machine σ φ χ ε) (G : Guard σ φ χ ε) (own : φ → Bool)

/-- One of the threads executes a frame of its own accord. -/
def Advance (c c' : Config σ φ) : Prop :=
  ∃ thread choice frame stack, c.threads[thread]? = some (frame :: stack) ∧ own frame = true ∧
    G.Allows c (.run thread choice) ∧ M.step c (.run thread choice) = some c'

/-- A measure that every allowed step of its own accord lowers, with the help of an invariant. -/
structure Descends {α : Type v} (lower : α → α → Prop) (I : σ → Multiset φ → Prop)
    (measure : σ → Multiset φ → α) : Prop where
  preserved : Preserved M G I
  exec : ∀ thread frame choice s rest s' frames spawned, I s (frame ::ₘ rest) →
    own frame = true → G.run thread frame choice s (frame ::ₘ rest) →
    M.exec thread frame choice s = some (s', frames, spawned) →
    lower (measure s' (↑(frames ++ spawned.flatten) + rest)) (measure s (frame ::ₘ rest))

variable {M G own} {c c' : Config σ φ}

theorem Advance.reaches {start : Config σ φ} (hStart : Reaches M G start c)
    (h : Advance M G own c c') : Reaches M G start c' := by
  obtain ⟨thread, choice, -, -, -, -, hAllowed, hStep⟩ := h
  exact hStart.step hAllowed hStep

theorem Advance.of_inf {H : Guard σ φ χ ε} (h : Advance M (G.inf H) own c c') : Advance M G own c c' := by
  obtain ⟨thread, choice, frame, stack, hThread, hOwn, hAllowed, hStep⟩ := h
  exact ⟨thread, choice, frame, stack, hThread, hOwn, fun _ _ hNext => (hAllowed _ _ hNext).1, hStep⟩

theorem Advance.all (h : Advance M G own c c') : Advance M .all own c c' := by
  obtain ⟨thread, choice, frame, stack, hThread, hOwn, -, hStep⟩ := h
  exact ⟨thread, choice, frame, stack, hThread, hOwn, fun _ _ _ => trivial, hStep⟩

variable {α : Type v} {lower : α → α → Prop} {I : σ → Multiset φ → Prop}
  {measure : σ → Multiset φ → α}

theorem Descends.advance (h : Descends M G own lower I measure) (hI : I c.shared c.frames)
    (hAdvance : Advance M G own c c') :
    I c'.shared c'.frames ∧ lower (measure c'.shared c'.frames) (measure c.shared c.frames) := by
  obtain ⟨thread, choice, frame, stack, hThread, hOwn, hAllowed, hStep⟩ := hAdvance
  refine ⟨h.preserved.step hI hAllowed hStep, ?_⟩
  obtain ⟨next, tail, rest, frames, spawned, hNext, hExec, hBefore, hAfter⟩ :=
    Machine.frames_run hStep
  obtain ⟨rfl, -⟩ := List.cons_eq_cons.mp (Option.some.inj (hThread.symm.trans hNext))
  have hRun := hAllowed frame stack hThread
  rw [hBefore] at hI hRun ⊢
  rw [hAfter]
  exact h.exec _ _ _ _ _ _ _ _ hI hOwn hRun hExec

theorem Descends.acc (h : Descends M G own lower I measure) (hLower : WellFounded lower)
    (hI : I c.shared c.frames) : Acc (fun next before => Advance M G own before next) c := by
  induction hMeasure : measure c.shared c.frames using hLower.induction generalizing c with
  | h m ih =>
    subst hMeasure
    refine .intro c fun next hAdvance => ?_
    obtain ⟨hNext, hDown⟩ := h.advance hI hAdvance
    exact ih _ hDown hNext rfl

theorem no_infinite_run (h : Acc (fun next before => Advance M G own before next) c)
    (run : Nat → Config σ φ) (hStart : run 0 = c) : ∃ n, ¬Advance M G own (run n) (run (n + 1)) := by
  induction h generalizing run with
  | intro c _ ih =>
    by_contra hRun
    push Not at hRun
    obtain ⟨n, hEnds⟩ := ih (run 1) (hStart ▸ hRun 0) (fun n => run (n + 1)) rfl
    exact hEnds (hRun (n + 1))

/-- Such steps lead to where none of them is possible any more. -/
theorem exists_settled (h : Acc (fun next before => Advance M G own before next) c) :
    ∃ settled, Relation.ReflTransGen (Advance M G own) c settled ∧
      ∀ next, ¬Advance M G own settled next := by
  induction h with
  | intro c _ ih =>
    by_cases hNext : ∃ next, Advance M G own c next
    · obtain ⟨next, hNext⟩ := hNext
      obtain ⟨settled, hRun, hSettled⟩ := ih next hNext
      exact ⟨settled, .head hNext hRun, hSettled⟩
    · exact ⟨c, .refl, fun next hAdvance => hNext ⟨next, hAdvance⟩⟩

theorem reaches_of_advances {start : Config σ φ} (hStart : Reaches M G start c)
    (h : Relation.ReflTransGen (Advance M G own) c c') : Reaches M G start c' := by
  induction h with
  | refl => exact hStart
  | tail _ hStep ih => exact hStep.reaches ih

end Work

/-! ## Frames that are not on top -/

/-- What holds of every frame that a step or an entry puts below another one. -/
structure Covers (M : Machine σ φ χ ε) (P : φ → Prop) : Prop where
  exec : ∀ thread frame choice s s' frames spawned,
    M.exec thread frame choice s = some (s', frames, spawned) →
      (∀ below ∈ frames.tail, P below) ∧ ∀ new ∈ spawned, ∀ below ∈ new.tail, P below
  enter : ∀ event quiet s s' frames, M.enter event quiet s = some (s', frames) →
    ∀ below ∈ frames.tail, P below

section Covered

variable {M : Machine σ φ χ ε} {G : Guard σ φ χ ε} {P : φ → Prop} {start c : Config σ φ}

theorem mem_tail_append {frames stack : List φ} {below : φ} (h : below ∈ (frames ++ stack).tail) :
    below ∈ frames.tail ∨ below ∈ stack := by
  cases frames with
  | nil => exact .inr (List.mem_of_mem_tail h)
  | cons top frames => exact List.mem_append.mp h

theorem Reaches.covered (h : Reaches M G start c) (hM : Covers M P)
    (hStart : ∀ stack ∈ start.threads, ∀ below ∈ stack.tail, P below) :
    ∀ stack ∈ c.threads, ∀ below ∈ stack.tail, P below := by
  induction h with
  | start => exact hStart
  | @step c c' label _ _ hStep ih =>
    intro other hOther
    cases label with
    | run thread choice =>
      obtain ⟨frame, stack, s', frames, spawned, hThread, hExec, rfl⟩ :=
        Machine.exists_of_step_run hStep
      obtain ⟨hFrames, hSpawned⟩ := hM.exec _ _ _ _ _ _ _ hExec
      rcases List.mem_append.mp hOther with hOther | hOther
      · rcases List.mem_or_eq_of_mem_set hOther with hOther | rfl
        · exact ih _ hOther
        · intro below hBelow
          rcases mem_tail_append hBelow with hNew | hOld
          · exact hFrames below hNew
          · exact ih _ (List.mem_of_getElem? hThread) below hOld
      · exact hSpawned _ hOther
    | enter event =>
      obtain ⟨s', frames, hEnter, rfl⟩ := Machine.exists_of_step_enter hStep
      rcases List.mem_append.mp hOther with hOther | hOther
      · exact ih _ hOther
      · rw [List.mem_singleton.mp hOther]
        exact hM.enter _ _ _ _ _ hEnter

/-- Where no thread advances, the frames on top are those that cannot be executed. -/
theorem stuck_of_settled {own : φ → Bool} (hSettled : ∀ next, ¬Advance M G own c next)
    {thread : Nat} {frame : φ} {stack : List φ} (hThread : c.threads[thread]? = some (frame :: stack))
    (hOwn : own frame = true) {choice : χ} (hRun : G.run thread frame choice c.shared c.frames) :
    M.exec thread frame choice c.shared = none := by
  by_contra hExec
  obtain ⟨⟨s', frames, spawned⟩, hExec⟩ := Option.ne_none_iff_exists'.mp hExec
  refine hSettled ⟨s', c.threads.set thread (frames ++ stack) ++ spawned⟩
    ⟨thread, choice, frame, stack, hThread, hOwn, fun next rest hNext => ?_, ?_⟩
  · rw [hThread] at hNext
    cases hNext
    exact hRun
  · simp only [Machine.step, hThread, hExec]

/-- A frame that is never below another one is on top of its thread. -/
theorem exists_thread_of_mem (hCovered : ∀ stack ∈ c.threads, ∀ below ∈ stack.tail, P below)
    {frame : φ} (hFrame : frame ∈ c.frames) (hTop : ¬P frame) :
    ∃ (thread : Nat) (stack : List φ), c.threads[thread]? = some (frame :: stack) := by
  rw [Config.frames, Multiset.mem_coe, List.mem_flatten] at hFrame
  obtain ⟨stack, hStack, hFrame⟩ := hFrame
  obtain ⟨thread, hThread⟩ := List.mem_iff_getElem?.mp hStack
  cases stack with
  | nil => cases hFrame
  | cons top stack =>
    rcases List.mem_cons.mp hFrame with rfl | hFrame
    · exact ⟨thread, stack, hThread⟩
    · exact absurd (hCovered _ hStack frame hFrame) hTop

end Covered

end Interleaving

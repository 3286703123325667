import Mathlib.Algebra.BigOperators.Group.Multiset.Basic
import Mathlib.Algebra.GroupWithZero.Nat

/-! # Interleaved execution of stacks of frames

A machine runs a pool of threads, each a stack of frames that still have to be
executed. One frame is one atomic step: it changes the shared state, is replaced
by other frames of its thread, and may start new threads. What a state invariant
needs to know of the pool is the multiset of its frames.
-/

namespace Interleaving

set_option autoImplicit false

universe u

/-- `exec` gets the number of the executing thread and a choice that resolves
what the frame leaves open. `enter` is how a thread comes in from outside; it is
told whether all threads have finished. -/
structure Machine (σ φ χ ε : Type u) where
  exec : Nat → φ → χ → σ → Option (σ × List φ × List (List φ))
  enter : ε → Bool → σ → Option (σ × List φ)

structure Config (σ φ : Type u) where
  shared : σ
  threads : List (List φ)

inductive Label (χ ε : Type u) where
  | run (thread : Nat) (choice : χ)
  | enter (event : ε)

variable {σ φ χ ε : Type u}

namespace Config

def frames (c : Config σ φ) : Multiset φ := c.threads.flatten

def quiet (c : Config σ φ) : Bool := c.threads.all List.isEmpty

theorem quiet_iff (c : Config σ φ) : c.quiet = true ↔ c.frames = 0 := by
  simp [quiet, frames, List.flatten_eq_nil_iff]

end Config

namespace Machine

variable (M : Machine σ φ χ ε)

def step (c : Config σ φ) : Label χ ε → Option (Config σ φ)
  | .run thread choice =>
    match c.threads[thread]? with
    | some (frame :: stack) =>
      match M.exec thread frame choice c.shared with
      | some (shared, frames, spawned) =>
        some ⟨shared, c.threads.set thread (frames ++ stack) ++ spawned⟩
      | none => none
    | _ => none
  | .enter event =>
    match M.enter event c.quiet c.shared with
    | some (shared, frames) => some ⟨shared, c.threads ++ [frames]⟩
    | none => none

variable {M} {c c' : Config σ φ}

theorem exists_of_step_run {thread : Nat} {choice : χ} (h : M.step c (.run thread choice) = some c') :
    ∃ frame stack shared frames spawned, c.threads[thread]? = some (frame :: stack) ∧
      M.exec thread frame choice c.shared = some (shared, frames, spawned) ∧
      c' = ⟨shared, c.threads.set thread (frames ++ stack) ++ spawned⟩ := by
  rw [step] at h
  split at h
  · rename_i frame stack hThread
    split at h
    · rename_i shared frames spawned hExec
      cases h
      exact ⟨frame, stack, shared, frames, spawned, hThread, hExec, rfl⟩
    · cases h
  · cases h

theorem exists_of_step_enter {event : ε} (h : M.step c (.enter event) = some c') :
    ∃ shared frames, M.enter event c.quiet c.shared = some (shared, frames) ∧
      c' = ⟨shared, c.threads ++ [frames]⟩ := by
  rw [step] at h
  split at h
  · rename_i shared frames hEnter
    cases h
    exact ⟨shared, frames, hEnter, rfl⟩
  · cases h

end Machine

/-! ## Frames before and after a step -/

theorem flatten_of_getElem? {threads : List (List φ)} {thread : Nat} {frame : φ} {stack : List φ}
    (h : threads[thread]? = some (frame :: stack)) :
    ∃ rest : Multiset φ, (threads.flatten : Multiset φ) = frame ::ₘ rest ∧
      ∀ frames : List φ,
        ((threads.set thread (frames ++ stack)).flatten : Multiset φ) = ↑frames + rest := by
  obtain ⟨hThread, hStack⟩ := List.getElem?_eq_some_iff.mp h
  refine ⟨↑((threads.take thread).flatten ++ stack ++ (threads.drop (thread + 1)).flatten), ?_, ?_⟩
  · have hSplit : threads = threads.take thread ++ (frame :: stack) :: threads.drop (thread + 1) := by
      rw [← hStack, List.getElem_cons_drop, List.take_append_drop]
    have hFlatten : threads.flatten = (threads.take thread).flatten ++
        (frame :: (stack ++ (threads.drop (thread + 1)).flatten)) := by
      conv_lhs => rw [hSplit]
      simp
    rw [hFlatten, Multiset.cons_coe, Multiset.coe_eq_coe, List.append_assoc]
    exact List.perm_middle
  · intro frames
    rw [List.set_eq_take_append_cons_drop, if_pos hThread, Multiset.coe_add, Multiset.coe_eq_coe]
    simp only [List.flatten_append, List.flatten_cons, List.append_assoc]
    exact List.perm_append_comm_assoc _ _ _

namespace Machine

variable {M : Machine σ φ χ ε} {c c' : Config σ φ}

/-- A thread's step takes one frame out of the pool and puts its new ones in. -/
theorem frames_run {thread : Nat} {choice : χ} (h : M.step c (.run thread choice) = some c') :
    ∃ frame stack rest frames spawned, c.threads[thread]? = some (frame :: stack) ∧
      M.exec thread frame choice c.shared = some (c'.shared, frames, spawned) ∧
      c.frames = frame ::ₘ rest ∧ c'.frames = ↑(frames ++ spawned.flatten) + rest := by
  obtain ⟨frame, stack, shared, frames, spawned, hThread, hExec, rfl⟩ := exists_of_step_run h
  obtain ⟨rest, hBefore, hAfter⟩ := flatten_of_getElem? hThread
  refine ⟨frame, stack, rest, frames, spawned, hThread, hExec, hBefore, ?_⟩
  calc
    (((c.threads.set thread (frames ++ stack) ++ spawned).flatten : List φ) : Multiset φ)
        = ↑(c.threads.set thread (frames ++ stack)).flatten + ↑spawned.flatten := by
          rw [List.flatten_append, Multiset.coe_add]
    _ = ↑frames + rest + ↑spawned.flatten := by rw [hAfter]
    _ = ↑(frames ++ spawned.flatten) + rest := by
          rw [← Multiset.coe_add, add_right_comm]

theorem frames_enter {event : ε} (h : M.step c (.enter event) = some c') :
    ∃ frames, M.enter event c.quiet c.shared = some (c'.shared, frames) ∧
      c'.frames = ↑frames + c.frames := by
  obtain ⟨shared, frames, hEnter, rfl⟩ := exists_of_step_enter h
  refine ⟨frames, hEnter, ?_⟩
  simp only [Config.frames, List.flatten_append, List.flatten_singleton]
  rw [← Multiset.coe_add, add_comm]

end Machine

/-! ## Runs and invariants -/

/-- A condition on the single steps of a run. -/
structure Guard (σ φ χ ε : Type u) where
  run : Nat → φ → χ → σ → Multiset φ → Prop
  enter : ε → σ → Multiset φ → Prop

namespace Guard

def all : Guard σ φ χ ε := ⟨fun _ _ _ _ _ => True, fun _ _ _ => True⟩

def Allows (G : Guard σ φ χ ε) (c : Config σ φ) : Label χ ε → Prop
  | .run thread choice => ∀ frame stack, c.threads[thread]? = some (frame :: stack) →
      G.run thread frame choice c.shared c.frames
  | .enter event => G.enter event c.shared c.frames

def inf (G H : Guard σ φ χ ε) : Guard σ φ χ ε where
  run thread frame choice s frames :=
    G.run thread frame choice s frames ∧ H.run thread frame choice s frames
  enter event s frames := G.enter event s frames ∧ H.enter event s frames

end Guard

/-- The configurations that runs with allowed steps lead to. -/
inductive Reaches (M : Machine σ φ χ ε) (G : Guard σ φ χ ε) (start : Config σ φ) :
    Config σ φ → Prop
  | start : Reaches M G start start
  | step {c c' : Config σ φ} {label : Label χ ε} : Reaches M G start c → G.Allows c label →
      M.step c label = some c' → Reaches M G start c'

/-- A property of shared state and frames that allowed steps keep. -/
structure Preserved (M : Machine σ φ χ ε) (G : Guard σ φ χ ε) (I : σ → Multiset φ → Prop) :
    Prop where
  exec : ∀ thread frame choice s rest s' frames spawned, I s (frame ::ₘ rest) →
    G.run thread frame choice s (frame ::ₘ rest) →
    M.exec thread frame choice s = some (s', frames, spawned) →
    I s' (↑(frames ++ spawned.flatten) + rest)
  enter : ∀ event quiet s rest s' frames, I s rest → (quiet = true → rest = 0) →
    G.enter event s rest → M.enter event quiet s = some (s', frames) → I s' (↑frames + rest)

section Rules

variable {M : Machine σ φ χ ε} {G : Guard σ φ χ ε} {I J : σ → Multiset φ → Prop}
  {start c c' : Config σ φ}

theorem Preserved.step (hI : Preserved M G I) {label : Label χ ε} (h : I c.shared c.frames)
    (hAllowed : G.Allows c label) (hStep : M.step c label = some c') :
    I c'.shared c'.frames := by
  cases label with
  | run thread choice =>
    obtain ⟨frame, stack, rest, frames, spawned, hThread, hExec, hBefore, hAfter⟩ :=
      Machine.frames_run hStep
    have hRun := hAllowed frame stack hThread
    rw [hBefore] at h hRun
    rw [hAfter]
    exact hI.exec _ _ _ _ _ _ _ _ h hRun hExec
  | enter event =>
    obtain ⟨frames, hEnter, hAfter⟩ := Machine.frames_enter hStep
    rw [hAfter]
    exact hI.enter _ _ _ _ _ _ h c.quiet_iff.mp hAllowed hEnter

/-- What holds at the start and is kept by every step holds in every reached
configuration. -/
theorem Reaches.invariant (h : Reaches M G start c) (hI : Preserved M G I)
    (hStart : I start.shared start.frames) : I c.shared c.frames := by
  induction h with
  | start => exact hStart
  | step _ hAllowed hStep ih => exact hI.step ih hAllowed hStep

/-- Prove a further property with the help of one that is already known to be kept. -/
theorem Preserved.and (hI : Preserved M G I)
    (hExec : ∀ thread frame choice s rest s' frames spawned, I s (frame ::ₘ rest) →
      J s (frame ::ₘ rest) → G.run thread frame choice s (frame ::ₘ rest) →
      M.exec thread frame choice s = some (s', frames, spawned) →
      J s' (↑(frames ++ spawned.flatten) + rest))
    (hEnter : ∀ event quiet s rest s' frames, I s rest → J s rest → (quiet = true → rest = 0) →
      G.enter event s rest → M.enter event quiet s = some (s', frames) → J s' (↑frames + rest)) :
    Preserved M G fun s frames => I s frames ∧ J s frames where
  exec _ _ _ _ _ _ _ _ h hRun hStep :=
    ⟨hI.exec _ _ _ _ _ _ _ _ h.1 hRun hStep, hExec _ _ _ _ _ _ _ _ h.1 h.2 hRun hStep⟩
  enter _ _ _ _ _ _ h hQuiet hGuard hStep :=
    ⟨hI.enter _ _ _ _ _ _ h.1 hQuiet hGuard hStep, hEnter _ _ _ _ _ _ h.1 h.2 hQuiet hGuard hStep⟩

/-- A property that all steps keep is kept by the steps a guard allows. -/
theorem Preserved.under (hI : Preserved M .all I) (G : Guard σ φ χ ε) : Preserved M G I where
  exec _ _ _ _ _ _ _ _ h _ hStep := hI.exec _ _ _ _ _ _ _ _ h trivial hStep
  enter _ _ _ _ _ _ h hQuiet _ hStep := hI.enter _ _ _ _ _ _ h hQuiet trivial hStep

theorem Preserved.inf_left (hI : Preserved M G I) (H : Guard σ φ χ ε) :
    Preserved M (G.inf H) I where
  exec _ _ _ _ _ _ _ _ h hRun hStep := hI.exec _ _ _ _ _ _ _ _ h hRun.1 hStep
  enter _ _ _ _ _ _ h hQuiet hEnter hStep := hI.enter _ _ _ _ _ _ h hQuiet hEnter.1 hStep

end Rules

/-! ## What holds of every thread -/

/-- A property of the shared state and the stack of one thread that allowed steps
keep, with the help of an invariant `J` of the pool. A thread that does not exist
has the empty stack. -/
structure StackPreserved (M : Machine σ φ χ ε) (G : Guard σ φ χ ε) (J : σ → Multiset φ → Prop)
    (I : σ → Nat → List φ → Prop) : Prop where
  own : ∀ thread frame stack choice s pool s' frames spawned, J s pool →
    I s thread (frame :: stack) → G.run thread frame choice s pool →
    M.exec thread frame choice s = some (s', frames, spawned) → I s' thread (frames ++ stack)
  other : ∀ thread frame stack choice s pool s' frames spawned, J s pool →
    I s thread (frame :: stack) → G.run thread frame choice s pool →
    M.exec thread frame choice s = some (s', frames, spawned) →
    ∀ other rest, other ≠ thread → I s other rest → I s' other rest
  spawned : ∀ thread frame choice s s' frames spawned,
    M.exec thread frame choice s = some (s', frames, spawned) →
    ∀ new ∈ spawned, ∀ other, I s' other [] → I s' other new
  entered : ∀ event quiet s s' frames, M.enter event quiet s = some (s', frames) →
    (∀ other rest, I s other rest → I s' other rest) ∧ ∀ other, I s' other [] → I s' other frames

section Stacks

variable {M : Machine σ φ χ ε} {G : Guard σ φ χ ε} {J : σ → Multiset φ → Prop}
  {I : σ → Nat → List φ → Prop} {start c c' : Config σ φ}

theorem getD_append_of_le {threads : List (List φ)} (more : List (List φ)) {thread : Nat}
    (h : threads.length ≤ thread) :
    (threads ++ more).getD thread [] = [] ∨ (threads ++ more).getD thread [] ∈ more := by
  simp only [List.getD_eq_getElem?_getD, List.getElem?_append_right h]
  cases hMore : more[thread - threads.length]? with
  | none => exact .inl rfl
  | some new => exact .inr (List.mem_of_getElem? hMore)

theorem getD_append_of_lt {threads more : List (List φ)} {thread : Nat}
    (h : thread < threads.length) :
    (threads ++ more).getD thread [] = threads.getD thread [] := by
  simp only [List.getD_eq_getElem?_getD, List.getElem?_append_left h]

theorem getD_eq_nil_of_le {threads : List (List φ)} {thread : Nat} (h : threads.length ≤ thread) :
    threads.getD thread [] = [] := by
  simp only [List.getD_eq_getElem?_getD, List.getElem?_eq_none h, Option.getD_none]

theorem StackPreserved.step (hI : StackPreserved M G J I) {label : Label χ ε}
    (hJ : J c.shared c.frames) (h : ∀ thread, I c.shared thread (c.threads.getD thread []))
    (hAllowed : G.Allows c label) (hStep : M.step c label = some c') :
    ∀ thread, I c'.shared thread (c'.threads.getD thread []) := by
  intro other
  cases label with
  | run thread choice =>
    obtain ⟨frame, stack, s', frames, spawned, hThread, hExec, rfl⟩ := Machine.exists_of_step_run hStep
    have hRun := hAllowed frame stack hThread
    have hOwn : I c.shared thread (frame :: stack) := by
      have hBefore := h thread
      rwa [List.getD_eq_getElem?_getD, hThread, Option.getD_some] at hBefore
    have hOther := hI.other _ _ _ _ _ _ _ _ _ hJ hOwn hRun hExec
    obtain ⟨hLength, -⟩ := List.getElem?_eq_some_iff.mp hThread
    have hSet : (c.threads.set thread (frames ++ stack)).length = c.threads.length := List.length_set
    by_cases hExists : other < c.threads.length
    · rw [getD_append_of_lt (hSet ▸ hExists), List.getD_eq_getElem?_getD]
      by_cases hEq : other = thread
      · rw [hEq, List.getElem?_set_self hLength]
        exact hI.own _ _ _ _ _ _ _ _ _ hJ hOwn hRun hExec
      · rw [List.getElem?_set_ne (Ne.symm hEq), ← List.getD_eq_getElem?_getD]
        exact hOther other _ hEq (h other)
    · have hLe : c.threads.length ≤ other := Nat.le_of_not_lt hExists
      have hEmpty : I s' other [] := by
        apply hOther other [] (by omega)
        rw [← getD_eq_nil_of_le hLe]
        exact h other
      rcases getD_append_of_le spawned (hSet ▸ hLe) with hNone | hNew
      · rw [hNone]
        exact hEmpty
      · exact hI.spawned _ _ _ _ _ _ _ hExec _ hNew other hEmpty
  | enter event =>
    obtain ⟨s', frames, hEnter, rfl⟩ := Machine.exists_of_step_enter hStep
    obtain ⟨hKeep, hNew⟩ := hI.entered _ _ _ _ _ hEnter
    by_cases hExists : other < c.threads.length
    · rw [getD_append_of_lt hExists]
      exact hKeep other _ (h other)
    · have hLe : c.threads.length ≤ other := Nat.le_of_not_lt hExists
      have hEmpty : I s' other [] := by
        rw [← getD_eq_nil_of_le hLe]
        exact hKeep other _ (h other)
      rcases getD_append_of_le [frames] hLe with hNone | hMem
      · rw [hNone]
        exact hEmpty
      · rw [List.mem_singleton.mp hMem]
        exact hNew other hEmpty

/-- What holds of every thread at the start and is kept by every step holds of every
thread of every reached configuration. -/
theorem Reaches.stacks (h : Reaches M G start c) (hJ : Preserved M G J)
    (hI : StackPreserved M G J I) (hStart : J start.shared start.frames)
    (hThreads : ∀ thread, I start.shared thread (start.threads.getD thread [])) :
    ∀ thread, I c.shared thread (c.threads.getD thread []) := by
  induction h with
  | start => exact hThreads
  | step hReached hAllowed hStep ih =>
    exact hI.step (hReached.invariant hJ hStart) ih hAllowed hStep

end Stacks

/-! ## Runs of listed steps -/

section Listed

variable (M : Machine σ φ χ ε) (G : Guard σ φ χ ε)

instance Guard.decidableAll (c : Config σ φ) (label : Label χ ε) :
    Decidable ((Guard.all : Guard σ φ χ ε).Allows c label) :=
  match label with
  | .run _ _ => .isTrue fun _ _ _ => trivial
  | .enter _ => .isTrue trivial

instance Guard.decidableAllows
    [∀ thread frame choice s frames, Decidable (G.run thread frame choice s frames)]
    [∀ event s frames, Decidable (G.enter event s frames)] (c : Config σ φ) (label : Label χ ε) :
    Decidable (G.Allows c label) :=
  match label with
  | .run thread choice =>
    match h : c.threads[thread]? with
    | some (frame :: stack) =>
      if hRun : G.run thread frame choice c.shared c.frames then
        .isTrue fun _ _ hThread => by
          rw [h] at hThread
          cases hThread
          exact hRun
      else .isFalse fun hAllows => hRun (hAllows frame stack h)
    | some [] => .isTrue fun _ _ hThread => by
        rw [h] at hThread
        cases hThread
    | none => .isTrue fun _ _ hThread => by
        rw [h] at hThread
        cases hThread
  | .enter event => inferInstanceAs (Decidable (G.enter event c.shared c.frames))

instance Guard.decidableInfRun (H : Guard σ φ χ ε) (thread : Nat) (frame : φ) (choice : χ) (s : σ)
    (frames : Multiset φ) [Decidable (G.run thread frame choice s frames)]
    [Decidable (H.run thread frame choice s frames)] :
    Decidable ((G.inf H).run thread frame choice s frames) :=
  inferInstanceAs (Decidable (_ ∧ _))

instance Guard.decidableInfEnter (H : Guard σ φ χ ε) (event : ε) (s : σ) (frames : Multiset φ)
    [Decidable (G.enter event s frames)] [Decidable (H.enter event s frames)] :
    Decidable ((G.inf H).enter event s frames) :=
  inferInstanceAs (Decidable (_ ∧ _))

variable [∀ c label, Decidable (G.Allows c label)]

/-- The steps of a list of labels, one after the other, as far as they are allowed. -/
def Machine.steps : Config σ φ → List (Label χ ε) → Option (Config σ φ)
  | c, [] => some c
  | c, label :: labels =>
    if G.Allows c label then
      match M.step c label with
      | some next => steps next labels
      | none => none
    else none

variable {M G} {start c d : Config σ φ}

theorem Reaches.of_steps {labels : List (Label χ ε)} (h : Reaches M G start c)
    (hSteps : M.steps G c labels = some d) : Reaches M G start d := by
  induction labels generalizing c with
  | nil =>
    cases hSteps
    exact h
  | cons label labels ih =>
    rw [Machine.steps] at hSteps
    split at hSteps
    · rename_i hAllowed
      split at hSteps
      · rename_i next hNext
        exact ih (h.step hAllowed hNext) hSteps
      · cases hSteps
    · cases hSteps

/-- A test that succeeds at the end of a run succeeds in a reached configuration. -/
theorem exists_reaches_of_steps {labels : List (Label χ ε)} {test : Config σ φ → Bool}
    (h : (M.steps G start labels).any test = true) : ∃ c, Reaches M G start c ∧ test c = true := by
  cases hSteps : M.steps G start labels with
  | none =>
    rw [hSteps] at h
    cases h
  | some c =>
    rw [hSteps] at h
    exact ⟨c, Reaches.start.of_steps hSteps, h⟩

end Listed

/-- One frame goes on, and no thread is started. -/
theorem coe_singleton_add (next : φ) (rest : Multiset φ) :
    (↑([next] ++ ([] : List (List φ)).flatten) + rest : Multiset φ) = next ::ₘ rest := by
  simp

/-! ## Weights -/

def load (weight : φ → Nat) (frames : Multiset φ) : Nat := (frames.map weight).sum

section Load

variable (weight : φ → Nat)

@[simp] theorem load_zero : load weight 0 = 0 := rfl

@[simp] theorem load_cons (frame : φ) (frames : Multiset φ) :
    load weight (frame ::ₘ frames) = weight frame + load weight frames := by
  simp [load]

@[simp] theorem load_singleton (frame : φ) : load weight {frame} = weight frame := by
  simp [load]

@[simp] theorem load_add (frames more : Multiset φ) :
    load weight (frames + more) = load weight frames + load weight more := by
  simp [load]

@[simp] theorem load_coe (frames : List φ) : load weight ↑frames = (frames.map weight).sum := by
  simp [load]

theorem le_load {frame : φ} {frames : Multiset φ} (h : frame ∈ frames) :
    weight frame ≤ load weight frames := by
  obtain ⟨rest, rfl⟩ := Multiset.exists_cons_of_mem h
  rw [load_cons]
  exact Nat.le_add_right _ _

/-- A frame that is still to be executed has its weight in the pool. -/
theorem load_next_pos {next : φ} {frames : List φ} (hNext : next ∈ frames) (hPos : 0 < weight next)
    (rest : Multiset φ) : 0 < load weight (↑frames + rest) :=
  Nat.lt_of_lt_of_le hPos (le_load weight (Multiset.mem_add.mpr (.inl (Multiset.mem_coe.mpr hNext))))

theorem load_fun_add (weight more : φ → Nat) (frames : Multiset φ) :
    load (fun frame => weight frame + more frame) frames = load weight frames + load more frames :=
  Multiset.sum_map_add

theorem load_mono {lighter : φ → Nat} (heavier : φ → Nat) {frames : Multiset φ}
    (h : ∀ frame ∈ frames, lighter frame ≤ heavier frame) : load lighter frames ≤ load heavier frames := by
  induction frames using Multiset.induction with
  | empty => exact Nat.le_refl 0
  | cons frame frames ih =>
    rw [load_cons, load_cons]
    apply Nat.add_le_add
    · exact h frame (Multiset.mem_cons_self frame frames)
    · exact ih fun other hOther => h other (Multiset.mem_cons_of_mem hOther)

theorem load_le_load {lighter heavier : φ → Nat} (h : ∀ frame, lighter frame ≤ heavier frame)
    (frames : Multiset φ) : load lighter frames ≤ load heavier frames :=
  load_mono _ fun frame _ => h frame

theorem exists_of_load_pos {frames : Multiset φ} (h : 0 < load weight frames) :
    ∃ frame ∈ frames, 0 < weight frame := by
  by_contra hNone
  push Not at hNone
  have hZero : load weight frames = 0 := by
    refine Multiset.sum_eq_zero fun n hn => ?_
    obtain ⟨frame, hFrame, rfl⟩ := Multiset.mem_map.mp hn
    exact Nat.le_zero.mp (hNone frame hFrame)
  omega

theorem load_eq_zero_iff {frames : Multiset φ} :
    load weight frames = 0 ↔ ∀ frame ∈ frames, weight frame = 0 := by
  constructor
  · intro h frame hFrame
    exact Nat.le_zero.mp (h ▸ le_load weight hFrame)
  · intro h
    by_contra hLoad
    obtain ⟨frame, hFrame, hPos⟩ := exists_of_load_pos weight (Nat.pos_of_ne_zero hLoad)
    exact absurd (h frame hFrame) (Nat.ne_of_gt hPos)

end Load

/-! ## What frames carry -/

section Carried

universe v

variable {α : Type v} (f : φ → Option α)

def carried (frames : Multiset φ) : Multiset α := frames.filterMap f

@[simp] theorem carried_zero : carried f 0 = 0 := rfl

@[simp] theorem carried_cons (frame : φ) (frames : Multiset φ) :
    carried f (frame ::ₘ frames) = (f frame).toList + carried f frames := by
  cases h : f frame with
  | none =>
    rw [carried, Multiset.filterMap_cons_none _ _ h]
    exact (zero_add _).symm
  | some a =>
    rw [carried, Multiset.filterMap_cons_some _ _ _ h]
    rfl

@[simp] theorem carried_singleton (frame : φ) : carried f {frame} = (f frame).toList := by
  rw [← Multiset.cons_zero, carried_cons, carried_zero, add_zero]

@[simp] theorem carried_add (frames more : Multiset φ) :
    carried f (frames + more) = carried f frames + carried f more := Multiset.filterMap_add _ _ _

@[simp] theorem carried_coe_cons (frame : φ) (frames : List φ) :
    carried f ↑(frame :: frames) = (f frame).toList + carried f ↑frames :=
  carried_cons f frame ↑frames

theorem carried_eq_zero_iff {frames : Multiset φ} :
    carried f frames = 0 ↔ ∀ frame ∈ frames, f frame = none := by
  constructor
  · intro h frame hFrame
    by_contra hSome
    obtain ⟨a, ha⟩ := Option.ne_none_iff_exists'.mp hSome
    have hMem : a ∈ carried f frames := (Multiset.mem_filterMap f frames).mpr ⟨frame, hFrame, ha⟩
    rw [h] at hMem
    exact Multiset.notMem_zero a hMem
  · intro h
    apply Multiset.eq_zero_of_forall_notMem
    intro a ha
    obtain ⟨frame, hFrame, hSome⟩ := (Multiset.mem_filterMap f frames).mp ha
    rw [h frame hFrame] at hSome
    cases hSome

end Carried

end Interleaving

import Fuerte.Library.Monitor

/-! # Wait groups

Threads announce events, report their end, and wait until no event is left. Whoever
waits returns only then, and nobody sleeps through the end of the last event.
-/

namespace Fuerte.WaitGroup

set_option autoImplicit false

open Interleaving Monitor

/-- The counter of a wait group, beside what its callers have told it so far. -/
structure Events where
  counter : Int
  added : Nat
  ended : Nat
  deriving DecidableEq, Repr

inductive Op where
  | add (increment : Nat)
  | done
  deriving DecidableEq, Repr

/-- The counter is an `int`: the sum with the unsigned increment wraps. -/
def toInt (n : Int) : Int := n.bmod (2 ^ 32)

def add (increment : Nat) (e : Events) : Events × Bool :=
  ({ e with counter := toInt (e.counter + increment), added := e.added + increment }, false)

def done (e : Events) : Events × Bool :=
  ({ e with counter := toInt (e.counter - 1), ended := e.ended + 1 }, toInt (e.counter - 1) == 0)

def protocol : Protocol Events Op where
  update
    | .add increment => add increment
    | .done => done
  holds e := e.counter == 0

abbrev Group := State Events

def empty : Group := .initial ⟨0, 0, 0⟩

def initial : Config Group (Frame Op) := ⟨empty, []⟩

/-! ## The callers -/

/-- What a thread is about to tell the group. -/
@[simp] def telling : Frame Op → Option Op
  | .lock op => some op
  | .update op => some op
  | _ => none

@[simp] def Op.added : Op → Nat
  | .add increment => increment
  | .done => 0

@[simp] def Op.ended : Op → Nat
  | .add _ => 0
  | .done => 1

/-- The events that are about to be added, and those whose end is about to be reported. -/
def adding (frame : Frame Op) : Nat := (telling frame).elim 0 Op.added

def ending (frame : Frame Op) : Nat := (telling frame).elim 0 Op.ended

def total (f : Frame Op → Nat) (frames : Multiset (Frame Op)) : Nat := (frames.map f).sum

@[simp] theorem total_zero (f : Frame Op → Nat) : total f 0 = 0 := rfl

@[simp] theorem total_cons (f : Frame Op → Nat) (frame : Frame Op) (frames : Multiset (Frame Op)) :
    total f (frame ::ₘ frames) = f frame + total f frames := by
  simp [total]

@[simp] theorem total_next (f : Frame Op → Nat) (next : Option (Frame Op))
    (frames : Multiset (Frame Op)) :
    total f ((next.toList : Multiset (Frame Op)) + frames) = next.elim 0 f + total f frames := by
  cases next <;> simp [total]

/-- Increments are positive, the end of an event is reported once, and fewer events
than an `int` can count are under way at a time. -/
def balanced : Guard Group (Frame Op) Choice (Call Op) where
  run _ _ _ _ _ := True
  enter
    | .update (.add increment), s, frames =>
      0 < increment ∧ s.value.added + total adding frames + increment < s.value.ended + 2 ^ 31
    | .update .done, s, frames => s.value.ended + total ending frames < s.value.added
    | .wait _, _, _ => True

instance decidableBalancedRun (thread : Nat) (frame : Frame Op) (choice : Choice) (s : Group)
    (frames : Multiset (Frame Op)) : Decidable (balanced.run thread frame choice s frames) :=
  inferInstanceAs (Decidable True)

instance decidableBalancedEnter (call : Call Op) (s : Group) (frames : Multiset (Frame Op)) :
    Decidable (balanced.enter call s frames) :=
  match call with
  | .update (.add _) => inferInstanceAs (Decidable (_ ∧ _))
  | .update .done => inferInstanceAs (Decidable (_ < _))
  | .wait _ => inferInstanceAs (Decidable True)

/-- The steps a thread takes without being woken for no reason. -/
def unprovoked : Guard Group (Frame Op) Choice (Call Op) where
  run _ _ choice _ _ := choice ≠ .spurious
  enter _ _ _ := True

/-! ## The counter -/

structure Balanced (s : Group) (frames : Multiset (Frame Op)) : Prop where
  counter : s.value.counter = s.value.added - s.value.ended
  covered : s.value.ended + total ending frames ≤ s.value.added
  bounded : s.value.added + total adding frames < s.value.ended + 2 ^ 31
  positive : ∀ frame ∈ frames, ∀ increment, telling frame = some (.add increment) → 0 < increment

theorem toInt_of_nat {n : Int} (hNonneg : 0 ≤ n) (hBound : n < 2 ^ 31) : toInt n = n :=
  Int.bmod_eq_of_le (by omega) (by omega)

variable {s s' : Group} {op : Op} {frame : Frame Op} {choice : Choice} {next : Option (Frame Op)}
  {rest : Multiset (Frame Op)}

theorem Balanced.initial : Balanced empty 0 :=
  ⟨rfl, le_rfl, by decide, fun _ h => absurd h (Multiset.notMem_zero _)⟩

theorem Balanced.holds_iff {frames : Multiset (Frame Op)} (h : Balanced s frames) :
    protocol.holds s.value = true ↔ s.value.added = s.value.ended := by
  have hCounter := h.counter
  simp only [protocol, beq_iff_eq]
  omega

/-- Steps that tell the group nothing leave its counter alone. -/
theorem value_of_exec (hFrame : ∀ op, frame ≠ .update op)
    (hExec : protocol.exec frame choice s = some (s', next)) :
    s'.value = s.value ∧ next.bind telling = telling frame := by
  cases frame
  case update op => exact absurd rfl (hFrame op)
  case check timed =>
    cases hExec
    split <;> exact ⟨rfl, rfl⟩
  case asleep ticket timed =>
    cases choice <;> simp only [Protocol.exec] at hExec
    all_goals try split at hExec
    all_goals cases hExec
    all_goals exact ⟨rfl, rfl⟩
  all_goals simp only [Protocol.exec] at hExec
  all_goals (repeat' split at hExec)
  all_goals cases hExec
  all_goals exact ⟨rfl, rfl⟩

theorem elim_ending (new : Option (Frame Op)) :
    new.elim 0 ending = (new.bind telling).elim 0 Op.ended := by
  cases new <;> rfl

theorem elim_adding (new : Option (Frame Op)) :
    new.elim 0 adding = (new.bind telling).elim 0 Op.added := by
  cases new <;> rfl

/-- An operation that is not told any more takes its effect on the counter. -/
theorem Balanced.told (h : Balanced s (.update op ::ₘ rest)) {new : Frame Op}
    (hNew : telling new = none) (hValue : s'.value = (protocol.update op s.value).1) :
    Balanced s' (new ::ₘ rest) := by
  have hCounter := h.counter
  have hCovered := h.covered
  have hBounded := h.bounded
  rw [total_cons] at hCovered hBounded
  have hPositive := fun frame hMem => h.positive frame (Multiset.mem_cons_of_mem hMem)
  have hOwn := h.positive _ (Multiset.mem_cons_self _ _)
  have hRest : ∀ frame ∈ new ::ₘ rest, ∀ increment, telling frame = some (.add increment) →
      0 < increment := by
    intro frame hMem increment hTelling
    rcases Multiset.mem_cons.mp hMem with rfl | hMem
    · rw [hNew] at hTelling
      cases hTelling
    · exact hPositive frame hMem increment hTelling
  cases op with
  | add increment =>
    have hAdded : s'.value = ⟨toInt (s.value.counter + increment), s.value.added + increment,
      s.value.ended⟩ := hValue
    simp only [adding, ending, telling, Option.elim_some, Op.added, Op.ended] at hCovered hBounded
    refine ⟨?_, ?_, ?_, hRest⟩
    · rw [hAdded, hCounter, toInt_of_nat (by omega) (by omega)]
      dsimp only
      omega
    · rw [total_cons, ending, hNew, hAdded]
      simp only [Option.elim_none]
      omega
    · rw [total_cons, adding, hNew, hAdded]
      simp only [Option.elim_none]
      omega
  | done =>
    have hEnded : s'.value = ⟨toInt (s.value.counter - 1), s.value.added, s.value.ended + 1⟩ := hValue
    simp only [adding, ending, telling, Option.elim_some, Op.added, Op.ended] at hCovered hBounded
    refine ⟨?_, ?_, ?_, hRest⟩
    · rw [hEnded, hCounter, toInt_of_nat (by omega) (by omega)]
      dsimp only
      omega
    · rw [total_cons, ending, hNew, hEnded]
      simp only [Option.elim_none]
      omega
    · rw [total_cons, adding, hNew, hEnded]
      simp only [Option.elim_none]
      omega

theorem Balanced.exec (h : Balanced s (frame ::ₘ rest))
    (hExec : protocol.exec frame choice s = some (s', next)) :
    Balanced s' ((next.toList : Multiset (Frame Op)) + rest) := by
  by_cases hUpdate : ∃ op, frame = .update op
  · obtain ⟨op, rfl⟩ := hUpdate
    cases hExec
    split
    all_goals exact h.told rfl rfl
  · push Not at hUpdate
    obtain ⟨hValue, hTelling⟩ := value_of_exec hUpdate hExec
    have hCovered := h.covered
    have hBounded := h.bounded
    rw [total_cons] at hCovered hBounded
    refine ⟨hValue ▸ h.counter, ?_, ?_, fun new hNew increment hAdd => ?_⟩
    · rw [hValue, total_next, elim_ending, hTelling]
      exact hCovered
    · rw [hValue, total_next, elim_adding, hTelling]
      exact hBounded
    · rcases Multiset.mem_add.mp hNew with hNew | hNew
      · obtain rfl := Option.mem_toList.mp (Multiset.mem_coe.mp hNew)
        exact h.positive frame (Multiset.mem_cons_self _ _) increment (hTelling ▸ hAdd)
      · exact h.positive new (Multiset.mem_cons_of_mem hNew) increment hAdd

/-- No event can be added that brings the counter to zero, and the last one that ends
notifies. -/
theorem Balanced.notifies (h : Balanced s (.update op ::ₘ rest))
    (hHolds : protocol.holds (protocol.update op s.value).1 = true) :
    (protocol.update op s.value).2 = true := by
  cases op with
  | done => exact hHolds
  | add increment =>
    have hPositive := h.positive _ (Multiset.mem_cons_self _ _) increment rfl
    have hCounter := h.counter
    have hCovered := h.covered
    have hBounded := h.bounded
    rw [total_cons] at hCovered hBounded
    simp only [adding, ending, telling, Option.elim_some, Op.added, Op.ended] at hCovered hBounded
    have hZero : toInt (s.value.counter + increment) = 0 := by
      simpa [protocol, WaitGroup.add] using hHolds
    rw [toInt_of_nat (by omega) (by omega)] at hZero
    omega

theorem Balanced.call (h : Balanced s rest) (call : Call Op) (hCall : balanced.enter call s rest) :
    Balanced s (call.frame ::ₘ rest) := by
  have hCovered := h.covered
  have hBounded := h.bounded
  have hPositive : ∀ increment, telling call.frame = some (.add increment) → 0 < increment := by
    intro increment hTelling
    cases call with
    | wait timed => cases hTelling
    | update op =>
      cases hTelling
      exact hCall.1
  refine ⟨h.counter, ?_, ?_, fun frame hMem increment hTelling => ?_⟩
  · rw [total_cons]
    rcases call with (_ | _) | _ <;> simp only [balanced, Call.frame, ending, telling,
      Option.elim_some, Option.elim_none, Op.ended] at hCall ⊢ <;> omega
  · rw [total_cons]
    rcases call with (_ | _) | _ <;> simp only [balanced, Call.frame, adding, telling,
      Option.elim_some, Option.elim_none, Op.added] at hCall ⊢ <;> omega
  · rcases Multiset.mem_cons.mp hMem with rfl | hMem
    · exact hPositive increment hTelling
    · exact h.positive frame hMem increment hTelling

/-! ## Whole runs -/

structure Invariant (s : Group) (frames : Multiset (Frame Op)) : Prop where
  sound : Sound protocol s frames
  woken : Woken protocol s frames
  counted : Balanced s frames

theorem Invariant.exec (h : Invariant s (frame ::ₘ rest))
    (hExec : protocol.exec frame choice s = some (s', next)) :
    Invariant s' ((next.toList : Multiset (Frame Op)) + rest) where
  sound := h.sound.exec hExec
  woken := h.woken.exec (fun _ hOp hHolds => .inl ((hOp ▸ h.counted).notifies hHolds)) hExec
  counted := h.counted.exec hExec

theorem Invariant.call (h : Invariant s rest) (call : Call Op) (hCall : balanced.enter call s rest) :
    Invariant s (call.frame ::ₘ rest) where
  sound := h.sound.call call
  woken hHolds := (h.woken hHolds).imp_right Multiset.mem_cons_of_mem
  counted := h.counted.call call hCall

theorem Invariant.initial : Invariant empty 0 := ⟨.initial _, .initial _, .initial⟩

theorem exists_next {thread : Nat} {frames : List (Frame Op)} {spawned : List (List (Frame Op))}
    (h : protocol.machine.exec thread frame choice s = some (s', frames, spawned)) :
    ∃ next, protocol.exec frame choice s = some (s', next) ∧ frames = next.toList ∧ spawned = [] := by
  obtain ⟨⟨s'', next⟩, hExec, hNext⟩ := Option.map_eq_some_iff.mp h
  cases hNext
  exact ⟨next, hExec, rfl, rfl⟩

theorem invariant_preserved : Preserved protocol.machine balanced Invariant where
  exec thread frame choice s rest s' frames spawned h _ hExec := by
    obtain ⟨next, hNext, rfl, rfl⟩ := exists_next hExec
    simpa using h.exec hNext
  enter call _ s rest s' frames h _ hCall hEnter := by
    cases hEnter
    exact h.call call hCall

theorem covers : Covers protocol.machine fun _ => False where
  exec _ _ _ _ _ _ _ hExec := by
    obtain ⟨next, -, rfl, rfl⟩ := exists_next hExec
    exact ⟨by cases next <;> simp, by simp⟩
  enter _ _ _ _ _ hEnter := by
    cases hEnter
    exact nofun

theorem descends : Descends protocol.machine (balanced.inf unprovoked) (fun _ => true) (· < ·)
    Invariant work where
  preserved := invariant_preserved.inf_left _
  exec _ _ _ _ _ _ _ _ h _ hRun hExec := by
    obtain ⟨next, hNext, rfl, rfl⟩ := exists_next hExec
    simpa using work_lower h.sound hRun.2 hNext

/-- One thread takes a step. -/
abbrev Moves : Config Group (Frame Op) → Config Group (Frame Op) → Prop :=
  Advance protocol.machine (balanced.inf unprovoked) fun _ => true

variable {c : Config Group (Frame Op)}

theorem invariant_of_reaches (h : Reaches protocol.machine balanced initial c) :
    Invariant c.shared c.frames :=
  h.invariant invariant_preserved .initial

/-- In every run in which the callers keep their accounts, one thread at a time holds
the mutex and the counter is the number of events under way; a thread returns from
`wait` only when there are none, and `wait_for` tells whether there are none. -/
theorem wait_exact (h : Reaches protocol.machine balanced initial c) :
    holders c.frames ≤ 1 ∧ c.shared.value.counter = c.shared.value.added - c.shared.value.ended ∧
      c.shared.value.ended ≤ c.shared.value.added ∧
      ∀ timed result, .leave timed result ∈ c.frames →
        (result = true ↔ c.shared.value.added = c.shared.value.ended) ∧
          (timed = false → c.shared.value.added = c.shared.value.ended) := by
  have hInvariant := invariant_of_reaches h
  have hBalanced := hInvariant.counted
  refine ⟨hInvariant.sound.exclusive.trans_le (Bool.toNat_le _), hBalanced.counter,
    (Nat.le_add_right _ _).trans hBalanced.covered, fun timed result hLeave => ?_⟩
  have hResult : result = true ↔ c.shared.value.added = c.shared.value.ended := by
    rw [hInvariant.sound.truthful timed result hLeave]
    exact hBalanced.holds_iff
  refine ⟨hResult, fun hUntimed => hResult.mp ?_⟩
  subst hUntimed
  exact hInvariant.sound.untimed result hLeave

/-- Two events, one waiter that is asleep and one that is about to return after their end. -/
def twoWaiters : List (Label Choice (Call Op)) :=
  let run (thread steps : Nat) : List (Label Choice (Call Op)) :=
    List.replicate steps (.run thread .proceed)
  .enter (.update (.add 2)) :: run 0 3 ++ .enter (.wait false) :: run 1 3 ++
    .enter (.wait true) :: run 2 3 ++ .enter (.update .done) :: run 3 3 ++
    .enter (.update .done) :: run 4 4 ++ run 2 3

theorem wait_exact_two_waiters : ∃ c : Config Group (Frame Op),
    .leave true true ∈ c.frames ∧ .asleep 0 false ∈ c.frames ∧
      holders c.frames ≤ 1 ∧ c.shared.value.counter = c.shared.value.added - c.shared.value.ended ∧
      c.shared.value.ended ≤ c.shared.value.added ∧
      ∀ timed result, .leave timed result ∈ c.frames →
        (result = true ↔ c.shared.value.added = c.shared.value.ended) ∧
          (timed = false → c.shared.value.added = c.shared.value.ended) := by
  have hRun : (protocol.machine.steps balanced initial twoWaiters).any
      (fun c => .leave true true ∈ c.frames ∧ .asleep 0 false ∈ c.frames) = true := by
    decide +kernel
  obtain ⟨c, hReaches, hTest⟩ := exists_reaches_of_steps hRun
  exact ⟨c, (of_decide_eq_true hTest).1, (of_decide_eq_true hTest).2, wait_exact hReaches⟩

/-- However the threads take turns, they come to where only waiters are left; and when
no event is under way any more, all have returned. -/
theorem waits_return (h : Reaches protocol.machine balanced initial c) :
    Acc (fun next before => Moves before next) c ∧
    ∀ settled, Relation.ReflTransGen Moves c settled → (∀ next, ¬Moves settled next) →
      (∀ frame ∈ settled.frames, ∃ ticket, frame = .asleep ticket false) ∧
        (settled.shared.value.added = settled.shared.value.ended → settled.quiet = true) := by
  refine ⟨descends.acc wellFounded_lt (invariant_of_reaches h), fun settled hRun hSettled => ?_⟩
  have hReaches : Reaches protocol.machine balanced initial settled :=
    reaches_of_advances h (hRun.lift id fun _ _ => Advance.of_inf)
  have hInvariant := invariant_of_reaches hReaches
  have hStuck : ∀ frame ∈ settled.frames, ∀ choice ≠ .spurious,
      protocol.exec frame choice settled.shared = none := by
    intro frame hMem choice hChoice
    obtain ⟨thread, stack, hThread⟩ := exists_thread_of_mem (hReaches.covered covers nofun) hMem id
    exact Option.map_eq_none_iff.mp (stuck_of_settled hSettled hThread rfl ⟨trivial, hChoice⟩)
  refine ⟨fun frame hMem => ?_, fun hEnded => ?_⟩
  · obtain ⟨ticket, hAsleep, -⟩ := hInvariant.sound.settled hStuck frame hMem
    exact ⟨ticket, hAsleep⟩
  · exact settled.quiet_iff.mpr (hInvariant.woken.settled hInvariant.sound
      (hInvariant.counted.holds_iff.mpr hEnded) hStuck)

theorem waits_return_two_waiters : ∃ c : Config Group (Frame Op), .asleep 0 false ∈ c.frames ∧
    Acc (fun next before => Moves before next) c ∧
    ∀ settled, Relation.ReflTransGen Moves c settled → (∀ next, ¬Moves settled next) →
      (∀ frame ∈ settled.frames, ∃ ticket, frame = .asleep ticket false) ∧
        (settled.shared.value.added = settled.shared.value.ended → settled.quiet = true) := by
  have hRun : (protocol.machine.steps balanced initial twoWaiters).any
      (fun c => .asleep 0 false ∈ c.frames) = true := by
    decide +kernel
  obtain ⟨c, hReaches, hTest⟩ := exists_reaches_of_steps hRun
  exact ⟨c, of_decide_eq_true hTest, waits_return hReaches⟩

end Fuerte.WaitGroup

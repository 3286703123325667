import Fuerte.Library.Progress

/-! # Monitors

A mutex guards a value. Threads change the value under the mutex, or wait on a
condition variable until the value meets a condition. Nobody sleeps through the
moment when the condition becomes true, provided that whoever makes it true
notifies all waiters before letting go of the mutex.
-/

namespace Monitor

set_option autoImplicit false

open Interleaving

/-- What the changes of the guarded value are, which of them notify the waiters, and
what the waiters wait for. -/
structure Protocol (σ ι : Type) where
  update : ι → σ → σ × Bool
  holds : σ → Bool

/-- Whoever goes to sleep on the condition variable takes the next ticket; the threads
with a ticket below `notified` have been woken. -/
structure State (σ : Type) where
  value : σ
  locked : Bool
  tickets : Nat
  notified : Nat

def State.initial {σ : Type} (value : σ) : State σ := ⟨value, false, 0, 0⟩

/-- Where a thread is. Those from `update` to `unlock`, `check`, `loop`, `expired` and
`leave` hold the mutex. -/
inductive Frame (ι : Type) where
  | lock (op : ι)
  | update (op : ι)
  | notifyAll
  | unlock
  | lockToWait (timed : Bool)
  | check (timed : Bool)
  | loop (timed : Bool)
  | asleep (ticket : Nat) (timed : Bool)
  | relock (timed : Bool)
  | relockExpired
  | expired
  | leave (timed result : Bool)
  deriving DecidableEq, Repr

/-- How a thread on the condition variable wakes up. -/
inductive Choice where
  | proceed
  | spurious
  | timeout
  deriving DecidableEq, Repr

/-- What a thread comes to the monitor for. -/
inductive Call (ι : Type) where
  | update (op : ι)
  | wait (timed : Bool)
  deriving DecidableEq, Repr

def Call.frame {ι : Type} : Call ι → Frame ι
  | .update op => .lock op
  | .wait timed => .lockToWait timed

namespace Frame

variable {ι : Type}

@[simp] def inside : Frame ι → Bool
  | lock _ => false
  | update _ => true
  | notifyAll => true
  | unlock => true
  | lockToWait _ => false
  | check _ => true
  | loop _ => true
  | asleep _ _ => false
  | relock _ => false
  | relockExpired => false
  | expired => true
  | leave _ _ => true

@[simp] def waitsForMutex : Frame ι → Bool
  | lock _ => true
  | update _ => false
  | notifyAll => false
  | unlock => false
  | lockToWait _ => true
  | check _ => false
  | loop _ => false
  | asleep _ _ => false
  | relock _ => true
  | relockExpired => true
  | expired => false
  | leave _ _ => false

end Frame

variable {σ ι : Type}

namespace Protocol

variable (P : Protocol σ ι)

/-- The last component is where the thread goes on, if it does. -/
def exec : Frame ι → Choice → State σ → Option (State σ × Option (Frame ι))
  | .lock op, _, s => if s.locked then none else some ({ s with locked := true }, some (.update op))
  | .update op, _, s =>
    some ({ s with value := (P.update op s.value).1 },
      some (if (P.update op s.value).2 then .notifyAll else .unlock))
  | .notifyAll, _, s => some ({ s with notified := s.tickets }, some .unlock)
  | .unlock, _, s => some ({ s with locked := false }, none)
  | .lockToWait timed, _, s =>
    if s.locked then none else some ({ s with locked := true }, some (.check timed))
  | .check timed, _, s => some (s, some (if P.holds s.value then .leave timed true else .loop timed))
  | .loop timed, _, s =>
    if P.holds s.value then some (s, some (.leave timed true))
    else some ({ s with locked := false, tickets := s.tickets + 1 }, some (.asleep s.tickets timed))
  | .asleep ticket timed, .proceed, s =>
    if ticket < s.notified then some (s, some (.relock timed)) else none
  | .asleep _ timed, .spurious, s => some (s, some (.relock timed))
  | .asleep _ timed, .timeout, s => if timed then some (s, some .relockExpired) else none
  | .relock timed, _, s =>
    if s.locked then none else some ({ s with locked := true }, some (.loop timed))
  | .relockExpired, _, s =>
    if s.locked then none else some ({ s with locked := true }, some .expired)
  | .expired, _, s => some (s, some (.leave true (P.holds s.value)))
  | .leave _ _, _, s => some ({ s with locked := false }, none)

/-- Any number of threads that call the monitor whenever they like. -/
def machine : Machine (State σ) (Frame ι) Choice (Call ι) where
  exec _ frame choice s := (P.exec frame choice s).map fun next => (next.1, next.2.toList, [])
  enter call _ s := some (s, [call.frame])

end Protocol

/-! ## Safety -/

/-- How many threads hold the mutex. -/
def holders (frames : Multiset (Frame ι)) : Nat := (frames.map fun frame => frame.inside.toNat).sum

@[simp] theorem holders_cons (frame : Frame ι) (frames : Multiset (Frame ι)) :
    holders (frame ::ₘ frames) = frame.inside.toNat + holders frames := by
  simp [holders]

theorem not_inside_of_holders {frames : Multiset (Frame ι)} (h : holders frames = 0) {frame : Frame ι}
    (hMem : frame ∈ frames) : frame.inside = false := by
  obtain ⟨rest, rfl⟩ := Multiset.exists_cons_of_mem hMem
  rw [holders_cons, Nat.add_eq_zero_iff] at h
  exact Bool.toNat_eq_zero.mp h.1

/-- One thread at a time holds the mutex, and nobody leaves with a wrong result. -/
structure Sound (P : Protocol σ ι) (s : State σ) (frames : Multiset (Frame ι)) : Prop where
  exclusive : holders frames = s.locked.toNat
  notified_le : s.notified ≤ s.tickets
  ticketed : ∀ ticket timed, .asleep ticket timed ∈ frames → ticket < s.tickets
  truthful : ∀ timed result, .leave timed result ∈ frames → result = P.holds s.value
  untimed : ∀ result, .leave false result ∈ frames → result = true

variable {P : Protocol σ ι} {s s' : State σ} {frame : Frame ι} {choice : Choice}
  {next : Option (Frame ι)} {rest : Multiset (Frame ι)}

theorem Sound.alone (h : Sound P s (frame ::ₘ rest)) (hInside : frame.inside = true) :
    s.locked = true ∧ holders rest = 0 := by
  have hCount := h.exclusive
  rw [holders_cons, hInside] at hCount
  cases hLocked : s.locked with
  | false =>
    rw [hLocked, Bool.toNat_true, Bool.toNat_false] at hCount
    omega
  | true =>
    rw [hLocked, Bool.toNat_true] at hCount
    exact ⟨rfl, by omega⟩

theorem Sound.initial (value : σ) : Sound P (.initial value) (0 : Multiset (Frame ι)) where
  exclusive := rfl
  notified_le := le_rfl
  ticketed _ _ h := absurd h (Multiset.notMem_zero _)
  truthful _ _ h := absurd h (Multiset.notMem_zero _)
  untimed _ h := absurd h (Multiset.notMem_zero _)

theorem Sound.exec (h : Sound P s (frame ::ₘ rest)) (hExec : P.exec frame choice s = some (s', next)) :
    Sound P s' (↑next.toList + rest) := by
  have hExclusive := h.exclusive
  have hNotified := h.notified_le
  have hTicketed := fun ticket timed hMem => h.ticketed ticket timed (Multiset.mem_cons_of_mem hMem)
  have hTruthful := fun timed result hMem => h.truthful timed result (Multiset.mem_cons_of_mem hMem)
  have hUntimed := fun result hMem => h.untimed result (Multiset.mem_cons_of_mem hMem)
  rw [holders_cons] at hExclusive
  cases frame
  case update op =>
    obtain ⟨-, hAlone⟩ := h.alone rfl
    cases hExec
    refine ⟨?_, hNotified, ?_, fun timed result hLeave => ?_, ?_⟩
    · split <;> simpa using hExclusive
    · split <;> simpa using hTicketed
    · have hMem : Frame.leave timed result ∈ rest := by split at hLeave <;> simpa using hLeave
      exact absurd (not_inside_of_holders hAlone hMem) (by simp)
    · split <;> simpa using hUntimed
  case check timed =>
    cases hExec
    refine ⟨?_, hNotified, ?_, fun other result hLeave => ?_, ?_⟩
    · split <;> simpa using hExclusive
    · split <;> simpa using hTicketed
    · rcases Multiset.mem_add.mp hLeave with hLeave | hLeave
      · split at hLeave
        · rename_i hHolds
          simp_all
        · simp at hLeave
      · exact hTruthful other result hLeave
    · split <;> simpa using hUntimed
  case loop timed =>
    simp only [Protocol.exec] at hExec
    split at hExec
    · rename_i hHolds
      cases hExec
      exact ⟨by simpa using hExclusive, hNotified, by simpa using hTicketed,
        by simpa [hHolds] using hTruthful, by simpa using hUntimed⟩
    · cases hExec
      have hUnlocked : holders rest = 0 := (h.alone rfl).2
      refine ⟨by simpa using hUnlocked, hNotified.trans (Nat.le_succ _), ?_,
        by simpa using hTruthful, by simpa using hUntimed⟩
      intro ticket other hMem
      rcases Multiset.mem_add.mp hMem with hMem | hMem
      · simp only [Option.toList_some, Multiset.mem_coe, List.mem_singleton, Frame.asleep.injEq] at hMem
        exact hMem.1 ▸ Nat.lt_succ_self s.tickets
      · exact (hTicketed ticket other hMem).trans (Nat.lt_succ_self _)
  case expired =>
    cases hExec
    refine ⟨by simpa using hExclusive, hNotified, by simpa using hTicketed, fun timed result hLeave => ?_,
      by simpa using hUntimed⟩
    rcases Multiset.mem_add.mp hLeave with hLeave | hLeave
    · simp only [Option.toList_some, Multiset.mem_coe, List.mem_singleton, Frame.leave.injEq] at hLeave
      exact hLeave.2
    · exact hTruthful timed result hLeave
  case asleep ticket timed =>
    cases choice <;> simp only [Protocol.exec] at hExec
    all_goals try split at hExec
    all_goals cases hExec
    all_goals exact ⟨by simpa using hExclusive, hNotified, by simpa using hTicketed,
      by simpa using hTruthful, by simpa using hUntimed⟩
  case unlock =>
    cases hExec
    exact ⟨by simpa using (h.alone rfl).2, hNotified, by simpa using hTicketed,
      by simpa using hTruthful, by simpa using hUntimed⟩
  case leave timed result =>
    cases hExec
    exact ⟨by simpa using (h.alone rfl).2, hNotified, by simpa using hTicketed,
      by simpa using hTruthful, by simpa using hUntimed⟩
  all_goals simp only [Protocol.exec] at hExec
  all_goals (repeat' split at hExec)
  all_goals cases hExec
  all_goals refine ⟨?_, by first | exact hNotified | exact le_rfl, by simpa using hTicketed, by simpa using hTruthful, by simpa using hUntimed⟩
  all_goals simp_all

theorem Sound.call (h : Sound P s rest) (call : Call ι) : Sound P s (call.frame ::ₘ rest) := by
  cases call
  all_goals exact ⟨by simpa [Call.frame] using h.exclusive, h.notified_le, by simpa [Call.frame] using h.ticketed,
    by simpa [Call.frame] using h.truthful, by simpa [Call.frame] using h.untimed⟩

/-! ## Nobody sleeps through the notification -/

/-- While the condition holds, all who sleep have been woken, or are about to be. -/
def Woken (P : Protocol σ ι) (s : State σ) (frames : Multiset (Frame ι)) : Prop :=
  P.holds s.value = true → s.notified = s.tickets ∨ .notifyAll ∈ frames

theorem Woken.initial (value : σ) : Woken P (.initial value) (0 : Multiset (Frame ι)) :=
  fun _ => .inl rfl

theorem still_notifying (hFrame : frame ≠ .notifyAll) (more : Multiset (Frame ι))
    (h : s.notified = s.tickets ∨ .notifyAll ∈ frame ::ₘ rest) :
    s.notified = s.tickets ∨ .notifyAll ∈ more + rest :=
  h.imp_right fun hMem =>
    Multiset.mem_add.mpr (.inr ((Multiset.mem_cons.mp hMem).resolve_left hFrame.symm))

/-- The change that makes the condition true has to notify the waiters. -/
theorem Woken.exec (h : Woken P s (frame ::ₘ rest))
    (hUpdate : ∀ op, frame = .update op → P.holds (P.update op s.value).1 = true →
      (P.update op s.value).2 = true ∨ P.holds s.value = true)
    (hExec : P.exec frame choice s = some (s', next)) : Woken P s' (↑next.toList + rest) := by
  intro hHolds
  cases frame
  case update op =>
    cases hExec
    rcases hUpdate op rfl hHolds with hNotifies | hBefore
    · refine .inr (Multiset.mem_add.mpr (.inl ?_))
      simp [hNotifies]
    · exact still_notifying (by simp) _ (h hBefore)
  case notifyAll =>
    cases hExec
    exact .inl rfl
  case loop timed =>
    simp only [Protocol.exec] at hExec
    split at hExec
    · rename_i hBefore
      cases hExec
      exact still_notifying (by simp) _ (h hBefore)
    · rename_i hBefore
      cases hExec
      exact absurd hHolds hBefore
  case asleep ticket timed =>
    cases choice <;> simp only [Protocol.exec] at hExec
    all_goals try split at hExec
    all_goals cases hExec
    all_goals exact still_notifying (by simp) _ (h hHolds)
  all_goals simp only [Protocol.exec] at hExec
  all_goals (repeat' split at hExec)
  all_goals cases hExec
  all_goals exact still_notifying (by simp) _ (h hHolds)

/-! ## Progress -/

/-- What the code may still notify. -/
def mayNotify : Frame ι → Nat
  | .lock _ => 1
  | .update _ => 1
  | .notifyAll => 1
  | _ => 0

/-- How many steps a thread takes at most before it returns or falls asleep. Who has to
be woken to get on is at zero. -/
def weight (s : State σ) : Frame ι → Nat
  | .lock _ => 4
  | .update _ => 3
  | .notifyAll => 2
  | .unlock => 1
  | .lockToWait _ => 9
  | .check _ => 8
  | .loop _ => 7
  | .asleep ticket timed => if ticket < s.notified then 9 else if timed then 4 else 0
  | .relock _ => 8
  | .relockExpired => 3
  | .expired => 2
  | .leave _ _ => 1

theorem weight_of_notified (h : s'.notified = s.notified) (frame : Frame ι) :
    weight s' frame = weight s frame := by
  cases frame <;> simp only [weight, h]

theorem notified_of_exec (hFrame : frame ≠ .notifyAll) (hExec : P.exec frame choice s = some (s', next)) :
    s'.notified = s.notified := by
  cases frame
  case notifyAll => exact absurd rfl hFrame
  case asleep ticket timed =>
    cases choice <;> simp only [Protocol.exec] at hExec
    all_goals try split at hExec
    all_goals cases hExec
    all_goals rfl
  all_goals simp only [Protocol.exec] at hExec
  all_goals (repeat' split at hExec)
  all_goals cases hExec
  all_goals rfl

/-- Every step but a spurious wake-up brings its thread closer to its end. -/
theorem weight_lower (hTicketed : s.notified ≤ s.tickets) (hChoice : choice ≠ .spurious)
    (hExec : P.exec frame choice s = some (s', next)) :
    next.elim 0 (weight s') < weight s frame ∧ next.elim 0 mayNotify ≤ mayNotify frame := by
  cases frame
  case asleep ticket timed =>
    cases choice
    case spurious => exact absurd rfl hChoice
    all_goals simp only [Protocol.exec] at hExec
    all_goals split at hExec
    all_goals cases hExec
    all_goals simp_all [weight, mayNotify]
    all_goals (repeat' split)
    all_goals omega
  case update op =>
    cases hExec
    split <;> simp [weight, mayNotify]
  case check timed =>
    cases hExec
    split <;> simp [weight, mayNotify]
  case loop timed =>
    simp only [Protocol.exec] at hExec
    split at hExec
    · cases hExec
      simp [weight, mayNotify]
    · cases hExec
      simp only [Option.elim_some, weight, mayNotify, Nat.not_lt.mpr hTicketed, if_false, le_refl,
        and_true]
      split <;> omega
  all_goals simp only [Protocol.exec] at hExec
  all_goals (repeat' split at hExec)
  all_goals cases hExec
  all_goals simp [weight, mayNotify]

/-- A thread that holds the mutex, finds it free or has been woken gets on, without a
spurious wake-up. -/
theorem exec_ne_none (hMutex : frame.waitsForMutex = true → s.locked = false)
    (hAwake : ∀ ticket, frame = .asleep ticket false → ticket < s.notified) :
    ∃ choice, choice ≠ .spurious ∧ P.exec frame choice s ≠ none := by
  cases frame
  case asleep ticket timed =>
    cases timed with
    | true => exact ⟨.timeout, nofun, by simp [Protocol.exec]⟩
    | false => exact ⟨.proceed, nofun, by simp [Protocol.exec, hAwake ticket rfl]⟩
  all_goals refine ⟨.proceed, nofun, ?_⟩
  all_goals simp only [Protocol.exec, Frame.waitsForMutex, true_implies] at hMutex ⊢
  all_goals (repeat' split)
  all_goals simp_all

/-- Notifications to come, and within them the steps to go. -/
def work (s : State σ) (frames : Multiset (Frame ι)) : Nat ×ₗ Nat :=
  toLex ((frames.map mayNotify).sum, (frames.map (weight s)).sum)

theorem work_lower (hSound : Sound P s (frame ::ₘ rest)) (hChoice : choice ≠ .spurious)
    (hExec : P.exec frame choice s = some (s', next)) :
    work s' ((next.toList : Multiset (Frame ι)) + rest) < work s (frame ::ₘ rest) := by
  obtain ⟨hWeight, hNotify⟩ := weight_lower hSound.notified_le hChoice hExec
  have hNext : ∀ f : Frame ι → Nat,
      (((next.toList : Multiset (Frame ι)) + rest).map f).sum = next.elim 0 f + (rest.map f).sum := by
    intro f
    cases next <;> simp
  rw [work, work, Prod.Lex.toLex_lt_toLex, hNext, hNext, Multiset.map_cons, Multiset.map_cons,
    Multiset.sum_cons, Multiset.sum_cons]
  by_cases hFrame : frame = .notifyAll
  · subst hFrame
    cases hExec
    exact .inl (by simp [mayNotify])
  · rw [funext (weight_of_notified (notified_of_exec hFrame hExec))] at hWeight ⊢
    rcases hNotify.lt_or_eq with hLess | hSame
    · exact .inl (Nat.add_lt_add_right hLess _)
    · exact .inr ⟨by rw [hSame], Nat.add_lt_add_right hWeight _⟩

/-- Where no thread gets on, all are asleep and have not been woken. -/
theorem Sound.settled {frames : Multiset (Frame ι)} (h : Sound P s frames)
    (hStuck : ∀ frame ∈ frames, ∀ choice ≠ .spurious, P.exec frame choice s = none) :
    ∀ frame ∈ frames, ∃ ticket, frame = .asleep ticket false ∧ s.notified ≤ ticket := by
  have hFree : s.locked = false := by
    by_contra hLocked
    have hHolders := h.exclusive
    rw [Bool.not_eq_false] at hLocked
    rw [hLocked, holders] at hHolders
    obtain ⟨frame, hMem, hInside⟩ : ∃ frame ∈ frames, frame.inside = true := by
      by_contra hNone
      push Not at hNone
      rw [Multiset.map_congr rfl fun frame hMem => by rw [Bool.not_eq_true _ |>.mp (hNone frame hMem)]]
        at hHolders
      simp at hHolders
    obtain ⟨choice, hChoice, hExec⟩ : ∃ choice, choice ≠ .spurious ∧ P.exec frame choice s ≠ none :=
      exec_ne_none (fun hWaits => by cases frame <;> simp at hInside hWaits)
        (fun ticket hAsleep => by rw [hAsleep] at hInside; cases hInside)
    exact hExec (hStuck frame hMem choice hChoice)
  intro frame hMem
  by_contra hAwake
  push Not at hAwake
  obtain ⟨choice, hChoice, hExec⟩ := exec_ne_none (P := P) (fun _ => hFree) hAwake
  exact hExec (hStuck frame hMem choice hChoice)

/-- While the condition holds, nobody is left when all have got as far as they can. -/
theorem Woken.settled {frames : Multiset (Frame ι)} (h : Woken P s frames) (hSound : Sound P s frames)
    (hHolds : P.holds s.value = true)
    (hStuck : ∀ frame ∈ frames, ∀ choice ≠ .spurious, P.exec frame choice s = none) : frames = 0 := by
  have hAsleep := hSound.settled hStuck
  refine Multiset.eq_zero_of_forall_notMem fun frame hMem => ?_
  obtain ⟨ticket, rfl, hLate⟩ := hAsleep frame hMem
  rcases h hHolds with hAll | hNotifies
  · exact absurd (hSound.ticketed ticket false hMem) (by omega)
  · obtain ⟨other, hOther, -⟩ := hAsleep _ hNotifies
    cases hOther

end Monitor

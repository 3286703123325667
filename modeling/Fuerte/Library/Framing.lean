import Mathlib.Data.List.Forall2

/-! # Incremental framing of a self-delimiting code

A receiver keeps the bytes it has not used yet, appends every read to them and
takes frames off the front while it finds one. When every code word is found
from its own symbols alone, the frames it finds do not depend on how the stream
was cut into reads.
-/

namespace Framing

set_option autoImplicit false

universe u v w

variable {α : Type u} {β : Type v} {γ : Type w}

/-- Take frames off the front of a buffer; `fuel` bounds their number. -/
def drain (next : List β → Option (α × List β)) : Nat → List β → List α × List β
  | 0, buffer => ([], buffer)
  | fuel + 1, buffer =>
    match next buffer with
    | none => ([], buffer)
    | some (frame, rest) =>
      let (frames, left) := drain next fuel rest
      (frame :: frames, left)

/-- Append each read to the buffer and drain it. -/
def feed (next : List β → Option (α × List β)) : List β → List (List β) → List α × List β
  | buffer, [] => ([], buffer)
  | buffer, read :: reads =>
    let (frames, left) := drain next (buffer ++ read).length (buffer ++ read)
    let (more, last) := feed next left reads
    (frames ++ more, last)

/-- Every frame uses up at least one symbol. -/
def Shrinking (next : List β → Option (α × List β)) : Prop :=
  ∀ buffer frame rest, next buffer = some (frame, rest) → rest.length < buffer.length

/-- The word `encode c` is found, whatever follows it, exactly when it is there
as a whole, and the frame found is one that `Decoded` relates to `c`. -/
structure Delimits (next : List β → Option (α × List β)) (encode : γ → List β)
    (Decoded : γ → α → Prop) (c : γ) : Prop where
  nonempty : encode c ≠ []
  whole : ∀ rest, ∃ frame, next (encode c ++ rest) = some (frame, rest) ∧ Decoded c frame
  incomplete : ∀ front, front <+: encode c → front ≠ encode c → next front = none

variable {next : List β → Option (α × List β)} {encode : γ → List β} {Decoded : γ → α → Prop}

theorem drain_of_none {buffer : List β} (h : next buffer = none) (fuel : Nat) :
    drain next fuel buffer = ([], buffer) := by
  cases fuel with
  | zero => rfl
  | succ fuel => rw [drain, h]

theorem drain_of_some {buffer rest : List β} {frame : α} (h : next buffer = some (frame, rest))
    (fuel : Nat) :
    drain next (fuel + 1) buffer =
      (frame :: (drain next fuel rest).1, (drain next fuel rest).2) := by
  rw [drain, h]

/-- A drain needs no more fuel than there are symbols. -/
theorem drain_of_le (hShrink : Shrinking next) (fuel : Nat) (buffer : List β)
    (hFuel : buffer.length ≤ fuel) : drain next fuel buffer = drain next buffer.length buffer := by
  induction fuel using Nat.strongRecOn generalizing buffer with
  | _ fuel ih =>
    cases h : next buffer with
    | none => rw [drain_of_none h, drain_of_none h]
    | some found =>
      have hShort := hShrink buffer found.1 found.2 h
      obtain ⟨length, hLength⟩ : ∃ length, buffer.length = length + 1 :=
        ⟨buffer.length - 1, by omega⟩
      obtain ⟨fuel, rfl⟩ : ∃ less, fuel = less + 1 := ⟨fuel - 1, by omega⟩
      rw [hLength, drain_of_some h, drain_of_some h, ih fuel (Nat.lt_succ_self _) found.2 (by omega),
        ih length (by omega) found.2 (by omega)]

/-- The bytes at hand are less than the next code word. -/
def Pending (encode : γ → List β) (buffer : List β) (todo : List γ) : Prop :=
  buffer <+: todo.flatMap encode ∧ ∀ c rest, todo = c :: rest → buffer.length < (encode c).length

theorem next_nil (hShrink : Shrinking next) : next [] = none := by
  cases h : next [] with
  | none => rfl
  | some found => exact absurd (hShrink [] found.1 found.2 h) (Nat.not_lt_zero _)

/-- A drain of a front part of a stream of code words finds the words that are
there as a whole and leaves less than the next one. -/
theorem drain_front (hShrink : Shrinking next) (todo : List γ)
    (hCode : ∀ c ∈ todo, Delimits next encode Decoded c)
    (buffer : List β) (hFront : buffer <+: todo.flatMap encode) (fuel : Nat)
    (hFuel : buffer.length ≤ fuel) :
    ∃ done left, todo = done ++ left ∧
      List.Forall₂ Decoded done (drain next fuel buffer).1 ∧
      buffer = done.flatMap encode ++ (drain next fuel buffer).2 ∧
      Pending encode (drain next fuel buffer).2 left := by
  induction todo generalizing buffer fuel with
  | nil =>
    have hEmpty : buffer = [] := by simpa using hFront
    subst hEmpty
    rw [drain_of_none (next_nil hShrink)]
    exact ⟨[], [], rfl, .nil, rfl, by simp [Pending]⟩
  | cons c todo ih =>
    have hc := hCode c List.mem_cons_self
    rw [List.flatMap_cons] at hFront
    by_cases hLength : buffer.length < (encode c).length
    · have hPrefix : buffer <+: encode c :=
        List.prefix_of_prefix_length_le hFront (List.prefix_append _ _) (Nat.le_of_lt hLength)
      have hNone : next buffer = none :=
        hc.incomplete buffer hPrefix (fun h => by rw [h] at hLength; omega)
      rw [drain_of_none hNone]
      refine ⟨[], c :: todo, rfl, .nil, rfl, by rwa [List.flatMap_cons], ?_⟩
      intro c' rest h
      cases h
      exact hLength
    · have hPrefix : encode c <+: buffer :=
        List.prefix_of_prefix_length_le (List.prefix_append _ _) hFront (by omega)
      obtain ⟨tail, rfl⟩ := hPrefix
      obtain ⟨frame, hNext, hDecoded⟩ := hc.whole tail
      have hPos : 0 < (encode c).length := List.length_pos_iff.mpr hc.nonempty
      rw [List.length_append] at hFuel
      obtain ⟨fuel, rfl⟩ : ∃ m, fuel = m + 1 := ⟨fuel - 1, by omega⟩
      obtain ⟨done, left, hTodo, hDone, hTail, hPending⟩ :=
        ih (fun d hd => hCode d (List.mem_cons_of_mem c hd)) tail
          ((List.prefix_append_right_inj _).mp hFront) fuel (by omega)
      rw [drain_of_some hNext]
      refine ⟨c :: done, left, by rw [hTodo, List.cons_append], .cons hDecoded hDone, ?_, hPending⟩
      rw [List.flatMap_cons, List.append_assoc, ← hTail]

/-- However a stream of code words is cut into reads, feeding the reads one after
the other finds the words in order and leaves nothing behind. -/
theorem feed_stream (hShrink : Shrinking next) (reads : List (List β)) (todo : List γ)
    (hCode : ∀ c ∈ todo, Delimits next encode Decoded c) (buffer : List β)
    (hPending : Pending encode buffer todo)
    (hStream : buffer ++ reads.flatten = todo.flatMap encode) :
    List.Forall₂ Decoded todo (feed next buffer reads).1 ∧ (feed next buffer reads).2 = [] := by
  induction reads generalizing todo buffer with
  | nil =>
    rw [List.flatten_nil, List.append_nil] at hStream
    cases todo with
    | nil => exact ⟨.nil, hStream⟩
    | cons c todo =>
      have hShort := hPending.2 c todo rfl
      rw [hStream, List.flatMap_cons, List.length_append] at hShort
      omega
  | cons read reads ih =>
    rw [List.flatten_cons, ← List.append_assoc] at hStream
    obtain ⟨done, left, rfl, hDone, hBuffer, hLeft⟩ :=
      drain_front hShrink todo hCode (buffer ++ read) ⟨_, hStream⟩ _ (Nat.le_refl _)
    rw [hBuffer, List.flatMap_append, List.append_assoc] at hStream
    obtain ⟨hRest, hEmpty⟩ := ih left (fun c hc => hCode c (List.mem_append_right done hc))
      (drain next (buffer ++ read).length (buffer ++ read)).2 hLeft (List.append_cancel_left hStream)
    exact ⟨List.rel_append hDone hRest, hEmpty⟩

/-- What has been found stays found when more is read. -/
theorem feed_append (next : List β → Option (α × List β)) (buffer : List β)
    (reads more : List (List β)) :
    feed next buffer (reads ++ more) =
      ((feed next buffer reads).1 ++ (feed next (feed next buffer reads).2 more).1,
        (feed next (feed next buffer reads).2 more).2) := by
  induction reads generalizing buffer with
  | nil => rfl
  | cons read reads ih => simp only [List.cons_append, feed, ih, List.append_assoc]

end Framing

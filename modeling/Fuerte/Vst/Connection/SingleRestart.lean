import Fuerte.Vst.Connection.Established

/-! # One restart for every broken connection

The asserts of `restartConnection` and `initSocket` hold, and no socket is given
up twice, as long as loops are created only while the connection is up.
-/

namespace Fuerte.Vst.Connection

set_option autoImplicit false

open Interleaving

/-- Every restart is that of another established socket, and at its entry, as at
that of `initSocket`, what the asserts say is true. -/
structure SingleRestart (s : Shared) (frames : Multiset Frame) : Prop where
  once : s.history.restarts.Nodup
  established : none ∉ s.history.restarts
  withoutLoops : ∀ error, .restartConnection error ∈ frames → s.readLoop = none ∧ s.writeLoop = none
  oneAttempt : load attempt frames ≤ 1
  withoutSocket : .initSocket ∈ frames → s.socket = none ∧ s.sslSocket = none

/-- Between the entry of `restartConnection` and the end of `shutdownSocket`. -/
def closing : Frame → Nat
  | .stopWriting _ _ | .stopReading _ _ | .shutdownSocket _ _ => 1
  | _ => 0

/-- The sockets that `restartConnection` has found. -/
structure Restarts (s : Shared) (frames : Multiset Frame) : Prop where
  nodup : s.history.restarts.Nodup
  issued : ∀ entry ∈ s.history.restarts, ∃ id, entry = some id ∧ id < s.socketCount
  untouched : load closing frames = 0 → s.socket ≠ none → s.socket ∉ s.history.restarts

section Steps

variable {platform : Platform} {configuration : Configuration} {thread : Nat} {frame : Frame}
  {choice : Choice} {s s' : Shared} {rest before after : Multiset Frame} {frames : List Frame}
  {spawned : List (List Frame)}

theorem closing_le_attempt (frame : Frame) : closing frame ≤ attempt frame := by
  cases frame <;> simp [closing, attempt]

theorem Restarts.of_same (h : Restarts s before) (hHistory : s'.history.restarts = s.history.restarts)
    (hSocket : s'.socket = s.socket) (hCount : s'.socketCount = s.socketCount)
    (hClosing : load closing before ≤ load closing after) : Restarts s' after := by
  constructor <;> simp only [hHistory, hSocket, hCount]
  · exact h.nodup
  · exact h.issued
  · exact fun hNone => h.untouched (by omega)

theorem Restarts.step (hI : Restarts s (frame ::ₘ rest)) (hE : Established s (frame ::ₘ rest))
    (h : Step platform configuration thread frame choice s s' frames spawned) :
    Restarts s' (↑(frames ++ spawned.flatten) + rest) := by
  cases h
  all_goals try (refine hI.of_same rfl rfl rfl ?_ <;> simp [closing])
  -- the socket found here is established, and its only attempt is this one
  case restartConnection error =>
    obtain ⟨id, hSocket, -⟩ := hE.sockets.phases (.restartConnection error) (Multiset.mem_cons_self _ _)
    have hAttempts := hE.loops.attempts
    have hClosing := load_le_load closing_le_attempt rest
    simp only [load_cons, attempt] at hAttempts
    have hNotIn : s.socket ∉ s.history.restarts :=
      hI.untouched (by simp only [load_cons, closing]; omega) (by simp [hSocket])
    refine ⟨?_, ?_, ?_⟩
    · exact List.nodup_append.mpr ⟨hI.nodup, List.nodup_singleton _, by grind⟩
    · intro entry hEntry
      rcases List.mem_append.mp hEntry with hOld | hNew
      · exact hI.issued entry hOld
      · obtain rfl := List.mem_singleton.mp hNew
        exact ⟨id, hSocket, hE.sockets.issued id hSocket⟩
    · simp [closing]
  -- a new socket has a number that has not been used
  case initSocket =>
    refine ⟨hI.nodup, ?_, ?_⟩
    · intro entry hEntry
      obtain ⟨id, hid, hLt⟩ := hI.issued entry hEntry
      exact ⟨id, hid, Nat.lt_succ_of_lt hLt⟩
    · intro _ _ hOld
      obtain ⟨id, hid, hLt⟩ := hI.issued _ hOld
      cases hid
      exact absurd hLt (Nat.lt_irrefl _)
  case handshakeFailed | shutdownSocket =>
    exact ⟨hI.nodup, hI.issued, fun _ hSome => absurd rfl hSome⟩

end Steps

section Machine

variable (platform : Platform) (configuration : Configuration)

theorem restarts_preserved : Preserved (machine platform configuration) loopsWhileUp
    fun s frames => Established s frames ∧ Restarts s frames := by
  refine (established_preserved platform configuration).and ?_ ?_
  · intro thread frame choice s rest s' frames spawned hE hI _ hExec
    exact hI.step hE (step_of_exec hExec)
  · intro event quiet s rest s' frames _ hI _ _ hEnter
    rcases enter_cases hEnter with ⟨_, rfl, rfl⟩ | ⟨_, _, _, _, rfl, rfl⟩ <;>
      exact hI.of_same rfl rfl rfl (by simp [closing])

theorem restarts_initial : Restarts initial.shared initial.frames := by
  constructor <;> simp [initial]

variable {platform configuration}

/-- **A single restart per broken connection**, in every run in which loops are
created only while the connection is up. -/
theorem single_restart {c : Config Shared Frame}
    (h : Reaches (machine platform configuration) loopsWhileUp initial c) :
    SingleRestart c.shared c.frames := by
  obtain ⟨⟨hLoops, hSockets⟩, hRestarts⟩ :=
    h.invariant (restarts_preserved platform configuration) ⟨established_initial, restarts_initial⟩
  refine ⟨hRestarts.nodup, ?_, ?_, hLoops.attempts, ?_⟩
  · intro hNone
    obtain ⟨_, hid, _⟩ := hRestarts.issued none hNone
    cases hid
  · intro error hFrame
    have hAttempt : 1 ≤ load attempt c.frames := le_load attempt hFrame
    constructor
    · by_contra hLoop
      have := (hLoops.read hLoop).1
      omega
    · by_contra hLoop
      have := (hLoops.write hLoop).1
      omega
  · intro hFrame
    have hNone : c.shared.socket = none := hSockets.phases .initSocket hFrame
    exact ⟨hNone, hSockets.ssl.trans hNone⟩

/-- The read of the first request fails and the connection is about to restart. -/
theorem single_restart_read_error :
    ∃ c, Reaches (machine shortPlatform {}) loopsWhileUp initial c ∧
      c.shared.history.restarts = [some 0] ∧ SingleRestart c.shared c.frames := by
  have hRun : ((machine shortPlatform {}).steps loopsWhileUp initial
      (establish ++ sendFirst ++ fail 6 ++ proceed 6 3)).any
      (fun c => c.shared.history.restarts = [some 0]) = true := by
    decide +kernel
  obtain ⟨c, hReaches, hTest⟩ := exists_reaches_of_steps hRun
  exact ⟨c, hReaches, of_decide_eq_true hTest, single_restart hReaches⟩

def restarting : Frame → Nat
  | .restartConnection _ => 1
  | _ => 0

/-- `_connected` is still set after the read has failed: a request that another
thread sends now creates a write loop before `restartConnection` is entered. -/
theorem double_loop_at_restart :
    ¬ ∀ c, Reaches (machine shortPlatform {}) .all initial c → SingleRestart c.shared c.frames := by
  intro hAll
  have hRun : ((machine shortPlatform {}).steps .all initial
      (establish ++ sendFirst ++ fail 6 ++ proceed 6 2 ++ [.enter .thread] ++
        send 9 versionRequest ++ proceed 9 4)).any
      (fun c => 0 < load restarting c.frames ∧ c.shared.writeLoop ≠ none) = true := by
    decide +kernel
  obtain ⟨c, hReaches, hTest⟩ := exists_reaches_of_steps hRun
  obtain ⟨hRestarting, hLoop⟩ := of_decide_eq_true hTest
  obtain ⟨frame, hFrame, hPos⟩ := exists_of_load_pos _ hRestarting
  cases frame with
  | restartConnection error => exact hLoop ((hAll c hReaches).withoutLoops error hFrame).2
  | _ => cases hPos

end Machine

end Fuerte.Vst.Connection

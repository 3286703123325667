import Fuerte.Vst.Connection.Loops

/-! # Which stream the bytes take

The protocol header and the two loops use the TCP socket, also after a TLS
handshake: with TLS nothing is sent in the clear only as long as no handshake
succeeds.
-/

namespace Fuerte.Vst.Connection

set_option autoImplicit false

open Interleaving

def handshakes : Frame → Choice → Bool
  | .awaitHandshake _, .proceed => true
  | _, _ => false

/-- No TLS handshake succeeds. -/
def noHandshake : Guard Shared Frame Choice Event where
  run _ frame choice _ _ := handshakes frame choice = false
  enter _ _ _ := True

instance (thread : Nat) (frame : Frame) (choice : Choice) (s : Shared) (frames : Multiset Frame) :
    Decidable (noHandshake.run thread frame choice s frames) :=
  inferInstanceAs (Decidable (_ = _))

instance (event : Event) (s : Shared) (frames : Multiset Frame) :
    Decidable (noHandshake.enter event s frames) :=
  inferInstanceAs (Decidable True)

/-- Everything but the frames of user code, of the setup up to the handshake, and
of the shutdown after a failure there. -/
def beyondHandshake : Frame → Nat
  | .userCode | .createRequestItem _ | .addToQueue _ | .testConnected | .requestsLeftQueue
  | .requestsLeftStore | .startResolveHost | .awaitResolve | .initSocket | .awaitConnect _
  | .startSSLHandshake | .awaitHandshake _ | .handshakeFailed | .onFailure _ | .stopWriting _ _
  | .stopReading _ _ | .shutdownSocket _ _ | .cancelAll _ _ | .cancelItems _ _ _ | .reconnect
  | .moveRequest _ _ _ | .invoke _ _ _ _ | .authenticationCallback _ => 0
  | _ => 1

/-- Nothing has been sent or received, and nobody is about to. -/
structure Silent (s : Shared) (frames : Multiset Frame) : Prop where
  frames : load beyondHandshake frames = 0
  connected : s.connected = false
  transfers : s.history.transfers = []

section Steps

variable {platform : Platform} {configuration : Configuration} {thread : Nat} {frame : Frame}
  {choice : Choice} {s s' : Shared} {rest : Multiset Frame} {frames : List Frame}
  {spawned : List (List Frame)}

theorem Silent.step (hI : Silent s (frame ::ₘ rest)) (hSSL : configuration.ssl = true)
    (hGuard : noHandshake.run thread frame choice s (frame ::ₘ rest))
    (h : Step platform configuration thread frame choice s s' frames spawned) :
    Silent s' (↑(frames ++ spawned.flatten) + rest) := by
  obtain ⟨hFrames, hConnected, hTransfers⟩ := hI
  rw [load_cons] at hFrames
  have hFrame : beyondHandshake frame = 0 := by omega
  have hRest : load beyondHandshake rest = 0 := by omega
  cases h
  -- most frames are either beyond the handshake or lead to nothing beyond it
  all_goals try (exact absurd hFrame Nat.one_ne_zero)
  all_goals try (
    refine ⟨?_, hConnected, hTransfers⟩
    simpa [beyondHandshake] using hRest)
  case throws => exact ⟨by simpa [hFrame] using hRest, hConnected, hTransfers⟩
  case testConnected hTrue => exact absurd (hConnected.symm.trans hTrue) Bool.false_ne_true
  case connectedTCP hNot => exact absurd (hNot.symm.trans hSSL) Bool.false_ne_true
  case handshakeDone => cases hGuard

/-- The only stream there are transfers on is the TCP socket. -/
theorem transfers_step (h : Step platform configuration thread frame choice s s' frames spawned)
    (hI : ∀ transfer ∈ s.history.transfers, transfer.1 = .tcp) :
    ∀ transfer ∈ s'.history.transfers, transfer.1 = .tcp := by
  cases h
  all_goals try exact hI
  case finishInitialization | asyncRead | asyncWrite =>
    intro transfer hTransfer
    rcases List.mem_append.mp hTransfer with hOld | hNew
    · exact hI transfer hOld
    · rw [List.mem_singleton.mp hNew]

end Steps

section Machine

variable {platform : Platform} {configuration : Configuration} {c : Config Shared Frame}

theorem silent_preserved (hSSL : configuration.ssl = true) :
    Preserved (machine platform configuration) noHandshake Silent where
  exec _ _ _ _ _ _ _ _ h hGuard hExec := h.step hSSL hGuard (step_of_exec hExec)
  enter _ _ _ _ _ _ h _ _ hEnter := by
    obtain ⟨hFrames, hConnected, hTransfers⟩ := h
    rcases enter_cases hEnter with ⟨_, rfl, rfl⟩ | ⟨_, _, _, _, rfl, rfl⟩ <;>
      exact ⟨by simpa [beyondHandshake] using hFrames, hConnected, hTransfers⟩

theorem silent_initial : Silent initial.shared initial.frames :=
  ⟨by simp [initial, Config.frames, beyondHandshake], rfl, rfl⟩

/-- Whatever a connection sends or receives goes through the raw socket. -/
theorem transfers_raw (h : Reaches (machine platform configuration) .all initial c) :
    ∀ transfer ∈ c.shared.history.transfers, transfer.1 = .tcp := by
  refine h.invariant (I := fun s _ => ∀ transfer ∈ s.history.transfers, transfer.1 = .tcp) ⟨?_, ?_⟩
    nofun
  · intro _ _ _ _ _ _ _ _ hI _ hExec
    exact transfers_step (step_of_exec hExec) hI
  · intro _ _ _ _ _ _ hI _ _ hEnter
    rcases enter_cases hEnter with ⟨_, rfl, _⟩ | ⟨_, _, _, _, rfl, _⟩ <;> exact hI

/-- **Encryption.** With TLS, as long as no handshake succeeds, nothing goes past
the SSL stream: nothing is sent or received at all. -/
theorem encryption_not_bypassed (hSSL : configuration.ssl = true)
    (h : Reaches (machine platform configuration) noHandshake initial c) :
    ∀ transfer ∈ c.shared.history.transfers, transfer.1 = .ssl := by
  rw [(h.invariant (silent_preserved hSSL) silent_initial).transfers]
  nofun

def withTLS : Configuration where
  ssl := true

/-- The handshake fails, and the connection closes the socket. -/
theorem encryption_not_bypassed_handshake_failed :
    ∃ c, Reaches (machine shortPlatform withTLS) noHandshake initial c ∧
      (c.shared.sockets 0).connected = true ∧ (c.shared.sockets 0).closed = true ∧
      ∀ transfer ∈ c.shared.history.transfers, transfer.1 = .ssl := by
  have hRun : ((machine shortPlatform withTLS).steps noHandshake initial
      (proceed 0 1 ++ proceed 1 2 ++ proceed 2 2 ++ fail 3 ++ proceed 3 1)).any
      (fun c => (c.shared.sockets 0).connected = true ∧ (c.shared.sockets 0).closed = true) =
        true := by
    decide +kernel
  obtain ⟨c, hReaches, hTest⟩ := exists_reaches_of_steps hRun
  obtain ⟨hConnected, hClosed⟩ := of_decide_eq_true hTest
  exact ⟨c, hReaches, hConnected, hClosed, encryption_not_bypassed rfl hReaches⟩

/-- After the handshake the protocol header is written to the raw socket. -/
theorem header_in_clear :
    ¬ ∀ c, Reaches (machine shortPlatform withTLS) .all initial c →
      ∀ transfer ∈ c.shared.history.transfers, transfer.1 = .ssl := by
  intro hAll
  have hRun : ((machine shortPlatform withTLS).steps .all initial
      (proceed 0 1 ++ proceed 1 2 ++ proceed 2 2 ++ proceed 3 2)).any
      (fun c => (.tcp, 0) ∈ c.shared.history.transfers) = true := by
    decide +kernel
  obtain ⟨c, hReaches, hTest⟩ := exists_reaches_of_steps hRun
  exact absurd (hAll c hReaches _ (of_decide_eq_true hTest)) (by decide)

end Machine

end Fuerte.Vst.Connection

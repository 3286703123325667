import Fuerte.Vst.Connection.Loops

/-! # The verdict on an authentication

The failure of a connection becomes permanent when an authentication request is
completed with an error. What the server has answered plays no part in it.
-/

namespace Fuerte.Vst.Connection

set_option autoImplicit false

open Interleaving

/-- A status from 200 to 299. -/
def succeeded (response : Response) : Bool :=
  200 ≤ response.statusCode ∧ response.statusCode < 300

/-- The server has answered an authentication request, and not with a success. -/
def rejected (call : Invocation) : Bool :=
  call.owner = .authentication ∧ ∃ response ∈ call.response, succeeded response = false

def deciding : Frame → Nat
  | .authenticationCallback _ => 1
  | _ => 0

/-- When no authentication callback is running, the failure is permanent exactly
if the server has rejected an authentication request. -/
def AuthenticationVerdict (s : Shared) (frames : Multiset Frame) : Prop :=
  load deciding frames = 0 →
    (s.permanentFailure = true ↔ ∃ call ∈ s.calls, rejected call = true)

/-- The frame completes an authentication request, and not with a success. -/
def refuses (s : Shared) : Frame → Bool
  | .invoke id error _ response =>
    (s.items id).any (fun item => !item.callback.invoked && item.callback.cb == .authentication) &&
      !(error == .noError && response.any succeeded)
  | _ => false

/-- Every authentication request is completed without an error, and with a success. -/
def logsIn : Guard Shared Frame Choice Event where
  run _ frame _ s _ := refuses s frame = false
  enter _ _ _ := True

instance (thread : Nat) (frame : Frame) (choice : Choice) (s : Shared) (frames : Multiset Frame) :
    Decidable (logsIn.run thread frame choice s frames) :=
  inferInstanceAs (Decidable (_ = _))

instance (event : Event) (s : Shared) (frames : Multiset Frame) :
    Decidable (logsIn.enter event s frames) :=
  inferInstanceAs (Decidable True)

/-! ## What makes a failure permanent -/

/-- The callback of an authentication request that is about to report an error. -/
def failing : Frame → Nat
  | .authenticationCallback error => if error = .noError then 0 else 1
  | _ => 0

def failed (call : Invocation) : Prop := call.owner = .authentication ∧ call.error ≠ 0

/-- The failure is permanent, or about to be, exactly if an authentication request
has been completed with an error. -/
def FailureDecided (s : Shared) (frames : Multiset Frame) : Prop :=
  s.permanentFailure = true ∨ 0 < load failing frames ↔ ∃ call ∈ s.calls, failed call

section Steps

variable {platform : Platform} {configuration : Configuration} {thread : Nat} {frame : Frame}
  {choice : Choice} {s s' : Shared} {rest before after : Multiset Frame} {frames : List Frame}
  {spawned : List (List Frame)}

theorem FailureDecided.of_same (h : FailureDecided s before)
    (hFailure : s'.permanentFailure = s.permanentFailure) (hCalls : s'.calls = s.calls)
    (hFailing : load failing after = load failing before) : FailureDecided s' after := by
  rw [FailureDecided, hFailure, hCalls, hFailing]
  exact h

theorem exists_failed_append (calls : List Invocation) (call : Invocation) :
    (∃ c ∈ calls ++ [call], failed c) ↔ (∃ c ∈ calls, failed c) ∨ failed call := by
  simp only [List.mem_append, List.mem_singleton]
  constructor
  · rintro ⟨c, hOld | rfl, hFailed⟩
    · exact .inl ⟨c, hOld, hFailed⟩
    · exact .inr hFailed
  · rintro (⟨c, hOld, hFailed⟩ | hFailed)
    · exact ⟨c, .inl hOld, hFailed⟩
    · exact ⟨call, .inr rfl, hFailed⟩

theorem FailureDecided.step (hI : FailureDecided s (frame ::ₘ rest))
    (h : Step platform configuration thread frame choice s s' frames spawned) :
    FailureDecided s' (↑(frames ++ spawned.flatten) + rest) := by
  cases h
  all_goals try (refine hI.of_same rfl rfl ?_ <;> simp [failing])
  case invokeUser hOwner _ =>
    have hNot : ∀ call : Invocation, call.owner = .user → ¬ failed call := by
      rintro call hUser ⟨hAuthentication, -⟩
      exact CallbackOwner.noConfusion (hUser.symm.trans hAuthentication)
    rw [FailureDecided, exists_failed_append, or_iff_left (hNot _ hOwner)]
    simpa [FailureDecided, failing] using hI
  case invokeAuthentication error _ _ _ _ hOwner _ =>
    rw [FailureDecided, exists_failed_append]
    by_cases hError : error = .noError
    · subst hError
      have hNot : ∀ call : Invocation, call.error = 0 → ¬ failed call := fun _ h hFailed => hFailed.2 h
      rw [or_iff_left (hNot _ rfl)]
      simpa [FailureDecided, failing] using hI
    · refine iff_of_true (.inr ?_) (.inr ⟨hOwner, mt (errorToInt_eq_zero_iff error).mp hError⟩)
      exact load_next_pos _ List.mem_cons_self (by simp [failing, hError]) _
  case authenticationFailed error hError =>
    have hCall := hI.mp (.inr (by simp only [load_cons, failing, if_neg hError]; omega))
    exact iff_of_true (.inl rfl) hCall

end Steps

section Accepted

variable {platform : Platform} {configuration : Configuration} {thread : Nat} {frame : Frame}
  {choice : Choice} {s s' : Shared} {rest : Multiset Frame} {frames : List Frame}
  {spawned : List (List Frame)}

/-- The call neither reports an error of an authentication nor its rejection. -/
def harmless (call : Invocation) : Prop := ¬ failed call ∧ rejected call = false

theorem harmless_step (hI : ∀ call ∈ s.calls, harmless call) (hGuard : refuses s frame = false)
    (h : Step platform configuration thread frame choice s s' frames spawned) :
    ∀ call ∈ s'.calls, harmless call := by
  cases h
  all_goals try exact hI
  case invokeUser hOwner _ =>
    intro call hCall
    rcases List.mem_append.mp hCall with hOld | hNew
    · exact hI call hOld
    · rw [List.mem_singleton.mp hNew]
      simp [harmless, failed, rejected, hOwner]
  case invokeAuthentication id error request response item hInvoked hOwner hItem =>
    intro call hCall
    rcases List.mem_append.mp hCall with hOld | hNew
    · exact hI call hOld
    · rw [List.mem_singleton.mp hNew]
      obtain ⟨rfl, hSucceeded⟩ : error = .noError ∧ response.any succeeded = true := by
        simpa [refuses, hItem, hInvoked, hOwner] using hGuard
      obtain ⟨result, rfl, hResult⟩ := (Option.any_eq_true _ _).mp hSucceeded
      simp [harmless, failed, rejected, errorToInt, hResult]

end Accepted

/-! ## Every run -/

section Machine

variable {platform : Platform} {configuration : Configuration} {c : Config Shared Frame}

theorem failureDecided_preserved :
    Preserved (machine platform configuration) .all FailureDecided where
  exec _ _ _ _ _ _ _ _ h _ hExec := h.step (step_of_exec hExec)
  enter _ _ _ _ _ _ h _ _ hEnter := by
    rcases enter_cases hEnter with ⟨_, rfl, rfl⟩ | ⟨_, _, _, _, rfl, rfl⟩ <;>
      exact h.of_same rfl rfl (by simp [failing])

theorem harmless_preserved : Preserved (machine platform configuration) logsIn
    fun s _ => ∀ call ∈ s.calls, harmless call where
  exec _ _ _ _ _ _ _ _ h hGuard hExec := harmless_step h hGuard (step_of_exec hExec)
  enter _ _ _ _ _ _ h _ _ hEnter := by
    rcases enter_cases hEnter with ⟨_, rfl, _⟩ | ⟨_, _, _, _, rfl, _⟩ <;> exact h

theorem failureDecided_initial : FailureDecided initial.shared initial.frames := by
  refine iff_of_false ?_ ?_
  · simp [initial, Config.frames, failing]
  · rintro ⟨call, hCall, -⟩
    cases hCall

theorem harmless_initial : ∀ call ∈ initial.shared.calls, harmless call := by
  simp [initial]

/-- What really makes the failure permanent, in every run. -/
theorem permanentFailure_iff {G : Guard Shared Frame Choice Event}
    (h : Reaches (machine platform configuration) G initial c) (hDecided : load deciding c.frames = 0) :
    c.shared.permanentFailure = true ↔ ∃ call ∈ c.shared.calls, failed call := by
  have hNone : load failing c.frames = 0 :=
    Nat.le_zero.mp (hDecided ▸ load_le_load (fun frame => by
      cases frame <;> simp only [failing, deciding, Nat.le_refl]
      split <;> omega) _)
  have hIff : FailureDecided c.shared c.frames :=
    h.invariant (failureDecided_preserved.under G) failureDecided_initial
  rw [FailureDecided, hNone] at hIff
  exact (or_iff_left (Nat.lt_irrefl 0)).symm.trans hIff

/-- **The verdict on an authentication**, in every run in which no authentication
request ends with an error or is answered with anything but a success. -/
theorem authentication_verdict (h : Reaches (machine platform configuration) logsIn initial c) :
    AuthenticationVerdict c.shared c.frames := by
  intro hDecided
  have hHarmless : ∀ call ∈ c.shared.calls, harmless call :=
    h.invariant harmless_preserved harmless_initial
  rw [permanentFailure_iff h hDecided]
  apply iff_of_false
  · rintro ⟨call, hCall, hFailed⟩
    exact (hHarmless call hCall).1 hFailed
  · rintro ⟨call, hCall, hRejected⟩
    exact Bool.false_ne_true ((hHarmless call hCall).2.symm.trans hRejected)

/-- The server accepts the login. -/
theorem authentication_verdict_accepted :
    ∃ c, Reaches (machine shortPlatform basicAuthentication) logsIn initial c ∧
      c.shared.calls ≠ [] ∧ AuthenticationVerdict c.shared c.frames := by
  have hRun : ((machine shortPlatform basicAuthentication).steps logsIn initial
      (establish ++ proceed 3 7 ++ receive 5 (answer 1 200) ++ proceed 5 9)).any
      (fun c => c.shared.calls ≠ []) = true := by
    decide +kernel
  obtain ⟨c, hReaches, hTest⟩ := exists_reaches_of_steps hRun
  exact ⟨c, hReaches, of_decide_eq_true hTest, authentication_verdict hReaches⟩

/-- Neither does a rejected login make the failure permanent, nor is it left
alone by a read error while the authentication request is in flight. -/
theorem verdict_ignores_answer :
    (¬ ∀ c, Reaches (machine shortPlatform basicAuthentication) .all initial c →
      load deciding c.frames = 0 → (∃ call ∈ c.shared.calls, rejected call = true) →
        c.shared.permanentFailure = true) ∧
    ¬ ∀ c, Reaches (machine shortPlatform basicAuthentication) .all initial c →
      load deciding c.frames = 0 → c.shared.permanentFailure = true →
        ∃ call ∈ c.shared.calls, rejected call = true := by
  constructor
  · intro hAll
    have hRun : ((machine shortPlatform basicAuthentication).steps .all initial
        (establish ++ proceed 3 7 ++ receive 5 (answer 1 401) ++ proceed 5 9)).any
        (fun c => load deciding c.frames = 0 ∧ (∃ call ∈ c.shared.calls, rejected call = true) ∧
          c.shared.permanentFailure = false) = true := by
      decide +kernel
    obtain ⟨c, hReaches, hTest⟩ := exists_reaches_of_steps hRun
    obtain ⟨hDecided, hRejected, hNot⟩ := of_decide_eq_true hTest
    exact Bool.false_ne_true (hNot.symm.trans (hAll c hReaches hDecided hRejected))
  · intro hAll
    have hRun : ((machine shortPlatform basicAuthentication).steps .all initial
        (establish ++ proceed 3 7 ++ fail 5 ++ proceed 5 11)).any
        (fun c => load deciding c.frames = 0 ∧ c.shared.permanentFailure = true ∧
          ¬ ∃ call ∈ c.shared.calls, rejected call = true) = true := by
      decide +kernel
    obtain ⟨c, hReaches, hTest⟩ := exists_reaches_of_steps hRun
    obtain ⟨hDecided, hPermanent, hNot⟩ := of_decide_eq_true hTest
    exact hNot (hAll c hReaches hDecided hPermanent)

end Machine

end Fuerte.Vst.Connection

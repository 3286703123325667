import Fuerte.Http.LockDiscipline
import Fuerte.Vst.Connection.LockDiscipline

/-! # User code and the mutexes of connections

Both connections share the store, and with it `cancelAll`, which completes what
is stored with the store locked.
-/

namespace Fuerte

set_option autoImplicit false

open Interleaving Vst

/-- Runs in which `cancelAll` never gets to user code keep to the lock discipline. -/
theorem lock_discipline (platform : Platform) (configuration : Connection.Configuration)
    (http : Http.Connection.ConnectionConfiguration) (uninitialised : Nat) :
    (∀ c, Reaches (Connection.machine platform configuration)
        (Connection.cancelsQuietly configuration) Connection.initial c →
      Connection.LockDiscipline c) ∧
    ∀ c, Reaches (Http.Connection.machine http uninitialised) Http.Connection.cancelsQuietly
        Http.Connection.initial c →
      Http.Connection.LockDiscipline c :=
  ⟨fun _ h => Connection.lockDiscipline_of_reaches h,
    fun _ h => Http.Connection.lockDiscipline_of_reaches h⟩

/-- The connections complete a request each, and then report a failure. -/
theorem lock_discipline_completions :
    (∃ c, Connection.LockDiscipline c ∧ c.shared.calls ≠ [] ∧ c.shared.socket = none) ∧
      ∃ c, Http.Connection.LockDiscipline c ∧ c.shared.calls ≠ [] ∧ c.shared.failures ≠ [] := by
  obtain ⟨hVst, hHttp⟩ :=
    lock_discipline shortPlatform { onFailure := true } { onFailure := true } 0
  constructor
  · have hRun : ((Connection.machine shortPlatform { onFailure := true }).steps
        (Connection.cancelsQuietly { onFailure := true }) Connection.initial
        (Connection.establish ++ Connection.sendFirst ++
          Connection.receive 6 (Connection.answer 1 200) ++ Connection.proceed 6 8 ++
          Connection.fail 8 ++ Connection.proceed 8 10)).any
        (fun c => c.shared.calls ≠ [] ∧ c.shared.socket = none) = true := by decide +kernel
    obtain ⟨c, hReaches, hTest⟩ := exists_reaches_of_steps hRun
    exact ⟨c, hVst c hReaches, of_decide_eq_true hTest⟩
  · have hRun : ((Http.Connection.machine { onFailure := true } 0).steps
        Http.Connection.cancelsQuietly Http.Connection.initial
        ([.enter .thread, .run 0 (.sendRequest versionRequest)] ++
          List.replicate 3 (.run 0 .proceed) ++ [.run 1 (.done { rc := .couldntConnect })] ++
          List.replicate 4 (.run 1 .proceed))).any
        (fun c => c.shared.calls ≠ [] ∧ c.shared.failures ≠ []) = true := by decide +kernel
    obtain ⟨c, hReaches, hTest⟩ := exists_reaches_of_steps hRun
    exact ⟨c, hHttp c hReaches, of_decide_eq_true hTest⟩

/-- A read error completes the only request in flight with the store locked. The callback
asks for the requests that are left, and waits for ever. -/
theorem callback_waits_for_its_own_thread :
    ∃ c, Reaches (Connection.machine shortPlatform {}) .all Connection.initial c ∧
      (∃ call ∈ c.shared.calls, call.owner = .user ∧ call.held = [.messageStore]) ∧
      c.shared.held 6 = [.messageStore] ∧
      (∃ frame stack, c.threads[6]? = some (frame :: stack) ∧
        Connection.waitsFor frame = some .messageStore) ∧
      ∀ choice, (Connection.machine shortPlatform {}).step c (.run 6 choice) = none := by
  have hRun : ((Connection.machine shortPlatform {}).steps .all Connection.initial
      (Connection.establish ++ Connection.sendFirst ++ Connection.fail 6 ++
        Connection.proceed 6 10 ++ [.run 6 .requestsLeft] ++ Connection.proceed 6 1)).any
      (fun c => (∃ call ∈ c.shared.calls, call.owner = .user ∧ call.held = [.messageStore]) ∧
        c.shared.held 6 = [.messageStore] ∧
        ((c.threads[6]?.bind List.head?).bind Connection.waitsFor) = some .messageStore) = true := by
    decide +kernel
  obtain ⟨c, hReaches, hTest⟩ := exists_reaches_of_steps hRun
  obtain ⟨hCall, hHeld, hWaits⟩ := of_decide_eq_true hTest
  obtain ⟨frame, hFrame, hWaits⟩ := Option.bind_eq_some_iff.mp hWaits
  obtain ⟨stack, hThread, hHead⟩ := Option.bind_eq_some_iff.mp hFrame
  obtain ⟨rest, rfl⟩ := List.head?_eq_some_iff.mp hHead
  refine ⟨c, hReaches, hCall, hHeld, ⟨frame, rest, hThread, hWaits⟩, fun choice => ?_⟩
  have hNone : Connection.perform shortPlatform {} 6 frame choice c.shared = none := by
    apply Connection.perform_of_waiting hWaits
    exact hHeld ▸ List.mem_singleton_self _
  simp only [Machine.step, hThread, Connection.machine, hNone, ite_self]

end Fuerte

import Fuerte.Http.RequestsLeft
import Fuerte.Vst.Connection.RequestsLeft

/-! # The number of unfinished requests

Both connections are asked how many requests are left while none of their code
executes. The VST connection counts what it has; the HTTP connection repeats what
curl has reported last.
-/

namespace Fuerte

set_option autoImplicit false

open Interleaving

section

variable {httpConfiguration : Http.Connection.ConnectionConfiguration} {uninitialised : Nat}
  {platform : Vst.Platform} {configuration : Vst.Connection.Configuration}
  {c : Config Http.RequestsLeft.Shared Http.RequestsLeft.Frame}
  {d : Config Vst.Connection.Shared Vst.Connection.Frame}

/-- **The number of requests left.** The HTTP connection is right exactly if curl
has been run since the last request was added and no completion is posted. The VST
connection counts its own authentication requests as well, and is right exactly
if there are none. -/
theorem requests_left
    (hHttp : Reaches (Http.RequestsLeft.machine httpConfiguration uninitialised)
      Http.RequestsLeft.reportsInOrder Http.RequestsLeft.initial c)
    (hAlive : c.shared.destroyed = false) (hHttpIdle : Http.RequestsLeft.Idle c.frames)
    (hVst : Reaches (Vst.Connection.machine platform configuration) Vst.Connection.insertionsApart
      Vst.Connection.initial d)
    (hVstIdle : Vst.Connection.Idle d.frames) :
    (c.shared.requestsLeft = (Http.RequestsLeft.unfinished c.shared.toShared).length ↔
      c.shared.added = [] ∧ c.frames.filterMap Http.RequestsLeft.posted = 0) ∧
    Vst.Connection.requestsLeft d.shared = (Vst.Connection.unfinished d.shared).length ∧
    (Vst.Connection.requestsLeft d.shared = (Vst.Connection.accepted d.shared).length ↔
      ∀ id ∈ d.shared.sendQueue ++ d.shared.messageStore, d.shared.ofUser id = true) := by
  have hPerm := Vst.Connection.perm_unfinished hVst hVstIdle
  refine ⟨Http.RequestsLeft.requestsLeft_iff hHttp hAlive hHttpIdle, ?_,
    Vst.Connection.requestsLeft_eq_accepted_iff hPerm⟩
  rw [← hPerm.length_eq, List.length_append]
  rfl

end

/-! ## Runs -/

/-- The next steps of a thread of an HTTP connection. -/
def httpProceed (thread steps : Nat) : List (Label Http.RequestsLeft.Choice Http.RequestsLeft.Event) :=
  List.replicate steps (.run thread (.connection .proceed))

/-- A new thread sends a request and goes on with user code. -/
def httpSend (thread : Nat) : List (Label Http.RequestsLeft.Choice Http.RequestsLeft.Event) :=
  [.enter .thread, .run thread (.connection (.sendRequest Vst.versionRequest))] ++
    httpProceed thread 3

/-- Curl is run, and these transfers end. -/
def runCurl (thread : Nat) (done : List MessageID) :
    List (Label Http.RequestsLeft.Choice Http.RequestsLeft.Event) :=
  [.enter .socketAction, .run thread .proceed] ++
    done.map (fun id => .run thread (.done id { rc := .ok })) ++
    List.replicate (3 + 2 * done.length) (.run thread .proceed)

/-- Two requests are with curl, and the first request of a VST connection is in flight. -/
theorem requests_left_in_flight :
    ∃ (c : Config Http.RequestsLeft.Shared Http.RequestsLeft.Frame)
      (d : Config Vst.Connection.Shared Vst.Connection.Frame),
      c.shared.requestsLeft = 2 ∧ Vst.Connection.requestsLeft d.shared = 1 ∧
      c.shared.requestsLeft = (Http.RequestsLeft.unfinished c.shared.toShared).length ∧
      Vst.Connection.requestsLeft d.shared = (Vst.Connection.accepted d.shared).length := by
  have hHttpRun : ((Http.RequestsLeft.machine {} 0).steps Http.RequestsLeft.reportsInOrder
      Http.RequestsLeft.initial (httpSend 0 ++ httpSend 1 ++ runCurl 2 [])).any
      (fun c => c.shared.requestsLeft = 2 ∧ c.shared.destroyed = false ∧
        Http.RequestsLeft.Idle c.frames ∧ c.shared.added = [] ∧
        c.frames.filterMap Http.RequestsLeft.posted = 0) = true := by
    decide +kernel
  have hVstRun : ((Vst.Connection.machine Vst.shortPlatform {}).steps Vst.Connection.insertionsApart
      Vst.Connection.initial (Vst.Connection.establish ++ Vst.Connection.sendFirst)).any
      (fun d => Vst.Connection.requestsLeft d.shared = 1 ∧ Vst.Connection.Idle d.frames ∧
        ∀ id ∈ d.shared.sendQueue ++ d.shared.messageStore, d.shared.ofUser id = true) = true := by
    decide +kernel
  obtain ⟨c, hHttp, hTest⟩ := exists_reaches_of_steps hHttpRun
  obtain ⟨hTwo, hAlive, hHttpIdle, hCurl⟩ := of_decide_eq_true hTest
  obtain ⟨d, hVst, hVstTest⟩ := exists_reaches_of_steps hVstRun
  obtain ⟨hOne, hVstIdle, hUsers⟩ := of_decide_eq_true hVstTest
  obtain ⟨hCount, -, hAccepted⟩ := requests_left hHttp hAlive hHttpIdle hVst hVstIdle
  exact ⟨c, d, hTwo, hOne, hCount.mpr hCurl, hAccepted.mpr hUsers⟩

/-- No request is left, although one has been sent and curl has not been run yet,
or its completion has only been posted. And one is left, although none has been sent. -/
theorem requests_left_miscounted :
    (∃ c, Reaches (Http.RequestsLeft.machine {} 0) .all Http.RequestsLeft.initial c ∧
      c.shared.destroyed = false ∧ Http.RequestsLeft.Idle c.frames ∧ c.shared.requestsLeft = 0 ∧
      c.shared.added = [1] ∧ Http.RequestsLeft.unfinished c.shared.toShared = [1]) ∧
    (∃ c, Reaches (Http.RequestsLeft.machine {} 0) .all Http.RequestsLeft.initial c ∧
      c.shared.destroyed = false ∧ Http.RequestsLeft.Idle c.frames ∧ c.shared.requestsLeft = 0 ∧
      c.frames.filterMap Http.RequestsLeft.posted = {1} ∧
      Http.RequestsLeft.unfinished c.shared.toShared = [1]) ∧
    ∃ d, Reaches (Vst.Connection.machine Vst.shortPlatform Vst.Connection.basicAuthentication) .all
        Vst.Connection.initial d ∧
      Vst.Connection.Idle d.frames ∧ Vst.Connection.requestsLeft d.shared = 1 ∧
      Vst.Connection.accepted d.shared = [] := by
  refine ⟨?_, ?_, ?_⟩
  · have hRun : ((Http.RequestsLeft.machine {} 0).steps .all Http.RequestsLeft.initial
        (httpSend 0)).any
        (fun c => c.shared.destroyed = false ∧ Http.RequestsLeft.Idle c.frames ∧
          c.shared.requestsLeft = 0 ∧ c.shared.added = [1] ∧
          Http.RequestsLeft.unfinished c.shared.toShared = [1]) = true := by
      decide +kernel
    obtain ⟨c, hReaches, hTest⟩ := exists_reaches_of_steps hRun
    exact ⟨c, hReaches, of_decide_eq_true hTest⟩
  · have hRun : ((Http.RequestsLeft.machine {} 0).steps .all Http.RequestsLeft.initial
        (httpSend 0 ++ runCurl 1 [1])).any
        (fun c => c.shared.destroyed = false ∧ Http.RequestsLeft.Idle c.frames ∧
          c.shared.requestsLeft = 0 ∧ c.frames.filterMap Http.RequestsLeft.posted = {1} ∧
          Http.RequestsLeft.unfinished c.shared.toShared = [1]) = true := by
      decide +kernel
    obtain ⟨c, hReaches, hTest⟩ := exists_reaches_of_steps hRun
    exact ⟨c, hReaches, of_decide_eq_true hTest⟩
  · have hRun : ((Vst.Connection.machine Vst.shortPlatform
        Vst.Connection.basicAuthentication).steps .all Vst.Connection.initial
        (Vst.Connection.proceed 0 1 ++ Vst.Connection.proceed 1 2 ++ Vst.Connection.proceed 2 2 ++
          Vst.Connection.proceed 3 18)).any
        (fun d => Vst.Connection.Idle d.frames ∧ Vst.Connection.requestsLeft d.shared = 1 ∧
          Vst.Connection.accepted d.shared = []) = true := by
      decide +kernel
    obtain ⟨d, hReaches, hTest⟩ := exists_reaches_of_steps hRun
    exact ⟨d, hReaches, of_decide_eq_true hTest⟩

end Fuerte

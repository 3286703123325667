import Fuerte.Http.CurlMultiAsio

/-! # Waiting for the sockets of curl

A wait that has ended is not started again. Only where curl answers an event by
asking for something else, or where a further wait is pending, is a socket
watched all the time.
-/

namespace Fuerte.Http.CurlMultiAsio

set_option autoImplicit false

open Interleaving

namespace Shared

/-- The socket is open and curl wants to hear of this direction. -/
def wants (s : Shared) (socket : CurlSocket) (direction : Direction) : Bool :=
  s.isOpen socket && (s.requested socket).any fun action => direction ∈ action.directions

def wait (s : Shared) (socket : CurlSocket) (direction : Direction) : Frame :=
  .awaitEvent socket (s.cancelled socket) direction

end Shared

/-- When curl returns from an event in a direction that it still wants, without
having called `socket_cb` for the socket, then a further wait is pending. -/
def eventsAnswered : Guard Shared Frame Choice Event where
  run _ frame choice s frames :=
    match frame, choice with
    | .multi (some (socket, direction)) false, .proceed =>
      s.wants socket direction = true → s.wait socket direction ∈ frames
    | _, _ => True
  enter _ _ _ := True

instance (thread : Nat) (frame : Frame) (choice : Choice) (s : Shared) (frames : Multiset Frame) :
    Decidable (eventsAnswered.run thread frame choice s frames) := by
  unfold eventsAnswered
  dsimp only
  split <;> infer_instance

instance (event : Event) (s : Shared) (frames : Multiset Frame) :
    Decidable (eventsAnswered.enter event s frames) :=
  inferInstanceAs (Decidable True)

/-- Somebody waits, or handles the end of the wait. -/
def Watched (s : Shared) (frames : Multiset Frame) : Prop :=
  ∀ socket direction, s.wants socket direction = true →
    s.wait socket direction ∈ frames ∨ Frame.eventCb socket direction ∈ frames ∨
      Frame.multi (some (socket, direction)) false ∈ frames

section Steps

variable {s : Shared} {frame : Frame} {rest more : Multiset Frame} {socket : CurlSocket}

theorem Watched.replace (h : Watched s (frame ::ₘ rest))
    (hWait : ∀ socket cancelled direction, frame ≠ .awaitEvent socket cancelled direction)
    (hEvent : ∀ socket direction, frame ≠ .eventCb socket direction)
    (hMulti : ∀ event, frame ≠ .multi (some event) false) : Watched s (more + rest) := by
  intro socket direction hWants
  simp only [Multiset.mem_add]
  rcases h socket direction hWants with hMem | hMem | hMem
  · rcases Multiset.mem_cons.mp hMem with hEqual | hMem
    · exact absurd hEqual.symm (hWait _ _ _)
    · exact .inl (.inr hMem)
  · rcases Multiset.mem_cons.mp hMem with hEqual | hMem
    · exact absurd hEqual.symm (hEvent _ _)
    · exact .inr (.inl (.inr hMem))
  · rcases Multiset.mem_cons.mp hMem with hEqual | hMem
    · exact absurd hEqual.symm (hMulti _)
    · exact .inr (.inr (.inr hMem))

/-- What concerns the other sockets does not change. -/
structure Elsewhere (s s' : Shared) (socket : CurlSocket) : Prop where
  isOpen : ∀ other, other ≠ socket → s'.isOpen other = s.isOpen other
  requested : ∀ other, other ≠ socket → s'.requested other = s.requested other
  cancelled : ∀ other, other ≠ socket → s'.cancelled other = s.cancelled other

theorem Elsewhere.wants {s' : Shared} (h : Elsewhere s s' socket) {other : CurlSocket}
    (hOther : other ≠ socket) (direction : Direction) :
    s'.wants other direction = s.wants other direction := by
  rw [Shared.wants, Shared.wants, h.isOpen other hOther, h.requested other hOther]

theorem elsewhere_cancel (s : Shared) (socket : CurlSocket) : Elsewhere s (s.cancel socket) socket := by
  rw [Shared.cancel]
  split
  · exact ⟨fun _ _ => rfl, fun _ _ => rfl, fun _ hOther => Function.update_of_ne hOther _ _⟩
  · exact ⟨fun _ _ => rfl, fun _ _ => rfl, fun _ _ => rfl⟩

/-- A callback takes care of its socket. An event of another socket stays as it is. -/
theorem Watched.callback {s' : Shared} {event : Option (CurlSocket × Direction)}
    {answered answered' : Bool} {waits : List Frame}
    (h : Watched s (.multi event answered ::ₘ rest)) (hElsewhere : Elsewhere s s' socket)
    (hOwn : ∀ direction, s'.wants socket direction = true → s'.wait socket direction ∈ waits)
    (hAnswered : ∀ e, event = some e → e.1 ≠ socket → answered' = answered) :
    Watched s' (↑(.multi event answered' :: waits) + rest) := by
  intro other direction hWants
  simp only [Multiset.mem_add, Multiset.mem_coe, List.mem_cons]
  by_cases hOther : other = socket
  · rw [hOther] at hWants ⊢
    exact .inl (.inl (.inr (hOwn direction hWants)))
  · rw [hElsewhere.wants hOther] at hWants
    have hWait : s'.wait other direction = s.wait other direction := by
      rw [Shared.wait, Shared.wait, hElsewhere.cancelled other hOther]
    rw [hWait]
    rcases h other direction hWants with hMem | hMem | hMem
    · rcases Multiset.mem_cons.mp hMem with hEqual | hMem
      · cases hEqual
      · exact .inl (.inr hMem)
    · rcases Multiset.mem_cons.mp hMem with hEqual | hMem
      · cases hEqual
      · exact .inr (.inl (.inr hMem))
    · rcases Multiset.mem_cons.mp hMem with hEqual | hMem
      · cases hEqual
        rw [hAnswered _ rfl hOther]
        exact .inr (.inr (.inl (.inl rfl)))
      · exact .inr (.inr (.inr hMem))

theorem elsewhere_removeSocket (s : Shared) (socket : CurlSocket) :
    Elsewhere s (removeSocket socket s) socket := by
  have h := elsewhere_cancel
    { s with socketInfo := Function.update s.socketInfo socket none } socket
  exact ⟨h.isOpen, h.requested, h.cancelled⟩

theorem setSocket_fst (socket : CurlSocket) (action : Action) (s : Shared) :
    (setSocket socket action s).1.isOpen = s.isOpen ∧
      (setSocket socket action s).1.requested = s.requested ∧
      (setSocket socket action s).1.cancelled = s.cancelled := by
  rw [setSocket]
  split <;> exact ⟨rfl, rfl, rfl⟩

/-- An open socket gets a wait for every direction of its action. -/
theorem setSocket_spec {action : Action} (hRequested : s.requested socket = some action) :
    Elsewhere s (setSocket socket action s).1 socket ∧
      ∀ direction, (setSocket socket action s).1.wants socket direction = true →
        (setSocket socket action s).1.wait socket direction ∈
          (setSocket socket action s).2.flatten := by
  obtain ⟨hOpen, hSame, hCancelled⟩ := setSocket_fst socket action s
  refine ⟨⟨fun _ _ => by rw [hOpen], fun _ _ => by rw [hSame], fun _ _ => by rw [hCancelled]⟩, ?_⟩
  intro direction hWants
  rw [Shared.wants, hOpen, hSame, hRequested, Bool.and_eq_true] at hWants
  obtain ⟨hIsOpen, hDirection⟩ := hWants
  rw [Shared.wait, hCancelled, setSocket, if_pos hIsOpen]
  refine List.mem_flatten.mpr ⟨_, List.mem_map.mpr ⟨direction, ?_, rfl⟩, List.mem_singleton.mpr rfl⟩
  exact of_decide_eq_true hDirection

theorem socketCb_spec {what : Action} (hRequested : s.requested socket = some what) :
    Elsewhere s (socketCb socket what s).1 socket ∧
      ∀ direction, (socketCb socket what s).1.wants socket direction = true →
        (socketCb socket what s).1.wait socket direction ∈ (socketCb socket what s).2.flatten := by
  rw [socketCb]
  split
  · rename_i hRemove
    refine ⟨elsewhere_removeSocket s socket, fun direction hWants => ?_⟩
    have hSame : (removeSocket socket s).requested socket = some .remove := by
      rw [removeSocket, Shared.cancel]
      split <;> exact hRequested.trans (congrArg some hRemove)
    rw [Shared.wants, hSame, Bool.and_eq_true] at hWants
    exact absurd hWants.2 (by simp [Action.directions])
  · split
    · obtain ⟨hElsewhere, hWaits⟩ := setSocket_spec
        (s := { s with socketInfo := Function.update s.socketInfo socket (some .none) }) hRequested
      exact ⟨⟨hElsewhere.isOpen, hElsewhere.requested, hElsewhere.cancelled⟩, hWaits⟩
    · exact setSocket_spec hRequested

theorem Elsewhere.of_requested {s' : Shared} {action : Option Action}
    (h : Elsewhere { s with requested := Function.update s.requested socket action } s' socket) :
    Elsewhere s s' socket :=
  ⟨h.isOpen, fun other hOther => (h.requested other hOther).trans (Function.update_of_ne hOther _ _),
    h.cancelled⟩

theorem elsewhere_openSocket (s : Shared) (socket : CurlSocket) :
    Elsewhere s (openSocket socket s) socket :=
  ⟨fun _ hOther => Function.update_of_ne hOther _ _,
    fun _ hOther => Function.update_of_ne hOther _ _, fun _ _ => rfl⟩

theorem elsewhere_closeSocket (s : Shared) (socket : CurlSocket) :
    Elsewhere s (closeSocket socket s) socket := by
  obtain ⟨hOpen, hRequested, hCancelled⟩ := elsewhere_cancel s socket
  exact ⟨fun other hOther => (Function.update_of_ne hOther _ _).trans (congrFun rfl other),
    hRequested, hCancelled⟩

end Steps

/-! ## Every run -/

theorem runMulti_eq {event : Option (CurlSocket × Direction)} {after frames : List Frame}
    {spawned : List (List Frame)} {s s' : Shared}
    (h : runMulti event after s = some (s', frames, spawned)) :
    s'.wants = s.wants ∧ s'.wait = s.wait ∧ frames = .multi event false :: after ∧ spawned = [] := by
  rw [runMulti] at h
  split at h
  · cases h
  · cases h
    exact ⟨rfl, rfl, rfl, rfl⟩

theorem Watched.of_runMulti {s s' : Shared} {frame : Frame} {rest : Multiset Frame}
    {event : Option (CurlSocket × Direction)} {after frames : List Frame}
    {spawned : List (List Frame)} (h : Watched s (frame ::ₘ rest))
    (hStep : runMulti event after s = some (s', frames, spawned))
    (hWait : ∀ socket cancelled direction, frame ≠ .awaitEvent socket cancelled direction)
    (hEvent : ∀ socket direction, frame = .eventCb socket direction →
      event = some (socket, direction))
    (hMulti : ∀ event, frame ≠ .multi (some event) false) :
    Watched s' (↑(frames ++ spawned.flatten) + rest) := by
  obtain ⟨hWants, hWaits, rfl, rfl⟩ := runMulti_eq hStep
  intro socket direction hWanted
  rw [hWants] at hWanted
  rw [hWaits]
  simp only [Multiset.mem_add, Multiset.mem_coe, List.mem_append, List.mem_cons]
  rcases h socket direction hWanted with hMem | hMem | hMem
  · rcases Multiset.mem_cons.mp hMem with hEqual | hMem
    · exact absurd hEqual.symm (hWait _ _ _)
    · exact .inl (.inr hMem)
  · rcases Multiset.mem_cons.mp hMem with hEqual | hMem
    · rw [hEvent _ _ hEqual.symm]
      exact .inr (.inr (.inl (.inl (.inl rfl))))
    · exact .inr (.inl (.inr hMem))
  · rcases Multiset.mem_cons.mp hMem with hEqual | hMem
    · exact absurd hEqual.symm (hMulti _)
    · exact .inr (.inr (.inr hMem))

theorem Watched.of_awaitEvent {s : Shared} {rest : Multiset Frame} {socket : CurlSocket}
    {cancelled : Nat} {direction : Direction}
    (h : Watched s (.awaitEvent socket cancelled direction ::ₘ rest)) :
    Watched s (.eventCb socket direction ::ₘ rest) := by
  intro other otherDirection hWants
  simp only [Multiset.mem_cons]
  rcases h other otherDirection hWants with hMem | hMem | hMem
  · rcases Multiset.mem_cons.mp hMem with hEqual | hMem
    · cases hEqual
      exact .inr (.inl (.inl rfl))
    · exact .inl (.inr hMem)
  · rcases Multiset.mem_cons.mp hMem with hEqual | hMem
    · cases hEqual
    · exact .inr (.inl (.inr hMem))
  · rcases Multiset.mem_cons.mp hMem with hEqual | hMem
    · cases hEqual
    · exact .inr (.inr (.inr hMem))

theorem Watched.of_return {s : Shared} {rest : Multiset Frame}
    {event : Option (CurlSocket × Direction)} {answered : Bool}
    (h : Watched s (.multi event answered ::ₘ rest))
    (hAnswered : ∀ socket direction, event = some (socket, direction) → answered = false →
      s.wants socket direction = true → s.wait socket direction ∈ rest) : Watched s rest := by
  intro socket direction hWants
  rcases h socket direction hWants with hMem | hMem | hMem
  · rcases Multiset.mem_cons.mp hMem with hEqual | hMem
    · cases hEqual
    · exact .inl hMem
  · rcases Multiset.mem_cons.mp hMem with hEqual | hMem
    · cases hEqual
    · exact .inr (.inl hMem)
  · rcases Multiset.mem_cons.mp hMem with hEqual | hMem
    · cases hEqual
      exact .inl (hAnswered socket direction rfl rfl hWants)
    · exact .inr (.inr hMem)

theorem Watched.of_multi {s s' : Shared} {rest : Multiset Frame}
    {event : Option (CurlSocket × Direction)} {answered : Bool} {choice : Choice}
    {frames : List Frame} {spawned : List (List Frame)} {thread : Nat}
    (h : Watched s (.multi event answered ::ₘ rest))
    (hGuard : eventsAnswered.run thread (.multi event answered) choice s
      (.multi event answered ::ₘ rest))
    (hStep : multi event answered choice s = some (s', frames, spawned)) :
    Watched s' (↑(frames ++ spawned.flatten) + rest) := by
  cases choice with
  | proceed =>
    cases hStep
    simp only [List.flatten_nil, List.append_nil, Multiset.coe_nil, zero_add]
    refine Watched.of_return (s := { s with multiMutex := false }) h ?_
    rintro socket direction rfl rfl hWants
    have hMem := hGuard hWants
    rcases Multiset.mem_cons.mp hMem with hEqual | hMem
    · cases hEqual
    · exact hMem
  | openSocket socket =>
    rw [multi] at hStep
    split at hStep
    · cases hStep
    · cases hStep
      refine h.callback (elsewhere_openSocket s socket) (fun direction hWants => ?_)
        fun _ _ _ => rfl
      simp only [Shared.wants, openSocket, Function.update_self, Option.any_none,
        Bool.and_false] at hWants
      cases hWants
  | socketCb socket what =>
    rw [multi] at hStep
    dsimp only at hStep
    split at hStep
    · cases hStep
    · cases hStep
      obtain ⟨hElsewhere, hWaits⟩ := socketCb_spec
        (s := { s with requested := Function.update s.requested socket (some what) })
        (Function.update_self socket (some what) s.requested)
      refine h.callback hElsewhere.of_requested hWaits ?_
      rintro e rfl hOther
      rw [Option.any_some, beq_eq_false_iff_ne.mpr hOther, Bool.or_false]
  | closeSocket socket =>
    cases hStep
    refine h.callback (elsewhere_closeSocket s socket) (fun direction hWants => ?_) fun _ _ _ => rfl
    simp only [Shared.wants, closeSocket, Function.update_self, Bool.false_and] at hWants
    cases hWants
  | done => cases hStep

theorem watched_preserved : Preserved machine eventsAnswered Watched where
  exec thread frame choice s rest s' frames spawned hWatched hGuard hStep := by
    change perform frame choice s = some (s', frames, spawned) at hStep
    cases frame with
    | addRequest => exact hWatched.of_runMulti hStep nofun nofun nofun
    | timerCb => exact hWatched.of_runMulti hStep nofun nofun nofun
    | awaitEvent socket cancelled direction =>
      cases hStep
      exact hWatched.of_awaitEvent
    | eventCb socket direction =>
      refine hWatched.of_runMulti hStep nofun ?_ nofun
      rintro _ _ hEqual
      cases hEqual
      rfl
    | multi event answered => exact hWatched.of_multi hGuard hStep
    | checkMultiInfo =>
      cases choice with
      | done => exact hWatched.of_runMulti hStep nofun nofun nofun
      | proceed =>
        cases hStep
        exact hWatched.replace nofun nofun nofun
      | openSocket | socketCb | closeSocket => cases hStep
  enter event quiet s rest s' frames hWatched _ _ hStep := by
    cases event <;> cases hStep <;> intro socket direction hWants
    all_goals
      simp only [Multiset.mem_add]
      rcases hWatched socket direction hWants with hMem | hMem | hMem
      · exact .inl (.inr hMem)
      · exact .inr (.inl (.inr hMem))
      · exact .inr (.inr (.inr hMem))

/-- No handler is executing. -/
def Idle (frames : Multiset Frame) : Prop :=
  ∀ frame ∈ frames, ∃ socket cancelled direction, frame = .awaitEvent socket cancelled direction

/-- Whenever no handler is executing, every direction that curl wants is waited for. -/
theorem socket_watched (c : Config Shared Frame)
    (h : Reaches machine eventsAnswered initial c) (hIdle : Idle c.frames) (socket : CurlSocket)
    (direction : Direction) (hWants : c.shared.wants socket direction = true) :
    c.shared.wait socket direction ∈ c.frames := by
  have hWatched : Watched c.shared c.frames := h.invariant watched_preserved nofun
  rcases hWatched socket direction hWants with hMem | hMem | hMem
  · exact hMem
  · obtain ⟨_, _, _, hEqual⟩ := hIdle _ hMem
    cases hEqual
  · obtain ⟨_, _, _, hEqual⟩ := hIdle _ hMem
    cases hEqual

/-- A request is added, the timer expires, and curl opens a socket and wants to
write to it. -/
def openForWriting : List (Label Choice Event) :=
  [.enter .addRequest, .run 0 .proceed, .run 0 .proceed, .enter .timer, .run 1 .proceed,
    .run 1 (.openSocket 5), .run 1 (.socketCb 5 .pollOut), .run 1 .proceed, .run 1 .proceed]

/-- When the socket is writable, curl asks to read from it. -/
theorem socket_watched_after_change :
    ∃ c, Reaches machine eventsAnswered initial c ∧ c.shared.wants 5 .read = true ∧
      c.shared.wait 5 .read ∈ c.frames := by
  have hRun : (machine.steps eventsAnswered initial (openForWriting ++
      [.run 2 .proceed, .run 2 .proceed, .run 2 (.socketCb 5 .pollIn), .run 2 .proceed,
        .run 2 .proceed])).any
      (fun c => c.shared.wants 5 .read = true ∧
        c.threads = [[], [], [], [.awaitEvent 5 0 .read]]) = true := by
    decide +kernel
  obtain ⟨c, hReaches, hTest⟩ := exists_reaches_of_steps hRun
  obtain ⟨hWants, hThreads⟩ := of_decide_eq_true hTest
  have hIdle : Idle c.frames := by
    intro frame hFrame
    rw [Config.frames, hThreads] at hFrame
    exact ⟨5, 0, .read, List.mem_singleton.mp hFrame⟩
  exact ⟨c, hReaches, hWants, socket_watched c hReaches hIdle 5 .read hWants⟩

/-- When the socket is writable, curl writes a part and wants to write on. -/
theorem socket_unwatched_after_event :
    ∃ c, Reaches machine .all initial c ∧ Idle c.frames ∧ c.shared.wants 5 .write = true ∧
      c.shared.wait 5 .write ∉ c.frames := by
  have hRun : (machine.steps .all initial (openForWriting ++
      [.run 2 .proceed, .run 2 .proceed, .run 2 .proceed, .run 2 .proceed])).any
      (fun c => c.shared.wants 5 .write = true ∧ c.threads = [[], [], []]) = true := by
    decide +kernel
  obtain ⟨c, hReaches, hTest⟩ := exists_reaches_of_steps hRun
  obtain ⟨hWants, hThreads⟩ := of_decide_eq_true hTest
  have hEmpty : c.frames = 0 := by rw [Config.frames, hThreads]; rfl
  refine ⟨c, hReaches, ?_, hWants, ?_⟩
  · intro frame hFrame
    rw [hEmpty] at hFrame
    exact absurd hFrame (Multiset.notMem_zero _)
  · rw [hEmpty]
    exact Multiset.notMem_zero _

end Fuerte.Http.CurlMultiAsio

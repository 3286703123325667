import Fuerte.Vst.Connection.Items

/-! # What a request's callback is called with

The request is moved out of its item before the flag of the callback is
exchanged. As long as an item's request has one owner, the item itself or the
path that will do the exchange next, every callback gets its own request.
-/

namespace Fuerte.Vst.Connection

set_option autoImplicit false

open Interleaving

def Shared.invoked (s : Shared) (id : MessageID) : Bool :=
  (s.items id).any fun item => item.callback.invoked

/-- The item whose flag a frame is about to exchange. -/
def exchanged : Frame → Option MessageID
  | .invoke id _ _ _ => some id
  | _ => none

/-- The frame has moved the request of the item and is about to pass it on. -/
def holding (id : MessageID) : Frame → Nat
  | .invoke other _ (some _) _ => if other = id then 1 else 0
  | _ => 0

/-- Whoever sets the flag of an item does so while no other path holds its request:
exchanges come in the order of the moves. -/
def exchangesInOrder : Guard Shared Frame Choice Event where
  run _ frame _ s frames := ∀ id ∈ exchanged frame, s.invoked id = false →
    load (holding id) frames ≤ holding id frame
  enter _ _ _ := True

instance (thread : Nat) (frame : Frame) (choice : Choice) (s : Shared) (frames : Multiset Frame) :
    Decidable (exchangesInOrder.run thread frame choice s frames) :=
  inferInstanceAs (Decidable (∀ id ∈ exchanged frame, _ → _))

instance (event : Event) (s : Shared) (frames : Multiset Frame) :
    Decidable (exchangesInOrder.enter event s frames) :=
  inferInstanceAs (Decidable True)

/-- Every callback is called at most once, with the request that it has been registered for
as `prepareForNetwork` has left it, and with a response to that request exactly if there is
no error. -/
structure CallbackContract (vpack : VelocyPack) (s : Shared) : Prop where
  once : ∀ id, (s.callsOf id).length ≤ 1
  request : ∀ call ∈ s.calls, ∃ request, s.history.accepted call.item = some request ∧
    request.messageID = call.item ∧
      call.request = some (RequestItem.networkRequest vpack request)
  success : ∀ call ∈ s.calls, call.error = 0 →
    ∃ response, call.response = some response ∧ response.messageID = call.item
  failure : ∀ call ∈ s.calls, call.error ≠ 0 → call.response = none

/-! ## Who has the request -/

/-- The request of an item, as it has been put into it. -/
def Shared.original (vpack : VelocyPack) (s : Shared) (id : MessageID) : Option Request :=
  (s.history.accepted id).map (RequestItem.networkRequest vpack)

/-- What `invoke` needs of an item: the request, and the callback with its flag. -/
def Shared.custody (s : Shared) (id : MessageID) : Option (Option Request × CallOnceRequestCallback) :=
  (s.items id).map fun item => (item.request, item.callback)

theorem Shared.invoked_eq (s : Shared) (id : MessageID) :
    s.invoked id = (s.custody id).any fun custody => custody.2.invoked := by
  simp [Shared.invoked, Shared.custody, Option.any_map]

theorem Shared.custody_update {s s' : Shared} {id : MessageID} {item : RequestItem}
    (h : s'.items = Function.update s.items id (some item)) (other : MessageID) :
    s'.custody other = if other = id then some (item.request, item.callback) else s.custody other := by
  rw [Shared.custody, h, Function.update_apply]
  split <;> rfl

theorem Shared.custody_same {s s' : Shared} {id : MessageID} {item after : RequestItem}
    (hItem : s.items id = some item) (hRequest : after.request = item.request)
    (hCallback : after.callback = item.callback)
    (h : s'.items = Function.update s.items id (some after)) (other : MessageID) :
    s'.custody other = s.custody other := by
  rw [Shared.custody_update h]
  split
  · rename_i hEq
    rw [hEq, Shared.custody, hItem, hRequest, hCallback]
    rfl
  · rfl

/-- The outcome a completing path brings along. -/
def Fits (id : MessageID) (error : ErrorCondition) (response : Option Response) : Prop :=
  (error = .noError → ∃ result, response = some result ∧ result.messageID = id) ∧
    (error ≠ .noError → response = none)

/-- What a frame carries belongs to the item it is about. -/
def Carries (vpack : VelocyPack) (s : Shared) : Frame → Prop
  | .moveRequest id error response => Fits id error response
  | .invoke id error request response => Fits id error response ∧
    match request with
    | some request => s.original vpack id = some request
    | none => ∀ request callback, s.custody id = some (request, callback) → request = none
  | .restartReading _ error _ | .restartWriting _ error _ | .restartConnection error
  | .stopWriting error _ | .stopReading error _ | .shutdownSocket error _ | .cancelAll error _
  | .cancelItems error _ _ => error ≠ .noError
  | _ => True

/-- The call passes on the request of its item, and what belongs to its error. -/
structure Honours (vpack : VelocyPack) (s : Shared) (call : Invocation) : Prop where
  request : ∃ request, s.history.accepted call.item = some request ∧
    request.messageID = call.item ∧ call.request = some (RequestItem.networkRequest vpack request)
  success : call.error = 0 → ∃ response, call.response = some response ∧ response.messageID = call.item
  failure : call.error ≠ 0 → call.response = none

/-- Until its callback is invoked, an item's request is in the item or with one
path that has moved it out. -/
structure Custody (vpack : VelocyPack) (s : Shared) (frames : Multiset Frame) : Prop where
  held : ∀ id request callback, s.custody id = some (request, callback) → callback.invoked = false →
    load (holding id) frames + (if request.isSome then 1 else 0) = 1
  own : ∀ id request callback, s.custody id = some (some request, callback) →
    s.original vpack id = some request
  numbered : ∀ id request, s.history.accepted id = some request → request.messageID = id
  carries : ∀ frame ∈ frames, Carries vpack s frame
  called : ∀ id, (s.callsOf id).length = if s.invoked id then 1 else 0
  honours : ∀ call ∈ s.calls, Honours vpack s call

section Steps

variable {platform : Platform} {configuration : Configuration} {vpack : VelocyPack} {thread : Nat}
  {frame : Frame} {choice : Choice} {s s' : Shared} {rest before after : Multiset Frame}
  {frames : List Frame} {spawned : List (List Frame)}

theorem original_eq (h : s'.history.accepted = s.history.accepted) :
    s'.original vpack = s.original vpack := by
  funext id
  rw [Shared.original, h, Shared.original]

theorem Honours.of_same {call : Invocation} (h : Honours vpack s call)
    (hAccepted : s'.history.accepted call.item = s.history.accepted call.item) :
    Honours vpack s' call where
  request := by
    rw [hAccepted]
    exact h.request
  success := h.success
  failure := h.failure

/-- A request that has been moved out does not come back. -/
theorem Carries.keep (h : Carries vpack s frame)
    (hOriginal : ∀ id ∈ mentioned frame, s'.original vpack id = s.original vpack id)
    (hKeep : ∀ id ∈ mentioned frame,
      (∀ request callback, s.custody id = some (request, callback) → request = none) →
        ∀ request callback, s'.custody id = some (request, callback) → request = none) :
    Carries vpack s' frame := by
  cases frame
  case invoke id error request response =>
    have hMem := List.mem_singleton_self id
    cases request with
    | none => exact ⟨h.1, hKeep id hMem h.2⟩
    | some request => exact ⟨h.1, (hOriginal id hMem).trans h.2⟩
  all_goals exact h

theorem Custody.of_same (h : Custody vpack s (frame ::ₘ rest))
    (hCustody : ∀ id, s'.custody id = s.custody id)
    (hAccepted : s'.history.accepted = s.history.accepted) (hCalls : s'.calls = s.calls)
    (hHolding : ∀ id, load (holding id) ↑frames = holding id frame)
    (hCarries : ∀ next ∈ frames, Carries vpack s next) : Custody vpack s' (↑frames + rest) := by
  constructor
  · intro id request callback hid hNot
    rw [hCustody] at hid
    rw [load_add, hHolding, ← load_cons]
    exact h.held id request callback hid hNot
  · intro id request callback hid
    rw [hCustody] at hid
    rw [original_eq hAccepted]
    exact h.own id request callback hid
  · rw [hAccepted]
    exact h.numbered
  · intro next hNext
    have hBefore : Carries vpack s next := by
      rcases Multiset.mem_add.mp hNext with hNew | hOld
      · exact hCarries next (Multiset.mem_coe.mp hNew)
      · exact h.carries next (Multiset.mem_cons_of_mem hOld)
    exact hBefore.keep (fun id _ => by rw [original_eq hAccepted]) fun id _ hNone => by
      simpa only [hCustody] using hNone
  · intro id
    rw [Shared.invoked_eq, hCustody, ← Shared.invoked_eq, Inflight.callsOf, hCalls]
    exact h.called id
  · rw [hCalls]
    exact fun call hCall => (h.honours call hCall).of_same (by rw [hAccepted])

theorem holding_eq_zero {id : MessageID} (frame : Frame) (h : id ∉ mentioned frame) :
    holding id frame = 0 := by
  cases frame
  case invoke other error request response =>
    have hNe : other ≠ id := by
      rintro rfl
      exact h (List.mem_singleton_self other)
    cases request <;> simp [holding, hNe]
  all_goals rfl

theorem Custody.not_called_fresh (hI : Custody vpack s (frame ::ₘ rest))
    (hItems : ItemsKnown s (frame ::ₘ rest)) {call : Invocation} (hCall : call ∈ s.calls) :
    call.item ≠ s.messageID + 1 := by
  intro hEq
  have hNone := hI.called (s.messageID + 1)
  rw [Shared.invoked, hItems.fresh, Option.any_none, if_neg Bool.false_ne_true,
    List.length_eq_zero_iff, Inflight.callsOf, List.filter_eq_nil_iff] at hNone
  exact hNone call hCall (decide_eq_true hEq)

theorem Custody.of_created (hI : Custody vpack s (frame ::ₘ rest))
    (hItems : ItemsKnown s (frame ::ₘ rest)) {next : Frame} {sent left : Request}
    {item : RequestItem} {cb : CallbackOwner} (hRequest : item.request = some left)
    (hSent : sent.messageID = s.messageID + 1)
    (hLeft : left = RequestItem.networkRequest vpack sent) (hCallback : item.callback = { cb })
    (hChanged : s'.items = Function.update s.items (s.messageID + 1) (some item))
    (hAccepted : s'.history.accepted =
      Function.update s.history.accepted (s.messageID + 1) (some sent))
    (hCalls : s'.calls = s.calls) (hHolding : ∀ id, holding id next = holding id frame)
    (hNext : ∀ s, Carries vpack s next) : Custody vpack s' (↑[next] + rest) := by
  have hFresh := hItems.fresh
  have hOriginal : ∀ id, id ≠ s.messageID + 1 → s'.original vpack id = s.original vpack id := by
    intro id hNe
    rw [Shared.original, hAccepted, Function.update_of_ne hNe, Shared.original]
  have hCustody := Shared.custody_update hChanged
  have hLoad : ∀ id, load (holding id) (↑[next] + rest) = load (holding id) (frame ::ₘ rest) := by
    intro id
    simp only [load_add, load_coe, load_cons, List.map_cons, List.map_nil, List.sum_cons,
      List.sum_nil, hHolding, Nat.add_zero]
  have hInvoked : ∀ id, s'.invoked id = s.invoked id := by
    intro id
    rw [Shared.invoked_eq, hCustody, Shared.invoked_eq]
    split
    · rename_i hEq
      rw [hEq, Shared.custody, hFresh, hCallback]
      rfl
    · rfl
  constructor
  · intro id request callback hid hNot
    rw [hLoad]
    rw [hCustody] at hid
    split at hid
    · rename_i hEq
      cases hid
      rw [hEq, hItems.load_eq_zero hFresh holding_eq_zero, hRequest]
      rfl
    · exact hI.held id request callback hid hNot
  · intro id request callback hid
    rw [hCustody] at hid
    split at hid
    · rename_i hEq
      rw [hRequest] at hid
      cases hid
      rw [hEq, Shared.original, hAccepted, Function.update_self, hLeft]
      rfl
    · rename_i hNe
      rw [hOriginal id hNe]
      exact hI.own id request callback hid
  · intro id request hid
    rw [hAccepted, Function.update_apply] at hid
    split at hid
    · rename_i hEq
      cases hid
      rw [hSent, hEq]
    · exact hI.numbered id request hid
  · intro other hOther
    rcases Multiset.mem_add.mp hOther with hNew | hOld
    · obtain rfl : other = next := by simpa using hNew
      exact hNext s'
    · have hMem : other ∈ frame ::ₘ rest := Multiset.mem_cons_of_mem hOld
      have hNe : ∀ id ∈ mentioned other, id ≠ s.messageID + 1 := by
        rintro id hid rfl
        exact hItems.inFrames other hMem _ hid hFresh
      refine (hI.carries other hMem).keep (fun id hid => hOriginal id (hNe id hid)) ?_
      intro id hid hNone
      simpa only [hCustody, if_neg (hNe id hid)] using hNone
  · intro id
    rw [hInvoked, Inflight.callsOf, hCalls]
    exact hI.called id
  · rw [hCalls]
    intro call hCall
    apply (hI.honours call hCall).of_same
    rw [hAccepted, Function.update_of_ne (hI.not_called_fresh hItems hCall)]

theorem Custody.of_moved {id : MessageID} {error : ErrorCondition} {response : Option Response}
    {item : RequestItem} (hI : Custody vpack s (.moveRequest id error response ::ₘ rest))
    (hItem : s.items id = some item)
    (hChanged : s'.items = Function.update s.items id (some { item with request := none }))
    (hAccepted : s'.history.accepted = s.history.accepted) (hCalls : s'.calls = s.calls) :
    Custody vpack s' (↑[Frame.invoke id error item.request response] + rest) := by
  have hCustody := Shared.custody_update hChanged
  have hBefore : s.custody id = some (item.request, item.callback) := by
    rw [Shared.custody, hItem]
    rfl
  have hInvoked : ∀ other, s'.invoked other = s.invoked other := by
    intro other
    rw [Shared.invoked_eq, hCustody, Shared.invoked_eq]
    split
    · rename_i hEq
      rw [hEq, hBefore]
      rfl
    · rfl
  constructor
  · intro other request callback hid hNot
    simp only [load_add, load_coe, List.map_cons, List.map_nil, List.sum_cons, List.sum_nil]
    rw [hCustody] at hid
    split at hid
    · rename_i hEq
      subst hEq
      cases hid
      have hHeld := hI.held other item.request item.callback hBefore hNot
      rw [load_cons] at hHeld
      cases hRequest : item.request <;> simp [holding, hRequest] at hHeld ⊢ <;> omega
    · rename_i hNe
      have hHeld := hI.held other request callback hid hNot
      rw [load_cons] at hHeld
      cases hRequest : item.request <;> simpa [holding, Ne.symm hNe] using hHeld
  · intro other request callback hid
    rw [hCustody] at hid
    rw [original_eq hAccepted]
    split at hid
    · cases hid
    · exact hI.own other request callback hid
  · rw [hAccepted]
    exact hI.numbered
  · intro next hNext
    rcases Multiset.mem_add.mp hNext with hNew | hOld
    · obtain rfl : next = .invoke id error item.request response := by simpa using hNew
      refine ⟨hI.carries _ (Multiset.mem_cons_self _ _), ?_⟩
      split
      · rename_i request hRequest
        rw [original_eq hAccepted]
        exact hI.own id request item.callback (hRequest ▸ hBefore)
      · intro request callback hid
        rw [hCustody, if_pos rfl] at hid
        cases hid
        rfl
    · refine (hI.carries next (Multiset.mem_cons_of_mem hOld)).keep
        (fun other _ => by rw [original_eq hAccepted]) fun other _ hNone => ?_
      intro request callback hid
      rw [hCustody] at hid
      split at hid
      · cases hid
        rfl
      · exact hNone request callback hid
  · intro other
    rw [hInvoked, Inflight.callsOf, hCalls]
    exact hI.called other
  · rw [hCalls]
    exact fun call hCall => (hI.honours call hCall).of_same (by rw [hAccepted])

/-- While nobody else has the request, the path that sets the flag does. -/
theorem Custody.honours_invoked {id : MessageID} {error : ErrorCondition} {request : Option Request}
    {response : Option Response} {item : RequestItem} {held : List Mutex}
    (hI : Custody vpack s (.invoke id error request response ::ₘ rest))
    (hItem : s.items id = some item) (hNot : item.callback.invoked = false)
    (hAlone : load (holding id) rest = 0) :
    Honours vpack s ⟨id, item.callback.cb, errorToInt error, request, response, held⟩ := by
  obtain ⟨⟨hSuccess, hFailure⟩, hRequest⟩ := hI.carries _ (Multiset.mem_cons_self _ _)
  have hBefore : s.custody id = some (item.request, item.callback) := by
    rw [Shared.custody, hItem]
    rfl
  refine ⟨?_, fun hZero => ?_, fun hError => ?_⟩
  · cases request with
    | some request =>
      obtain ⟨sent, hSent, rfl⟩ := Option.map_eq_some_iff.mp hRequest
      exact ⟨sent, hSent, hI.numbered id sent hSent, rfl⟩
    | none =>
      have hHeld := hI.held id item.request item.callback hBefore hNot
      have hNone : item.request = none := hRequest item.request item.callback hBefore
      rw [load_cons, hAlone, hNone] at hHeld
      cases hHeld
  · exact hSuccess ((errorToInt_eq_zero_iff error).mp hZero)
  · exact hFailure (mt (errorToInt_eq_zero_iff error).mpr hError)

theorem Custody.of_invoked {id : MessageID} {error : ErrorCondition} {request : Option Request}
    {response : Option Response} {item : RequestItem} {next : Frame} {held : List Mutex}
    (hI : Custody vpack s (.invoke id error request response ::ₘ rest))
    (hItem : s.items id = some item) (hNot : item.callback.invoked = false)
    (hAlone : load (holding id) rest = 0) (hAccepted : s'.history.accepted = s.history.accepted)
    (hChanged : s'.items =
      Function.update s.items id (some { item with callback := ⟨true, item.callback.cb⟩ }))
    (hCalls : s'.calls =
      s.calls ++ [⟨id, item.callback.cb, errorToInt error, request, response, held⟩])
    (hHolding : ∀ other, holding other next = 0) (hNext : ∀ s, Carries vpack s next) :
    Custody vpack s' (↑[next] + rest) := by
  have hCustody := Shared.custody_update hChanged
  have hBefore : s.custody id = some (item.request, item.callback) := by
    rw [Shared.custody, hItem]
    rfl
  constructor
  · intro other left callback hid hOpen
    rw [hCustody] at hid
    split at hid
    · cases hid
      cases hOpen
    · rename_i hNe
      have hHeld := hI.held other left callback hid hOpen
      have hZero : holding other (.invoke id error request response) = 0 := by
        cases request <;> simp [holding, Ne.symm hNe]
      rw [load_cons, hZero] at hHeld
      simpa [hHolding] using hHeld
  · intro other left callback hid
    rw [hCustody] at hid
    rw [original_eq hAccepted]
    split at hid
    · rename_i hEq
      obtain ⟨hLeft, -⟩ := Prod.mk.inj (Option.some.inj hid)
      rw [hEq]
      exact hI.own id left item.callback (hLeft ▸ hBefore)
    · exact hI.own other left callback hid
  · rw [hAccepted]
    exact hI.numbered
  · intro other hOther
    rcases Multiset.mem_add.mp hOther with hNew | hOld
    · obtain rfl : other = next := by simpa using hNew
      exact hNext s'
    · refine (hI.carries other (Multiset.mem_cons_of_mem hOld)).keep
        (fun there _ => by rw [original_eq hAccepted]) fun there _ hNone => ?_
      intro left callback hid
      rw [hCustody] at hid
      split at hid
      · rename_i hEq
        cases hid
        exact hNone item.request item.callback (hEq ▸ hBefore)
      · exact hNone left callback hid
  · intro other
    have hCalled := hI.called other
    rw [Shared.invoked_eq] at hCalled ⊢
    rw [hCustody, Inflight.callsOf, hCalls, List.filter_append, List.length_append]
    by_cases hEq : other = id
    · rw [hEq, hBefore] at hCalled
      simp only [Option.any_some, hNot, Bool.false_eq_true, if_false] at hCalled
      rw [hEq, ← Inflight.callsOf, hCalled]
      simp
    · rw [if_neg hEq, ← hCalled]
      simp [Inflight.callsOf, Ne.symm hEq]
  · intro call hCall
    rw [hCalls] at hCall
    have hSame : s'.history.accepted call.item = s.history.accepted call.item := by rw [hAccepted]
    rcases List.mem_append.mp hCall with hOld | hNew
    · exact (hI.honours call hOld).of_same hSame
    · rw [List.mem_singleton.mp hNew] at hSame ⊢
      exact (hI.honours_invoked hItem hNot hAlone).of_same hSame

theorem Custody.of_again {id : MessageID} {error : ErrorCondition} {request : Option Request}
    {response : Option Response} {item : RequestItem}
    (hI : Custody vpack s (.invoke id error request response ::ₘ rest))
    (hItem : s.items id = some item) (hInvoked : item.callback.invoked = true) :
    Custody vpack s rest := by
  refine ⟨?_, hI.own, hI.numbered, fun next hNext => ?_, hI.called, hI.honours⟩
  case refine_2 => exact hI.carries next (Multiset.mem_cons_of_mem hNext)
  intro other left callback hid hNot
  have hHeld := hI.held other left callback hid hNot
  have hNe : id ≠ other := by
    rintro rfl
    rw [Shared.custody, hItem] at hid
    cases hid
    rw [hInvoked] at hNot
    cases hNot
  have hZero : holding other (.invoke id error request response) = 0 := by
    cases request <;> simp [holding, hNe]
  rwa [load_cons, hZero, Nat.zero_add] at hHeld

theorem Custody.step (hI : Custody platform.vpack s (frame ::ₘ rest))
    (hItems : ItemsKnown s (frame ::ₘ rest))
    (hGuard : exchangesInOrder.run thread frame choice s (frame ::ₘ rest))
    (h : Step platform configuration thread frame choice s s' frames spawned) :
    Custody platform.vpack s' (↑(frames ++ spawned.flatten) + rest) := by
  have hCarries := hI.carries frame (Multiset.mem_cons_self _ _)
  cases h
  all_goals try (
    refine hI.of_same (fun id => rfl) rfl rfl (fun id => ?_) ?_
    · simp [holding]
    · simp [Carries])
  case throws => exact hI.of_same (fun _ => rfl) rfl rfl (fun _ => by simp) (by simpa using hCarries)
  case createRequestItem left item hRequest hCallback hLeft =>
    exact hI.of_created hItems hRequest rfl hLeft hCallback rfl rfl rfl (fun _ => rfl) fun _ => trivial
  case insertAuthenticationRequests left item _ hRequest hCallback hLeft =>
    exact hI.of_created hItems hRequest rfl hLeft hCallback rfl rfl rfl (fun _ => rfl) fun _ => trivial
  case moveRequest hItem => exact hI.of_moved hItem rfl rfl rfl
  case invokeAgain hInvoked hItem =>
    simpa using hI.of_again hItem hInvoked
  case invokeUser id error request response item hNot hOwner hItem =>
    have hAlone := hGuard id rfl (by simp [Shared.invoked, hItem, hNot])
    rw [load_cons] at hAlone
    exact hI.of_invoked hItem hNot (by omega) rfl rfl rfl (fun _ => rfl) fun _ => trivial
  case invokeAuthentication id error request response item hNot hOwner hItem =>
    have hAlone := hGuard id rfl (by simp [Shared.invoked, hItem, hNot])
    rw [load_cons] at hAlone
    exact hI.of_invoked hItem hNot (by omega) rfl rfl rfl (fun _ => rfl) fun _ => trivial
  case restartConnection | stopWriting | stopReading | shutdownSocket | cancelAll | restartReading
      | restartWriting =>
    exact hI.of_same (fun _ => rfl) rfl rfl (fun _ => by simp [holding])
      (by simpa [Carries] using hCarries)
  case cancelItem id todo =>
    have hError := hCarries
    refine hI.of_same (fun _ => rfl) rfl rfl (fun _ => by simp [holding]) ?_
    simp only [Carries] at hError
    simp [Carries, Fits, hError]
  case createResponse response hNumber =>
    refine hI.of_same (fun _ => rfl) rfl rfl (fun _ => by simp [holding]) ?_
    simp [Carries, Fits, hNumber]
  case removeFailed =>
    refine hI.of_same (fun _ => rfl) rfl rfl (fun _ => by simp [holding]) ?_
    simp [Carries, Fits]
  case addChunk item after hRequest hCallback hItem =>
    exact hI.of_same (Shared.custody_same hItem hRequest hCallback rfl) rfl rfl
      (fun _ => by simp [holding]) (by simp)
  case lastChunk item after hRequest hCallback hItem =>
    exact hI.of_same (Shared.custody_same hItem hRequest hCallback rfl) rfl rfl
      (fun _ => by simp [holding]) (by simp [Carries])
  case requestWritten w id =>
    refine hI.of_same (fun other => ?_) rfl rfl (fun _ => by simp [holding]) (by simp [Carries])
    simp only [Shared.custody, Shared.updateItem, Shared.updateWriteLoop, Function.update_apply]
    split
    · rename_i hEq
      rw [hEq, Option.map_map]
      rfl
    · rfl

end Steps

/-! ## Every run -/

section Machine

variable {platform : Platform} {configuration : Configuration} {c : Config Shared Frame}

theorem custody_preserved : Preserved (machine platform configuration) exchangesInOrder
    fun s frames => ItemsKnown s frames ∧ Custody platform.vpack s frames := by
  refine ((itemsKnown_preserved platform configuration).under exchangesInOrder).and ?_ ?_
  · intro _ _ _ _ _ _ _ _ hItems hI hGuard hExec
    exact hI.step hItems hGuard (step_of_exec hExec)
  · intro _ _ _ _ _ _ _ hI _ _ hEnter
    obtain ⟨hHeld, hOwn, hNumbered, hCarries, hCalled, hHonours⟩ := hI
    rcases enter_cases hEnter with ⟨_, rfl, rfl⟩ | ⟨_, _, _, _, rfl, rfl⟩
    · exact ⟨by simpa [holding] using hHeld, hOwn, hNumbered, by simpa [Carries] using hCarries,
        hCalled, hHonours⟩
    · refine ⟨?_, hOwn, hNumbered, fun next hNext => ?_, hCalled, fun call hCall =>
        (hHonours call hCall).of_same rfl⟩
      · intro id request callback hid hNot
        simpa [holding] using hHeld id request callback hid hNot
      · rcases Multiset.mem_add.mp hNext with hNew | hOld
        · obtain rfl := List.mem_singleton.mp (Multiset.mem_coe.mp hNew)
          exact nofun
        · exact (hCarries next hOld).keep (fun _ _ => rfl) fun _ _ hNone => hNone

theorem custody_initial (vpack : VelocyPack) : Custody vpack initial.shared initial.frames := by
  constructor <;> simp [initial, Config.frames, Shared.custody, Shared.invoked, Inflight.callsOf, Carries]

/-- **The callback contract**, in every run in which nobody exchanges the flag of a
callback while another path has moved out the request. -/
theorem callback_contract
    (h : Reaches (machine platform configuration) exchangesInOrder initial c) :
    CallbackContract platform.vpack c.shared := by
  obtain ⟨-, hCustody⟩ := h.invariant custody_preserved ⟨itemsKnown_initial, custody_initial _⟩
  refine ⟨fun id => ?_, fun call hCall => (hCustody.honours call hCall).request,
    fun call hCall => (hCustody.honours call hCall).success,
    fun call hCall => (hCustody.honours call hCall).failure⟩
  rw [hCustody.called]
  split <;> decide

/-- A write fails although the response is being processed; the failing write moves
the request out first, and is the first to exchange the flag. -/
theorem callback_contract_write_error :
    ∃ c, Reaches (machine shortPlatform {}) exchangesInOrder initial c ∧
      c.shared.calls.map (fun call => (call.item, call.error)) =
        [(1, errorToInt .vstWriteError)] ∧ CallbackContract shortPlatform.vpack c.shared := by
  have hRun : ((machine shortPlatform {}).steps exchangesInOrder initial
      (establish ++ sendFirst ++ receive 6 (answer 1 200) ++ proceed 6 3 ++ fail 8 ++ proceed 8 4 ++
        proceed 6 5)).any
      (fun c => c.shared.calls.map (fun call => (call.item, call.error)) =
        [(1, errorToInt .vstWriteError)]) = true := by
    decide +kernel
  obtain ⟨c, hReaches, hTest⟩ := exists_reaches_of_steps hRun
  exact ⟨c, hReaches, of_decide_eq_true hTest, callback_contract hReaches⟩

/-- The failing write has moved the request out, but the path of the response is the
first to exchange the flag: it has no request to pass on. -/
theorem callback_without_request :
    ¬ ∀ c, Reaches (machine shortPlatform {}) .all initial c →
      CallbackContract shortPlatform.vpack c.shared := by
  intro hAll
  have hRun : ((machine shortPlatform {}).steps .all initial
      (establish ++ sendFirst ++ receive 6 (answer 1 200) ++ proceed 6 3 ++ fail 8 ++ proceed 8 3 ++
        proceed 6 5)).any
      (fun c => ∃ call ∈ c.shared.calls, call.request = none) = true := by
    decide +kernel
  obtain ⟨c, hReaches, hTest⟩ := exists_reaches_of_steps hRun
  obtain ⟨call, hCall, hNone⟩ := of_decide_eq_true hTest
  obtain ⟨request, -, -, hSome⟩ := (hAll c hReaches).request call hCall
  rw [hNone] at hSome
  cases hSome

end Machine

end Fuerte.Vst.Connection

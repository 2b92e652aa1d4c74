import GuestShell.Proofs.Manager.Convergence

/-!
# States on a channel that refuses nothing

If the channel takes everything, what becomes of the state of a window and which requests
are sent about it is a function of the operations alone.  Neither the properties of the
window nor the messages that wait in the channel have a part in it.

`StateView` keeps what this function needs of a record, and `Manager.run_stateView` says that
the records and the requests of a run are those of the function.  Titles and application ids
are left out.  Nothing is said of channels that refuse messages: there the record can be
anywhere between two states.
-/

namespace GuestShell

/-- The window and the operation of a call, without the world that it is performed in. -/
def Call.event {ω : Type} (call : Call ω) : WindowId × Operation := (call.id, call.operation)

/-- What a record says of the state of its window. -/
structure StateView where
  toplevel : Option UInt32
  state : WindowState
  hostState : WindowState
  deriving DecidableEq

def Window.stateView (w : Window) : StateView := ⟨w.toplevel, w.state, w.hostState⟩

/-- The operations that begin to track a window which is not tracked. -/
def Operation.begins (setting : Setting) : Operation → Bool
  | .guest (.created ..) => true
  | .guest (.reparented parent) => parent = setting.root
  | .guest .mapRequested => true
  | .adopt .. => true
  | _ => false

namespace StateView

/-- A window begins without a role and without a state. -/
def fresh : StateView := ⟨none, .normal, .normal⟩

/-- What an effect leaves, if no request is refused. -/
def act (v : StateView) : StateEffect → Option StateView
  | .forget => none
  | .unmap => some ⟨none, v.state, .normal⟩
  | .assign toplevel => some ⟨some toplevel, v.state, v.state⟩
  | .note s => some { v with state := s }
  | .forward s => some ⟨v.toplevel, s, if v.toplevel.isSome then s else v.hostState⟩

/-- The requests about states that an effect sends. -/
def requests (v : StateView) : StateEffect → List ShellRequest
  | .forward s =>
    match v.toplevel with
    | none => []
    | some toplevel => (WindowState.syncRequests toplevel v.hostState s).map (·.2)
  | _ => []

/-- One operation on a window, tracked or not. -/
def step (setting : Setting) (operation : Operation) :
    Option StateView → Option StateView × List ShellRequest
  | none => (if operation.begins setting then some fresh else none, [])
  | some v =>
    (v.act (operation.stateEffect setting v.state),
      v.requests (operation.stateEffect setting v.state))

/-- The view of one window after some events, and the requests about its state. -/
def replay (setting : Setting) (id : WindowId) (events : List (WindowId × Operation)) :
    Option StateView × List ShellRequest :=
  events.foldl (fun seen event =>
    if event.1 = id then
      ((step setting event.2 seen.1).1, seen.2 ++ (step setting event.2 seen.1).2)
    else seen) (none, [])

theorem replay_concat_of_eq (setting : Setting) {id : WindowId}
    (events : List (WindowId × Operation)) {event : WindowId × Operation} (hid : event.1 = id) :
    replay setting id (events ++ [event]) =
      ((step setting event.2 (replay setting id events).1).1,
        (replay setting id events).2 ++ (step setting event.2 (replay setting id events).1).2) := by
  rw [replay, List.foldl_append, List.foldl_cons, List.foldl_nil, if_pos hid]
  rfl

theorem replay_concat_of_ne (setting : Setting) {id : WindowId}
    (events : List (WindowId × Operation)) {event : WindowId × Operation} (hne : event.1 ≠ id) :
    replay setting id (events ++ [event]) = replay setting id events := by
  rw [replay, List.foldl_append, List.foldl_cons, List.foldl_nil, if_neg hne]
  rfl

end StateView

/-- A series of sends that ends well got all of its requests accepted. -/
theorem Window.Sends.acceptedRequests_of_ok {requests : List (StateAxis × ShellRequest)}
    {w w' : Window} {result : Except ManagerError Unit} {offers : List Offer}
    (h : Window.Sends requests w w' result offers) (hresult : result = .ok ()) :
    Offer.acceptedRequests offers = requests.map (·.2) := by
  induction h with
  | done w => rfl
  | stopped hoffer => cases hresult
  | told hoffer hrest ih =>
      rw [Offer.acceptedRequests_append, hoffer.acceptedRequests_of_ok, ih hresult,
        List.map_cons, List.singleton_append]

variable {ω : Type} [HostChannel ω] [PropertySource ω]

omit [PropertySource ω] in
/-- Forwarding on a channel that takes everything. -/
theorem Window.forwardState_view {w : Window} {world : ω}
    (haccepted : ∀ o ∈ (w.forwardState (Recorded.start world)).world.offers, o.accepted = true) :
    some (w.forwardState (Recorded.start world)).value.stateView =
        w.stateView.act (.forward w.state) ∧
      (Offer.acceptedRequests (w.forwardState (Recorded.start world)).world.offers).filter
          (!·.isText) = w.stateView.requests (.forward w.state) := by
  have hresult := Window.forwardState_result_of_accepted haccepted
  have htoplevel := w.forwardState_toplevel (Recorded.start world)
  have hstate := w.forwardState_state (Recorded.start world)
  rcases w.forwardState_cases (Recorded.start world) with
    ⟨hnone, hnothing⟩ | ⟨toplevel, offers, hsome, hsends, hoffers⟩
  · rw [hnothing]
    simp only [StateView.act, StateView.requests, Window.stateView, hnone]
    exact ⟨rfl, rfl⟩
  · have hhost := hsends.hostState_of_ok hresult
    have hall := hsends.acceptedRequests_of_ok hresult
    have hnotext : ∀ r ∈ (WindowState.syncRequests toplevel w.hostState w.state).map (·.2),
        (!r.isText) = true := by
      intro r hr
      obtain ⟨p, hp, rfl⟩ := List.mem_map.1 hr
      rw [(WindowState.syncRequests_about hp).1]
      rfl
    constructor
    · simp only [StateView.act, Window.stateView, htoplevel, hstate, hhost, hsome,
        Option.isSome_some, if_true]
    · rw [hoffers, show (Recorded.start world).offers ++ offers = offers from rfl, hall,
        List.filter_eq_self.2 hnotext]
      simp only [StateView.requests, Window.stateView, hsome]

/-- Texts are no requests about states. -/
theorem Offer.filter_acceptedRequests_of_isText {offers : List Offer}
    (htexts : ∀ request ∈ requests offers, request.isText = true) :
    (acceptedRequests offers).filter (!·.isText) = [] := by
  rw [List.filter_eq_nil_iff]
  intro request hrequest
  rw [htexts request (mem_requests_of_accepted hrequest)]
  decide

/-- A step of a window that is not tracked tracks it afterwards if the operation begins that. -/
theorem step_isSome_of_untracked (setting : Setting) (id : WindowId) (operation : Operation)
    (world : ω) :
    (operation.step setting id none world).value.isSome = operation.begins setting := by
  cases operation with
  | guest change =>
      cases change with
      | reparented parent =>
          change (if parent = setting.root then _ else _ : Outcome (Option Window) ω).value.isSome =
            decide (parent = setting.root)
          split
          next hroot =>
            rw [decide_eq_true hroot]
            rfl
          next hroot =>
            rw [decide_eq_false hroot]
            rfl
      | _ => rfl
  | adopt geometry viewable => cases viewable <;> rfl
  | _ => rfl

namespace Manager

/-- A call that brings the host in line and ends well got the requests accepted that were
needed for it, and no others. -/
theorem after_forwards_requests (m : Manager) (call : Call ω) {w : Window} {s : WindowState}
    {toplevel : UInt32} (hw : m.windows[call.id]? = some w) (hrole : w.toplevel = some toplevel)
    (hforwards : call.operation.Forwards m.setting w.state s) (hresult : m.result call = .ok ()) :
    Offer.acceptedRequests (m.offers call) =
      (WindowState.syncRequests toplevel w.hostState s).map (·.2) := by
  obtain ⟨-, hend, hoffers⟩ := m.after_forwardState call hw hforwards
  obtain ⟨offers, hsends, hsent⟩ :=
    Window.forwardState_sends (w := { w with state := s }) hrole (Recorded.start call.world)
  rw [hoffers, show _ = offers from hsent]
  exact hsends.acceptedRequests_of_ok (hend.symm.trans hresult)

/-- A call about a tracked window, if the channel takes everything. -/
theorem after_stateView (m : Manager) (call : Call ω) {w : Window}
    (hw : m.windows[call.id]? = some w) (haccepted : ∀ o ∈ m.offers call, o.accepted = true) :
    let effect := call.operation.stateEffect m.setting w.state
    (m.after call).windows[call.id]?.map Window.stateView = w.stateView.act effect ∧
      (Offer.acceptedRequests (m.offers call)).filter (!·.isText) =
        w.stateView.requests effect := by
  intro effect
  obtain ⟨o, hstep, hvalue, -, hoffers⟩ := m.after_stateStep call hw
  rw [hvalue, hoffers]
  rw [hoffers] at haccepted
  cases hstep with
  | forgotten heffect =>
      rw [show effect = _ from heffect]
      exact ⟨rfl, rfl⟩
  | unmapped heffect =>
      rw [show effect = _ from heffect]
      exact ⟨rfl, rfl⟩
  | assigned heffect =>
      rw [show effect = _ from heffect]
      exact ⟨rfl, rfl⟩
  | @forwarded s heffect =>
      rw [show effect = _ from heffect]
      exact Window.forwardState_view (w := { w with state := s }) haccepted
  | @noted s o heffect hkeeps =>
      obtain ⟨offers, hsent, htexts⟩ := hkeeps.offers
      rw [show effect = _ from heffect]
      constructor
      · simp only [Outcome.map, Option.map_some, Window.stateView, hkeeps.state, hkeeps.hostState,
          hkeeps.toplevel, StateView.act]
      · rw [show (o.map some).world.offers = offers from hsent,
          Offer.filter_acceptedRequests_of_isText htexts]
        rfl

/-- A call about a window that was not tracked begins to track it, or leaves it. -/
theorem after_untracked_stateView (m : Manager) (call : Call ω)
    (hnone : m.windows[call.id]? = none) :
    (m.after call).windows[call.id]?.map Window.stateView =
      if call.operation.begins m.setting then some .fresh else none := by
  have hvalue := (m.after_eq_recorded call hnone).1
  have hfresh := (m.after_untracked call hnone).2
  have hbegins := step_isSome_of_untracked m.setting call.id call.operation
    (Recorded.start call.world)
  rw [← hvalue] at hbegins
  cases hw : (m.after call).windows[call.id]? with
  | none =>
      rw [hw] at hbegins
      rw [← hbegins]
      rfl
  | some w =>
      rw [hw] at hbegins
      obtain ⟨htoplevel, hstate, hhost⟩ := hfresh w hw
      rw [← hbegins]
      simp only [Option.map_some, Window.stateView, htoplevel, hstate, hhost, Option.isSome_some,
        if_true, StateView.fresh]

/-- A call whose messages are all taken does to the view of its window what its operation
does. -/
theorem after_step (m : Manager) (call : Call ω)
    (haccepted : ∀ o ∈ m.offers call, o.accepted = true) :
    let view := m.windows[call.id]?.map Window.stateView
    (m.after call).windows[call.id]?.map Window.stateView =
        (StateView.step m.setting call.operation view).1 ∧
      (Offer.acceptedRequests (m.offers call)).filter (!·.isText) =
        (StateView.step m.setting call.operation view).2 := by
  intro view
  cases hw : m.windows[call.id]? with
  | none =>
      rw [show view = none by simp only [view, hw, Option.map_none]]
      refine ⟨m.after_untracked_stateView call hw, ?_⟩
      rw [(m.after_untracked call hw).1]
      rfl
  | some w =>
      rw [show view = some w.stateView by simp only [view, hw, Option.map_some]]
      exact m.after_stateView call hw haccepted

/-- The states and the requests about states of a run in which everything was taken are
those of its events. -/
theorem run_stateView (setting : Setting) (calls : List (Call ω)) (id : WindowId)
    (haccepted : (new setting).AllAccepted calls) :
    ((new setting).run calls).windows[id]?.map Window.stateView =
        (StateView.replay setting id (calls.map Call.event)).1 ∧
      (acceptedFor id (new setting) calls).filter (!·.isText) =
        (StateView.replay setting id (calls.map Call.event)).2 := by
  induction calls using List.reverseRecOn with
  | nil =>
      rw [run_nil, getElem?_new]
      exact ⟨rfl, rfl⟩
  | append_singleton calls call ih =>
      obtain ⟨hearlier, hlast, -⟩ := (allAccepted_append _ calls [call]).1 haccepted
      obtain ⟨hview, hrequests⟩ := ih hearlier
      rw [List.map_append, List.map_singleton, run_concat, acceptedFor_concat, List.filter_append]
      by_cases hid : call.id = id
      · have hstep := after_step _ call hlast
        rw [hid, run_setting, hview] at hstep
        rw [StateView.replay_concat_of_eq setting _ hid, if_pos hid, hrequests, hstep.2]
        exact ⟨hstep.1, rfl⟩
      · rw [StateView.replay_concat_of_ne setting _ hid, if_neg hid,
          after_getElem?_of_ne _ hid, List.filter_nil, List.append_nil]
        exact ⟨hview, hrequests⟩

end Manager

end GuestShell

import GuestShell.Proofs.Manager.HostMirror
import GuestShell.Proofs.Manager.HoldBack
import GuestShell.Proofs.Manager.StateView

/-!
# What was held back is made up for at once

On a channel that refuses nothing the host has the state of a window that is not iconified.
If the window is iconified, its state is changed by messages and it gets the focus, then the
host is asked to minimize it, hears nothing of the messages, and at the focus is told what has
become different: each of fullscreen and maximized once at most.  The record is then the one
that the messages alone would have left.

A message that is not about the state, or a further one that asks for the iconified state, is
NOT covered: the latter gives the held back state away (`Manager.reshapes_iconified_iff`).
-/

namespace GuestShell

/-- The state after a state message with some words. -/
def WindowState.messaged (atoms : Atoms) (s : WindowState) (words : MessageWords) : WindowState :=
  match StateRequest.decode atoms words with
  | none => s
  | some request => request.apply s

/-- The report of a state message with some words. -/
def Setting.stateMessage (setting : Setting) (words : MessageWords) : Operation :=
  .guest (.messaged setting.atoms.netWmState words)

/-- The reports of state messages to a window. -/
def Setting.stateMessages (setting : Setting) (id : WindowId) (data : List MessageWords) :
    List (WindowId × Operation) :=
  data.map fun words => (id, setting.stateMessage words)

/-- The record with its two states replaced. -/
def Window.withStates (w : Window) (state hostState : WindowState) : Window :=
  { w with state := state, hostState := hostState }

namespace WindowState

/-- A state message does not look at the iconified state and leaves it as it is. -/
theorem messaged_set_iconified (atoms : Atoms) (s : WindowState) (words : MessageWords)
    (value : Bool) :
    messaged atoms (s.set .iconified value) words =
      (messaged atoms s words).set .iconified value := by
  unfold messaged
  cases StateRequest.decode atoms words with
  | none => rfl
  | some request => rfl

theorem messaged_iconified (atoms : Atoms) (s : WindowState) (words : MessageWords) :
    (messaged atoms s words).iconified = s.iconified := by
  unfold messaged
  cases StateRequest.decode atoms words with
  | none => rfl
  | some request => rfl

theorem foldl_messaged_set_iconified (atoms : Atoms) (s : WindowState) (data : List MessageWords)
    (value : Bool) :
    data.foldl (messaged atoms) (s.set .iconified value) =
      (data.foldl (messaged atoms) s).set .iconified value := by
  induction data generalizing s with
  | nil => rfl
  | cons words data ih => rw [List.foldl_cons, messaged_set_iconified, ih, List.foldl_cons]

theorem foldl_messaged_iconified (atoms : Atoms) (s : WindowState) (data : List MessageWords) :
    (data.foldl (messaged atoms) s).iconified = s.iconified := by
  induction data generalizing s with
  | nil => rfl
  | cons words data ih => rw [List.foldl_cons, ih, messaged_iconified]

/-- A state that is not iconified is not changed by leaving the iconified state. -/
theorem set_iconified_of_shown {s : WindowState} (hshown : s.iconified = false) (value : Bool) :
    (s.set .iconified value).set .iconified false = s := by
  obtain ⟨fullscreen, maximized, iconified⟩ := s
  cases hshown
  rfl

/-- For a state that is not iconified it does not matter what the host takes the window for. -/
theorem syncRequests_set_iconified (toplevel : UInt32) (host : WindowState) {target : WindowState}
    (hshown : target.iconified = false) (value : Bool) :
    syncRequests toplevel (host.set .iconified value) target =
      syncRequests toplevel host target := by
  rw [syncRequests, syncRequests, hshown]
  rfl

/-- What is sent for a state that is not iconified. -/
theorem map_syncRequests_of_shown (toplevel : UInt32) (host : WindowState) {target : WindowState}
    (hshown : target.iconified = false) :
    (syncRequests toplevel host target).map (·.2) =
      (if host.fullscreen = target.fullscreen then []
        else [fullscreenRequest toplevel target.fullscreen]) ++
      (if host.maximized = target.maximized then []
        else [maximizedRequest toplevel target.maximized]) := by
  by_cases hfullscreen : host.fullscreen = target.fullscreen <;>
    by_cases hmaximized : host.maximized = target.maximized <;>
    simp [syncRequests, hshown, hfullscreen, hmaximized]

/-- What is sent to iconify a window whose state the host has. -/
theorem map_syncRequests_iconified (toplevel : UInt32) {s : WindowState}
    (hshown : s.iconified = false) :
    (syncRequests toplevel s (s.set .iconified true)).map (·.2) = [.setMinimized toplevel] := by
  simp [syncRequests, set, hshown]

/-- What is sent for a state that is not iconified replays to it, from a host that has the
window not iconified. -/
theorem foldl_replay_syncRequests (toplevel : UInt32) {host target : WindowState}
    (hhost : host.iconified = false) (htarget : target.iconified = false) :
    ((syncRequests toplevel host target).map (·.2)).foldl replay host = target := by
  obtain ⟨hostFullscreen, hostMaximized, hostIconified⟩ := host
  obtain ⟨fullscreen, maximized, iconified⟩ := target
  cases hhost
  cases htarget
  cases hostFullscreen <;> cases fullscreen <;> cases hostMaximized <;> cases maximized <;> rfl

end WindowState

namespace Window

/-- A record whose two states agree already. -/
theorem withStates_self {w : Window} (hhost : w.hostState = w.state) :
    w.withStates w.state w.state = w :=
  congrArg (w.withStates w.state) hhost.symm

variable {ω : Type} [HostChannel ω]

/-- A state message to an iconified window is recorded and held back. -/
theorem messaged_of_iconified {w : Window} (setting : Setting) (words : MessageWords)
    (world : ω) (hiconified : w.state.iconified = true) :
    w.messaged setting setting.atoms.netWmState words world =
      ⟨.ok (), w.withStates (w.state.messaged setting.atoms words) w.hostState, world⟩ := by
  rw [messaged, if_pos rfl, stateMessaged, WindowState.messaged]
  cases StateRequest.decode setting.atoms words with
  | none => rfl
  | some request => exact if_pos hiconified

/-- A state message whose action is not known does nothing. -/
theorem messaged_of_unknown (w : Window) {setting : Setting} {words : MessageWords}
    (world : ω) (hunknown : StateRequest.decode setting.atoms words = none) :
    w.messaged setting setting.atoms.netWmState words world = ⟨.ok (), w, world⟩ := by
  rw [messaged, if_pos rfl, stateMessaged, hunknown]

end Window

variable {ω : Type} [HostChannel ω] [PropertySource ω]

/-- The step of a state message to a tracked window. -/
theorem step_stateMessage (setting : Setting) (id : WindowId) (w : Window) (words : MessageWords)
    (world : ω) :
    (setting.stateMessage words).step setting id (some w) world =
      (w.messaged setting setting.atoms.netWmState words world).map some := rfl

namespace Manager

/-! ### One call -/

/-- A call that brings the host in line, if all of its messages are taken, changes the two
states of the record and nothing else, and sends what is needed for that. -/
theorem after_forwards_of_accepted (m : Manager) (call : Call ω) {w : Window} {s : WindowState}
    {toplevel : UInt32} (hw : m.windows[call.id]? = some w) (hrole : w.toplevel = some toplevel)
    (hforwards : call.operation.Forwards m.setting w.state s)
    (haccepted : ∀ o ∈ m.offers call, o.accepted = true) :
    (m.after call).windows[call.id]? = some (w.withStates s s) ∧
      Offer.acceptedRequests (m.offers call) =
        (WindowState.syncRequests toplevel w.hostState s).map (·.2) := by
  obtain ⟨-, hend, hoffers⟩ := m.after_forwardState call hw hforwards
  have hresult : m.result call = .ok () :=
    hend.trans (Window.forwardState_result_of_accepted (hoffers ▸ haccepted))
  have hheld : w.hasRole = true := Option.isSome_iff_exists.2 ⟨toplevel, hrole⟩
  exact ⟨m.after_forwards_record call hw hheld hforwards hresult,
    m.after_forwards_requests call hw hrole hforwards hresult⟩

/-- A state message to an iconified window offers nothing. -/
theorem after_messaged_of_iconified (m : Manager) {call : Call ω} {w : Window}
    {words : MessageWords} (hw : m.windows[call.id]? = some w)
    (hoperation : call.operation = m.setting.stateMessage words)
    (hiconified : w.state.iconified = true) :
    (m.after call).windows[call.id]? =
        some (w.withStates (w.state.messaged m.setting.atoms words) w.hostState) ∧
      m.offers call = [] := by
  obtain ⟨hvalue, -, hoffers⟩ := m.after_eq_recorded call hw
  rw [hoperation, step_stateMessage, Window.messaged_of_iconified _ _ _ hiconified]
    at hvalue hoffers
  exact ⟨hvalue, hoffers⟩

/-- A state message to a window that is not iconified keeps the host in line, if its requests
are taken. -/
theorem after_messaged_of_shown (m : Manager) {call : Call ω} {w : Window} {toplevel : UInt32}
    {words : MessageWords} (hw : m.windows[call.id]? = some w) (hrole : w.toplevel = some toplevel)
    (hoperation : call.operation = m.setting.stateMessage words)
    (hshown : w.state.iconified = false) (hhost : w.hostState = w.state)
    (haccepted : ∀ o ∈ m.offers call, o.accepted = true) :
    let s := w.state.messaged m.setting.atoms words
    (m.after call).windows[call.id]? = some (w.withStates s s) ∧
      Offer.acceptedRequests (m.offers call) =
        (WindowState.syncRequests toplevel w.hostState s).map (·.2) := by
  intro s
  cases hdecode : StateRequest.decode m.setting.atoms words with
  | none =>
      have hsame : s = w.state := by simp only [s, WindowState.messaged, hdecode]
      obtain ⟨hvalue, -, hoffers⟩ := m.after_eq_recorded call hw
      rw [hoperation, step_stateMessage, w.messaged_of_unknown _ hdecode] at hvalue hoffers
      rw [hsame, hoffers, hhost, WindowState.syncRequests_self, Window.withStates_self hhost]
      exact ⟨hvalue, rfl⟩
  | some request =>
      have hsame : s = request.apply w.state := by simp only [s, WindowState.messaged, hdecode]
      have hforwards : call.operation.Forwards m.setting w.state s := by
        rw [hoperation, hsame]
        exact .change rfl hdecode hshown
      exact m.after_forwards_of_accepted call hw hrole hforwards haccepted

/-- A message that asks for the iconified state of a window whose state the host has. -/
theorem after_asksIconified (m : Manager) (call : Call ω) {w : Window} {toplevel : UInt32}
    (hw : m.windows[call.id]? = some w) (hrole : w.toplevel = some toplevel)
    (hasks : call.operation.AsksIconified m.setting) (hshown : w.state.iconified = false)
    (hhost : w.hostState = w.state) (haccepted : ∀ o ∈ m.offers call, o.accepted = true) :
    (m.after call).windows[call.id]? =
        some (w.withStates (w.state.set .iconified true) (w.state.set .iconified true)) ∧
      Offer.acceptedRequests (m.offers call) = [.setMinimized toplevel] := by
  have hforwards : call.operation.Forwards m.setting w.state (w.state.set .iconified true) := by
    obtain ⟨messageType, words, hoperation, hother, htype, hbuilt, hwords⟩ := hasks
    rw [hoperation]
    exact .iconify hother htype hbuilt hwords
  obtain ⟨hvalue, hrequests⟩ := m.after_forwards_of_accepted call hw hrole hforwards haccepted
  rw [hhost, WindowState.map_syncRequests_iconified toplevel hshown] at hrequests
  exact ⟨hvalue, hrequests⟩

/-- The focus of an iconified window. -/
theorem after_focused_of_iconified (m : Manager) (call : Call ω) {w : Window} {s : WindowState}
    {toplevel : UInt32} (hw : m.windows[call.id]? = some w) (hrole : w.toplevel = some toplevel)
    (hfocused : call.operation = .guest .focused) (hstate : w.state = s.set .iconified true)
    (hshown : s.iconified = false) (haccepted : ∀ o ∈ m.offers call, o.accepted = true) :
    (m.after call).windows[call.id]? = some (w.withStates s s) ∧
      Offer.acceptedRequests (m.offers call) =
        (WindowState.syncRequests toplevel w.hostState s).map (·.2) := by
  have hends : call.operation.Forwards m.setting w.state (w.state.set .iconified false) := by
    rw [hfocused]
    exact .focus (congrArg WindowState.iconified hstate)
  rw [hstate, WindowState.set_iconified_of_shown hshown, ← hstate] at hends
  exact m.after_forwards_of_accepted call hw hrole hends haccepted

/-! ### Some messages -/

/-- State messages to an iconified window are all held back. -/
theorem run_messages_of_iconified (m : Manager) {id : WindowId} {w : Window}
    (hw : m.windows[id]? = some w) (hiconified : w.state.iconified = true)
    {messages : List (Call ω)} {data : List MessageWords}
    (hmessages : messages.map Call.event = m.setting.stateMessages id data) :
    (m.run messages).windows[id]? =
        some (w.withStates (data.foldl (WindowState.messaged m.setting.atoms) w.state)
          w.hostState) ∧
      acceptedFor id m messages = [] := by
  induction data generalizing m w messages with
  | nil =>
      cases List.map_eq_nil_iff.1 hmessages
      exact ⟨hw, rfl⟩
  | cons words data ih =>
      obtain ⟨call, messages, rfl, hevent, hrest⟩ := List.map_eq_cons_iff.1 hmessages
      obtain ⟨rfl, hoperation⟩ := Prod.mk.inj hevent
      obtain ⟨hafter, hoffers⟩ := m.after_messaged_of_iconified hw hoperation hiconified
      obtain ⟨hrecord, hnothing⟩ := ih (m.after call) hafter
        ((WindowState.messaged_iconified _ _ _).trans hiconified) hrest
      refine ⟨hrecord, ?_⟩
      rw [acceptedFor, if_pos rfl, hoffers, hnothing]
      rfl

/-- State messages to a window that is not iconified keep a host in line that refuses nothing,
and what they send replays to what the host has. -/
theorem run_messages_of_shown (hreliable : Reliable ω) (m : Manager) {id : WindowId} {w : Window}
    {toplevel : UInt32} (hw : m.windows[id]? = some w) (hrole : w.toplevel = some toplevel)
    (hshown : w.state.iconified = false) (hhost : w.hostState = w.state)
    {messages : List (Call ω)} {data : List MessageWords}
    (hmessages : messages.map Call.event = m.setting.stateMessages id data) :
    let s := data.foldl (WindowState.messaged m.setting.atoms) w.state
    (m.run messages).windows[id]? = some (w.withStates s s) ∧
      (acceptedFor id m messages).foldl WindowState.replay w.hostState = s := by
  induction data generalizing m w messages with
  | nil =>
      cases List.map_eq_nil_iff.1 hmessages
      exact ⟨hw.trans (congrArg some (Window.withStates_self hhost).symm), hhost⟩
  | cons words data ih =>
      obtain ⟨call, messages, rfl, hevent, hrest⟩ := List.map_eq_cons_iff.1 hmessages
      obtain ⟨rfl, hoperation⟩ := Prod.mk.inj hevent
      obtain ⟨hafter, hrequests⟩ := m.after_messaged_of_shown hw hrole hoperation hshown hhost
        (accepted_of_reliable hreliable m call)
      have hstill : (w.state.messaged m.setting.atoms words).iconified = false :=
        (WindowState.messaged_iconified _ _ _).trans hshown
      obtain ⟨hrecord, hreplay⟩ := ih (m.after call) hafter hrole hstill rfl hrest
      refine ⟨hrecord, ?_⟩
      have hfirst := WindowState.foldl_replay_syncRequests toplevel
        ((congrArg WindowState.iconified hhost).trans hshown) hstill
      rw [acceptedFor, if_pos rfl, List.foldl_append, hrequests, hfirst]
      exact hreplay

/-- On a channel that refuses nothing, a window with a role is iconified, gets some state
messages and then the focus.  The host is asked to minimize it and nothing else, hears nothing
of the messages, and at the focus is told of each of fullscreen and maximized that is not as
it was before, fullscreen first.  The record is the one that the messages alone leave, and what
is sent in either run replays to the state that this record says the host has. -/
theorem iconified_reconciles (hreliable : Reliable ω) (setting : Setting) (calls : List (Call ω))
    {id : WindowId} {w : Window} {toplevel : UInt32}
    (hw : ((new setting).run calls).windows[id]? = some w) (hrole : w.toplevel = some toplevel)
    (hshown : w.state.iconified = false) {ask focus : Call ω} {messages alone : List (Call ω)}
    {data : List MessageWords} (haskId : ask.id = id)
    (hask : ask.operation.AsksIconified setting)
    (hmessages : messages.map Call.event = setting.stateMessages id data)
    (halone : alone.map Call.event = setting.stateMessages id data)
    (hfocus : focus.event = (id, .guest .focused)) :
    let m := (new setting).run calls
    ∃ u, (m.run (ask :: messages ++ [focus])).windows[id]? = some u ∧
      (m.run alone).windows[id]? = some u ∧ u.hostState = u.state ∧
      Offer.acceptedRequests (m.offers ask) = [.setMinimized toplevel] ∧
      acceptedFor id (m.after ask) messages = [] ∧
      Offer.acceptedRequests ((m.run (ask :: messages)).offers focus) =
        (if w.state.fullscreen = u.state.fullscreen then []
          else [WindowState.fullscreenRequest toplevel u.state.fullscreen]) ++
        (if w.state.maximized = u.state.maximized then []
          else [WindowState.maximizedRequest toplevel u.state.maximized]) ∧
      (acceptedFor id m (ask :: messages ++ [focus])).foldl WindowState.replay w.hostState =
        u.hostState ∧
      (acceptedFor id m alone).foldl WindowState.replay w.hostState = u.hostState := by
  intro m
  -- everything was taken so far, so the host has the state before the window is iconified
  have hheld : w.hasRole = true := Option.isSome_iff_exists.2 ⟨toplevel, hrole⟩
  have hhost : w.hostState = w.state :=
    (converged_of_allAccepted setting calls hw (allAccepted_of_reliable hreliable _ calls)
      hheld).shown hshown
  have hsetting : m.setting = setting := run_setting _ calls
  rw [← hsetting] at hask hmessages halone
  obtain ⟨hrecord, hreplay⟩ := run_messages_of_shown hreliable m hw hrole hshown hhost halone
  -- the window is iconified, and the messages are held back
  subst haskId
  obtain ⟨hiconified, hminimized⟩ := m.after_asksIconified ask hw hrole hask hshown hhost
    (accepted_of_reliable hreliable m ask)
  obtain ⟨hheldBack, hnothing⟩ :=
    run_messages_of_iconified (m.after ask) hiconified rfl hmessages
  -- the focus leaves the state that the messages alone lead to
  obtain ⟨hfocusId, hfocused⟩ := Prod.mk.inj hfocus
  generalize hs : data.foldl (WindowState.messaged m.setting.atoms) w.state = s at hrecord hreplay
  have hend : s.iconified = false := by
    rw [← hs, WindowState.foldl_messaged_iconified, hshown]
  have hbefore : ((m.after ask).run messages).windows[focus.id]? =
      some (w.withStates (s.set .iconified true) (w.state.set .iconified true)) := by
    rw [hfocusId, ← hs, ← WindowState.foldl_messaged_set_iconified]
    exact hheldBack
  obtain ⟨hafter, hrequests⟩ := after_focused_of_iconified _ focus hbefore hrole hfocused rfl hend
    (accepted_of_reliable hreliable _ focus)
  have htold : Offer.acceptedRequests (((m.after ask).run messages).offers focus) =
      (WindowState.syncRequests toplevel w.state s).map (·.2) :=
    hrequests.trans (congrArg (List.map (·.2))
      (WindowState.syncRequests_set_iconified toplevel w.state hend true))
  refine ⟨w.withStates s s, ?_, hrecord, rfl, hminimized, hnothing, ?_, ?_, hreplay⟩
  · rw [run_concat, run_cons, ← hfocusId]
    exact hafter
  · rw [run_cons, htold]
    exact WindowState.map_syncRequests_of_shown toplevel w.state hend
  · rw [acceptedFor_concat, if_pos hfocusId, acceptedFor, if_pos rfl, hnothing, hminimized,
      run_cons, htold, hhost]
    exact WindowState.foldl_replay_syncRequests toplevel hshown hend

/-- Two messages that toggle the fullscreen state, with one between them that adds both halves
of the maximized state: only the latter is left to tell at the focus. -/
theorem iconified_reconciles_toggled :
    let atoms := Atoms.numbered
    let start : List (Call (Surroundings Queue PropertyTable)) :=
      [.queued 7 (.guest (.created false .empty)), .queued 7 (.assignRole 30)]
    let ask : Call (Surroundings Queue PropertyTable) :=
      .queued 7 (.guest (.messaged atoms.wmChangeState ⟨3, 0, 0, 0, 0⟩))
    let focus : Call (Surroundings Queue PropertyTable) := .queued 7 (.guest .focused)
    let toggle : MessageWords := ⟨2, atoms.netWmStateFullscreen, 0, 0, 0⟩
    let data : List MessageWords :=
      [toggle, ⟨1, atoms.netWmStateMaximizedVert, atoms.netWmStateMaximizedHorz, 0, 0⟩, toggle]
    let messages : List (Call (Surroundings Queue PropertyTable)) :=
      data.map fun words => .queued 7 ((Setting.plain true).stateMessage words)
    let m := (new (.plain true)).run start
    ∃ u, (m.run (ask :: messages ++ [focus])).windows[(7 : WindowId)]? = some u ∧
      u.state = ⟨false, true, false⟩ ∧ u.hostState = ⟨false, true, false⟩ ∧
      Offer.acceptedRequests (m.offers ask) = [.setMinimized 30] ∧
      acceptedFor 7 (m.after ask) messages = [] ∧
      Offer.acceptedRequests ((m.run (ask :: messages)).offers focus) = [.setMaximized 30] := by
  intro atoms start ask focus toggle data messages m
  obtain ⟨w, hw, hrole, hstate⟩ : ∃ w, m.windows[(7 : WindowId)]? = some w ∧
      w.toplevel = some 30 ∧ w.state = .normal := by
    rw [run_getElem?, getElem?_new]
    exact ⟨_, rfl, rfl, rfl⟩
  have hasks : ask.operation.AsksIconified (.plain true) := ⟨_, _, rfl, by decide, rfl, rfl, rfl⟩
  have hevents : messages.map Call.event = (Setting.plain true).stateMessages 7 data := rfl
  have hfocus : focus.event = (7, .guest .focused) := rfl
  obtain ⟨u, hu, -, hhost, hminimized, hnothing, htold, -⟩ :=
    iconified_reconciles reliable_queued (.plain true) start hw hrole
      (congrArg WindowState.iconified hstate) rfl hasks hevents hevents hfocus
  have hend : u.state = ⟨false, true, false⟩ := by
    have hvalue := run_getElem? (new (.plain true))
      (start ++ (ask :: messages ++ [focus])) 7
    rw [run_append, getElem?_new, hu] at hvalue
    have hstates := congrArg (Option.map Window.state) hvalue
    exact Option.some.inj (hstates.trans rfl)
  refine ⟨u, hu, hend, hhost.trans hend, hminimized, hnothing, ?_⟩
  rw [htold, hend, hstate]
  rfl

end Manager

end GuestShell

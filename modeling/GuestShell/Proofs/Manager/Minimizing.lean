import GuestShell.Proofs.Manager.HoldBack
import GuestShell.Proofs.Manager.StateView
import GuestShell.Proofs.Latest

/-!
# Which windows the host is asked to minimize

A window that is not iconified and then asked to be is to be minimized on the host.  The
request for it is sent only if the record does not say that the host took the window for
iconified before.  The host cannot be told that a window is not iconified any more, so the
record drops this when the host was brought in line with the whole state, and only then.

A focus that could not bring the host in line ends the iconified state all the same, and the
record goes on to say that the host takes the window for iconified.  The next message that
asks for the iconified state is then swallowed: it ends well and nothing is minimized.

This file says exactly of which windows this is true (`takenForIconified_iff`), and so which
messages minimize a window.  It is NOT claimed that the host shows or hides anything: the
host's side of the iconified state is outside the records.
-/

namespace GuestShell

/-- A window with a role that is not iconified and that the host still takes for iconified. -/
structure Window.TakenForIconified (w : Window) : Prop where
  role : w.hasRole = true
  shown : w.state.iconified = false
  taken : w.hostState.iconified = true

theorem Window.TakenForIconified.of_eq {w w' : Window} (h : w.TakenForIconified)
    (htoplevel : w'.toplevel = w.toplevel) (hstate : w'.state.iconified = w.state.iconified)
    (hhost : w'.hostState = w.hostState) : w'.TakenForIconified where
  role := by rw [← h.role, Window.hasRole, Window.hasRole, htoplevel]
  shown := hstate.trans h.shown
  taken := (congrArg WindowState.iconified hhost).trans h.taken

/-- No request about the iconified state is needed for a state that is not iconified. -/
theorem WindowState.syncRequests_ne_iconified {toplevel : UInt32} {host target : WindowState}
    (hshown : target.iconified = false) :
    ∀ p ∈ syncRequests toplevel host target, p.1 ≠ .iconified := by
  intro p hp
  simp only [syncRequests, hshown, Bool.false_and, Bool.false_eq_true, if_false, List.append_nil,
    List.mem_append] at hp
  have hfullscreen : StateAxis.fullscreen ≠ .iconified := by decide
  have hmaximized : StateAxis.maximized ≠ .iconified := by decide
  rcases hp with hp | hp
  · split at hp
    · cases hp
    · exact List.mem_singleton.1 hp ▸ hfullscreen
  · split at hp
    · cases hp
    · exact List.mem_singleton.1 hp ▸ hmaximized

/-- Of the requests that iconify a window, one minimizes it if the host does not take it for
iconified, and none otherwise. -/
theorem WindowState.count_setMinimized (toplevel : UInt32) {host target : WindowState}
    (hiconified : target.iconified = true) :
    ((syncRequests toplevel host target).map (·.2)).count (.setMinimized toplevel) =
      if host.iconified then 0 else 1 := by
  have hfullscreen : ∀ value, fullscreenRequest toplevel value ≠ .setMinimized toplevel := by
    intro value
    cases value <;> exact fun h => ShellRequest.noConfusion h
  have hmaximized : ∀ value, maximizedRequest toplevel value ≠ .setMinimized toplevel := by
    intro value
    cases value <;> exact fun h => ShellRequest.noConfusion h
  simp only [syncRequests, List.map_append, List.count_append, hiconified, Bool.true_and]
  split <;> split <;> cases host.iconified <;> simp [hfullscreen, hmaximized]

variable {ω : Type} [HostChannel ω]

/-- A send that fails on the way to a state that is not iconified leaves what the record says
of the iconified state. -/
theorem Window.forwardState_iconified_of_error {w : Window} (r : Recorded ω)
    (hrole : w.hasRole = true) (hshown : w.state.iconified = false)
    (hfailed : (w.forwardState r).result ≠ .ok ()) :
    (w.forwardState r).value.hostState.iconified = w.hostState.iconified := by
  obtain ⟨toplevel, htoplevel⟩ := Option.isSome_iff_exists.1 hrole
  obtain ⟨offers, hsends, -⟩ := forwardState_sends htoplevel r
  exact hsends.hostState_get_of_error (WindowState.syncRequests_ne_iconified hshown) hfailed

/-- Bringing the host in line with a state that is not iconified leaves it taking the window
for iconified exactly if it did and a send fails. -/
theorem Window.forwardState_takenForIconified_iff {w : Window} (r : Recorded ω)
    (hshown : w.state.iconified = false) :
    (w.forwardState r).value.TakenForIconified ↔
      w.hasRole = true ∧ w.hostState.iconified = true ∧ (w.forwardState r).result ≠ .ok () := by
  constructor
  · intro htaken
    have hrole : w.hasRole = true := (w.forwardState_hasRole r).symm.trans htaken.role
    by_cases hresult : (w.forwardState r).result = .ok ()
    · -- all sends ended well, so the host was told that nothing is iconified
      have htold := htaken.taken
      rw [forwardState_hostState_of_ok hrole hresult, hshown] at htold
      cases htold
    · have hkept := forwardState_iconified_of_error r hrole hshown hresult
      exact ⟨hrole, hkept.symm.trans htaken.taken, hresult⟩
  · rintro ⟨hrole, htaken, hfailed⟩
    refine ⟨(w.forwardState_hasRole r).trans hrole, ?_, ?_⟩
    · rw [forwardState_state, hshown]
    · exact (forwardState_iconified_of_error r hrole hshown hfailed).trans htaken

variable [PropertySource ω]

namespace Manager

/-- The focus ends the iconified state of a window that the host takes for iconified, and a
send fails. -/
structure FailsFocus (m : Manager) (call : Call ω) : Prop where
  focuses : call.operation = .guest .focused
  failed : m.result call ≠ .ok ()
  taken : ∃ w, m.windows[call.id]? = some w ∧ w.hasRole = true ∧ w.state.iconified = true ∧
    w.hostState.iconified = true

/-- A call about the state of a tracked window that ends well or asks for the iconified
state. -/
inductive Settles (m : Manager) (call : Call ω) : Prop
  | of (w : Window) (tracked : m.windows[call.id]? = some w)
      (states : ∀ s, call.operation.stateEffect m.setting w.state ≠ .note s)
      (ends : m.result call = .ok () ∨ call.operation.AsksIconified m.setting)

/-- The record of a window says that the host still takes it for iconified. -/
inductive TakenForIconified (m : Manager) (id : WindowId) : Prop
  | of (w : Window) (tracked : m.windows[id]? = some w) (taken : w.TakenForIconified)

/-- Whether the host takes a window for iconified is a fact about the record of this window. -/
theorem takenForIconified_congr {m m' : Manager} {id : WindowId}
    (hrecord : m'.windows[id]? = m.windows[id]?) :
    m'.TakenForIconified id ↔ m.TakenForIconified id := by
  constructor
  · rintro ⟨w, hw, htaken⟩
    exact ⟨w, hrecord.symm.trans hw, htaken⟩
  · rintro ⟨w, hw, htaken⟩
    exact ⟨w, hrecord.trans hw, htaken⟩

/-- A call whose effect is to forward, where that leaves its window not iconified. -/
theorem after_takenForIconified_of_shown (m : Manager) (call : Call ω) {w : Window}
    {s : WindowState} (hw : m.windows[call.id]? = some w)
    (hforwards : call.operation.Forwards m.setting w.state s) (hshown : s.iconified = false) :
    (m.after call).TakenForIconified call.id ↔
      w.hasRole = true ∧ w.hostState.iconified = true ∧ m.result call ≠ .ok () := by
  obtain ⟨hvalue, hresult, -⟩ := m.after_forwardState call hw hforwards
  have hiff := Window.forwardState_takenForIconified_iff (w := { w with state := s })
    (Recorded.start call.world) hshown
  rw [hresult]
  constructor
  · rintro ⟨w', hw', htaken⟩
    rw [hvalue] at hw'
    cases hw'
    exact hiff.1 htaken
  · intro hfailed
    exact ⟨_, hvalue, hiff.2 hfailed⟩

/-- A call that settles the difference, and leaves none. -/
theorem after_takenForIconified_of_settles {m : Manager} {call : Call ω}
    (hsettles : m.Settles call) (hfocus : ¬m.FailsFocus call)
    (hclear : ∀ w', (m.after call).windows[call.id]? = some w' → ¬w'.TakenForIconified) :
    (m.after call).TakenForIconified call.id ↔
      m.FailsFocus call ∨ (m.TakenForIconified call.id ∧ ¬m.Settles call) := by
  constructor
  · rintro ⟨w', hw', htaken⟩
    exact absurd htaken (hclear w' hw')
  · rintro (hfails | ⟨-, hunsettled⟩)
    · exact absurd hfails hfocus
    · exact absurd hsettles hunsettled

/-- A call that brings the host in line. -/
theorem after_takenForIconified_of_forwards (m : Manager) (call : Call ω) {w : Window}
    {s : WindowState} (hw : m.windows[call.id]? = some w)
    (hforwards : call.operation.Forwards m.setting w.state s) :
    (m.after call).TakenForIconified call.id ↔
      m.FailsFocus call ∨ (m.TakenForIconified call.id ∧ ¬m.Settles call) := by
  have hshown := m.after_takenForIconified_of_shown call hw hforwards
  have heffect := hforwards.stateEffect
  have hvalue := (m.after_forwardState call hw hforwards).1
  -- the call is not a note, whatever it is
  have hstates : ∀ s', call.operation.stateEffect m.setting w.state ≠ .note s' := by
    intro s' hnote
    rw [heffect] at hnote
    cases hnote
  generalize hoperation : call.operation = operation at hforwards
  cases hforwards with
  | focus hiconified =>
      rw [hshown rfl]
      constructor
      · rintro ⟨hrole, htaken, hfailed⟩
        exact Or.inl ⟨hoperation, hfailed, w, hw, hrole, hiconified, htaken⟩
      · rintro (⟨-, hfailed, other, hother, hrole, -, htaken⟩ | ⟨⟨other, hother, htaken⟩, -⟩)
        · rw [hw] at hother
          cases hother
          exact ⟨hrole, htaken, hfailed⟩
        · rw [hw] at hother
          cases hother
          exact absurd htaken.shown (ne_false_of_eq_true hiconified)
  | change htype hdecode hnot =>
      rw [hshown hnot]
      constructor
      · rintro ⟨hrole, htaken, hfailed⟩
        refine Or.inr ⟨⟨w, hw, hrole, hnot, htaken⟩, ?_⟩
        rintro ⟨-, -, -, hok | ⟨messageType, data, hasked, hother, -⟩⟩
        · exact hfailed hok
        · rw [hoperation] at hasked
          cases hasked
          exact hother htype
      · rintro (⟨hfocused, -⟩ | ⟨⟨other, hother, htaken⟩, hunsettled⟩)
        · rw [hoperation] at hfocused
          cases hfocused
        · rw [hw] at hother
          cases hother
          exact ⟨htaken.role, htaken.taken, fun hok => hunsettled ⟨w, hw, hstates, Or.inl hok⟩⟩
  | @iconify messageType data hother htype hiconify hdata =>
      refine after_takenForIconified_of_settles ⟨w, hw, hstates, Or.inr ?_⟩ ?_ ?_
      · exact ⟨messageType, data, hoperation, hother, htype, hiconify, hdata⟩
      · rintro ⟨hfocused, -⟩
        rw [hoperation] at hfocused
        cases hfocused
      · intro w' hw' htaken
        rw [hvalue] at hw'
        cases hw'
        have hnot := htaken.shown
        rw [Window.forwardState_state] at hnot
        cases hnot

/-- After a call about a window the host still takes it for iconified exactly if the call
failed its focus, or if the host did so before and the call does not settle it. -/
theorem after_takenForIconified_iff (m : Manager) (call : Call ω) :
    (m.after call).TakenForIconified call.id ↔
      m.FailsFocus call ∨ (m.TakenForIconified call.id ∧ ¬m.Settles call) := by
  cases hw : m.windows[call.id]? with
  | none =>
      have hfresh := (m.after_untracked call hw).2
      constructor
      · rintro ⟨w', hw', htaken⟩
        have hrole := htaken.role
        rw [Window.hasRole, (hfresh w' hw').1] at hrole
        cases hrole
      · rintro (⟨-, -, w, hsome, -⟩ | ⟨⟨w, hsome, -⟩, -⟩) <;> rw [hw] at hsome <;> cases hsome
  | some w =>
      obtain ⟨o, hstep, hvalue, hresult, -⟩ := m.after_stateStep call hw
      -- what is not a note and always ends well settles the difference
      have hsettled (heffect : ∀ s, call.operation.stateEffect m.setting w.state ≠ .note s)
          (hok : o.result = .ok ()) (hclear : ∀ w', o.value = some w' → ¬w'.TakenForIconified) :
          (m.after call).TakenForIconified call.id ↔
            m.FailsFocus call ∨ (m.TakenForIconified call.id ∧ ¬m.Settles call) :=
        after_takenForIconified_of_settles ⟨w, hw, heffect, Or.inl (hresult.trans hok)⟩
          (fun hfails => hfails.failed (hresult.trans hok)) (fun w' hw' => hclear w' (hvalue ▸ hw'))
      cases hstep with
      | forgotten heffect =>
          refine hsettled (fun s hnote => by rw [heffect] at hnote; cases hnote) rfl ?_
          intro w' hw'
          cases hw'
      | unmapped heffect =>
          refine hsettled (fun s hnote => by rw [heffect] at hnote; cases hnote) rfl ?_
          intro w' hw' htaken
          cases hw'
          cases htaken.role
      | assigned heffect =>
          refine hsettled (fun s hnote => by rw [heffect] at hnote; cases hnote) rfl ?_
          intro w' hw' htaken
          cases hw'
          exact absurd htaken.taken (ne_true_of_eq_false htaken.shown)
      | forwarded heffect =>
          exact m.after_takenForIconified_of_forwards call hw
            (Operation.forwards_of_stateEffect heffect)
      | @noted s o heffect hkeeps =>
          have hiconified : o.value.state.iconified = w.state.iconified := by
            rw [hkeeps.state]
            rcases Operation.eq_or_iconified_of_note heffect with rfl | ⟨hbefore, hafter⟩
            · rfl
            · rw [hbefore]
              exact hafter
          constructor
          · rintro ⟨w', hw', htaken⟩
            rw [hvalue] at hw'
            cases hw'
            refine Or.inr ⟨⟨w, hw, htaken.of_eq hkeeps.toplevel.symm hiconified.symm
              hkeeps.hostState.symm⟩, ?_⟩
            rintro ⟨other, hother, hstates, -⟩
            rw [hw] at hother
            cases hother
            exact hstates s heffect
          · rintro (⟨hfocused, -, other, hother, -, hbefore, -⟩ | ⟨⟨other, hother, htaken⟩, -⟩)
            · -- the focus of an iconified window is not a note
              rw [hw] at hother
              cases hother
              rw [hfocused, (Operation.Forwards.focus hbefore).stateEffect] at heffect
              cases heffect
            · rw [hw] at hother
              cases hother
              exact ⟨_, hvalue, htaken.of_eq hkeeps.toplevel hiconified hkeeps.hostState⟩

/-! ### The focus that failed -/

/-- A focus of a window that failed, and that no later call about the window has settled. -/
def FailedFocus (setting : Setting) (id : WindowId) : List (Call ω) → List (Call ω) → Call ω →
    List (Call ω) → Prop :=
  Latest (fun before focus => focus.id = id ∧ ((new setting).run before).FailsFocus focus)
    (fun before later => later.id = id ∧ ((new setting).run before).Settles later)

/-- After any run the host still takes a window for iconified exactly if a focus of the window
failed and nothing has settled that since. -/
theorem takenForIconified_iff (setting : Setting) (calls : List (Call ω)) (id : WindowId) :
    ((new setting).run calls).TakenForIconified id ↔
      ∃ before focus after, FailedFocus setting id calls before focus after := by
  induction calls using List.reverseRecOn with
  | nil =>
      constructor
      · rintro ⟨w, hw, -⟩
        rw [run_nil, getElem?_new] at hw
        cases hw
      · rintro ⟨before, focus, after, hfailed⟩
        exact absurd hfailed Latest.not_nil
  | append_singleton calls call ih =>
      refine Iff.trans ?_ exists_latest_concat_iff.symm
      rw [run_concat]
      by_cases hid : call.id = id
      · subst hid
        rw [after_takenForIconified_iff, ih]
        simp only [true_and]
        rfl
      · rw [takenForIconified_congr (after_getElem?_of_ne _ hid), ih]
        simp only [hid, false_and, not_false_eq_true, and_true, false_or]
        rfl

/-- A message that asks for the iconified state of a window that has a role and not this
state, and that ends well, minimizes the window once, unless a focus of the window failed and
nothing has settled that since.  Then it minimizes nothing. -/
theorem minimizes_iff (setting : Setting) (calls : List (Call ω)) (call : Call ω) {w : Window}
    {toplevel : UInt32} (hw : ((new setting).run calls).windows[call.id]? = some w)
    (hrole : w.toplevel = some toplevel) (hshown : w.state.iconified = false)
    (hasks : call.operation.AsksIconified setting)
    (hresult : ((new setting).run calls).result call = .ok ()) :
    let minimized := (Offer.acceptedRequests (((new setting).run calls).offers call)).count
      (.setMinimized toplevel)
    (minimized = 1 ↔ ¬∃ before focus after,
      FailedFocus setting call.id calls before focus after) ∧
    (minimized = 0 ↔ ∃ before focus after,
      FailedFocus setting call.id calls before focus after) := by
  intro minimized
  have hforwards : call.operation.Forwards ((new setting).run calls).setting w.state
      { w.state with iconified := true } := by
    obtain ⟨messageType, data, hoperation, hother, htype, hiconify, hdata⟩ := hasks
    rw [run_setting, hoperation]
    exact .iconify hother htype hiconify hdata
  have hcount : minimized = if w.hostState.iconified then 0 else 1 := by
    have haccepted := after_forwards_requests _ call hw hrole hforwards hresult
    simp only [minimized, haccepted]
    exact WindowState.count_setMinimized toplevel rfl
  have htaken : w.hostState.iconified = true ↔
      ∃ before focus after, FailedFocus setting call.id calls before focus after := by
    rw [← takenForIconified_iff]
    constructor
    · intro htaken
      exact ⟨w, hw, Option.isSome_iff_exists.2 ⟨toplevel, hrole⟩, hshown, htaken⟩
    · rintro ⟨other, hother, htaken⟩
      rw [hw] at hother
      cases hother
      exact htaken.taken
  rw [hcount, ← htaken]
  cases w.hostState.iconified <;> decide

/-- A window is iconified and is to become fullscreen.  The queue refuses the message that the
focus sends. -/
def failedFocusRun : List (Call (Surroundings UnreliableQueue PropertyTable)) :=
  let atoms := Atoms.numbered
  [.refusing 0 7 (.guest (.created false .empty)),
   .refusing 0 7 (.assignRole 30),
   .refusing 0 7 (.guest (.messaged atoms.wmChangeState ⟨3, 0, 0, 0, 0⟩)),
   .refusing 0 7 (.guest (.messaged atoms.netWmState ⟨1, atoms.netWmStateFullscreen, 0, 0, 0⟩)),
   .refusing 1 7 (.guest .focused)]

/-- The message after the focus that failed is swallowed, though the queue takes everything
by then. -/
theorem minimizes_failedFocusRun :
    let asks : Call (Surroundings UnreliableQueue PropertyTable) :=
      .refusing 0 7 (.guest (.messaged Atoms.numbered.wmChangeState ⟨3, 0, 0, 0, 0⟩))
    let m := (new (.plain true)).run failedFocusRun
    ∃ w, m.windows[(7 : WindowId)]? = some w ∧ w.toplevel = some 30 ∧
      w.state = ⟨true, false, false⟩ ∧ asks.operation.AsksIconified (.plain true) ∧
      m.result asks = .ok () ∧
      (Offer.acceptedRequests (m.offers asks)).count (.setMinimized 30) = 0 := by
  intro asks m
  obtain ⟨w, hw, hrole, hstate, hhost⟩ : ∃ w, m.windows[(7 : WindowId)]? = some w ∧
      w.toplevel = some 30 ∧ w.state = ⟨true, false, false⟩ ∧
      w.hostState = ⟨false, false, true⟩ := by
    rw [run_getElem?, getElem?_new]
    exact ⟨_, rfl, rfl, rfl, rfl⟩
  have hshown : w.state.iconified = false := congrArg WindowState.iconified hstate
  have hasks : asks.operation.AsksIconified (.plain true) := ⟨_, _, rfl, by decide, rfl, rfl, rfl⟩
  have hrecord := run_getElem? (new (.plain true)) failedFocusRun 7
  rw [getElem?_new] at hrecord
  have hresult : m.result asks = .ok () := (after_eq_recorded _ asks hrecord).2.1.trans rfl
  have hfailed := (takenForIconified_iff (.plain true) failedFocusRun 7).1
    ⟨w, hw, Option.isSome_iff_exists.2 ⟨30, hrole⟩, hshown, congrArg WindowState.iconified hhost⟩
  exact ⟨w, hw, hrole, hstate, hasks, hresult,
    (minimizes_iff (.plain true) failedFocusRun asks hw hrole hshown hasks hresult).2.2 hfailed⟩

end Manager

end GuestShell

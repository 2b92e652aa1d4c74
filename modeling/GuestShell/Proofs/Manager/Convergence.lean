import GuestShell.Proofs.Manager.StateEffect

/-!
# The host converges to the state

As long as the channel takes everything, the host has the whole state of every window with
a role, except of iconified ones: what changes while a window is iconified is held back, and
of such a window the host knows only that it is iconified.  Where windows cannot be
iconified nothing is ever held back.

A failed send is made up for by the next operation that brings the host in line and ends
well, whatever the host had missed by then.  Nothing is claimed of when such an operation
comes: the window manager does not retry on its own.
-/

namespace GuestShell

/-- The host has the state, or at least knows that it is iconified. -/
structure Window.Converged (w : Window) : Prop where
  shown : w.state.iconified = false → w.hostState = w.state
  iconified : w.state.iconified = true → w.hostState.iconified = true

theorem Window.Converged.of_eq {w : Window} (h : w.hostState = w.state) : w.Converged where
  shown := fun _ => h
  iconified := fun hiconified => (congrArg WindowState.iconified h).trans hiconified

/-- The window is not iconified, and the host does not take it for iconified. -/
structure Window.NeverIconified (w : Window) : Prop where
  state : w.state.iconified = false
  hostState : w.hostState.iconified = false

namespace Manager

variable {ω : Type} [HostChannel ω] [PropertySource ω]

/-- A call whose messages were all taken keeps the host in line. -/
theorem after_converged (m : Manager) (call : Call ω) {w w' : Window}
    (hw : m.windows[call.id]? = some w) (hw' : (m.after call).windows[call.id]? = some w')
    (hrole : w'.hasRole = true) (haccepted : ∀ o ∈ m.offers call, o.accepted = true)
    (hbefore : w.hasRole = true → w.Converged) : w'.Converged := by
  obtain ⟨o, hstep, hvalue, -, hoffers⟩ := m.after_stateStep call hw
  rw [hw'] at hvalue
  rw [hoffers] at haccepted
  cases hstep with
  | forgotten heffect => cases hvalue
  | unmapped heffect =>
      cases hvalue
      cases hrole
  | assigned heffect =>
      cases hvalue
      exact .of_eq rfl
  | @forwarded s heffect =>
      -- no send failed, so the host has been told everything, held back or not
      cases hvalue
      rw [Window.forwardState_hasRole] at hrole
      have hhost := Window.forwardState_hostState_of_ok hrole
        (Window.forwardState_result_of_accepted haccepted)
      exact .of_eq (hhost.trans (Window.forwardState_state _ _).symm)
  | @noted s o heffect hkeeps =>
      cases hvalue
      have hheld : w.hasRole = true := by
        rw [← hrole, Window.hasRole, Window.hasRole, hkeeps.toplevel]
      have hconverged := hbefore hheld
      rcases Operation.eq_or_iconified_of_note heffect with rfl | ⟨hiconified, hstill⟩
      · constructor
        · intro hshown
          rw [hkeeps.state] at hshown ⊢
          exact hkeeps.hostState.trans (hconverged.shown hshown)
        · intro hiconified
          rw [hkeeps.state] at hiconified
          rw [hkeeps.hostState]
          exact hconverged.iconified hiconified
      · -- the new state is held back, and the host knows that the window is iconified
        constructor
        · intro hshown
          rw [hkeeps.state] at hshown
          exact absurd (hstill.symm.trans hshown) (by decide)
        · intro _
          rw [hkeeps.hostState]
          exact hconverged.iconified hiconified

/-- Where windows cannot be iconified, no call iconifies one, whatever the channel does. -/
theorem after_neverIconified (m : Manager) (call : Call ω) (hiconify : m.setting.iconify = false)
    {w w' : Window} (hw : m.windows[call.id]? = some w)
    (hw' : (m.after call).windows[call.id]? = some w') (hbefore : w.NeverIconified) :
    w'.NeverIconified := by
  obtain ⟨o, hstep, hvalue, -, -⟩ := m.after_stateStep call hw
  rw [hw'] at hvalue
  cases hstep with
  | forgotten heffect => cases hvalue
  | unmapped heffect =>
      cases hvalue
      exact ⟨hbefore.state, rfl⟩
  | assigned heffect =>
      cases hvalue
      exact ⟨hbefore.state, hbefore.state⟩
  | @forwarded s heffect =>
      -- the sends may stop anywhere, but none of them is about the iconified state
      cases hvalue
      have hs : s.iconified = false :=
        (Operation.forwards_of_stateEffect heffect).iconified hiconify hbefore.state
      constructor
      · rw [Window.forwardState_state]
        exact hs
      · exact Window.forwardState_get_eq_false .iconified _ hbefore.hostState hs
  | @noted s o heffect hkeeps =>
      cases hvalue
      rcases Operation.eq_or_iconified_of_note heffect with rfl | ⟨hiconified, -⟩
      · constructor
        · rw [hkeeps.state]
          exact hbefore.state
        · rw [hkeeps.hostState]
          exact hbefore.hostState
      · rw [hbefore.state] at hiconified
        cases hiconified

/-- A call that brings the host in line and ends well changes the two states of the record and
nothing else, whatever the host had before. -/
theorem after_forwards_record (m : Manager) (call : Call ω) {w : Window} {s : WindowState}
    (hw : m.windows[call.id]? = some w) (hrole : w.hasRole = true)
    (hforwards : call.operation.Forwards m.setting w.state s) (hresult : m.result call = .ok ()) :
    (m.after call).windows[call.id]? = some { w with state := s, hostState := s } := by
  obtain ⟨hvalue, hend, -⟩ := m.after_forwardState call hw hforwards
  have hhost := Window.forwardState_hostState_of_ok (w := { w with state := s }) hrole
    (hend.symm.trans hresult)
  rw [hvalue, Window.forwardState_eq_hostState, hhost]

/-- A call that brings the host in line and ends well leaves the host with the state that it
forwards. -/
theorem after_forwards (m : Manager) (call : Call ω) {w : Window} {s : WindowState}
    (hw : m.windows[call.id]? = some w) (hrole : w.hasRole = true)
    (hforwards : call.operation.Forwards m.setting w.state s) (hresult : m.result call = .ok ()) :
    ∃ w', (m.after call).windows[call.id]? = some w' ∧ w'.toplevel = w.toplevel ∧
      w'.state = s ∧ w'.hostState = s :=
  ⟨_, after_forwards_record m call hw hrole hforwards hresult, rfl, rfl, rfl⟩

theorem converged_of_allAccepted (setting : Setting) (calls : List (Call ω)) {id : WindowId}
    {w : Window} (hw : ((new setting).run calls).windows[id]? = some w) :
    (new setting).AllAccepted calls → w.hasRole = true → w.Converged := by
  refine run_tracked_induction (P := fun calls _ w =>
    (new setting).AllAccepted calls → w.hasRole = true → w.Converged) setting ?_ ?_ ?_ calls hw
  · intro calls call id w hne h haccepted hrole
    exact h ((allAccepted_append _ calls [call]).1 haccepted).1 hrole
  · intro calls id w htoplevel _ _ _ hrole
    rw [Window.hasRole, htoplevel] at hrole
    cases hrole
  · intro calls call w w' hbefore hw' ih haccepted hrole
    obtain ⟨hearlier, hlast, -⟩ := (allAccepted_append _ calls [call]).1 haccepted
    exact after_converged _ call hbefore hw' hrole hlast (ih hearlier)

theorem neverIconified_of_run {setting : Setting} (hiconify : setting.iconify = false)
    (calls : List (Call ω)) {id : WindowId} {w : Window}
    (hw : ((new setting).run calls).windows[id]? = some w) : w.NeverIconified := by
  refine run_tracked_induction (P := fun _ _ w => w.NeverIconified) setting ?_ ?_ ?_ calls hw
  · intro calls call id w hne h
    exact h
  · intro calls id w _ hstate hhost
    exact ⟨congrArg WindowState.iconified hstate, congrArg WindowState.iconified hhost⟩
  · intro calls call w w' hbefore hw' ih
    have hsame : ((new setting).run calls).setting.iconify = false := by
      rw [run_setting]
      exact hiconify
    exact after_neverIconified _ call hsame hbefore hw' ih

/-- The host converges to the state of the windows with a role.  As long as everything was
taken it has the state of all that are not iconified, and knows the others to be iconified;
where windows cannot be iconified this leaves out none.  After any run, whatever was
refused in it, a call that brings the host in line and ends well leaves no difference. -/
theorem hostState_converges (setting : Setting) (calls : List (Call ω)) :
    ((new setting).AllAccepted calls → ∀ (id : WindowId) (w : Window),
      ((new setting).run calls).windows[id]? = some w → w.hasRole = true →
        (w.state.iconified = false → w.hostState = w.state) ∧
        (w.state.iconified = true → w.hostState.iconified = true) ∧
        (setting.iconify = false → w.hostState = w.state)) ∧
    (setting.iconify = false → ∀ (id : WindowId) (w : Window),
      ((new setting).run calls).windows[id]? = some w →
        w.state.iconified = false ∧ w.hostState.iconified = false) ∧
    (∀ (call : Call ω) (w : Window) (s : WindowState),
      ((new setting).run calls).windows[call.id]? = some w → w.hasRole = true →
      call.operation.Forwards setting w.state s →
      ((new setting).run calls).result call = .ok () →
        ∃ w', ((new setting).run (calls ++ [call])).windows[call.id]? = some w' ∧
          w'.toplevel = w.toplevel ∧ w'.state = s ∧ w'.hostState = s) := by
  refine ⟨?_, ?_, ?_⟩
  · intro haccepted id w hw hrole
    have hconverged := converged_of_allAccepted setting calls hw haccepted hrole
    refine ⟨hconverged.shown, hconverged.iconified, ?_⟩
    intro hiconify
    exact hconverged.shown (neverIconified_of_run hiconify calls hw).state
  · intro hiconify id w hw
    have hnever := neverIconified_of_run hiconify calls hw
    exact ⟨hnever.state, hnever.hostState⟩
  · intro call w s hw hrole hforwards hresult
    have hsame : call.operation.Forwards ((new setting).run calls).setting w.state s := by
      rw [run_setting]
      exact hforwards
    rw [run_concat]
    exact after_forwards _ call hw hrole hsame hresult

/-- Where windows can be iconified, the fullscreen state is held back; where they cannot, it
is not; and what was refused is made up for by a message that changes nothing. -/
theorem hostState_converges_runs :
    (∃ w, ((new (.plain true)).run heldBackRun).windows[(7 : WindowId)]? = some w ∧
      w.state = ⟨true, false, true⟩ ∧ w.hostState = ⟨false, false, true⟩ ∧
      w.hostState.iconified = true) ∧
    (∃ w, ((new (.plain false)).run heldBackRun).windows[(7 : WindowId)]? = some w ∧
      w.state = ⟨true, false, false⟩ ∧ w.hostState = w.state ∧
      w.state.iconified = false ∧ w.hostState.iconified = false) ∧
    ∃ w, ((new (.plain true)).run (refusedRun ++ [.refusing 0 7
        (.guest (.messaged Atoms.numbered.netWmState ⟨1, 0, 0, 0, 0⟩))])).windows[(7 : WindowId)]? =
          some w ∧ w.toplevel = some 30 ∧
      w.state = ⟨false, true, false⟩ ∧ w.hostState = ⟨false, true, false⟩ := by
  refine ⟨?_, ?_, ?_⟩
  · obtain ⟨w, hw, hstate, hhost, hrole⟩ : ∃ w,
        ((new (.plain true)).run heldBackRun).windows[(7 : WindowId)]? = some w ∧
        w.state = ⟨true, false, true⟩ ∧ w.hostState = ⟨false, false, true⟩ ∧
        w.hasRole = true := by
      rw [run_getElem?, getElem?_new]
      exact ⟨_, rfl, rfl, rfl, rfl⟩
    have haccepted := allAccepted_of_reliable reliable_queued (new (.plain true)) heldBackRun
    have hconverges := (hostState_converges (.plain true) heldBackRun).1 haccepted 7 w hw hrole
    exact ⟨w, hw, hstate, hhost, hconverges.2.1 (congrArg WindowState.iconified hstate)⟩
  · obtain ⟨w, hw, hstate, hrole⟩ : ∃ w,
        ((new (.plain false)).run heldBackRun).windows[(7 : WindowId)]? = some w ∧
        w.state = ⟨true, false, false⟩ ∧ w.hasRole = true := by
      rw [run_getElem?, getElem?_new]
      exact ⟨_, rfl, rfl, rfl⟩
    have haccepted := allAccepted_of_reliable reliable_queued (new (.plain false)) heldBackRun
    have hconverges := hostState_converges (.plain false) heldBackRun
    exact ⟨w, hw, hstate, (hconverges.1 haccepted 7 w hw hrole).2.2 rfl, hconverges.2.1 rfl 7 w hw⟩
  · obtain ⟨w, hw, hstate, hhost, htoplevel⟩ : ∃ w,
        ((new (.plain true)).run refusedRun).windows[(7 : WindowId)]? = some w ∧
        w.state = ⟨false, true, false⟩ ∧ w.hostState = ⟨true, true, false⟩ ∧
        w.toplevel = some 30 := by
      rw [run_getElem?, getElem?_new]
      exact ⟨_, rfl, rfl, rfl, rfl⟩
    have hforwards : Operation.Forwards (.plain true) w.state
        (.guest (.messaged Atoms.numbered.netWmState ⟨1, 0, 0, 0, 0⟩)) ⟨false, true, false⟩ := by
      have hdecode : StateRequest.decode (Setting.plain true).atoms ⟨1, 0, 0, 0, 0⟩ =
          some ⟨.add, false, false⟩ := rfl
      rw [hstate]
      exact Operation.Forwards.change (s := ⟨false, true, false⟩) rfl hdecode rfl
    have hrecord := run_getElem? (new (.plain true)) refusedRun 7
    rw [getElem?_new] at hrecord
    obtain ⟨w', hw', hkept, hnew, hmirrored⟩ :=
      (hostState_converges (.plain true) refusedRun).2.2 (.refusing 0 7 _) w _ hw
        (Option.isSome_iff_exists.2 ⟨30, htoplevel⟩) hforwards
        ((after_eq_recorded _ (.refusing 0 7 _) hrecord).2.1.trans rfl)
    exact ⟨w', hw', hkept.trans htoplevel, hnew, hmirrored⟩

end Manager

end GuestShell

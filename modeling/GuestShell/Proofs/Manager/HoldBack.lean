import GuestShell.Proofs.Manager.StateEffect

/-!
# What an iconified window gives away

While a window is iconified, changes of its state are to be held back until the focus ends
that.  State messages keep to this.  A further message that asks for the iconified state does
not: it brings the host in line with the whole state, so fullscreen and maximized requests
that were held back are sent while the window stays iconified.

This file says exactly when a call offers a request about fullscreen or maximized, and of an
iconified window that the further message is the only way.  The toplevel is taken to be that
of the window; two windows that were given the same toplevel can disturb each other, which
is stated as well.
-/

namespace GuestShell

/-- The requests about fullscreen or maximized. -/
def ShellRequest.reshapes : ShellRequest → Bool
  | .setFullscreen _ => true
  | .unsetFullscreen _ => true
  | .setMaximized _ => true
  | .unsetMaximized _ => true
  | _ => false

theorem ShellRequest.isText_of_reshapes {r : ShellRequest} (habout : r.reshapes = true) :
    r.isText = false := by
  cases r <;> first | rfl | cases habout

/-- A message that asks for the iconified state, where windows can be iconified. -/
def Operation.AsksIconified (setting : Setting) (operation : Operation) : Prop :=
  ∃ messageType data, operation = .guest (.messaged messageType data) ∧
    messageType ≠ setting.atoms.netWmState ∧ messageType = setting.atoms.wmChangeState ∧
    setting.iconify = true ∧ data.first = Window.iconicState

/-- The host differs in what fullscreen and maximized requests could tell it. -/
def WindowState.Differs (host target : WindowState) : Prop :=
  host.fullscreen ≠ target.fullscreen ∨ host.maximized ≠ target.maximized

namespace WindowState

/-- The first request that brings the host in line is about fullscreen or maximized if the
host differs in one of them. -/
theorem head_syncRequests {host target : WindowState} (toplevel : UInt32)
    (hdiffers : host.Differs target) : ∃ p rest, syncRequests toplevel host target = p :: rest ∧
      p.2.reshapes = true := by
  by_cases hfullscreen : host.fullscreen = target.fullscreen
  · have hmaximized : host.maximized ≠ target.maximized :=
      hdiffers.resolve_left (fun hne => hne hfullscreen)
    rw [syncRequests, if_pos hfullscreen, if_neg hmaximized]
    exact ⟨_, _, rfl, by cases target.maximized <;> rfl⟩
  · rw [syncRequests, if_neg hfullscreen]
    exact ⟨_, _, rfl, by cases target.fullscreen <;> rfl⟩

/-- No request about fullscreen or maximized is needed if the host differs in neither. -/
theorem differs_of_mem_syncRequests {toplevel : UInt32} {host target : WindowState}
    {p : StateAxis × ShellRequest} (hp : p ∈ syncRequests toplevel host target)
    (habout : p.2.reshapes = true) : host.Differs target := by
  rcases mem_syncRequests hp with ⟨-, hne⟩ | ⟨-, hne⟩ | rfl
  · exact Or.inl hne
  · exact Or.inr hne
  · cases habout

end WindowState

variable {ω : Type} [HostChannel ω]

/-- Bringing the host in line asks for fullscreen or maximized exactly if the host differs. -/
theorem Window.forwardState_reshapes_iff (w : Window) (world : ω) (toplevel : UInt32) :
    (∃ request ∈ Offer.requests (w.forwardState (Recorded.start world)).world.offers,
      request.reshapes = true ∧ request.target = toplevel) ↔
    w.toplevel = some toplevel ∧ w.hostState.Differs w.state := by
  rcases w.forwardState_cases (Recorded.start world) with
    ⟨hnone, hnothing⟩ | ⟨held, offers, hheld, hsends, hoffers⟩
  · rw [hnothing, hnone]
    constructor
    · rintro ⟨request, hrequest, -⟩
      cases hrequest
    · rintro ⟨hsame, -⟩
      cases hsame
  · rw [show (w.forwardState (Recorded.start world)).world.offers = offers from hoffers, hheld]
    constructor
    · rintro ⟨request, hrequest, habout, htarget⟩
      obtain ⟨p, hp, rfl⟩ := hsends.mem_of_mem_requests hrequest
      have hsame := (WindowState.syncRequests_about hp).2
      exact ⟨congrArg some (hsame.symm.trans htarget),
        WindowState.differs_of_mem_syncRequests hp habout⟩
    · rintro ⟨hsame, hdiffers⟩
      cases hsame
      obtain ⟨p, rest, hfirst, habout⟩ := WindowState.head_syncRequests toplevel hdiffers
      have hmem : p ∈ WindowState.syncRequests toplevel w.hostState w.state := by
        rw [hfirst]
        exact List.mem_cons_self
      obtain ⟨htext, htarget⟩ := WindowState.syncRequests_about hmem
      obtain ⟨bytes, hbytes⟩ := ShellRequest.encode_of_not_isText htext
      rw [hfirst] at hsends
      exact ⟨p.2, hsends.head_mem_requests hbytes, habout, htarget⟩

variable [PropertySource ω]

namespace Manager

/-- A call offers a request about fullscreen or maximized for a toplevel. -/
def Reshapes (m : Manager) (call : Call ω) (toplevel : UInt32) : Prop :=
  ∃ request ∈ Offer.requests (m.offers call), request.reshapes = true ∧ request.target = toplevel

theorem reshapes_iff (m : Manager) (call : Call ω) (toplevel : UInt32) :
    m.Reshapes call toplevel ↔
      ∃ w s, m.windows[call.id]? = some w ∧ w.toplevel = some toplevel ∧
        call.operation.Forwards m.setting w.state s ∧ w.hostState.Differs s := by
  cases hw : m.windows[call.id]? with
  | none =>
      rw [Reshapes, (m.after_untracked call hw).1]
      constructor
      · rintro ⟨request, hrequest, -⟩
        cases hrequest
      · rintro ⟨w, s, hnone, -⟩
        cases hnone
  | some w =>
      constructor
      · rintro ⟨request, hrequest, habout, htarget⟩
        by_cases hforward : ∃ s, call.operation.stateEffect m.setting w.state = .forward s
        · obtain ⟨s, hs⟩ := hforward
          have hforwards := Operation.forwards_of_stateEffect hs
          rw [(m.after_forwardState call hw hforwards).2.2] at hrequest
          obtain ⟨hheld, hdiffers⟩ := (Window.forwardState_reshapes_iff { w with state := s }
            call.world toplevel).1 ⟨request, hrequest, habout, htarget⟩
          exact ⟨w, s, rfl, hheld, hforwards, hdiffers⟩
        · -- what does not forward sends texts at most
          obtain ⟨o, hstep, -, -, hoffers⟩ := m.after_stateStep call hw
          have htext := hstep.isText_of_ne_forward
            (fun s hs => hforward ⟨s, hs⟩) request (hoffers ▸ hrequest)
          rw [ShellRequest.isText_of_reshapes habout] at htext
          cases htext
      · rintro ⟨other, s, hsame, hheld, hforwards, hdiffers⟩
        cases hsame
        rw [Reshapes, (m.after_forwardState call hw hforwards).2.2]
        exact (Window.forwardState_reshapes_iff { w with state := s } call.world toplevel).2
          ⟨hheld, hdiffers⟩

/-- A call that leaves an iconified window iconified offers its toplevel a request about
fullscreen or maximized exactly if it is a further message that asks for the iconified state
while such a request is held back.  A call about another window does exactly if that window
has the same toplevel and is brought in line. -/
theorem reshapes_iconified_iff (setting : Setting) (calls : List (Call ω)) (call : Call ω)
    {id : WindowId} {w w' : Window} {toplevel : UInt32}
    (hw : ((new setting).run calls).windows[id]? = some w)
    (hw' : ((new setting).run (calls ++ [call])).windows[id]? = some w')
    (hrole : w.toplevel = some toplevel) (hbefore : w.state.iconified = true)
    (hafter : w'.state.iconified = true) :
    (call.id = id → (((new setting).run calls).Reshapes call toplevel ↔
      call.operation.AsksIconified setting ∧ w.hostState.Differs w.state)) ∧
    (call.id ≠ id → (((new setting).run calls).Reshapes call toplevel ↔
      ∃ other s, ((new setting).run calls).windows[call.id]? = some other ∧
        other.toplevel = some toplevel ∧ call.operation.Forwards setting other.state s ∧
        other.hostState.Differs s)) := by
  have hiff := reshapes_iff ((new setting).run calls) call toplevel
  rw [run_setting] at hiff
  refine ⟨?_, fun _ => hiff⟩
  intro hid
  subst hid
  rw [hiff]
  constructor
  · rintro ⟨same, s, hsame, -, hforwards, hdiffers⟩
    rw [hw] at hsame
    cases hsame
    have hstate : w'.state = s := by
      have hsame : call.operation.Forwards ((new setting).run calls).setting w.state s := by
        rw [run_setting]
        exact hforwards
      rw [run_concat, (after_forwardState _ call hw hsame).1] at hw'
      cases hw'
      exact Window.forwardState_state _ _
    rw [hstate] at hafter
    generalize call.operation = operation at hforwards ⊢
    cases hforwards with
    | focus hiconified =>
        -- the focus ends the iconified state
        cases hafter
    | change htype hdecode hshown =>
        rw [hbefore] at hshown
        cases hshown
    | iconify hother htype hiconify hdata =>
        -- the window had the iconified state, so what is forwarded is its state as it was
        exact ⟨⟨_, _, rfl, hother, htype, hiconify, hdata⟩, hdiffers⟩
  · rintro ⟨⟨messageType, data, hoperation, hother, htype, hiconify, hdata⟩, hdiffers⟩
    refine ⟨w, { w.state with iconified := true }, hw, hrole, ?_, hdiffers⟩
    rw [hoperation]
    exact .iconify hother htype hiconify hdata

/-- The second message that asks for the iconified state gives the held back request away. -/
theorem reshapes_iconified_again :
    let again : Call (Surroundings Queue PropertyTable) :=
      .queued 7 (.guest (.messaged Atoms.numbered.wmChangeState ⟨3, 0, 0, 0, 0⟩))
    ∃ w w', ((new (.plain true)).run heldBackRun).windows[(7 : WindowId)]? = some w ∧
      ((new (.plain true)).run (heldBackRun ++ [again])).windows[(7 : WindowId)]? = some w' ∧
      w.toplevel = some 30 ∧ w.state.iconified = true ∧ w'.state.iconified = true ∧
      ∃ request ∈ Offer.acceptedRequests (((new (.plain true)).run heldBackRun).offers again),
        request.reshapes = true ∧ request.target = 30 := by
  intro again
  obtain ⟨w, hw, hrole, hbefore, hdiffers⟩ : ∃ w,
      ((new (.plain true)).run heldBackRun).windows[(7 : WindowId)]? = some w ∧
      w.toplevel = some 30 ∧ w.state.iconified = true ∧
      w.hostState.fullscreen ≠ w.state.fullscreen := by
    rw [run_getElem?, getElem?_new]
    exact ⟨_, rfl, rfl, rfl, by decide⟩
  obtain ⟨w', hw', hafter⟩ : ∃ w',
      ((new (.plain true)).run (heldBackRun ++ [again])).windows[(7 : WindowId)]? = some w' ∧
      w'.state.iconified = true := by
    rw [run_getElem?, getElem?_new]
    exact ⟨_, rfl, rfl⟩
  have hasks : again.operation.AsksIconified (.plain true) :=
    ⟨_, _, rfl, by decide, rfl, rfl, rfl⟩
  have hiff := (reshapes_iconified_iff (.plain true) heldBackRun again hw hw' hrole hbefore
    hafter).1 rfl
  obtain ⟨request, hrequest, habout⟩ := hiff.2 ⟨hasks, Or.inl hdiffers⟩
  rw [← Offer.acceptedRequests_eq_requests (accepted_of_reliable reliable_queued _ again)]
    at hrequest
  exact ⟨w, w', hw, hw', hrole, hbefore, hafter, request, hrequest, habout⟩

end Manager

end GuestShell

import GuestShell.Proofs.Manager.StateView

/-!
# Fullscreen and maximized do not disturb each other

A `_NET_WM_STATE` message brings the host in line with the whole state of its window,
whatever the message names.  Still, on a channel that refuses nothing, a message that does not
name a state leaves no trace in it: the host has the whole state of every window that is not
iconified, and of an iconified window nothing is forwarded.  So the messages that do not name
a state can be deleted from a run, and what the record says of that state and the requests
about it stay the same (`StateView.replay_filter`).

This is NOT true of channels that refuse messages.  There a message about one state makes up
for a refused request about the other.
-/

namespace GuestShell

/-- The states that the words of a `_NET_WM_STATE` message name: fullscreen by its atom, and
maximized by both of its atoms. -/
def MessageWords.names (atoms : Atoms) (data : MessageWords) : StateAxis → Bool
  | .fullscreen =>
      data.second == atoms.netWmStateFullscreen || data.third == atoms.netWmStateFullscreen
  | .maximized =>
      (data.second == atoms.netWmStateMaximizedHorz &&
        data.third == atoms.netWmStateMaximizedVert) ||
      (data.second == atoms.netWmStateMaximizedVert &&
        data.third == atoms.netWmStateMaximizedHorz)
  | .iconified => false

/-- A `_NET_WM_STATE` message that does not name a state. -/
def Operation.passesOver (setting : Setting) (axis : StateAxis) : Operation → Bool
  | .guest (.messaged messageType data) =>
      messageType == setting.atoms.netWmState && !data.names setting.atoms axis
  | _ => false

/-- A message that passes over some state passes over the iconified one. -/
theorem Operation.passesOver_iconified {setting : Setting} {operation : Operation}
    {axis : StateAxis} (h : operation.passesOver setting axis = true) :
    operation.passesOver setting .iconified = true := by
  unfold Operation.passesOver at h ⊢
  split at h
  case h_2 => cases h
  case h_1 messageType data =>
    simp only [Bool.and_eq_true] at h
    simp [h.1, MessageWords.names]

/-- The request is about a state of its toplevel. -/
def ShellRequest.isAbout (axis : StateAxis) (r : ShellRequest) : Bool := (r.axisValue? axis).isSome

/-! ### What messages name -/

/-- The atom of a state. -/
def StateAtom.atom (atoms : Atoms) : StateAtom → Atom
  | .fullscreen => atoms.netWmStateFullscreen
  | .maximizedHorz => atoms.netWmStateMaximizedHorz
  | .maximizedVert => atoms.netWmStateMaximizedVert

theorem StateAtom.eq_atom_of_ofAtom? {atoms : Atoms} {atom : Atom} {s : StateAtom}
    (h : ofAtom? atoms atom = some s) : atom = s.atom atoms := by
  unfold ofAtom? at h
  split at h
  case isTrue => cases h
  case isFalse =>
    split at h
    case isTrue heq => cases h; exact heq.symm
    case isFalse =>
      split at h
      case isTrue heq => cases h; exact heq.symm
      case isFalse =>
        split at h
        case isTrue heq => cases h; exact heq.symm
        case isFalse => cases h

namespace StateRequest

/-- The axes that a request is for. -/
def isFor (r : StateRequest) : StateAxis → Bool
  | .fullscreen => r.fullscreen
  | .maximized => r.maximized
  | .iconified => false

theorem mem_named {atoms : Atoms} {data : MessageWords} {s : StateAtom}
    (h : s ∈ [data.second, data.third].filterMap (StateAtom.ofAtom? atoms)) :
    data.second = s.atom atoms ∧ StateAtom.ofAtom? atoms data.second = some s ∨
      data.third = s.atom atoms ∧ StateAtom.ofAtom? atoms data.third = some s := by
  obtain ⟨atom, hatom, hs⟩ := List.mem_filterMap.1 h
  rcases List.mem_cons.1 hatom with rfl | hatom
  · exact Or.inl ⟨StateAtom.eq_atom_of_ofAtom? hs, hs⟩
  · rw [List.mem_singleton.1 hatom] at hs
    exact Or.inr ⟨StateAtom.eq_atom_of_ofAtom? hs, hs⟩

/-- A decoded request is for no state that the message does not name. -/
theorem names_of_decode {atoms : Atoms} {data : MessageWords} {r : StateRequest}
    (hdecode : decode atoms data = some r) {axis : StateAxis} (hfor : r.isFor axis = true) :
    data.names atoms axis = true := by
  unfold decode at hdecode
  split at hdecode
  case h_1 => cases hdecode
  case h_2 action _ =>
    cases hdecode
    cases axis with
    | iconified => cases hfor
    | fullscreen =>
        have hmem := List.contains_iff_mem.1 hfor
        rcases mem_named hmem with ⟨hsecond, -⟩ | ⟨hthird, -⟩
        · simp [MessageWords.names, hsecond, StateAtom.atom]
        · simp [MessageWords.names, hthird, StateAtom.atom]
    | maximized =>
        obtain ⟨hhorz, hvert⟩ := Bool.and_eq_true_iff.1 hfor
        -- one word cannot stand for both atoms
        rcases mem_named (List.contains_iff_mem.1 hhorz) with ⟨hh, hh'⟩ | ⟨hh, hh'⟩ <;>
          rcases mem_named (List.contains_iff_mem.1 hvert) with ⟨hv, hv'⟩ | ⟨hv, hv'⟩
        · rw [hh'] at hv'
          cases hv'
        · simp [MessageWords.names, hh, hv, StateAtom.atom]
        · simp [MessageWords.names, hh, hv, StateAtom.atom]
        · rw [hh'] at hv'
          cases hv'

theorem apply_get_of_not_isFor {r : StateRequest} {axis : StateAxis} (s : WindowState)
    (hfor : r.isFor axis = false) : (r.apply s).get axis = s.get axis := by
  cases axis with
  | iconified => rfl
  | fullscreen => exact if_neg (Bool.eq_false_iff.1 hfor)
  | maximized => exact if_neg (Bool.eq_false_iff.1 hfor)

end StateRequest

/-! ### Views that agree about one state -/

/-- What a state says of an axis, and of being iconified, on which forwarding depends. -/
def WindowState.aspect (axis : StateAxis) (s : WindowState) : Bool × Bool :=
  (s.get axis, s.iconified)

theorem WindowState.aspect_eq_iff {axis : StateAxis} {s s' : WindowState} :
    s.aspect axis = s'.aspect axis ↔ s.get axis = s'.get axis ∧ s.iconified = s'.iconified :=
  Prod.mk.injEq .. ▸ Iff.rfl

/-- Two states that agree about both axes of a message are the same. -/
theorem WindowState.eq_of_aspect {s s' : WindowState}
    (hfullscreen : s.aspect .fullscreen = s'.aspect .fullscreen)
    (hmaximized : s.aspect .maximized = s'.aspect .maximized) : s = s' := by
  obtain ⟨hf, hi⟩ := aspect_eq_iff.1 hfullscreen
  obtain ⟨hm, -⟩ := aspect_eq_iff.1 hmaximized
  cases s
  cases s'
  rw [mk.injEq]
  exact ⟨hf, hm, hi⟩

theorem StateRequest.aspect_apply (r : StateRequest) {axis : StateAxis} {s s' : WindowState}
    (h : s.aspect axis = s'.aspect axis) : (r.apply s).aspect axis = (r.apply s').aspect axis := by
  obtain ⟨hvalue, hiconified⟩ := WindowState.aspect_eq_iff.1 h
  refine WindowState.aspect_eq_iff.2 ⟨?_, hiconified⟩
  cases axis with
  | iconified => exact hvalue
  | fullscreen => simp only [WindowState.get] at hvalue; simp only [WindowState.get, apply, hvalue]
  | maximized => simp only [WindowState.get] at hvalue; simp only [WindowState.get, apply, hvalue]

/-- Giving two states the same iconified state keeps what they agree about. -/
theorem WindowState.aspect_setIconified {axis : StateAxis} {s s' : WindowState}
    (h : s.aspect axis = s'.aspect axis) (value : Bool) :
    aspect axis { s with iconified := value } = aspect axis { s' with iconified := value } := by
  have hvalue := (aspect_eq_iff.1 h).1
  refine aspect_eq_iff.2 ⟨?_, rfl⟩
  cases axis with
  | iconified => rfl
  | fullscreen => exact hvalue
  | maximized => exact hvalue

/-- Two effects differ at most in the states that they give, which agree about an axis. -/
inductive StateEffect.Alike (axis : StateAxis) : StateEffect → StateEffect → Prop
  | forget : Alike axis .forget .forget
  | unmap : Alike axis .unmap .unmap
  | assign (toplevel : UInt32) : Alike axis (.assign toplevel) (.assign toplevel)
  | note {s s' : WindowState} (h : s.aspect axis = s'.aspect axis) :
      Alike axis (.note s) (.note s')
  | forward {s s' : WindowState} (h : s.aspect axis = s'.aspect axis) :
      Alike axis (.forward s) (.forward s')

theorem StateEffect.ofMessage_alike (setting : Setting) {axis : StateAxis} {s s' : WindowState}
    (h : s.aspect axis = s'.aspect axis) (messageType : Atom) (data : MessageWords) :
    (ofMessage setting s messageType data).Alike axis (ofMessage setting s' messageType data) := by
  unfold ofMessage
  rw [(WindowState.aspect_eq_iff.1 h).2]
  split
  · cases StateRequest.decode setting.atoms data with
    | none => exact .note h
    | some request =>
        simp only
        split
        · exact .note (request.aspect_apply h)
        · exact .forward (request.aspect_apply h)
  · split
    · split
      · exact .forward (WindowState.aspect_setIconified h true)
      · exact .note h
    · exact .note h

/-- What an operation does to two states that agree about an axis agrees about it. -/
theorem Operation.stateEffect_alike (setting : Setting) {axis : StateAxis} {s s' : WindowState}
    (h : s.aspect axis = s'.aspect axis) (operation : Operation) :
    (operation.stateEffect setting s).Alike axis (operation.stateEffect setting s') := by
  cases operation with
  | guest change =>
      cases change with
      | messaged messageType data => exact StateEffect.ofMessage_alike setting h messageType data
      | focused =>
          simp only [stateEffect, StateEffect.ofChange, (WindowState.aspect_eq_iff.1 h).2]
          split
          · exact .forward (WindowState.aspect_setIconified h false)
          · exact .note h
      | reparented parent =>
          simp only [stateEffect, StateEffect.ofChange]
          split
          · exact .note h
          · exact .forget
      | destroyed => exact .forget
      | unmapped => exact .unmap
      | created | mapRequested | configureRequested | propertyChanged => exact .note h
  | assignRole toplevel => exact .assign toplevel
  | adopt | assignAuraSurface | updateApplicationId => exact .note h

namespace WindowState

/-- The requests about one axis, given the value that the host has and the one that is
wanted. -/
def axisRequests (toplevel : UInt32) (host target : Bool) : StateAxis → List ShellRequest
  | .fullscreen => if host = target then [] else [fullscreenRequest toplevel target]
  | .maximized => if host = target then [] else [maximizedRequest toplevel target]
  | .iconified => if target && !host then [.setMinimized toplevel] else []

/-- Of the requests that bring the host in line, those about one axis depend on nothing but
that axis. -/
theorem filter_syncRequests (toplevel : UInt32) (host target : WindowState) (axis : StateAxis) :
    ((syncRequests toplevel host target).map (·.2)).filter (·.isAbout axis) =
      axisRequests toplevel (host.get axis) (target.get axis) axis := by
  have hfullscreen : ∀ other, (fullscreenRequest toplevel target.fullscreen).isAbout other =
      decide (other = .fullscreen) := by
    intro other
    rw [ShellRequest.isAbout, fullscreenRequest_axisValue?]
    by_cases hother : other = .fullscreen <;> simp [hother]
  have hmaximized : ∀ other, (maximizedRequest toplevel target.maximized).isAbout other =
      decide (other = .maximized) := by
    intro other
    rw [ShellRequest.isAbout, maximizedRequest_axisValue?]
    by_cases hother : other = .maximized <;> simp [hother]
  have hminimized : ∀ other, (ShellRequest.setMinimized toplevel).isAbout other =
      decide (other = .iconified) := by
    intro other
    cases other <;> rfl
  rw [syncRequests]
  by_cases hf : host.fullscreen = target.fullscreen <;>
    by_cases hm : host.maximized = target.maximized <;>
    by_cases hi : (target.iconified && !host.iconified) = true <;>
    cases axis <;>
    simp [hf, hm, hi, get, axisRequests, hfullscreen, hmaximized, hminimized]

end WindowState

namespace StateView

/-- What a view says of an axis. -/
def aspect (axis : StateAxis) (v : StateView) : Option UInt32 × (Bool × Bool) × (Bool × Bool) :=
  (v.toplevel, v.state.aspect axis, v.hostState.aspect axis)

variable {axis : StateAxis} {v v' : StateView}

theorem aspect_eq_iff :
    v.aspect axis = v'.aspect axis ↔ v.toplevel = v'.toplevel ∧
      v.state.aspect axis = v'.state.aspect axis ∧
      v.hostState.aspect axis = v'.hostState.aspect axis := by
  rw [aspect, aspect, Prod.mk.injEq, Prod.mk.injEq]

/-- Views that agree about both axes of a message are the same. -/
theorem eq_of_aspect {seen seen' : Option StateView}
    (hfullscreen : seen.map (aspect .fullscreen) = seen'.map (aspect .fullscreen))
    (hmaximized : seen.map (aspect .maximized) = seen'.map (aspect .maximized)) :
    seen = seen' := by
  cases seen with
  | none =>
      cases seen' with
      | none => rfl
      | some v' => cases hfullscreen
  | some v =>
      cases seen' with
      | none => cases hfullscreen
      | some v' =>
          obtain ⟨htoplevel, hf, hhf⟩ := aspect_eq_iff.1 (Option.some.inj hfullscreen)
          obtain ⟨-, hm, hhm⟩ := aspect_eq_iff.1 (Option.some.inj hmaximized)
          have hstate := WindowState.eq_of_aspect hf hm
          have hhost := WindowState.eq_of_aspect hhf hhm
          cases v
          cases v'
          rw [Option.some.injEq, mk.injEq]
          exact ⟨htoplevel, hstate, hhost⟩

/-- Alike effects on views that agree about an axis leave views that agree about it, and send
the same requests about it. -/
theorem act_alike {effect effect' : StateEffect} (h : v.aspect axis = v'.aspect axis)
    (heffect : effect.Alike axis effect') :
    (v.act effect).map (aspect axis) = (v'.act effect').map (aspect axis) ∧
      (v.requests effect).filter (·.isAbout axis) =
        (v'.requests effect').filter (·.isAbout axis) := by
  obtain ⟨htoplevel, hstate, hhost⟩ := aspect_eq_iff.1 h
  cases heffect with
  | forget => exact ⟨rfl, rfl⟩
  | unmap => exact ⟨congrArg some (aspect_eq_iff.2 ⟨rfl, hstate, rfl⟩), rfl⟩
  | assign toplevel => exact ⟨congrArg some (aspect_eq_iff.2 ⟨rfl, hstate, hstate⟩), rfl⟩
  | note hs => exact ⟨congrArg some (aspect_eq_iff.2 ⟨htoplevel, hs, hhost⟩), rfl⟩
  | forward hs =>
      simp only [act, requests, htoplevel]
      cases v'.toplevel with
      | none => exact ⟨congrArg some (aspect_eq_iff.2 ⟨rfl, hs, hhost⟩), rfl⟩
      | some toplevel =>
          refine ⟨congrArg some (aspect_eq_iff.2 ⟨rfl, hs, hs⟩), ?_⟩
          rw [WindowState.filter_syncRequests, WindowState.filter_syncRequests,
            (WindowState.aspect_eq_iff.1 hs).1, (WindowState.aspect_eq_iff.1 hhost).1]

theorem step_alike (setting : Setting) (operation : Operation) {seen seen' : Option StateView}
    (h : seen.map (aspect axis) = seen'.map (aspect axis)) :
    (step setting operation seen).1.map (aspect axis) =
        (step setting operation seen').1.map (aspect axis) ∧
      (step setting operation seen).2.filter (·.isAbout axis) =
        (step setting operation seen').2.filter (·.isAbout axis) := by
  cases seen with
  | none =>
      cases seen' with
      | none => exact ⟨rfl, rfl⟩
      | some v' => cases h
  | some v =>
      cases seen' with
      | none => cases h
      | some v' =>
          have hv := Option.some.inj h
          exact act_alike hv (operation.stateEffect_alike setting (aspect_eq_iff.1 hv).2.1)

/-- The host of a window with a role that is not iconified has the whole state. -/
def Settled (v : StateView) : Prop :=
  v.toplevel.isSome = true → v.state.iconified = false → v.hostState = v.state

/-- A message that does not name an axis leaves no trace in it, where the host has the state
already. -/
theorem step_of_passesOver {setting : Setting} {operation : Operation} {seen : Option StateView}
    (hsettled : ∀ v, seen = some v → v.Settled)
    (hpasses : operation.passesOver setting axis = true) :
    (step setting operation seen).1.map (aspect axis) = seen.map (aspect axis) ∧
      (step setting operation seen).2.filter (·.isAbout axis) = [] := by
  unfold Operation.passesOver at hpasses
  split at hpasses
  case h_2 => cases hpasses
  case h_1 messageType data =>
    rw [Bool.and_eq_true, beq_iff_eq, Bool.not_eq_true'] at hpasses
    obtain ⟨htype, hnames⟩ := hpasses
    cases seen with
    | none => exact ⟨rfl, rfl⟩
    | some v =>
        simp only [step, Operation.stateEffect, StateEffect.ofChange, StateEffect.ofMessage,
          if_pos htype]
        cases hdecode : StateRequest.decode setting.atoms data with
        | none => exact ⟨rfl, rfl⟩
        | some request =>
            have hfor : request.isFor axis = false := by
              rw [← Bool.not_eq_true]
              intro hfor
              rw [StateRequest.names_of_decode hdecode hfor] at hnames
              cases hnames
            have hstate : (request.apply v.state).aspect axis = v.state.aspect axis :=
              WindowState.aspect_eq_iff.2 ⟨request.apply_get_of_not_isFor v.state hfor, rfl⟩
            simp only
            split
            · exact ⟨congrArg some (aspect_eq_iff.2 ⟨rfl, hstate, rfl⟩), rfl⟩
            next hshown =>
              simp only [act, requests]
              cases hrole : v.toplevel with
              | none => exact ⟨congrArg some (aspect_eq_iff.2 ⟨hrole.symm, hstate, rfl⟩), rfl⟩
              | some toplevel =>
                  have hhost : v.hostState = v.state :=
                    hsettled v rfl (by rw [hrole]; rfl) (Bool.eq_false_of_not_eq_true hshown)
                  refine ⟨congrArg some (aspect_eq_iff.2 ⟨hrole.symm, hstate, ?_⟩), ?_⟩
                  · rw [hhost]
                    exact hstate
                  · rw [WindowState.filter_syncRequests, hhost,
                      (WindowState.aspect_eq_iff.1 hstate).1]
                    cases axis <;> simp [WindowState.axisRequests]

end StateView

/-! ### Runs -/

/-- What is about a state is not a text. -/
theorem ShellRequest.filter_isAbout (axis : StateAxis) (requests : List ShellRequest) :
    (requests.filter (!·.isText)).filter (·.isAbout axis) = requests.filter (·.isAbout axis) := by
  rw [List.filter_filter]
  refine List.filter_congr fun r _ => ?_
  cases htext : r.isText with
  | false => simp
  | true => simp [isAbout, axisValue?_of_isText htext axis]

namespace Manager

variable {ω : Type} [HostChannel ω] [PropertySource ω]

/-- The requests about one state that a call gets accepted. -/
def sentAbout (axis : StateAxis) (m : Manager) (call : Call ω) : List ShellRequest :=
  (Offer.acceptedRequests (m.offers call)).filter (·.isAbout axis)

theorem settled_of_allAccepted (setting : Setting) (calls : List (Call ω)) {id : WindowId}
    (haccepted : (new setting).AllAccepted calls) {v : StateView}
    (hv : (StateView.replay setting id (calls.map Call.event)).1 = some v) : v.Settled := by
  rw [← (run_stateView setting calls id haccepted).1] at hv
  obtain ⟨w, hw, rfl⟩ := Option.map_eq_some_iff.1 hv
  intro hrole hshown
  exact (converged_of_allAccepted setting calls hw haccepted hrole).shown hshown

/-- Without the messages that do not name an axis, the view of a window says the same of it,
and the requests about it are the same. -/
theorem replay_filter (setting : Setting) (axis : StateAxis) (id : WindowId)
    (calls : List (Call ω)) (haccepted : (new setting).AllAccepted calls) :
    let all := StateView.replay setting id (calls.map Call.event)
    let kept := StateView.replay setting id
      ((calls.map Call.event).filter (!·.2.passesOver setting axis))
    all.1.map (StateView.aspect axis) = kept.1.map (StateView.aspect axis) ∧
      all.2.filter (·.isAbout axis) = kept.2.filter (·.isAbout axis) := by
  induction calls using List.reverseRecOn with
  | nil => exact ⟨rfl, rfl⟩
  | append_singleton calls call ih =>
      have hearlier := ((allAccepted_append _ calls [call]).1 haccepted).1
      obtain ⟨hview, hrequests⟩ := ih hearlier
      intro all kept
      simp only [all, kept, List.map_append, List.map_singleton, List.filter_append]
      by_cases hpasses : call.event.2.passesOver setting axis = true
      · -- the message is deleted, and left no trace where it was
        have hsettled : ∀ v, (StateView.replay setting id (calls.map Call.event)).1 = some v →
            v.Settled := fun v hv => settled_of_allAccepted setting calls hearlier hv
        obtain ⟨hkept, hsilent⟩ := StateView.step_of_passesOver hsettled hpasses
        rw [List.filter_cons_of_neg (by simp [hpasses]), List.filter_nil, List.append_nil]
        by_cases hid : call.id = id
        · rw [StateView.replay_concat_of_eq setting _ hid, List.filter_append, hsilent,
            List.append_nil]
          exact ⟨hkept.trans hview, hrequests⟩
        · rw [StateView.replay_concat_of_ne setting _ hid]
          exact ⟨hview, hrequests⟩
      · rw [List.filter_cons_of_pos (by simp [hpasses]), List.filter_nil]
        by_cases hid : call.id = id
        · obtain ⟨hsame, hsent⟩ := StateView.step_alike setting call.event.2 hview
          rw [StateView.replay_concat_of_eq setting _ hid,
            StateView.replay_concat_of_eq setting _ hid, List.filter_append, List.filter_append,
            hrequests, hsent]
          exact ⟨hsame, rfl⟩
        · rw [StateView.replay_concat_of_ne setting _ hid,
            StateView.replay_concat_of_ne setting _ hid]
          exact ⟨hview, hrequests⟩

/-- What a run leaves of a window and gets accepted about one of its states, given the same
events without the messages that do not name that state. -/
theorem run_aspect (hreliable : Reliable ω) (setting : Setting) (axis : StateAxis)
    (calls : List (Call ω)) (id : WindowId) :
    let kept := StateView.replay setting id
      ((calls.map Call.event).filter (!·.2.passesOver setting axis))
    (((new setting).run calls).windows[id]?.map Window.stateView).map (StateView.aspect axis) =
        kept.1.map (StateView.aspect axis) ∧
      (acceptedFor id (new setting) calls).filter (·.isAbout axis) =
        kept.2.filter (·.isAbout axis) := by
  have haccepted := allAccepted_of_reliable hreliable (new setting) calls
  obtain ⟨hview, hrequests⟩ := run_stateView setting calls id haccepted
  obtain ⟨hsame, hsent⟩ := replay_filter setting axis id calls haccepted
  intro kept
  rw [hview, ← ShellRequest.filter_isAbout, hrequests]
  exact ⟨hsame, hsent⟩

/-- Two runs with the same events, but for messages that do not name a state, leave the same
of that state in every window, and get the same requests about it accepted. -/
theorem run_aspect_congr (hreliable : Reliable ω) (setting : Setting) {axis : StateAxis}
    {calls others : List (Call ω)}
    (hevents : (calls.map Call.event).filter (!·.2.passesOver setting axis) =
      (others.map Call.event).filter (!·.2.passesOver setting axis)) (id : WindowId) :
    (((new setting).run calls).windows[id]?.map Window.stateView).map (StateView.aspect axis) =
        (((new setting).run others).windows[id]?.map Window.stateView).map
          (StateView.aspect axis) ∧
      (acceptedFor id (new setting) calls).filter (·.isAbout axis) =
        (acceptedFor id (new setting) others).filter (·.isAbout axis) := by
  obtain ⟨hview, hrequests⟩ := run_aspect hreliable setting axis calls id
  obtain ⟨hview', hrequests'⟩ := run_aspect hreliable setting axis others id
  rw [hview, hview', hrequests, hrequests', hevents]
  exact ⟨rfl, rfl⟩

/-- What a call gets accepted about a state follows from the view of its window. -/
theorem sentAbout_eq (hreliable : Reliable ω) (m : Manager) (axis : StateAxis) (call : Call ω) :
    m.sentAbout axis call = (StateView.step m.setting call.operation
      (m.windows[call.id]?.map Window.stateView)).2.filter (·.isAbout axis) := by
  rw [sentAbout, ← ShellRequest.filter_isAbout,
    (m.after_step call (accepted_of_reliable hreliable m call)).2]

/-- Fullscreen and maximized are independent of each other, on a channel that refuses nothing.
The messages that do not name a state can be deleted from a run: after every further call the
record of every window says the same of that state and of what the host has, and the call
gets the same requests about it accepted.  So two messages that have no state in common can
come in either order: the records of all windows end in the same states, and the requests
about each state are the same.  The worlds in which the calls are made can differ. -/
theorem axes_do_not_interfere (hreliable : Reliable ω) (setting : Setting) :
    (∀ (axis : StateAxis) (calls others : List (Call ω)) (next next' : Call ω),
      others.map Call.event = (calls.map Call.event).filter (!·.2.passesOver setting axis) →
      next'.event = next.event →
      (∀ id : WindowId,
        ((new setting).run (calls ++ [next])).windows[id]?.map
            (fun w => (w.state.get axis, w.hostState.get axis)) =
          ((new setting).run (others ++ [next'])).windows[id]?.map
            (fun w => (w.state.get axis, w.hostState.get axis))) ∧
      ((new setting).run calls).sentAbout axis next =
        ((new setting).run others).sentAbout axis next') ∧
    (∀ (before after : List (WindowId × Operation)) (first second : WindowId × Operation)
      (calls others : List (Call ω)),
      first.2.passesOver setting .maximized = true →
      second.2.passesOver setting .fullscreen = true →
      calls.map Call.event = before ++ first :: second :: after →
      others.map Call.event = before ++ second :: first :: after →
      ∀ id : WindowId,
        ((new setting).run calls).windows[id]?.map (fun w => (w.state, w.hostState)) =
          ((new setting).run others).windows[id]?.map (fun w => (w.state, w.hostState)) ∧
        ∀ axis, (acceptedFor id (new setting) calls).filter (·.isAbout axis) =
          (acceptedFor id (new setting) others).filter (·.isAbout axis)) := by
  refine ⟨?_, ?_⟩
  · intro axis calls others next next' hothers hnext
    have hidempotent : (others.map Call.event).filter (!·.2.passesOver setting axis) =
        (calls.map Call.event).filter (!·.2.passesOver setting axis) := by
      rw [hothers, List.filter_filter]
      simp only [Bool.and_self]
    refine ⟨?_, ?_⟩
    · intro id
      have hevents : ((calls ++ [next]).map Call.event).filter (!·.2.passesOver setting axis) =
          ((others ++ [next']).map Call.event).filter (!·.2.passesOver setting axis) := by
        simp only [List.map_append, List.map_singleton, List.filter_append, hidempotent, hnext]
      have hsame := (run_aspect_congr hreliable setting hevents id).1
      have hvalues := congrArg (Option.map fun a => (a.2.1.1, a.2.2.1)) hsame
      rw [Option.map_map, Option.map_map, Option.map_map, Option.map_map] at hvalues
      exact hvalues
    · have hview := (run_aspect_congr hreliable setting hidempotent.symm next.id).1
      have hid : next'.id = next.id := congrArg Prod.fst hnext
      have hop : next'.operation = next.operation := congrArg Prod.snd hnext
      rw [sentAbout_eq hreliable, sentAbout_eq hreliable, run_setting, run_setting, hid, hop]
      exact (StateView.step_alike setting next.operation hview).2
  · intro before after first second calls others hfirst hsecond hcalls hothers id
    have hsame : ∀ axis, first.2.passesOver setting axis = true ∨
        second.2.passesOver setting axis = true →
        (calls.map Call.event).filter (!·.2.passesOver setting axis) =
          (others.map Call.event).filter (!·.2.passesOver setting axis) := by
      intro axis hpasses
      rw [hcalls, hothers, List.filter_append, List.filter_append]
      rcases hpasses with hpasses | hpasses <;> simp [hpasses, List.filter_cons]
    have hfullscreen := run_aspect_congr hreliable setting (hsame .fullscreen (Or.inr hsecond)) id
    have hmaximized := run_aspect_congr hreliable setting (hsame .maximized (Or.inl hfirst)) id
    have hiconified := run_aspect_congr hreliable setting
      (hsame .iconified (Or.inl (Operation.passesOver_iconified hfirst))) id
    refine ⟨?_, ?_⟩
    · have hview := StateView.eq_of_aspect hfullscreen.1 hmaximized.1
      have hstates := congrArg (Option.map fun v => (v.state, v.hostState)) hview
      rw [Option.map_map, Option.map_map] at hstates
      exact hstates
    · intro axis
      cases axis with
      | fullscreen => exact hfullscreen.2
      | maximized => exact hmaximized.2
      | iconified => exact hiconified.2

/-- A window is to be fullscreen while it is iconified, and is maximized and restored before,
between and after. -/
def crossedRun : List (Call (Surroundings Queue PropertyTable)) :=
  let atoms := Atoms.numbered
  let maximized action : Operation := .guest (.messaged atoms.netWmState
    ⟨action, atoms.netWmStateMaximizedVert, atoms.netWmStateMaximizedHorz, 0, 0⟩)
  let fullscreen action : Operation := .guest (.messaged atoms.netWmState
    ⟨action, atoms.netWmStateFullscreen, 0, 0, 0⟩)
  [.queued 7 (.guest (.created false .empty)),
   .queued 7 (.assignRole 30),
   .queued 7 (maximized 1),
   .queued 7 (.guest (.messaged atoms.wmChangeState ⟨3, 0, 0, 0, 0⟩)),
   .queued 7 (fullscreen 2),
   .queued 7 (maximized 0)]

/-- The focus tells the host that the window is fullscreen, whatever became of maximized, and
the last two messages could have come the other way round. -/
theorem axes_do_not_interfere_crossedRun :
    let fresh := new (.plain true)
    let focus : Call (Surroundings Queue PropertyTable) := .queued 7 (.guest .focused)
    let kept := crossedRun.filter (!·.operation.passesOver (.plain true) .fullscreen)
    let swapped := crossedRun.take 4 ++ (crossedRun.drop 4).reverse
    kept.length = 4 ∧
      (fresh.run crossedRun).sentAbout .fullscreen focus = [.setFullscreen 30] ∧
      (fresh.run crossedRun).sentAbout .fullscreen focus =
        (fresh.run kept).sentAbout .fullscreen focus ∧
      (fresh.run crossedRun).windows[(7 : WindowId)]?.map (fun w => (w.state, w.hostState)) =
        (fresh.run swapped).windows[(7 : WindowId)]?.map (fun w => (w.state, w.hostState)) := by
  intro fresh focus kept swapped
  obtain ⟨hdelete, hswap⟩ := axes_do_not_interfere reliable_queued (.plain true)
  obtain ⟨-, hsent⟩ := hdelete .fullscreen crossedRun kept focus focus rfl rfl
  obtain ⟨hstates, -⟩ := hswap ((crossedRun.take 4).map Call.event) [] _ _ crossedRun swapped
    (by decide) (by decide) rfl rfl 7
  have hview : (fresh.run crossedRun).windows[focus.id]?.map Window.stateView =
      some ⟨some 30, ⟨true, false, true⟩, ⟨false, true, true⟩⟩ :=
    (run_stateView (.plain true) crossedRun 7 (allAccepted_of_reliable reliable_queued _ _)).1
  refine ⟨rfl, ?_, hsent, hstates⟩
  rw [sentAbout_eq reliable_queued, hview, run_setting]
  rfl

end Manager

end GuestShell

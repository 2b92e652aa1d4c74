import GuestShell.Proofs.Manager.StateForwarding

/-!
# What operations do to the state of a window

Of all that an operation does to a record this file keeps three fields: the state, what the
host knows of it and the toplevel.  Seen through these, an operation on a tracked window
has one of five effects, and which one it has depends on nothing but the operation, the
setting and the state.  `step_stateStep` is the only place where the operations are opened;
what holds of all runs is proved from the five effects.

The requests about titles and application ids are only told apart from those about states
here; what they say is a matter of its own.
-/

namespace GuestShell

/-- What an operation does to the state of a tracked window. -/
inductive StateEffect where
  /-- The window is not tracked any more. -/
  | forget
  /-- The host objects go. -/
  | unmap
  /-- A toplevel is attached, and the host counts as knowing the state. -/
  | assign (toplevel : UInt32)
  /-- The state is recorded and the host is not told. -/
  | note (s : WindowState)
  /-- The state is recorded and the host is brought in line with it. -/
  | forward (s : WindowState)
  deriving DecidableEq

namespace StateEffect

/-- The effect of a client message. -/
def ofMessage (setting : Setting) (s : WindowState) (messageType : Atom) (data : MessageWords) :
    StateEffect :=
  if messageType = setting.atoms.netWmState then
    match StateRequest.decode setting.atoms data with
    | none => .note s
    | some request =>
        if s.iconified then .note (request.apply s) else .forward (request.apply s)
  else if messageType = setting.atoms.wmChangeState then
    if setting.iconify && data.first == Window.iconicState then
      .forward { s with iconified := true }
    else .note s
  else .note s

/-- The effect of a report. -/
def ofChange (setting : Setting) (s : WindowState) : GuestChange → StateEffect
  | .destroyed => .forget
  | .reparented parent => if parent = setting.root then .note s else .forget
  | .unmapped => .unmap
  | .focused => if s.iconified then .forward { s with iconified := false } else .note s
  | .messaged messageType data => ofMessage setting s messageType data
  | .created .. | .mapRequested | .configureRequested _ | .propertyChanged _ => .note s

end StateEffect

/-- The effect of an operation on a window in a state. -/
def Operation.stateEffect (setting : Setting) (s : WindowState) : Operation → StateEffect
  | .guest change => .ofChange setting s change
  | .assignRole toplevel => .assign toplevel
  | .adopt .. | .assignAuraSurface _ | .updateApplicationId => .note s

/-- A state message never iconifies a window nor ends the iconified state. -/
@[simp] theorem StateRequest.apply_iconified (request : StateRequest) (s : WindowState) :
    (request.apply s).iconified = s.iconified := rfl

/-- The operations that bring the host in line, each with the state it does so for. -/
inductive Operation.Forwards (setting : Setting) (s : WindowState) :
    Operation → WindowState → Prop
  /-- The focus ends the iconified state. -/
  | focus (hiconified : s.iconified = true) :
      Forwards setting s (.guest .focused) { s with iconified := false }
  /-- A state message for a window that is not iconified. -/
  | change {messageType : Atom} {data : MessageWords} {request : StateRequest}
      (htype : messageType = setting.atoms.netWmState)
      (hdecode : StateRequest.decode setting.atoms data = some request)
      (hiconified : s.iconified = false) :
      Forwards setting s (.guest (.messaged messageType data)) (request.apply s)
  /-- A message that asks for the iconified state, whether the window has it or not. -/
  | iconify {messageType : Atom} {data : MessageWords}
      (hother : messageType ≠ setting.atoms.netWmState)
      (htype : messageType = setting.atoms.wmChangeState)
      (hiconify : setting.iconify = true) (hdata : data.first = Window.iconicState) :
      Forwards setting s (.guest (.messaged messageType data)) { s with iconified := true }

namespace StateEffect

theorem forwards_of_ofMessage {setting : Setting} {s s' : WindowState} {messageType : Atom}
    {data : MessageWords} (heffect : ofMessage setting s messageType data = .forward s') :
    Operation.Forwards setting s (.guest (.messaged messageType data)) s' := by
  unfold ofMessage at heffect
  -- the cases are those of the definition; all but two of them do not forward
  split at heffect
  case isTrue htype =>
    split at heffect
    case h_1 => cases heffect
    case h_2 request hdecode =>
      split at heffect
      case isTrue => cases heffect
      case isFalse hiconified =>
        cases heffect
        exact .change htype hdecode (Bool.eq_false_of_not_eq_true hiconified)
  case isFalse hother =>
    split at heffect
    case isTrue htype =>
      split at heffect
      case isTrue hasked =>
        cases heffect
        rw [Bool.and_eq_true, beq_iff_eq] at hasked
        exact .iconify hother htype hasked.1 hasked.2
      case isFalse => cases heffect
    case isFalse => cases heffect

theorem eq_or_iconified_of_ofMessage {setting : Setting} {s s' : WindowState}
    {messageType : Atom} {data : MessageWords}
    (heffect : ofMessage setting s messageType data = .note s') :
    s' = s ∨ s.iconified = true ∧ s'.iconified = true := by
  unfold ofMessage at heffect
  split at heffect
  case isTrue htype =>
    split at heffect
    case h_1 => cases heffect; exact Or.inl rfl
    case h_2 request hdecode =>
      split at heffect
      case isTrue hiconified => cases heffect; exact Or.inr ⟨hiconified, hiconified⟩
      case isFalse => cases heffect
  case isFalse hother =>
    split at heffect
    case isTrue htype => split at heffect <;> cases heffect; exact Or.inl rfl
    case isFalse => cases heffect; exact Or.inl rfl

theorem ne_assign_of_ofMessage {setting : Setting} {s : WindowState} {messageType : Atom}
    {data : MessageWords} {toplevel : UInt32} :
    ofMessage setting s messageType data ≠ .assign toplevel := by
  intro heffect
  unfold ofMessage at heffect
  repeat' split at heffect
  all_goals cases heffect

end StateEffect

namespace Operation

variable {setting : Setting} {s s' : WindowState} {operation : Operation}

/-- The operations that forward are the three of `Forwards`. -/
theorem forwards_of_stateEffect (heffect : operation.stateEffect setting s = .forward s') :
    operation.Forwards setting s s' := by
  cases operation with
  | guest change =>
      cases change with
      | messaged messageType data => exact StateEffect.forwards_of_ofMessage heffect
      | focused =>
          rw [stateEffect, StateEffect.ofChange] at heffect
          split at heffect
          case isTrue hiconified => cases heffect; exact .focus hiconified
          case isFalse => cases heffect
      | reparented parent =>
          rw [stateEffect, StateEffect.ofChange] at heffect
          split at heffect <;> cases heffect
      | _ => cases heffect
  | _ => cases heffect

theorem Forwards.stateEffect (h : operation.Forwards setting s s') :
    operation.stateEffect setting s = .forward s' := by
  cases h with
  | focus hiconified => rw [Operation.stateEffect, StateEffect.ofChange, if_pos hiconified]
  | change htype hdecode hiconified =>
      rw [Operation.stateEffect, StateEffect.ofChange, StateEffect.ofMessage, if_pos htype, hdecode]
      simp only [hiconified, Bool.false_eq_true, if_false]
  | iconify hother htype hiconify hdata =>
      rw [Operation.stateEffect, StateEffect.ofChange, StateEffect.ofMessage, if_neg hother,
        if_pos htype, hiconify, hdata]
      rfl

/-- Only an iconified window has a new state recorded that the host is not told. -/
theorem eq_or_iconified_of_note (heffect : operation.stateEffect setting s = .note s') :
    s' = s ∨ s.iconified = true ∧ s'.iconified = true := by
  cases operation with
  | guest change =>
      cases change with
      | messaged messageType data => exact StateEffect.eq_or_iconified_of_ofMessage heffect
      | focused =>
          rw [stateEffect, StateEffect.ofChange] at heffect
          split at heffect <;> cases heffect
          exact Or.inl rfl
      | reparented parent =>
          rw [stateEffect, StateEffect.ofChange] at heffect
          split at heffect <;> cases heffect
          exact Or.inl rfl
      | destroyed | unmapped => cases heffect
      | created | mapRequested | configureRequested | propertyChanged =>
          cases heffect
          exact Or.inl rfl
  | assignRole toplevel => cases heffect
  | adopt | assignAuraSurface | updateApplicationId =>
      cases heffect
      exact Or.inl rfl

theorem eq_assignRole_of_stateEffect {toplevel : UInt32}
    (heffect : operation.stateEffect setting s = .assign toplevel) :
    operation = .assignRole toplevel := by
  cases operation with
  | assignRole other =>
      cases heffect
      rfl
  | guest change =>
      cases change with
      | messaged messageType data => exact absurd heffect StateEffect.ne_assign_of_ofMessage
      | focused =>
          rw [stateEffect, StateEffect.ofChange] at heffect
          split at heffect <;> cases heffect
      | reparented parent =>
          rw [stateEffect, StateEffect.ofChange] at heffect
          split at heffect <;> cases heffect
      | _ => cases heffect
  | _ => cases heffect

/-- Where windows cannot be iconified, no operation brings the host in line with an
iconified state, unless the window had it. -/
theorem Forwards.iconified (h : operation.Forwards setting s s')
    (hiconify : setting.iconify = false) (hs : s.iconified = false) : s'.iconified = false := by
  cases h with
  | focus hiconified => rfl
  | change htype hdecode hiconified => exact hs
  | iconify hother htype htrue hdata => rw [hiconify] at htrue; cases htrue

end Operation

/-! ### Operations that only send texts -/

section Texts

variable {ω : Type}

/-- What was done to a record left the three fields alone, and only texts were offered. -/
structure KeepsState (w : Window) (r : Recorded ω) (o : Outcome Window (Recorded ω)) :
    Prop where
  state : o.value.state = w.state
  hostState : o.value.hostState = w.hostState
  toplevel : o.value.toplevel = w.toplevel
  offers : ∃ offers, o.world.offers = r.offers ++ offers ∧
    ∀ request ∈ Offer.requests offers, request.isText = true

namespace KeepsState

variable {w w' : Window} {r r' : Recorded ω} {o : Outcome Window (Recorded ω)}

/-- A record with the same three fields can take the place of the first one. -/
theorem of_eq (h : KeepsState w' r' o) (hstate : w'.state = w.state)
    (hhost : w'.hostState = w.hostState) (htoplevel : w'.toplevel = w.toplevel)
    (hoffers : r'.offers = r.offers) : KeepsState w r o where
  state := h.state.trans hstate
  hostState := h.hostState.trans hhost
  toplevel := h.toplevel.trans htoplevel
  offers := hoffers ▸ h.offers

theorem refl (w : Window) (r : Recorded ω) (result : Except ManagerError Unit) :
    KeepsState w r ⟨result, w, r⟩ where
  state := rfl
  hostState := rfl
  toplevel := rfl
  offers := ⟨[], (List.append_nil _).symm, fun _ hr => absurd hr List.not_mem_nil⟩

variable [HostChannel ω]

theorem send (w : Window) {request : ShellRequest} (htext : request.isText = true)
    (r : Recorded ω) : KeepsState w r ⟨(request.send r).1, w, (request.send r).2⟩ where
  state := rfl
  hostState := rfl
  toplevel := rfl
  offers := by
    obtain ⟨offers, hoffer, hoffers⟩ := request.send_offered r
    refine ⟨offers, hoffers, ?_⟩
    intro other hother
    rw [hoffer.eq_of_mem_requests hother]
    exact htext

theorem sendApplicationId (w : Window) (identity : Identity) (r : Recorded ω) :
    KeepsState w r (w.sendApplicationId identity r) := by
  unfold Window.sendApplicationId
  split
  · exact refl w r (.ok ())
  · exact send w rfl r

theorem sendApplicationIdIfManaged (w : Window) (identity : Identity) (r : Recorded ω) :
    KeepsState w r (w.sendApplicationIdIfManaged identity r) := by
  unfold Window.sendApplicationIdIfManaged
  split
  · exact sendApplicationId w identity r
  · exact refl w r (.ok ())

theorem sendTitle (w : Window) (r : Recorded ω) : KeepsState w r (w.sendTitle r) := by
  unfold Window.sendTitle
  split
  · exact refl w r (.ok ())
  · exact send w rfl r

end KeepsState

variable [PropertySource ω]

theorem readTitle_offers (atoms : Atoms) (id : WindowId) (r : Recorded ω) :
    (readTitle atoms id r).2.offers = r.offers := by
  unfold readTitle
  split
  next heq => exact congrArg (fun p => p.2.offers) heq.symm
  next heq => exact congrArg (fun p => p.2.offers) heq.symm

theorem readAppId_offers (w : Window) (setting : Setting) (r : Recorded ω) :
    (w.readAppId setting r).2.offers = r.offers := by
  unfold Window.readAppId
  split <;> rfl

namespace KeepsState

variable [HostChannel ω]

theorem manage (w : Window) (setting : Setting) (r : Recorded ω) :
    KeepsState w r (w.manage setting r) := by
  unfold Window.manage
  -- four properties are read before the one text is sent
  have hread := readTitle_offers setting.atoms w.id r
  exact (sendApplicationId _ setting.identity _).of_eq rfl rfl rfl
    ((readAppId_offers _ setting _).trans hread)

theorem titleChanged (w : Window) (setting : Setting) (r : Recorded ω) :
    KeepsState w r (w.titleChanged setting r) := by
  have hoffers := readTitle_offers setting.atoms w.id r
  simp only [Window.titleChanged]
  split
  · exact (refl w _ (.ok ())).of_eq rfl rfl rfl hoffers
  · exact (sendTitle _ _).of_eq rfl rfl rfl hoffers

theorem propertyChanged (w : Window) (setting : Setting) (property : Atom) (r : Recorded ω) :
    KeepsState w r (w.propertyChanged setting property r) := by
  simp only [Window.propertyChanged]
  split
  · exact titleChanged w setting r
  · split
    · exact (sendApplicationIdIfManaged _ _ _).of_eq rfl rfl rfl rfl
    · split
      · exact (sendApplicationIdIfManaged _ _ _).of_eq rfl rfl rfl rfl
      · split
        · exact (refl _ _ (.ok ())).of_eq rfl rfl rfl rfl
        · exact refl w r (.ok ())

end KeepsState

end Texts

/-! ### One step -/

variable {ω : Type} [HostChannel ω] [PropertySource ω]

/-- What a recorded step of a tracked window comes to, by the effect of its operation. -/
inductive StateStep (setting : Setting) (w : Window) (operation : Operation) (r : Recorded ω) :
    Outcome (Option Window) (Recorded ω) → Prop
  | forgotten (heffect : operation.stateEffect setting w.state = .forget) :
      StateStep setting w operation r ⟨.ok (), none, r⟩
  | unmapped (heffect : operation.stateEffect setting w.state = .unmap) :
      StateStep setting w operation r ⟨.ok (), some w.unmapped, r⟩
  | assigned {toplevel : UInt32}
      (heffect : operation.stateEffect setting w.state = .assign toplevel) :
      StateStep setting w operation r ⟨.ok (), some (w.assignRole toplevel), r⟩
  | forwarded {s : WindowState}
      (heffect : operation.stateEffect setting w.state = .forward s) :
      StateStep setting w operation r (({ w with state := s }.forwardState r).map some)
  | noted {s : WindowState} {o : Outcome Window (Recorded ω)}
      (heffect : operation.stateEffect setting w.state = .note s)
      (hkeeps : KeepsState { w with state := s } r o) :
      StateStep setting w operation r (o.map some)

omit [PropertySource ω] in
/-- A record that takes over nothing but the state it has is noted as it is. -/
theorem StateStep.noted_self {setting : Setting} {w : Window} {operation : Operation}
    {r : Recorded ω} {o : Outcome Window (Recorded ω)}
    (heffect : operation.stateEffect setting w.state = .note w.state)
    (hkeeps : KeepsState w r o) : StateStep setting w operation r (o.map some) :=
  .noted heffect hkeeps

omit [PropertySource ω] in
/-- An operation whose effect is to forward does so and nothing else. -/
theorem StateStep.eq_forwardState {setting : Setting} {w : Window} {operation : Operation}
    {r : Recorded ω} {o : Outcome (Option Window) (Recorded ω)} {s : WindowState}
    (h : StateStep setting w operation r o)
    (hforward : operation.stateEffect setting w.state = .forward s) :
    o = ({ w with state := s }.forwardState r).map some := by
  cases h with
  | forwarded heffect =>
      rw [hforward] at heffect
      cases heffect
      rfl
  | forgotten heffect => rw [hforward] at heffect; cases heffect
  | unmapped heffect => rw [hforward] at heffect; cases heffect
  | assigned heffect => rw [hforward] at heffect; cases heffect
  | noted heffect hkeeps => rw [hforward] at heffect; cases heffect

omit [PropertySource ω] in
/-- An operation that does not forward offers texts only. -/
theorem StateStep.isText_of_ne_forward {setting : Setting} {w : Window} {operation : Operation}
    {world : ω} {o : Outcome (Option Window) (Recorded ω)}
    (h : StateStep setting w operation (Recorded.start world) o)
    (hquiet : ∀ s, operation.stateEffect setting w.state ≠ .forward s) :
    ∀ request ∈ Offer.requests o.world.offers, request.isText = true := by
  intro request hrequest
  cases h with
  | forgotten heffect => cases hrequest
  | unmapped heffect => cases hrequest
  | assigned heffect => cases hrequest
  | @forwarded s heffect => exact absurd heffect (hquiet s)
  | @noted s o heffect hkeeps =>
      obtain ⟨offers, hoffers, htexts⟩ := hkeeps.offers
      rw [show (o.map some).world.offers = offers from hoffers] at hrequest
      exact htexts request hrequest

omit [HostChannel ω] [PropertySource ω] in
theorem KeepsState.configured (w : Window) (setting : Setting) (change : GeometryChange)
    (r : Recorded ω) : KeepsState w r ⟨.ok (), w.configured setting change, r⟩ := by
  simp only [Window.configured]
  split
  · exact (KeepsState.refl _ r (.ok ())).of_eq rfl rfl rfl rfl
  · exact (KeepsState.refl _ r (.ok ())).of_eq rfl rfl rfl rfl

omit [PropertySource ω] in
theorem focused_stateStep (setting : Setting) (w : Window) (r : Recorded ω) :
    StateStep setting w (.guest .focused) r ((w.focused r).map some) := by
  unfold Window.focused
  split
  next hiconified => exact .forwarded (Operation.Forwards.focus hiconified).stateEffect
  next hiconified =>
    refine .noted_self ?_ (.refl w r (.ok ()))
    rw [Operation.stateEffect, StateEffect.ofChange, if_neg hiconified]

omit [PropertySource ω] in
theorem messaged_stateStep (setting : Setting) (w : Window) (messageType : Atom)
    (data : MessageWords) (r : Recorded ω) :
    StateStep setting w (.guest (.messaged messageType data)) r
      ((w.messaged setting messageType data r).map some) := by
  unfold Window.messaged
  -- the message is about the state, about the iconified state or about neither
  split
  next htype =>
    unfold Window.stateMessaged
    cases hdecode : StateRequest.decode setting.atoms data with
    | none =>
        refine .noted_self ?_ (.refl w r (.ok ()))
        simp only [Operation.stateEffect, StateEffect.ofChange, StateEffect.ofMessage, htype,
          if_true, hdecode]
    | some request =>
        simp only
        split
        next hiconified =>
          rw [StateRequest.apply_iconified] at hiconified
          refine .noted (s := request.apply w.state) ?_ (.refl _ r (.ok ()))
          simp only [Operation.stateEffect, StateEffect.ofChange, StateEffect.ofMessage, htype,
            if_true, hdecode, hiconified]
        next hiconified =>
          rw [StateRequest.apply_iconified] at hiconified
          refine .forwarded (s := request.apply w.state) ?_
          simp only [Operation.stateEffect, StateEffect.ofChange, StateEffect.ofMessage, htype,
            if_true, hdecode, if_neg hiconified]
  next hother =>
    split
    next htype =>
      unfold Window.changeStateMessaged
      split
      next hasked =>
        refine .forwarded (s := { w.state with iconified := true }) ?_
        rw [Operation.stateEffect, StateEffect.ofChange, StateEffect.ofMessage, if_neg hother,
          if_pos htype, if_pos hasked]
      next hasked =>
        refine .noted_self ?_ (.refl w r (.ok ()))
        rw [Operation.stateEffect, StateEffect.ofChange, StateEffect.ofMessage, if_neg hother,
          if_pos htype, if_neg hasked]
    next htype =>
      have heffect : Operation.stateEffect setting w.state
          (.guest (.messaged messageType data)) = .note w.state := by
        rw [Operation.stateEffect, StateEffect.ofChange, StateEffect.ofMessage, if_neg hother,
          if_neg htype]
      split
      · exact .noted_self heffect ((KeepsState.refl _ r (.ok ())).of_eq rfl rfl rfl rfl)
      · exact .noted_self heffect (.refl w r (.ok ()))

/-- Every recorded step of a tracked window is one of the five. -/
theorem step_stateStep (setting : Setting) (id : WindowId) (w : Window) (operation : Operation)
    (r : Recorded ω) :
    StateStep setting w operation r (operation.step setting id (some w) r) := by
  cases operation with
  | guest change =>
      cases change with
      | created overrideRedirect geometry =>
          exact .noted_self rfl (.refl w r (.error (.duplicateWindow id)))
      | destroyed => exact .forgotten rfl
      | reparented parent =>
          simp only [Operation.step, GuestChange.step]
          split
          next hroot =>
            refine .noted_self ?_ (.refl w r (.ok ()))
            rw [Operation.stateEffect, StateEffect.ofChange, if_pos hroot]
          next hroot =>
            refine .forgotten ?_
            rw [Operation.stateEffect, StateEffect.ofChange, if_neg hroot]
      | mapRequested => exact .noted_self rfl (.manage w setting r)
      | unmapped => exact .unmapped rfl
      | configureRequested change => exact .noted_self rfl (.configured w setting change r)
      | focused => exact focused_stateStep setting w r
      | propertyChanged property => exact .noted_self rfl (.propertyChanged w setting property r)
      | messaged messageType data => exact messaged_stateStep setting w messageType data r
  | adopt geometry viewable => exact .noted_self rfl (.refl w r (.error (.duplicateWindow id)))
  | assignRole toplevel => exact .assigned rfl
  | assignAuraSurface auraSurface =>
      exact .noted_self rfl ((KeepsState.sendApplicationIdIfManaged _ setting.identity r).of_eq
        rfl rfl rfl rfl)
  | updateApplicationId => exact .noted_self rfl (.sendApplicationId w setting.identity r)

/-- A call about a tracked window is one of the five. -/
theorem Manager.after_stateStep (m : Manager) (call : Call ω) {w : Window}
    (hw : m.windows[call.id]? = some w) :
    ∃ o, StateStep m.setting w call.operation (Recorded.start call.world) o ∧
      (m.after call).windows[call.id]? = o.value ∧ m.result call = o.result ∧
      m.offers call = o.world.offers :=
  ⟨_, step_stateStep m.setting call.id w call.operation (Recorded.start call.world),
    m.after_eq_recorded call hw⟩

/-- A call that brings the host in line does so and nothing else. -/
theorem Manager.after_forwardState (m : Manager) (call : Call ω) {w : Window} {s : WindowState}
    (hw : m.windows[call.id]? = some w)
    (hforwards : call.operation.Forwards m.setting w.state s) :
    let o := { w with state := s }.forwardState (Recorded.start call.world)
    (m.after call).windows[call.id]? = some o.value ∧ m.result call = o.result ∧
      m.offers call = o.world.offers := by
  obtain ⟨o, hstep, hafter⟩ := m.after_stateStep call hw
  have ho := hstep.eq_forwardState hforwards.stateEffect
  subst ho
  exact hafter

/-- Without an aura surface a window is managed in silence. -/
theorem manage_offers (w : Window) (setting : Setting) (r : Recorded ω)
    (haura : w.auraSurface = none) : (w.manage setting r).world.offers = r.offers := by
  have hread := readTitle_offers setting.atoms w.id r
  simp only [Window.manage, Window.sendApplicationId, haura]
  exact (readAppId_offers _ setting _).trans hread

/-- A window that was not tracked has no role and no state after a step, and nothing is
sent about it. -/
theorem step_untracked (setting : Setting) (id : WindowId) (operation : Operation)
    (r : Recorded ω) :
    (operation.step setting id none r).world.offers = r.offers ∧
      ∀ w, (operation.step setting id none r).value = some w →
        w.toplevel = none ∧ w.state = .normal ∧ w.hostState = .normal := by
  -- a fresh record, whether it is managed at once or not
  have hnew : ∀ overrideRedirect geometry w,
      some (Window.created id overrideRedirect geometry) = some w →
        w.toplevel = none ∧ w.state = .normal ∧ w.hostState = .normal := by
    intro overrideRedirect geometry w hw
    cases hw
    exact ⟨rfl, rfl, rfl⟩
  have hmanaged : ∀ geometry,
      ((Window.created id false geometry).manage setting r).world.offers = r.offers ∧
      ∀ w, some ((Window.created id false geometry).manage setting r).value = some w →
        w.toplevel = none ∧ w.state = .normal ∧ w.hostState = .normal := by
    intro geometry
    have hkeeps := KeepsState.manage (Window.created id false geometry) setting r
    refine ⟨manage_offers _ setting r rfl, ?_⟩
    intro w hw
    cases hw
    exact ⟨hkeeps.toplevel, hkeeps.state, hkeeps.hostState⟩
  have hnone : ∀ w : Window, none = some w →
      w.toplevel = none ∧ w.state = .normal ∧ w.hostState = .normal := by
    intro w hw
    cases hw
  cases operation with
  | guest change =>
      cases change with
      | created overrideRedirect geometry => exact ⟨rfl, hnew overrideRedirect geometry⟩
      | reparented parent =>
          simp only [Operation.step, GuestChange.step]
          split
          · exact ⟨rfl, hnew false .empty⟩
          · exact ⟨rfl, hnone⟩
      | mapRequested =>
          have hfresh : trackedOrNew id none = Window.created id false .empty := rfl
          simp only [Operation.step, GuestChange.step, Outcome.map, hfresh]
          exact hmanaged .empty
      | destroyed => exact ⟨rfl, hnone⟩
      | unmapped => exact ⟨rfl, hnone⟩
      | configureRequested change => exact ⟨rfl, hnone⟩
      | focused => exact ⟨rfl, hnone⟩
      | propertyChanged property => exact ⟨rfl, hnone⟩
      | messaged messageType data => exact ⟨rfl, hnone⟩
  | adopt geometry viewable =>
      cases viewable with
      | false => exact ⟨rfl, hnew false geometry⟩
      | true => exact hmanaged geometry
  | assignRole toplevel => exact ⟨rfl, hnone⟩
  | assignAuraSurface auraSurface => exact ⟨rfl, hnone⟩
  | updateApplicationId => exact ⟨rfl, hnone⟩

/-- A call about a window that was not tracked offers nothing, and the record that it leaves,
if any, has no role and no state. -/
theorem Manager.after_untracked (m : Manager) (call : Call ω)
    (hnone : m.windows[call.id]? = none) :
    m.offers call = [] ∧ ∀ w, (m.after call).windows[call.id]? = some w →
      w.toplevel = none ∧ w.state = .normal ∧ w.hostState = .normal := by
  obtain ⟨hvalue, -, hoffers⟩ := m.after_eq_recorded call hnone
  obtain ⟨hsilent, hfresh⟩ :=
    step_untracked m.setting call.id call.operation (Recorded.start call.world)
  refine ⟨hoffers.trans hsilent, ?_⟩
  intro w hw
  exact hfresh w (hvalue.symm.trans hw)

/-- An invariant of the records that a run leaves: it holds of a record without a role and
without a state, and every call about a tracked window keeps it. -/
theorem Manager.run_tracked_induction {P : List (Call ω) → WindowId → Window → Prop}
    (setting : Setting)
    (hother : ∀ calls call id w, call.id ≠ id → P calls id w → P (calls ++ [call]) id w)
    (hfresh : ∀ calls id w, w.toplevel = none → w.state = .normal → w.hostState = .normal →
      P calls id w)
    (hstep : ∀ calls call w w', ((new setting).run calls).windows[call.id]? = some w →
      (((new setting).run calls).after call).windows[call.id]? = some w' →
      P calls call.id w → P (calls ++ [call]) call.id w')
    (calls : List (Call ω)) {id : WindowId} {w : Window}
    (hw : ((new setting).run calls).windows[id]? = some w) : P calls id w := by
  refine run_induction setting hother ?_ calls hw
  intro calls call w' ih hw'
  rw [run_concat] at hw'
  cases hbefore : ((new setting).run calls).windows[call.id]? with
  | none =>
      obtain ⟨htoplevel, hstate, hhost⟩ := (after_untracked _ call hbefore).2 w' hw'
      exact hfresh _ _ w' htoplevel hstate hhost
  | some w => exact hstep calls call w w' hbefore hw' (ih w hbefore)

end GuestShell

import GuestShell.Proofs.Manager.StateEffect
import Mathlib.Data.List.Chain

/-!
# What the host was told

A host that starts with the state a window had when it got its role, and then does what the
accepted requests say, is always in the state that the record says it is in, as far as
fullscreen and maximized go.  This holds wherever the channel fails: a series of requests
that stops in the middle has updated the record up to the last accepted one.

No accepted request is redundant.  The requests of one state alternate between setting and
unsetting it, and the first of them after the assignment of the role changes the state that
the window had then.

Nothing is claimed here of the iconified state, which the host is told but never untold.
-/

namespace GuestShell

/-- What a request about fullscreen or maximized does to the state of a toplevel. -/
def WindowState.replay (s : WindowState) : ShellRequest → WindowState
  | .setFullscreen _ => { s with fullscreen := true }
  | .unsetFullscreen _ => { s with fullscreen := false }
  | .setMaximized _ => { s with maximized := true }
  | .unsetMaximized _ => { s with maximized := false }
  | _ => s

/-- The latest call of a run that gives a window a role, and the toplevel it gives. -/
structure LatestRole {ω : Type} (id : WindowId) (toplevel : UInt32)
    (calls before : List (Call ω)) (call : Call ω) (after : List (Call ω)) : Prop where
  split : calls = before ++ call :: after
  window : call.id = id
  role : call.operation = .assignRole toplevel
  latest : ∀ later ∈ after, later.id = id → ∀ other, later.operation ≠ .assignRole other

namespace LatestRole

variable {ω : Type} {id : WindowId} {toplevel : UInt32} {calls before after : List (Call ω)}
  {call : Call ω}

/-- An assignment that has just been made. -/
theorem last (hid : call.id = id) (hrole : call.operation = .assignRole toplevel) :
    LatestRole id toplevel (calls ++ [call]) calls call [] where
  split := rfl
  window := hid
  role := hrole
  latest := fun _ hlater => absurd hlater List.not_mem_nil

/-- One more call, which does not assign the role anew. -/
theorem concat (h : LatestRole id toplevel calls before call after) {next : Call ω}
    (hnext : next.id = id → ∀ other, next.operation ≠ .assignRole other) :
    LatestRole id toplevel (calls ++ [next]) before call (after ++ [next]) where
  split := by rw [h.split, List.append_assoc, List.cons_append]
  window := h.window
  role := h.role
  latest := by
    intro later hlater
    rcases List.mem_append.1 hlater with hearlier | hlast
    · exact h.latest later hearlier
    · rw [List.mem_singleton.1 hlast]
      exact hnext

/-- There is one latest assignment. -/
theorem unique (h : LatestRole id toplevel calls before call after) {toplevel' : UInt32}
    {before' after' : List (Call ω)} {call' : Call ω}
    (h' : LatestRole id toplevel' calls before' call' after') :
    before = before' ∧ call = call' ∧ after = after' := by
  have hsplit : before ++ call :: after = before' ++ call' :: after' :=
    h.split.symm.trans h'.split
  -- the one that begins earlier would be followed by the other
  rcases List.append_eq_append_iff.1 hsplit with ⟨between, hbefore, hafter⟩ |
    ⟨between, hbefore, hafter⟩
  · cases between with
    | nil =>
        rw [List.nil_append, List.cons.injEq] at hafter
        exact ⟨by rw [hbefore, List.append_nil], hafter⟩
    | cons first between =>
        rw [List.cons_append, List.cons.injEq] at hafter
        have hmem : call' ∈ after := by rw [hafter.2]; simp
        exact absurd h'.role (h.latest call' hmem h'.window toplevel')
  · cases between with
    | nil =>
        rw [List.nil_append, List.cons.injEq] at hafter
        exact ⟨by rw [hbefore, List.append_nil], hafter.1.symm, hafter.2.symm⟩
    | cons first between =>
        rw [List.cons_append, List.cons.injEq] at hafter
        have hmem : call ∈ after' := by rw [hafter.2]; simp
        exact absurd h.role (h'.latest call hmem h.window toplevel)

end LatestRole

namespace WindowState

theorem replay_get {axis : StateAxis} (haxis : axis ≠ .iconified) (s : WindowState)
    (request : ShellRequest) :
    (s.replay request).get axis = (request.axisValue? axis).getD (s.get axis) := by
  cases axis with
  | iconified => exact absurd rfl haxis
  | fullscreen => cases request <;> rfl
  | maximized => cases request <;> rfl

/-- A replayed state is the last value that was asked for, if any was. -/
theorem getLast?_values {axis : StateAxis} (haxis : axis ≠ .iconified) (s : WindowState)
    (requests : List ShellRequest) :
    (s.get axis :: requests.filterMap (·.axisValue? axis)).getLast? =
      some ((requests.foldl replay s).get axis) := by
  induction requests generalizing s with
  | nil => rfl
  | cons request requests ih =>
      have hrec := ih (s.replay request)
      have hreplay := replay_get haxis s request
      rw [List.foldl_cons, List.filterMap_cons]
      cases hvalue : request.axisValue? axis with
      | none =>
          rw [hvalue, Option.getD_none] at hreplay
          rw [← hrec, hreplay]
      | some value =>
          rw [hvalue, Option.getD_some] at hreplay
          rw [← hrec, hreplay, List.getLast?_cons_cons]

end WindowState

/-- Values that follow each other from a first to a current one, each unlike the one
before. -/
structure Alternates (first : Bool) (values : List Bool) (current : Bool) : Prop where
  chain : (first :: values).IsChain (· ≠ ·)
  last : (first :: values).getLast? = some current

namespace Alternates

theorem nil (first : Bool) : Alternates first [] first :=
  ⟨List.isChain_singleton first, rfl⟩

/-- One more value, which is not the current one. -/
theorem concat {first current value : Bool} {values : List Bool}
    (h : Alternates first values current) (hne : current ≠ value) :
    Alternates first (values ++ [value]) value := by
  constructor
  · rw [← List.cons_append, List.isChain_append]
    refine ⟨h.chain, List.isChain_singleton value, ?_⟩
    intro earlier hearlier later hlater
    rw [h.last, Option.mem_some_iff] at hearlier
    rw [List.head?_cons, Option.mem_some_iff] at hlater
    rw [← hearlier, ← hlater]
    exact hne
  · rw [← List.cons_append, List.getLast?_append]
    rfl

end Alternates

/-- Of each of fullscreen and maximized the requests lead from one state to another without
a redundant request. -/
def Mirrors (start : WindowState) (requests : List ShellRequest) (host : WindowState) : Prop :=
  ∀ axis, axis ≠ .iconified →
    Alternates (start.get axis) (requests.filterMap (·.axisValue? axis)) (host.get axis)

theorem Mirrors.refl (s : WindowState) : Mirrors s [] s :=
  fun axis _ => Alternates.nil (s.get axis)

/-- Further requests, each state named by at most one of them and only to change it. -/
theorem Mirrors.append {start host host' : WindowState} {requests others : List ShellRequest}
    (h : Mirrors start requests host)
    (hothers : ∀ axis, axis ≠ .iconified →
      (others.filterMap (·.axisValue? axis) = [] ∧ host'.get axis = host.get axis) ∨
      ∃ value, others.filterMap (·.axisValue? axis) = [value] ∧ host.get axis ≠ value ∧
        host'.get axis = value) :
    Mirrors start (requests ++ others) host' := by
  intro axis haxis
  rw [List.filterMap_append]
  rcases hothers axis haxis with ⟨hnone, hkept⟩ | ⟨value, hvalue, hne, hnew⟩
  · rw [hnone, hkept, List.append_nil]
    exact h axis haxis
  · rw [hvalue, hnew]
    exact (h axis haxis).concat hne

/-- Requests that mirror a state replay to it. -/
theorem Mirrors.replay {start host : WindowState} {requests : List ShellRequest}
    (h : Mirrors start requests host) {axis : StateAxis} (haxis : axis ≠ .iconified) :
    (requests.foldl WindowState.replay start).get axis = host.get axis := by
  have hlast := (h axis haxis).last
  rw [WindowState.getLast?_values haxis] at hlast
  exact Option.some.inj hlast

/-- No request about a state is among texts. -/
theorem accepted_values_of_isText {offers : List Offer}
    (htexts : ∀ request ∈ Offer.requests offers, request.isText = true) (axis : StateAxis) :
    (Offer.acceptedRequests offers).filterMap (·.axisValue? axis) = [] := by
  rw [List.filterMap_eq_nil_iff]
  intro request hrequest
  exact ShellRequest.axisValue?_of_isText
    (htexts request (Offer.mem_requests_of_accepted hrequest)) axis

/-! ### One call, then all of them -/

variable {ω : Type} [HostChannel ω] [PropertySource ω]

/-- A call that leaves a window with a role that it does not assign found the window with
that role.  Of each state it either got nothing accepted and left what the record says of
the host, or got one request accepted that changes it. -/
theorem Manager.after_mirrors (m : Manager) (call : Call ω) {w w' : Window}
    (hw : m.windows[call.id]? = some w) (hw' : (m.after call).windows[call.id]? = some w')
    (hrole : w'.hasRole = true) (hother : ∀ toplevel, call.operation ≠ .assignRole toplevel) :
    w.toplevel = w'.toplevel ∧ ∀ axis, axis ≠ .iconified →
      ((Offer.acceptedRequests (m.offers call)).filterMap (·.axisValue? axis) = [] ∧
        w'.hostState.get axis = w.hostState.get axis) ∨
      ∃ value, (Offer.acceptedRequests (m.offers call)).filterMap (·.axisValue? axis) = [value] ∧
        w.hostState.get axis ≠ value ∧ w'.hostState.get axis = value := by
  obtain ⟨o, hstep, hvalue, -, hoffers⟩ := m.after_stateStep call hw
  rw [hw'] at hvalue
  rw [hoffers]
  cases hstep with
  | forgotten heffect => cases hvalue
  | unmapped heffect =>
      cases hvalue
      cases hrole
  | assigned heffect => exact absurd (Operation.eq_assignRole_of_stateEffect heffect) (hother _)
  | @forwarded s heffect =>
      cases hvalue
      have hkept := Window.forwardState_toplevel { w with state := s } (Recorded.start call.world)
      obtain ⟨toplevel, hheld⟩ := Option.isSome_iff_exists.1 hrole
      have htoplevel : w.toplevel = some toplevel := hkept.symm.trans hheld
      obtain ⟨offers, hsends, hsent⟩ :=
        Window.forwardState_sends (w := { w with state := s }) htoplevel (Recorded.start call.world)
      refine ⟨hkept.symm, ?_⟩
      intro axis haxis
      have hvalues := hsends.accepted_values
        (fun p hp => WindowState.syncRequests_axisValue? haxis hp)
        (WindowState.syncRequests_values haxis toplevel w.hostState s)
      rw [show offers = _ from hsent.symm] at hvalues
      rcases hvalues with hnothing | ⟨hone, hchange⟩
      · exact Or.inl hnothing
      · exact Or.inr ⟨s.get axis, hone, hchange⟩
  | @noted s o heffect hkeeps =>
      -- whether the state is held back or not, nothing about it is sent
      cases hvalue
      refine ⟨hkeeps.toplevel.symm, ?_⟩
      intro axis haxis
      obtain ⟨offers, hsent, htexts⟩ := hkeeps.offers
      refine Or.inl ⟨?_, congrArg (·.get axis) hkeeps.hostState⟩
      rw [show (o.map some).world.offers = offers from hsent]
      exact accepted_values_of_isText htexts axis

namespace Manager

/-- The invariant of a run: of the latest assignment of a role, the requests since then
mirror what the record says of the host. -/
inductive MirroredBy (setting : Setting) (calls : List (Call ω)) (id : WindowId)
    (toplevel : UInt32) (w : Window) : Prop
  | since {before : List (Call ω)} {call : Call ω} {after : List (Call ω)} {start : Window}
      (hlatest : LatestRole id toplevel calls before call after)
      (hstart : ((new setting).run before).windows[id]? = some start)
      (hmirrors : Mirrors start.state
        (acceptedFor id ((new setting).run (before ++ [call])) after) w.hostState) :
      MirroredBy setting calls id toplevel w

theorem MirroredBy.concat {setting : Setting} {calls : List (Call ω)} {id : WindowId}
    {toplevel : UInt32} {w w' : Window} (h : MirroredBy setting calls id toplevel w) {next : Call ω}
    (hnext : next.id = id → ∀ other, next.operation ≠ .assignRole other)
    (hmirrors : ∀ start requests, Mirrors start requests w.hostState →
      Mirrors start (requests ++ if next.id = id then
        Offer.acceptedRequests (((new setting).run calls).offers next) else []) w'.hostState) :
    MirroredBy setting (calls ++ [next]) id toplevel w' := by
  cases h with
  | since hlatest hstart hbefore =>
      refine .since (hlatest.concat hnext) hstart ?_
      rw [acceptedFor_concat, ← run_append, List.append_assoc, List.singleton_append,
        ← hlatest.split]
      exact hmirrors _ _ hbefore

/-- What holds of the record of a window with a role after any run. -/
theorem mirroredBy_of_toplevel (setting : Setting) (calls : List (Call ω)) {id : WindowId}
    {w : Window} (hw : ((new setting).run calls).windows[id]? = some w) :
    ∀ toplevel, w.toplevel = some toplevel → MirroredBy setting calls id toplevel w := by
  refine run_tracked_induction (P := fun calls id w =>
    ∀ toplevel, w.toplevel = some toplevel → MirroredBy setting calls id toplevel w)
    setting ?_ ?_ ?_ calls hw
  · intro calls call id w hne h toplevel htoplevel
    refine (h toplevel htoplevel).concat (fun heq => absurd heq hne) ?_
    intro start requests hmirrors
    rwa [if_neg hne, List.append_nil]
  · intro calls id w hnone _ _ toplevel htoplevel
    rw [hnone] at htoplevel
    cases htoplevel
  · intro calls call w w' hbefore hw' ih toplevel htoplevel
    by_cases hassigned : ∃ other, call.operation = .assignRole other
    · -- the series of requests begins anew, from the state that the record has
      obtain ⟨other, hop⟩ := hassigned
      have hvalue := (after_eq_recorded _ call hbefore).1
      rw [hw', hop] at hvalue
      cases hvalue
      cases htoplevel
      exact .since (LatestRole.last rfl hop) hbefore (Mirrors.refl w.state)
    · have hother : ∀ other, call.operation ≠ .assignRole other :=
        fun other hop => hassigned ⟨other, hop⟩
      have hrole : w'.hasRole = true := Option.isSome_iff_exists.2 ⟨toplevel, htoplevel⟩
      obtain ⟨hheld, hmirrors⟩ := after_mirrors _ call hbefore hw' hrole hother
      refine (ih toplevel (hheld.trans htoplevel)).concat (fun _ => hother) ?_
      intro start requests hstart
      rw [if_pos rfl]
      exact hstart.append hmirrors

/-- Of every window with a role, the record says of fullscreen and maximized what the host
was told: the state at the latest assignment of the role, changed by the requests that the
window's calls got accepted since.  Each of these requests changed the state it names. -/
theorem hostState_eq_replay (setting : Setting) (calls : List (Call ω)) {id : WindowId}
    {w : Window} {toplevel : UInt32} (htracked : ((new setting).run calls).windows[id]? = some w)
    (hrole : w.toplevel = some toplevel) :
    ∃ before call after start, LatestRole id toplevel calls before call after ∧
      ((new setting).run before).windows[id]? = some start ∧
      let requests := acceptedFor id ((new setting).run (before ++ [call])) after
      let replayed := requests.foldl WindowState.replay start.state
      replayed.fullscreen = w.hostState.fullscreen ∧
        replayed.maximized = w.hostState.maximized ∧
        ∀ axis, axis ≠ .iconified →
          (start.state.get axis :: requests.filterMap (·.axisValue? axis)).IsChain (· ≠ ·) := by
  obtain ⟨hlatest, hstart, hmirrors⟩ :=
    mirroredBy_of_toplevel setting calls htracked toplevel hrole
  have hfullscreen : StateAxis.fullscreen ≠ .iconified := by decide
  have hmaximized : StateAxis.maximized ≠ .iconified := by decide
  refine ⟨_, _, _, _, hlatest, hstart, ?_, ?_, ?_⟩
  · exact hmirrors.replay hfullscreen
  · exact hmirrors.replay hmaximized
  · intro axis haxis
    exact (hmirrors axis haxis).chain

theorem hostState_eq_replay_refusedRun :
    ∃ w, ((new (.plain true)).run refusedRun).windows[(7 : WindowId)]? = some w ∧
      w.state = ⟨false, true, false⟩ ∧ w.hostState = ⟨true, true, false⟩ ∧
      ∃ before call after start, LatestRole 7 30 refusedRun before call after ∧
        ((new (.plain true)).run before).windows[(7 : WindowId)]? = some start ∧
        let requests := acceptedFor 7 ((new (.plain true)).run (before ++ [call])) after
        let replayed := requests.foldl WindowState.replay start.state
        replayed.fullscreen = w.hostState.fullscreen ∧
          replayed.maximized = w.hostState.maximized ∧
          ∀ axis, axis ≠ .iconified →
            (start.state.get axis :: requests.filterMap (·.axisValue? axis)).IsChain (· ≠ ·) := by
  obtain ⟨w, hw, hstate, hhost, hrole⟩ : ∃ w,
      ((new (.plain true)).run refusedRun).windows[(7 : WindowId)]? = some w ∧
      w.state = ⟨false, true, false⟩ ∧ w.hostState = ⟨true, true, false⟩ ∧
      w.toplevel = some 30 := by
    rw [run_getElem?, getElem?_new]
    exact ⟨_, rfl, rfl, rfl, rfl⟩
  exact ⟨w, hw, hstate, hhost, hostState_eq_replay (.plain true) refusedRun hw hrole⟩

end Manager

end GuestShell

import GuestShell.Proofs.Manager.Run

/-!
# Bringing the host in line

Requests about the state of a window are sent one after another until the channel refuses
one.  `Window.Sends` says what such a series of sends did: which requests were offered, how
far it came and what the record says of the host afterwards.

Of fullscreen and maximized the record is right at every point where a series can stop:
either nothing about the state was accepted and the record is as before, or exactly one
request was, it changed the state, and the record says so.  Iconified is different, as the
host has no request for leaving it.
-/

namespace GuestShell

namespace ShellRequest

/-- The value that a request gives to a state of its toplevel, if it is about that state. -/
def axisValue? : StateAxis → ShellRequest → Option Bool
  | .fullscreen, .setFullscreen _ => some true
  | .fullscreen, .unsetFullscreen _ => some false
  | .maximized, .setMaximized _ => some true
  | .maximized, .unsetMaximized _ => some false
  | .iconified, .setMinimized _ => some true
  | _, _ => none

/-- The requests that carry a text. -/
def isText : ShellRequest → Bool
  | .setTitle .. => true
  | .setApplicationId .. => true
  | _ => false

theorem axisValue?_of_isText {r : ShellRequest} (hr : r.isText = true) (axis : StateAxis) :
    r.axisValue? axis = none := by
  cases r <;> cases axis <;> first | rfl | cases hr

/-- Only a text can be too long for a message. -/
theorem encode_of_not_isText {r : ShellRequest} (hr : r.isText = false) :
    ∃ bytes, r.encode = .ok bytes := by
  cases r with
  | setTitle toplevel title => cases hr
  | setApplicationId auraSurface appId => cases hr
  | setMaximized toplevel => exact ⟨_, rfl⟩
  | unsetMaximized toplevel => exact ⟨_, rfl⟩
  | setFullscreen toplevel => exact ⟨_, rfl⟩
  | unsetFullscreen toplevel => exact ⟨_, rfl⟩
  | setMinimized toplevel => exact ⟨_, rfl⟩

/-- What can become of one request: how its send ends and what was offered. -/
inductive Offered (request : ShellRequest) : Except ManagerError Unit → List Offer → Prop
  | accepted {bytes : List UInt8} (hbytes : request.encode = .ok bytes) :
      Offered request (.ok ()) [⟨bytes, true⟩]
  | refused {bytes : List UInt8} (hbytes : request.encode = .ok bytes) (e : ChannelError) :
      Offered request (.error (.channel e)) [⟨bytes, false⟩]
  | tooLong {e : Wire.WireError} (hbytes : request.encode = .error e) :
      Offered request (.error (.wire e)) []

theorem send_offered {ω : Type} [HostChannel ω] (request : ShellRequest) (r : Recorded ω) :
    ∃ offers, request.Offered (request.send r).1 offers ∧
      (request.send r).2.offers = r.offers ++ offers := by
  unfold send
  cases hbytes : request.encode with
  | error e => exact ⟨[], .tooLong hbytes, (List.append_nil _).symm⟩
  | ok bytes =>
      -- the recording of the send, by what the channel said
      have hrecorded : HostChannel.send bytes r = ((HostChannel.send bytes r.world).1,
          ⟨(HostChannel.send bytes r.world).2,
            r.offers ++ [⟨bytes, (HostChannel.send bytes r.world).1.isOk⟩]⟩) := rfl
      simp only [hrecorded]
      cases (HostChannel.send bytes r.world).1 with
      | error e => exact ⟨_, .refused hbytes e, rfl⟩
      | ok u => exact ⟨_, .accepted hbytes, rfl⟩

namespace Offered

variable {request : ShellRequest} {result : Except ManagerError Unit} {offers : List Offer}

theorem acceptedRequests_of_ok (h : request.Offered (.ok ()) offers) :
    Offer.acceptedRequests offers = [request] := by
  cases h with
  | accepted hbytes => simp [Offer.acceptedRequests, Offer.requests, Offer.request?,
      decode?_of_encode hbytes]

theorem acceptedRequests_of_error {e : ManagerError} (h : request.Offered (.error e) offers) :
    Offer.acceptedRequests offers = [] := by
  cases h <;> simp [Offer.acceptedRequests]

/-- Nothing but the request itself is offered. -/
theorem eq_of_mem_requests (h : request.Offered result offers) {r : ShellRequest}
    (hr : r ∈ Offer.requests offers) : r = request := by
  cases h with
  | accepted hbytes => simpa [Offer.requests, Offer.request?, decode?_of_encode hbytes] using hr
  | refused hbytes e => simpa [Offer.requests, Offer.request?, decode?_of_encode hbytes] using hr
  | tooLong hbytes => simp at hr

theorem mem_requests (h : request.Offered result offers) {bytes : List UInt8}
    (hbytes : request.encode = .ok bytes) : request ∈ Offer.requests offers := by
  cases h with
  | accepted hb => simp [Offer.requests, Offer.request?, decode?_of_encode hb]
  | refused hb e => simp [Offer.requests, Offer.request?, decode?_of_encode hb]
  | tooLong hb => simp [hbytes] at hb

end Offered

end ShellRequest

namespace WindowState

theorem fullscreenRequest_axisValue? (toplevel : UInt32) (value : Bool) (axis : StateAxis) :
    (fullscreenRequest toplevel value).axisValue? axis =
      if axis = .fullscreen then some value else none := by
  cases value <;> cases axis <;> rfl

theorem maximizedRequest_axisValue? (toplevel : UInt32) (value : Bool) (axis : StateAxis) :
    (maximizedRequest toplevel value).axisValue? axis =
      if axis = .maximized then some value else none := by
  cases value <;> cases axis <;> rfl

/-- What can stand in the series of requests that brings the host in line. -/
theorem mem_syncRequests {toplevel : UInt32} {host target : WindowState}
    {p : StateAxis × ShellRequest} (hp : p ∈ syncRequests toplevel host target) :
    (p = (.fullscreen, fullscreenRequest toplevel target.fullscreen) ∧
      host.fullscreen ≠ target.fullscreen) ∨
    (p = (.maximized, maximizedRequest toplevel target.maximized) ∧
      host.maximized ≠ target.maximized) ∨
    p = (.iconified, .setMinimized toplevel) := by
  simp only [syncRequests, List.mem_append] at hp
  rcases hp with (hp | hp) | hp
  · split at hp
    case isTrue => cases hp
    case isFalse hne => exact Or.inl ⟨List.mem_singleton.1 hp, hne⟩
  · split at hp
    case isTrue => cases hp
    case isFalse hne => exact Or.inr (Or.inl ⟨List.mem_singleton.1 hp, hne⟩)
  · split at hp
    case isTrue => exact Or.inr (Or.inr (List.mem_singleton.1 hp))
    case isFalse => cases hp

/-- The requests that bring the host in line are about states, for the toplevel they are
sent to. -/
theorem syncRequests_about {toplevel : UInt32} {host target : WindowState}
    {p : StateAxis × ShellRequest} (hp : p ∈ syncRequests toplevel host target) :
    p.2.isText = false ∧ p.2.target = toplevel := by
  rcases mem_syncRequests hp with ⟨rfl, -⟩ | ⟨rfl, -⟩ | rfl
  · cases target.fullscreen <;> exact ⟨rfl, rfl⟩
  · cases target.maximized <;> exact ⟨rfl, rfl⟩
  · exact ⟨rfl, rfl⟩

/-- Of fullscreen and maximized each request names the one that it is listed with, and
gives it the wanted value. -/
theorem syncRequests_axisValue? {toplevel : UInt32} {host target : WindowState}
    {axis : StateAxis} (haxis : axis ≠ .iconified) {p : StateAxis × ShellRequest}
    (hp : p ∈ syncRequests toplevel host target) :
    p.2.axisValue? axis = if p.1 = axis then some (target.get axis) else none := by
  rcases mem_syncRequests hp with ⟨rfl, -⟩ | ⟨rfl, -⟩ | rfl
  · rw [fullscreenRequest_axisValue?]
    cases axis <;> rfl
  · rw [maximizedRequest_axisValue?]
    cases axis <;> rfl
  · cases axis <;> first | rfl | exact absurd rfl haxis

/-- Fullscreen and maximized are asked for exactly where the host does not have the wanted
value, and then once. -/
theorem syncRequests_values {axis : StateAxis} (haxis : axis ≠ .iconified) (toplevel : UInt32)
    (host target : WindowState) :
    (syncRequests toplevel host target).filterMap (fun p => p.2.axisValue? axis) =
      if host.get axis = target.get axis then [] else [target.get axis] := by
  have hminimized : ∀ p ∈ (if target.iconified && !host.iconified then
      [(StateAxis.iconified, ShellRequest.setMinimized toplevel)] else []),
      p.2.axisValue? axis = none := by
    intro p hp
    split at hp
    · rw [List.mem_singleton.1 hp]
      cases axis <;> first | rfl | exact absurd rfl haxis
    · cases hp
  rw [syncRequests, List.filterMap_append, List.filterMap_append,
    List.filterMap_eq_nil_iff.2 hminimized, List.append_nil]
  cases axis with
  | iconified => exact absurd rfl haxis
  | fullscreen =>
      by_cases hf : host.fullscreen = target.fullscreen <;>
        by_cases hm : host.maximized = target.maximized <;>
        simp [hf, hm, get, fullscreenRequest_axisValue?, maximizedRequest_axisValue?]
  | maximized =>
      by_cases hf : host.fullscreen = target.fullscreen <;>
        by_cases hm : host.maximized = target.maximized <;>
        simp [hf, hm, get, fullscreenRequest_axisValue?, maximizedRequest_axisValue?]

end WindowState

namespace Window

@[simp] theorem told_state (w : Window) (axis : StateAxis) : (w.told axis).state = w.state := rfl

theorem told_get_self (w : Window) (axis : StateAxis) :
    (w.told axis).hostState.get axis = w.state.get axis :=
  WindowState.get_set_self w.hostState axis (w.state.get axis)

theorem told_get_of_ne (w : Window) {axis other : StateAxis} (hne : axis ≠ other) :
    (w.told axis).hostState.get other = w.hostState.get other :=
  WindowState.get_set_of_ne w.hostState (w.state.get axis) hne

/-- A series of sends: the requests, the record before and after, how it ended and what was
offered. -/
inductive Sends : List (StateAxis × ShellRequest) → Window → Window →
    Except ManagerError Unit → List Offer → Prop
  | done (w : Window) : Sends [] w { w with hostState := w.state } (.ok ()) []
  | stopped {axis : StateAxis} {request : ShellRequest} {rest : List (StateAxis × ShellRequest)}
      {w : Window} {e : ManagerError} {offers : List Offer}
      (hoffer : request.Offered (.error e) offers) :
      Sends ((axis, request) :: rest) w w (.error e) offers
  | told {axis : StateAxis} {request : ShellRequest} {rest : List (StateAxis × ShellRequest)}
      {w w' : Window} {result : Except ManagerError Unit} {offers others : List Offer}
      (hoffer : request.Offered (.ok ()) offers)
      (hrest : Sends rest (w.told axis) w' result others) :
      Sends ((axis, request) :: rest) w w' result (offers ++ others)

theorem sendAll_sends {ω : Type} [HostChannel ω] (requests : List (StateAxis × ShellRequest))
    (w : Window) (r : Recorded ω) :
    ∃ offers, Sends requests w (sendAll requests w r).value (sendAll requests w r).result offers ∧
      (sendAll requests w r).world.offers = r.offers ++ offers := by
  induction requests generalizing w r with
  | nil => exact ⟨[], .done w, (List.append_nil _).symm⟩
  | cons head rest ih =>
      obtain ⟨axis, request⟩ := head
      obtain ⟨offers, hoffer, hoffers⟩ := request.send_offered r
      cases hsent : request.send r with
      | mk result r' =>
          rw [hsent] at hoffer hoffers
          cases result with
          | error e =>
              refine ⟨offers, ?_, ?_⟩
              · simp only [sendAll, hsent]
                exact .stopped hoffer
              · simp only [sendAll, hsent]
                exact hoffers
          | ok u =>
              obtain ⟨others, hrest, hothers⟩ := ih (w.told axis) r'
              refine ⟨offers ++ others, ?_, ?_⟩
              · simp only [sendAll, hsent]
                exact .told hoffer hrest
              · simp only [sendAll, hsent]
                rw [hothers, show r'.offers = r.offers ++ offers from hoffers,
                  List.append_assoc]

namespace Sends

variable {requests : List (StateAxis × ShellRequest)} {w w' : Window}
  {result : Except ManagerError Unit} {offers : List Offer}

theorem eq_hostState (h : Sends requests w w' result offers) :
    w' = { w with hostState := w'.hostState } := by
  induction h with
  | done w => rfl
  | stopped hoffer => rfl
  | told hoffer hrest ih => rw [ih]; rfl

/-- A series that ends well leaves the host with the whole state. -/
theorem hostState_of_ok (h : Sends requests w w' result offers) (hresult : result = .ok ()) :
    w'.hostState = w.state := by
  induction h with
  | done w => rfl
  | stopped hoffer => cases hresult
  | told hoffer hrest ih => exact ih hresult

/-- The record says of every state what it said before or what is wanted. -/
theorem hostState_get (h : Sends requests w w' result offers) (axis : StateAxis) :
    w'.hostState.get axis = w.hostState.get axis ∨ w'.hostState.get axis = w.state.get axis := by
  induction h with
  | done w => exact Or.inr rfl
  | stopped hoffer => exact Or.inl rfl
  | @told first request rest w w' result offers others hoffer hrest ih =>
      -- the rest started from a record that already says what the first request told
      rcases ih with hkept | hwanted
      · by_cases haxis : first = axis
        · subst haxis
          exact Or.inr (hkept.trans (told_get_self w first))
        · exact Or.inl (hkept.trans (told_get_of_ne w haxis))
      · exact Or.inr hwanted

/-- A series that is stopped leaves what the record says of a state that it has no request
for. -/
theorem hostState_get_of_error (h : Sends requests w w' result offers) {axis : StateAxis}
    (hothers : ∀ p ∈ requests, p.1 ≠ axis) (hresult : result ≠ .ok ()) :
    w'.hostState.get axis = w.hostState.get axis := by
  induction h with
  | done w => exact absurd rfl hresult
  | stopped hoffer => rfl
  | told hoffer hrest ih =>
      have hkept := ih (fun p hp => hothers p (List.mem_cons_of_mem _ hp)) hresult
      exact hkept.trans (told_get_of_ne _ (hothers _ List.mem_cons_self))

theorem mem_of_mem_requests (h : Sends requests w w' result offers) {r : ShellRequest}
    (hr : r ∈ Offer.requests offers) : ∃ p ∈ requests, p.2 = r := by
  induction h with
  | done w => simp at hr
  | @stopped axis request rest w e offers hoffer =>
      exact ⟨(axis, request), List.mem_cons_self, (hoffer.eq_of_mem_requests hr).symm⟩
  | @told axis request rest w w' result offers others hoffer hrest ih =>
      rw [Offer.requests_append, List.mem_append] at hr
      rcases hr with hr | hr
      · exact ⟨(axis, request), List.mem_cons_self, (hoffer.eq_of_mem_requests hr).symm⟩
      · obtain ⟨p, hp, hpr⟩ := ih hr
        exact ⟨p, List.mem_cons_of_mem _ hp, hpr⟩

/-- The first request of a series is offered if it has bytes. -/
theorem head_mem_requests {p : StateAxis × ShellRequest}
    (h : Sends (p :: requests) w w' result offers) {bytes : List UInt8}
    (hbytes : p.2.encode = .ok bytes) : p.2 ∈ Offer.requests offers := by
  cases h with
  | stopped hoffer => exact hoffer.mem_requests hbytes
  | told hoffer hrest =>
      rw [Offer.requests_append]
      exact List.mem_append_left _ (hoffer.mem_requests hbytes)

/-- A series of requests that have bytes ends well if the channel takes all of them. -/
theorem result_of_accepted (h : Sends requests w w' result offers)
    (hbytes : ∀ p ∈ requests, ∃ bytes, p.2.encode = .ok bytes)
    (haccepted : ∀ o ∈ offers, o.accepted = true) : result = .ok () := by
  induction h with
  | done w => rfl
  | stopped hoffer =>
      obtain ⟨bytes, hencode⟩ := hbytes _ List.mem_cons_self
      cases hoffer with
      | refused hb e => exact absurd (haccepted _ List.mem_cons_self) Bool.false_ne_true
      | tooLong hb => rw [hb] at hencode; cases hencode
  | told hoffer hrest ih =>
      exact ih (fun p hp => hbytes p (List.mem_cons_of_mem _ hp))
        (fun o ho => haccepted o (List.mem_append_right _ ho))

/-- What the accepted requests of a series say of one state, against what the record says
before and after.  The requests name the state at most once, and only if it is to change. -/
theorem accepted_values {axis : StateAxis} (h : Sends requests w w' result offers)
    (hnamed : ∀ p ∈ requests,
      p.2.axisValue? axis = if p.1 = axis then some (w.state.get axis) else none)
    (hneeded : requests.filterMap (fun p => p.2.axisValue? axis) =
      if w.hostState.get axis = w.state.get axis then [] else [w.state.get axis]) :
    ((Offer.acceptedRequests offers).filterMap (·.axisValue? axis) = [] ∧
      w'.hostState.get axis = w.hostState.get axis) ∨
    ((Offer.acceptedRequests offers).filterMap (·.axisValue? axis) = [w.state.get axis] ∧
      w.hostState.get axis ≠ w.state.get axis ∧
      w'.hostState.get axis = w.state.get axis) := by
  induction h with
  | done w =>
      -- nothing was left to ask for, so the host had the state already
      refine Or.inl ⟨rfl, ?_⟩
      by_cases hsame : w.hostState.get axis = w.state.get axis
      · exact hsame.symm
      · simp [hsame] at hneeded
  | stopped hoffer => exact Or.inl ⟨by rw [hoffer.acceptedRequests_of_error]; rfl, rfl⟩
  | @told first request rest w w' result offers others hoffer hrest ih =>
      have hfirst := hnamed (first, request) List.mem_cons_self
      have hothers : ∀ p ∈ rest,
          p.2.axisValue? axis = if p.1 = axis then some (w.state.get axis) else none :=
        fun p hp => hnamed p (List.mem_cons_of_mem _ hp)
      simp only [Offer.acceptedRequests_append, hoffer.acceptedRequests_of_ok,
        List.singleton_append, List.filterMap_cons] at hneeded ⊢
      by_cases haxis : first = axis
      · -- the request names the state: the record is updated, and no later one names it
        subst haxis
        rw [if_pos rfl] at hfirst
        have hself := told_get_self w first
        simp only [hfirst] at hneeded ⊢
        by_cases hsame : w.hostState.get first = w.state.get first
        · simp [hsame] at hneeded
        · rw [if_neg hsame, List.cons.injEq] at hneeded
          have hrec := ih hothers (by rw [hneeded.2, told_state, hself, if_pos rfl])
          rcases hrec with ⟨hnone, hkept⟩ | ⟨-, hchanged, -⟩
          · exact Or.inr ⟨by rw [hnone], hsame, hkept.trans hself⟩
          · exact absurd hself hchanged
      · -- a request about another state neither names this one nor touches its record
        rw [if_neg haxis] at hfirst
        have hkeep := told_get_of_ne w haxis
        simp only [hfirst] at hneeded ⊢
        have hrec := ih hothers (by rw [hneeded, told_state, hkeep])
        rwa [hkeep] at hrec

end Sends

section Forwarding

variable {ω : Type} [HostChannel ω]

/-- Bringing the host in line is a series of sends of the requests that are needed. -/
theorem forwardState_sends {w : Window} {toplevel : UInt32}
    (htoplevel : w.toplevel = some toplevel) (r : Recorded ω) :
    ∃ offers, Sends (WindowState.syncRequests toplevel w.hostState w.state) w
        (w.forwardState r).value (w.forwardState r).result offers ∧
      (w.forwardState r).world.offers = r.offers ++ offers := by
  simp only [forwardState, htoplevel]
  exact sendAll_sends _ w r

/-- Without a role there is nothing to bring in line. -/
theorem forwardState_cases (w : Window) (r : Recorded ω) :
    (w.toplevel = none ∧ w.forwardState r = ⟨.ok (), w, r⟩) ∨
    ∃ toplevel offers, w.toplevel = some toplevel ∧
      Sends (WindowState.syncRequests toplevel w.hostState w.state) w (w.forwardState r).value
        (w.forwardState r).result offers ∧
      (w.forwardState r).world.offers = r.offers ++ offers := by
  cases htoplevel : w.toplevel with
  | none => exact Or.inl ⟨rfl, by simp only [forwardState, htoplevel]⟩
  | some toplevel =>
      obtain ⟨offers, hsends, hoffers⟩ := forwardState_sends htoplevel r
      exact Or.inr ⟨toplevel, offers, rfl, hsends, hoffers⟩

theorem forwardState_eq_hostState (w : Window) (r : Recorded ω) :
    (w.forwardState r).value = { w with hostState := (w.forwardState r).value.hostState } := by
  rcases w.forwardState_cases r with ⟨-, hnothing⟩ | ⟨toplevel, offers, -, hsends, -⟩
  · rw [hnothing]
  · exact hsends.eq_hostState

theorem forwardState_toplevel (w : Window) (r : Recorded ω) :
    (w.forwardState r).value.toplevel = w.toplevel := by
  rw [forwardState_eq_hostState]

theorem forwardState_state (w : Window) (r : Recorded ω) :
    (w.forwardState r).value.state = w.state := by
  rw [forwardState_eq_hostState]

theorem forwardState_hasRole (w : Window) (r : Recorded ω) :
    (w.forwardState r).value.hasRole = w.hasRole := by
  rw [hasRole, hasRole, forwardState_toplevel]

/-- Forwarding that ends well leaves the host with the whole state. -/
theorem forwardState_hostState_of_ok {w : Window} {r : Recorded ω} (hrole : w.hasRole = true)
    (hresult : (w.forwardState r).result = .ok ()) :
    (w.forwardState r).value.hostState = w.state := by
  obtain ⟨toplevel, htoplevel⟩ := Option.isSome_iff_exists.1 hrole
  obtain ⟨offers, hsends, -⟩ := forwardState_sends htoplevel r
  exact hsends.hostState_of_ok hresult

/-- Forwarding ends well if the channel takes everything: no request about a state is too
long to be sent. -/
theorem forwardState_result_of_accepted {w : Window} {world : ω}
    (haccepted : ∀ o ∈ (w.forwardState (Recorded.start world)).world.offers, o.accepted = true) :
    (w.forwardState (Recorded.start world)).result = .ok () := by
  rcases w.forwardState_cases (Recorded.start world) with
    ⟨-, hnothing⟩ | ⟨toplevel, offers, -, hsends, hoffers⟩
  · rw [hnothing]
  · refine hsends.result_of_accepted ?_ ?_
    · intro p hp
      exact ShellRequest.encode_of_not_isText (WindowState.syncRequests_about hp).1
    · rw [show offers = _ from hoffers.symm]
      exact haccepted

/-- Forwarding does not give the host a state that it does not have and that is not wanted. -/
theorem forwardState_get_eq_false {w : Window} (axis : StateAxis) (r : Recorded ω)
    (hhost : w.hostState.get axis = false) (hstate : w.state.get axis = false) :
    (w.forwardState r).value.hostState.get axis = false := by
  rcases w.forwardState_cases r with ⟨-, hnothing⟩ | ⟨toplevel, offers, -, hsends, -⟩
  · rw [hnothing]
    exact hhost
  · rcases hsends.hostState_get axis with hkept | hwanted
    · exact hkept.trans hhost
    · exact hwanted.trans hstate

end Forwarding

end Window

end GuestShell

import GuestShell.Proofs.Manager.RecordStep
import GuestShell.Proofs.Manager.StateForwarding

/-!
# Requests go to host objects that are there

The host objects of a window go when the guest unmaps it or the window is not tracked any
more.  A request to an object that is gone would be an error of the protocol, and the host
ends the connection over it.  So every message that is offered to the channel has to be one
request, to the object of its kind that the window was given last, with neither an unmapping
nor another record of the window in between.

A message that is offered names the object that the record has once the operation has written
it (`Manager.offers_about`), and a record has the object that was assigned last
(`Manager.attached_of_run`).  Nothing is claimed of objects that the host takes away by itself.
-/

namespace GuestShell

/-- The host objects that requests are sent to. -/
inductive HostObject where
  | toplevel
  | auraSurface
  deriving DecidableEq, Repr

namespace HostObject

/-- The operation that gives a window an object. -/
def assignment : HostObject → UInt32 → Operation
  | .toplevel => .assignRole
  | .auraSurface => .assignAuraSurface

/-- The object of a window, if it has one. -/
def of? (w : Window) : HostObject → Option UInt32
  | .toplevel => w.toplevel
  | .auraSurface => w.auraSurface

/-- The kind of object that a request is for. -/
def ofRequest : ShellRequest → HostObject
  | .setApplicationId .. => .auraSurface
  | _ => .toplevel

theorem ofRequest_of_not_isText {r : ShellRequest} (hr : r.isText = false) :
    ofRequest r = .toplevel := by
  cases r <;> first | rfl | cases hr

@[simp] theorem of?_hostState (w : Window) (hostState : WindowState) (object : HostObject) :
    of? { w with hostState := hostState } object = of? w object := by
  cases object <;> rfl

end HostObject

/-! ### What is offered -/

theorem ShellRequest.Offered.encode_of_mem {request : ShellRequest}
    {result : Except ManagerError Unit} {offers : List Offer} (h : request.Offered result offers)
    {o : Offer} (ho : o ∈ offers) : request.encode = .ok o.message := by
  cases h with
  | accepted hbytes =>
      rw [List.mem_singleton.1 ho]
      exact hbytes
  | refused hbytes e =>
      rw [List.mem_singleton.1 ho]
      exact hbytes
  | tooLong hbytes => cases ho

theorem Window.Sends.encode_of_mem {requests : List (StateAxis × ShellRequest)} {w w' : Window}
    {result : Except ManagerError Unit} {offers : List Offer}
    (h : Window.Sends requests w w' result offers) {o : Offer} (ho : o ∈ offers) :
    ∃ p ∈ requests, p.2.encode = .ok o.message := by
  induction h with
  | done w => cases ho
  | stopped hoffer => exact ⟨_, List.mem_cons_self, hoffer.encode_of_mem ho⟩
  | told hoffer hrest ih =>
      rcases List.mem_append.1 ho with ho | ho
      · exact ⟨_, List.mem_cons_self, hoffer.encode_of_mem ho⟩
      · obtain ⟨p, hp, hbytes⟩ := ih ho
        exact ⟨p, List.mem_cons_of_mem _ hp, hbytes⟩

/-- A message is one request, to the object that a record has. -/
def Offer.About (o : Offer) (w : Window) (request : ShellRequest) : Prop :=
  request.encode = .ok o.message ∧ (HostObject.ofRequest request).of? w = some request.target

theorem Offer.About.request?_eq {o : Offer} {w : Window} {request : ShellRequest}
    (h : o.About w request) : o.request? = some request :=
  ShellRequest.decode?_of_encode h.1

/-- What a request is sent as. -/
def Sending.ofRequest : ShellRequest → Sending
  | .setTitle .. => .title
  | .setApplicationId .. => .applicationId
  | _ => .state

theorem Sending.ofRequest_of_not_isText {r : ShellRequest} (hr : r.isText = false) :
    ofRequest r = .state := by
  cases r <;> first | rfl | cases hr

variable {ω : Type} [HostChannel ω]

/-- Whatever is sent about a record goes to an object of the record. -/
theorem Sending.offers_about (identity : Identity) (sending : Sending) (w : Window)
    {r : Recorded ω} (hr : r.offers = []) :
    ∀ o ∈ (sending.perform identity w r).world.offers,
      ∃ request, o.About w request ∧ sending = .ofRequest request := by
  intro o ho
  have hnone : o ∉ r.offers := by
    rw [hr]
    exact List.not_mem_nil
  cases sending with
  | nothing => exact absurd ho hnone
  | refusal id => exact absurd ho hnone
  | state =>
      simp only [perform] at ho
      rcases w.forwardState_cases r with
        ⟨-, hnothing⟩ | ⟨toplevel, offers, hrole, hsends, hoffers⟩
      · rw [hnothing] at ho
        exact absurd ho hnone
      · rw [hoffers, hr, List.nil_append] at ho
        obtain ⟨p, hp, hbytes⟩ := hsends.encode_of_mem ho
        obtain ⟨htext, htarget⟩ := WindowState.syncRequests_about hp
        refine ⟨p.2, ⟨hbytes, ?_⟩, (ofRequest_of_not_isText htext).symm⟩
        rw [HostObject.ofRequest_of_not_isText htext, htarget]
        exact hrole
  | title =>
      simp only [perform, Window.sendTitle] at ho
      split at ho
      · exact absurd ho hnone
      next toplevel hrole =>
        obtain ⟨offers, hoffer, hoffers⟩ := (ShellRequest.setTitle toplevel w.title).send_offered r
        rw [hoffers, hr, List.nil_append] at ho
        exact ⟨_, ⟨hoffer.encode_of_mem ho, hrole⟩, rfl⟩
  | applicationId =>
      simp only [perform, Window.sendApplicationId] at ho
      split at ho
      · exact absurd ho hnone
      next auraSurface haura =>
        obtain ⟨offers, hoffer, hoffers⟩ :=
          (ShellRequest.setApplicationId auraSurface (identity.resolve w)).send_offered r
        rw [hoffers, hr, List.nil_append] at ho
        exact ⟨_, ⟨hoffer.encode_of_mem ho, haura⟩, rfl⟩

variable [PropertySource ω]

omit [HostChannel ω] in
/-- A record that is written has the objects that it had, unless the operation unmaps the
window or assigns one. -/
theorem Writes.of?_eq_some {setting : Setting} {w w' : Window} {r r' : Recorded ω}
    {operation : Operation} {sending : Sending}
    (h : Writes setting w r operation w' r' sending) {object : HostObject} {number : UInt32}
    (hnumber : object.of? w' = some number) :
    operation = object.assignment number ∨
      object.of? w = some number ∧ operation ≠ .guest .unmapped ∧
        ∀ other, operation ≠ object.assignment other := by
  cases h with
  | unmapped => cases object <;> cases hnumber
  | assigned toplevel =>
      cases object with
      | toplevel =>
          cases hnumber
          exact Or.inl rfl
      | auraSurface => exact Or.inr ⟨hnumber, nofun, nofun⟩
  | surfaced auraSurface hsending =>
      cases object with
      | toplevel => exact Or.inr ⟨hnumber, nofun, nofun⟩
      | auraSurface =>
          cases hnumber
          exact Or.inl rfl
  | configured change =>
      obtain ⟨scale, hconfigured⟩ := w.configured_eq setting change
      rw [hconfigured] at hnumber
      cases object <;> exact Or.inr ⟨hnumber, nofun, nofun⟩
  | _ => cases object <;> exact Or.inr ⟨hnumber, nofun, nofun⟩

omit [HostChannel ω] in
/-- A window that begins to be tracked has no host objects. -/
theorem Fresh.of?_eq_none {setting : Setting} {id : WindowId} {r : Recorded ω} {w : Window}
    (h : Fresh setting id r w) (object : HostObject) : object.of? w = none := by
  cases h <;> cases object <;> rfl

/-! ### Assignments -/

/-- The call of a run that gave a window an object which it still has: the window had its
record before, and neither lost the record since, nor was unmapped, nor got another object of
the kind. -/
structure Attached (setting : Setting) (object : HostObject) (number : UInt32) (id : WindowId)
    (calls before : List (Call ω)) (call : Call ω) (after : List (Call ω)) : Prop where
  split : calls = before ++ call :: after
  window : call.id = id
  assigns : call.operation = object.assignment number
  tracked : ∀ later, later <+: call :: after →
    ((Manager.new setting).run (before ++ later)).windows[id]?.isSome = true
  kept : ∀ later ∈ after, later.id = id →
    later.operation ≠ .guest .unmapped ∧ ∀ other, later.operation ≠ object.assignment other

namespace Attached

variable {setting : Setting} {object : HostObject} {number : UInt32} {id : WindowId}
  {calls before after : List (Call ω)} {call next : Call ω}

/-- An object that was given to a tracked window just now. -/
theorem last (hid : call.id = id) (hassigns : call.operation = object.assignment number)
    (hbefore : ((Manager.new setting).run calls).windows[id]?.isSome = true)
    (hafter : ((Manager.new setting).run (calls ++ [call])).windows[id]?.isSome = true) :
    Attached setting object number id (calls ++ [call]) calls call [] where
  split := rfl
  window := hid
  assigns := hassigns
  tracked := by
    intro later hlater
    cases later with
    | nil =>
        rw [List.append_nil]
        exact hbefore
    | cons first later =>
        obtain ⟨rfl, hnil⟩ := List.cons_prefix_cons.1 hlater
        rw [List.prefix_nil.1 hnil]
        exact hafter
  kept := fun _ hlater => absurd hlater List.not_mem_nil

/-- One more call, which leaves the window its object. -/
theorem concat (h : Attached setting object number id calls before call after)
    (htracked : ((Manager.new setting).run (calls ++ [next])).windows[id]?.isSome = true)
    (hnext : next.id = id → next.operation ≠ .guest .unmapped ∧
      ∀ other, next.operation ≠ object.assignment other) :
    Attached setting object number id (calls ++ [next]) before call (after ++ [next]) where
  split := by rw [h.split, List.append_assoc, List.cons_append]
  window := h.window
  assigns := h.assigns
  tracked := by
    intro later hlater
    rw [← List.cons_append, List.prefix_concat_iff] at hlater
    rcases hlater with rfl | hlater
    · rw [← List.append_assoc, ← h.split]
      exact htracked
    · exact h.tracked later hlater
  kept := by
    intro later hlater
    rcases List.mem_append.1 hlater with hearlier | hlast
    · exact h.kept later hearlier
    · rw [List.mem_singleton.1 hlast]
      exact hnext

end Attached

namespace Manager

/-- A record has the objects that were assigned to it last. -/
theorem attached_of_run (setting : Setting) (object : HostObject) (calls : List (Call ω))
    {id : WindowId} {w : Window} {number : UInt32}
    (hw : ((new setting).run calls).windows[id]? = some w)
    (hnumber : object.of? w = some number) :
    ∃ before call after, Attached setting object number id calls before call after := by
  induction calls using List.reverseRecOn generalizing w with
  | nil =>
      rw [run_nil, getElem?_new] at hw
      cases hw
  | append_singleton calls call ih =>
      have htracked : ((new setting).run (calls ++ [call])).windows[id]?.isSome = true := by
        rw [hw]
        rfl
      rw [run_concat] at hw
      by_cases hid : call.id = id
      · subst hid
        cases hbefore : ((new setting).run calls).windows[call.id]? with
        | none =>
            -- a fresh record has no objects
            have hvalue := (after_eq_recorded _ call hbefore).1
            rw [hw] at hvalue
            rw [(step_fresh hvalue.symm).of?_eq_none object] at hnumber
            cases hnumber
        | some w₀ =>
            obtain ⟨w₁, r₁, sending, hostState, hwrites, rfl⟩ :=
              after_written _ call hbefore hw
            rw [HostObject.of?_hostState] at hnumber
            rcases hwrites.of?_eq_some hnumber with hassigns | ⟨hheld, hmapped, hother⟩
            · have htracked₀ : ((new setting).run calls).windows[call.id]?.isSome = true := by
                rw [hbefore]
                rfl
              exact ⟨calls, call, [], .last rfl hassigns htracked₀ htracked⟩
            · obtain ⟨before, assignment, after, hattached⟩ := ih hbefore hheld
              exact ⟨before, assignment, after ++ [call],
                hattached.concat htracked fun _ => ⟨hmapped, hother⟩⟩
      · rw [after_getElem?_of_ne _ hid] at hw
        obtain ⟨before, assignment, after, hattached⟩ := ih hw hnumber
        exact ⟨before, assignment, after ++ [call],
          hattached.concat htracked fun hsame => absurd hsame hid⟩

/-- Whatever a call offers goes to an object that the record of its window has afterwards, and
had before unless the call assigned it. -/
theorem offers_about (m : Manager) (call : Call ω) :
    ∀ o ∈ m.offers call, ∃ w request, (m.after call).windows[call.id]? = some w ∧
      o.About w request ∧
      (call.operation = (HostObject.ofRequest request).assignment request.target ∨
        ∃ w₀, m.windows[call.id]? = some w₀ ∧
          (HostObject.ofRequest request).of? w₀ = some request.target) := by
  intro o ho
  cases hbefore : m.windows[call.id]? with
  | none =>
      rw [(m.after_untracked call hbefore).1] at ho
      cases ho
  | some w₀ =>
      rcases m.after_writes call hbefore with
        ⟨-, -, hsilent⟩ | ⟨w₁, r₁, sending, hwrites, hvalue, -, hoffers⟩
      · rw [hsilent] at ho
        cases ho
      · obtain ⟨hostState, hkept⟩ := sending.perform_value m.setting.identity w₁ r₁
        rw [hoffers] at ho
        obtain ⟨request, ⟨hbytes, hobject⟩, -⟩ :=
          sending.offers_about m.setting.identity w₁ hwrites.offers_eq o ho
        refine ⟨_, request, hvalue, ⟨hbytes, ?_⟩, ?_⟩
        · rw [hkept, HostObject.of?_hostState]
          exact hobject
        · rcases hwrites.of?_eq_some hobject with hassigns | ⟨hheld, -⟩
          · exact Or.inl hassigns
          · exact Or.inr ⟨w₀, rfl, hheld⟩

/-- Assigning a role sends nothing. -/
theorem offers_of_assignRole (m : Manager) {call : Call ω} {toplevel : UInt32}
    (hop : call.operation = .assignRole toplevel) : m.offers call = [] := by
  rw [(m.after_eq_recorded call rfl).2.2, hop]
  rfl

/-- Requests go to host objects that are there.  Every message that a call offers, accepted or
not, is the encoding of exactly one request and parses.  The request is for the object of its
kind that the window was given last, with the record that it still has, and the window was
not unmapped since.  A call that leaves its window without an object sends nothing to one of
the kind, and so does a call that finds its window without it, unless it assigns an aura
surface, which is told the application id at once. -/
theorem requests_to_attached_objects (setting : Setting) (calls : List (Call ω))
    (call : Call ω) :
    let m := (new setting).run calls
    (∀ o ∈ m.offers call, ∃ request : ShellRequest,
      request.encode = .ok o.message ∧
      (∀ other : ShellRequest, other.encode = .ok o.message → other = request) ∧
      Wire.Message.parse o.message = .ok request.message ∧
      ∃ before assignment after, Attached setting (HostObject.ofRequest request) request.target
        call.id (calls ++ [call]) before assignment after) ∧
    ∀ object : HostObject,
      (m.after call).windows[call.id]?.bind object.of? = none ∨
        m.windows[call.id]?.bind object.of? = none ∧
          (object = .auraSurface → ∀ number, call.operation ≠ .assignAuraSurface number) →
      ∀ request ∈ Offer.requests (m.offers call), HostObject.ofRequest request ≠ object := by
  intro m
  refine ⟨?_, ?_⟩
  · intro o ho
    obtain ⟨w, request, hw, ⟨hbytes, hobject⟩, -⟩ := m.offers_about call o ho
    refine ⟨request, hbytes, ?_, Wire.Message.parse_of_encode hbytes, ?_⟩
    · intro other hother
      have hsame := ShellRequest.decode?_of_encode hother
      rw [ShellRequest.decode?_of_encode hbytes] at hsame
      exact (Option.some.inj hsame).symm
    · rw [← run_concat] at hw
      exact attached_of_run setting _ (calls ++ [call]) hw hobject
  · rintro object hnone request hrequest rfl
    obtain ⟨o, ho, hdecode⟩ := List.mem_filterMap.1 hrequest
    obtain ⟨w, same, hw, habout, hheld⟩ := m.offers_about call o ho
    have hobject := habout.2
    have hsame : same = request := Option.some.inj (habout.request?_eq.symm.trans hdecode)
    subst hsame
    rcases hnone with hafter | ⟨hbefore, hunassigned⟩
    · rw [hw, Option.bind_some, hobject] at hafter
      cases hafter
    · rcases hheld with hassigns | ⟨w₀, hw₀, hobject₀⟩
      · -- of the two assignments one is excluded, and the other one is silent
        cases hkind : HostObject.ofRequest same with
        | toplevel =>
            rw [hkind] at hassigns
            rw [m.offers_of_assignRole hassigns] at ho
            cases ho
        | auraSurface =>
            rw [hkind] at hassigns
            exact hunassigned hkind _ hassigns
      · rw [hw₀, Option.bind_some, hobject₀] at hbefore
        cases hbefore

/-- A window gets a role twice, being unmapped and forgotten in between. -/
def remappedRun : List (Call (Surroundings Queue PropertyTable)) :=
  [.queued 7 (.guest (.created false .empty)),
   .queued 7 (.assignRole 30),
   .queued 7 (.guest .unmapped),
   .queued 7 (.guest .destroyed),
   .queued 7 (.guest .mapRequested),
   .queued 7 (.assignRole 31)]

/-- The window asks for fullscreen, and the toplevel that is told is the one that it has. -/
theorem requests_to_attached_objects_remappedRun :
    let m := (new (.plain true)).run remappedRun
    let asks : Call (Surroundings Queue PropertyTable) := .queued 7 (.guest (.messaged
      Atoms.numbered.netWmState ⟨1, Atoms.numbered.netWmStateFullscreen, 0, 0, 0⟩))
    ∃ o ∈ m.offers asks, o.request? = some (.setFullscreen 31) ∧
      ∃ before assignment after, Attached (.plain true) .toplevel 31 7 (remappedRun ++ [asks])
        before assignment after := by
  intro m asks
  have hw : m.windows[asks.id]? =
      some { Window.new 7 with managed := true, toplevel := some 31 } := by
    rw [run_getElem?, getElem?_new]
    rfl
  have hsent : Offer.requests (m.offers asks) = [.setFullscreen 31] := by
    rw [(m.after_eq_recorded asks hw).2.2, run_setting]
    decide +kernel
  have hmem : ShellRequest.setFullscreen 31 ∈ Offer.requests (m.offers asks) := by
    rw [hsent]
    exact List.mem_singleton_self _
  obtain ⟨o, ho, hrequest⟩ := List.mem_filterMap.1 hmem
  obtain ⟨request, hbytes, -, -, hattached⟩ :=
    (requests_to_attached_objects (.plain true) remappedRun asks).1 o ho
  have hsame : request = .setFullscreen 31 := by
    rw [Offer.request?, ShellRequest.decode?_of_encode hbytes] at hrequest
    exact Option.some.inj hrequest
  subst hsame
  exact ⟨o, ho, hrequest, hattached⟩

end Manager

end GuestShell

import GuestShell.Proofs.Manager.Recorded
import GuestShell.Proofs.ShellRequest
import Mathlib.Data.List.Induction

/-!
# Runs of the window manager

A run is a list of calls.  Every call brings the world it is performed in, so nothing is
assumed of what happens to the channel and to the properties between two calls: messages
may be drained, the channel may break and mend, properties may change.  A channel that
lives through the whole run and properties that are looked up anew for every event are both
instances of this.

What a call sent is known from the recording of its channel.  A request was *offered* if
its bytes were, and *accepted* if the channel took them.
-/

namespace GuestShell

/-- One operation of a run. -/
structure Call (ω : Type) where
  id : WindowId
  operation : Operation
  /-- The world that the operation is performed in. -/
  world : ω

namespace Offer

/-- The request that was offered. -/
def request? (o : Offer) : Option ShellRequest := ShellRequest.decode? o.message

def requests (offers : List Offer) : List ShellRequest := offers.filterMap request?

/-- The requests that a channel took. -/
def acceptedRequests (offers : List Offer) : List ShellRequest :=
  requests (offers.filter (·.accepted))

@[simp] theorem requests_nil : requests [] = [] := rfl

theorem requests_append (xs ys : List Offer) : requests (xs ++ ys) = requests xs ++ requests ys :=
  List.filterMap_append

theorem acceptedRequests_append (xs ys : List Offer) :
    acceptedRequests (xs ++ ys) = acceptedRequests xs ++ acceptedRequests ys := by
  simp only [acceptedRequests, List.filter_append, requests_append]

theorem mem_requests_of_accepted {offers : List Offer} {request : ShellRequest}
    (h : request ∈ acceptedRequests offers) : request ∈ requests offers := by
  simp only [acceptedRequests, requests, List.mem_filterMap, List.mem_filter] at h ⊢
  obtain ⟨o, ⟨ho, -⟩, hrequest⟩ := h
  exact ⟨o, ho, hrequest⟩

/-- A channel that takes everything takes what it is offered. -/
theorem acceptedRequests_eq_requests {offers : List Offer}
    (haccepted : ∀ o ∈ offers, o.accepted = true) : acceptedRequests offers = requests offers := by
  rw [acceptedRequests, List.filter_eq_self.2 haccepted]

end Offer

namespace Manager

variable {ω : Type} [HostChannel ω] [PropertySource ω]

/-- The window manager after a call. -/
def after (m : Manager) (call : Call ω) : Manager :=
  (m.perform call.id call.operation call.world).value

def result (m : Manager) (call : Call ω) : Except ManagerError Unit :=
  (m.perform call.id call.operation call.world).result

/-- What a call offers to the channel. -/
def offers (m : Manager) (call : Call ω) : List Offer :=
  (m.perform call.id call.operation (Recorded.start call.world)).world.offers

def run (m : Manager) (calls : List (Call ω)) : Manager := calls.foldl after m

/-- Every message of a run was taken by its channel. -/
def AllAccepted : Manager → List (Call ω) → Prop
  | _, [] => True
  | m, call :: calls => (∀ o ∈ m.offers call, o.accepted = true) ∧ (m.after call).AllAccepted calls

/-- The requests that the calls of a run about one window got accepted, oldest first. -/
def acceptedFor (id : WindowId) : Manager → List (Call ω) → List ShellRequest
  | _, [] => []
  | m, call :: calls =>
      (if call.id = id then Offer.acceptedRequests (m.offers call) else []) ++
        acceptedFor id (m.after call) calls

@[simp] theorem run_nil (m : Manager) : m.run ([] : List (Call ω)) = m := rfl

@[simp] theorem run_cons (m : Manager) (call : Call ω) (calls : List (Call ω)) :
    m.run (call :: calls) = (m.after call).run calls := rfl

theorem run_append (m : Manager) (xs ys : List (Call ω)) :
    m.run (xs ++ ys) = (m.run xs).run ys :=
  List.foldl_append

theorem run_concat (m : Manager) (calls : List (Call ω)) (call : Call ω) :
    m.run (calls ++ [call]) = (m.run calls).after call :=
  run_append m calls [call]

@[simp] theorem after_setting (m : Manager) (call : Call ω) :
    (m.after call).setting = m.setting := rfl

@[simp] theorem run_setting (m : Manager) (calls : List (Call ω)) :
    (m.run calls).setting = m.setting := by
  induction calls generalizing m with
  | nil => rfl
  | cons call calls ih => rw [run_cons, ih, after_setting]

theorem getElem?_new (setting : Setting) (id : WindowId) : (new setting).windows[id]? = none :=
  Std.ExtHashMap.getElem?_empty

theorem allAccepted_append (m : Manager) (xs ys : List (Call ω)) :
    m.AllAccepted (xs ++ ys) ↔ m.AllAccepted xs ∧ (m.run xs).AllAccepted ys := by
  induction xs generalizing m with
  | nil => simp [AllAccepted]
  | cons call calls ih => simp only [List.cons_append, AllAccepted, ih, run_cons, and_assoc]

theorem acceptedFor_append (id : WindowId) (m : Manager) (xs ys : List (Call ω)) :
    acceptedFor id m (xs ++ ys) = acceptedFor id m xs ++ acceptedFor id (m.run xs) ys := by
  induction xs generalizing m with
  | nil => rfl
  | cons call calls ih => simp only [List.cons_append, acceptedFor, ih, run_cons, List.append_assoc]

theorem acceptedFor_concat (id : WindowId) (m : Manager) (calls : List (Call ω))
    (call : Call ω) :
    acceptedFor id m (calls ++ [call]) =
      acceptedFor id m calls ++
        if call.id = id then Offer.acceptedRequests ((m.run calls).offers call) else [] := by
  rw [acceptedFor_append]
  simp only [acceptedFor, List.append_nil]

/-! ### Channels that refuse nothing -/

/-- A channel that takes every message. -/
def Reliable (ω : Type) [HostChannel ω] : Prop :=
  ∀ message (world : ω), (HostChannel.send message world).1 = .ok ()

theorem accepted_of_reliable (hreliable : Reliable ω) (m : Manager) (call : Call ω) :
    ∀ o ∈ m.offers call, o.accepted = true := by
  have hinvariant : WorldInvariant fun r : Recorded ω => ∀ o ∈ r.offers, o.accepted = true := by
    refine ⟨?_, fun _ _ _ hr => hr, fun _ _ hr => hr, fun _ _ _ hr => hr⟩
    intro message r hr o ho
    rcases List.mem_append.1 ho with hearlier | hlast
    · exact hr o hearlier
    · rw [List.mem_singleton.1 hlast, hreliable message r.world]
      rfl
  exact hinvariant.step m.setting call.id call.operation m.windows[call.id]?
    (fun o ho => absurd ho List.not_mem_nil)

theorem allAccepted_of_reliable (hreliable : Reliable ω) (m : Manager) (calls : List (Call ω)) :
    m.AllAccepted calls := by
  induction calls generalizing m with
  | nil => trivial
  | cons call calls ih => exact ⟨accepted_of_reliable hreliable m call, ih (m.after call)⟩

/-! ### One record of a run -/

/-- The record of the window that a call names, and what the call offers, are the outcome
of one recorded step. -/
theorem after_eq_recorded (m : Manager) (call : Call ω) {record : Option Window}
    (hrecord : m.windows[call.id]? = record) :
    let o := call.operation.step m.setting call.id record (Recorded.start call.world)
    (m.after call).windows[call.id]? = o.value ∧ m.result call = o.result ∧
      m.offers call = o.world.offers := by
  have hstep := step_recorded m.setting call.id call.operation record (Recorded.start call.world)
  refine ⟨?_, ?_, ?_⟩
  · simp only [after, perform, Outcome.map, hrecord, Registry.getElem?_store, if_true]
    exact (congrArg Outcome.value hstep).symm
  · simp only [result, perform, Outcome.map, hrecord]
    exact (congrArg Outcome.result hstep).symm
  · simp only [offers, perform, Outcome.map, hrecord]

/-- A call leaves the records of all windows that it does not name. -/
theorem after_getElem?_of_ne (m : Manager) {call : Call ω} {id : WindowId} (hne : call.id ≠ id) :
    (m.after call).windows[id]? = m.windows[id]? := by
  simp only [after, perform, Outcome.map, Registry.getElem?_store, if_neg hne]

/-- What a call does to the record of one window. -/
def stepRecord (setting : Setting) (id : WindowId) (record : Option Window) (call : Call ω) :
    Option Window :=
  if call.id = id then (call.operation.step setting id record call.world).value else record

/-- The record of a window after a run follows from the calls that name it. -/
theorem run_getElem? (m : Manager) (calls : List (Call ω)) (id : WindowId) :
    (m.run calls).windows[id]? = calls.foldl (stepRecord m.setting id) m.windows[id]? := by
  induction calls generalizing m with
  | nil => rfl
  | cons call calls ih =>
      rw [run_cons, ih, after_setting, List.foldl_cons]
      -- both sides go on alike from the record after the first call
      congr 1
      by_cases hid : call.id = id
      · subst hid
        simp only [after, perform, Outcome.map, Registry.getElem?_store, stepRecord, if_true]
      · rw [after_getElem?_of_ne m hid, stepRecord, if_neg hid]

/-- An invariant of the records: what holds of the record that a call leaves, whenever it
held of the record before, holds of every record of a run.  `P` may look at the manager's
past through the calls. -/
theorem run_induction {P : List (Call ω) → WindowId → Window → Prop} (setting : Setting)
    (hother : ∀ calls call id w, call.id ≠ id → P calls id w → P (calls ++ [call]) id w)
    (hstep : ∀ calls call w',
      (∀ w, ((new setting).run calls).windows[call.id]? = some w → P calls call.id w) →
      ((new setting).run (calls ++ [call])).windows[call.id]? = some w' →
      P (calls ++ [call]) call.id w')
    (calls : List (Call ω)) {id : WindowId} {w : Window}
    (hw : ((new setting).run calls).windows[id]? = some w) : P calls id w := by
  induction calls using List.reverseRecOn generalizing id w with
  | nil => simp [getElem?_new] at hw
  | append_singleton calls call ih =>
      by_cases hid : call.id = id
      · subst hid
        exact hstep calls call w (fun w hw => ih hw) hw
      · rw [run_concat, after_getElem?_of_ne _ hid] at hw
        exact hother calls call id w hid (ih hw)

end Manager

/-! ### Runs that can be evaluated -/

/-- Atoms numbered from one in the order in which they are looked up. -/
def Atoms.numbered : Atoms :=
  let number : String → StateM Atom Atom := fun _ => modifyGet fun next => (next, next + 1)
  ((intern number none).run 1).1

/-- A setting in which nothing is configured. -/
def Setting.plain (iconify : Bool) : Setting where
  root := 1
  atoms := .numbered
  scale := ⟨.one, .uniform⟩
  identity := .default
  iconify := iconify

/-- A call about a window without properties, on a queue. -/
def Call.queued (id : WindowId) (operation : Operation) :
    Call (Surroundings Queue PropertyTable) :=
  ⟨id, operation, ⟨.empty, .empty⟩⟩

theorem Manager.reliable_queued : Reliable (Surroundings Queue PropertyTable) :=
  fun _ _ => rfl

/-- A call about a window without properties, on a queue that refuses the next messages. -/
def Call.refusing (refusals : Nat) (id : WindowId) (operation : Operation) :
    Call (Surroundings UnreliableQueue PropertyTable) :=
  ⟨id, operation, ⟨⟨refusals, .empty⟩, .empty⟩⟩

/-- A window is to become fullscreen, then maximized, then no longer fullscreen.  The queue
refuses the first and the last of the messages. -/
def refusedRun : List (Call (Surroundings UnreliableQueue PropertyTable)) :=
  let atoms := Atoms.numbered
  [.refusing 0 7 (.guest (.created false .empty)),
   .refusing 0 7 (.assignRole 30),
   .refusing 1 7 (.guest (.messaged atoms.netWmState ⟨1, atoms.netWmStateFullscreen, 0, 0, 0⟩)),
   .refusing 0 7 (.guest (.messaged atoms.netWmState
     ⟨1, atoms.netWmStateMaximizedVert, atoms.netWmStateMaximizedHorz, 0, 0⟩)),
   .refusing 1 7 (.guest (.messaged atoms.netWmState ⟨0, atoms.netWmStateFullscreen, 0, 0, 0⟩))]

/-- A window is iconified and then is to become fullscreen. -/
def heldBackRun : List (Call (Surroundings Queue PropertyTable)) :=
  let atoms := Atoms.numbered
  [.queued 7 (.guest (.created false .empty)),
   .queued 7 (.assignRole 30),
   .queued 7 (.guest (.messaged atoms.wmChangeState ⟨3, 0, 0, 0, 0⟩)),
   .queued 7 (.guest (.messaged atoms.netWmState ⟨1, atoms.netWmStateFullscreen, 0, 0, 0⟩))]

end GuestShell

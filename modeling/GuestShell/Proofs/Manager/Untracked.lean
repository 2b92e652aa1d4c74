import GuestShell.Proofs.Manager.StateView
import GuestShell.Proofs.Manager.RecordStep

/-!
# Windows that are not tracked

The guest reports on windows that the window manager does not know, or knows no more, and the
host side can be late with an object for a window that is gone.  An operation on such a window
either begins to track it or is *idle*.  An idle call is none at all: it ends well, the window
manager and the world are afterwards what they were before, so nothing is read, nothing is
sent and the focus stays.  Idle calls can be left out of any run (`run_withoutIdle`).

A call that begins to track a window adds its record to the others and sends nothing, because a
fresh record has no host objects.  Nothing is assumed of the state, so all of this holds in
particular after any run.  What a fresh record says of its window is left to `Fresh`.
-/

namespace GuestShell

variable {ω : Type} [HostChannel ω] [PropertySource ω]

/-- A window without an aura surface is taken over without a message. -/
theorem Window.manage_silent {w : Window} (hsurface : w.auraSurface = none) (setting : Setting)
    (world : ω) :
    w.manage setting world = ⟨.ok (), (w.takenOver setting world).1,
      (w.takenOver setting world).2⟩ := by
  have htaken : (w.takenOver setting world).1.auraSurface = none := hsurface
  rw [w.manage_eq setting world, Window.sendApplicationId, htaken]

/-- An operation that does not begin to track a window does nothing without a record. -/
theorem step_idle {setting : Setting} {operation : Operation}
    (hidle : operation.begins setting = false) (id : WindowId) (world : ω) :
    operation.step setting id none world = ⟨.ok (), none, world⟩ := by
  cases operation with
  | guest change =>
      cases change with
      | created overrideRedirect geometry => cases hidle
      | mapRequested => cases hidle
      | reparented parent =>
          have hembedded : parent ≠ setting.root := of_decide_eq_false hidle
          simp only [Operation.step, GuestChange.step, if_neg hembedded]
      | _ => rfl
  | adopt geometry viewable => cases hidle
  | _ => rfl

/-- No operation fails for want of a record. -/
theorem step_untracked_ok (setting : Setting) (id : WindowId) (operation : Operation)
    (world : ω) : (operation.step setting id none world).result = .ok () := by
  have hmanage : ∀ geometry, ((Window.created id false geometry).manage setting world).result =
      .ok () := by
    intro geometry
    rw [Window.manage_silent rfl]
  cases operation with
  | guest change =>
      cases change with
      | mapRequested => exact hmanage .empty
      | reparented parent =>
          simp only [Operation.step, GuestChange.step]
          split <;> rfl
      | _ => rfl
  | adopt geometry viewable =>
      cases viewable with
      | false => rfl
      | true => exact hmanage geometry
  | _ => rfl

/-- The focus is not moved by what happens to a window that is not tracked. -/
theorem Manager.focusAfter_untracked (id : WindowId) (operation : Operation)
    (after : Option Window) (focused : Option WindowId) :
    focusAfter id operation none after focused = focused := by
  unfold focusAfter
  split <;> rfl

namespace Manager

theorem tracks_eq_false_iff (m : Manager) (id : WindowId) :
    m.tracks id = false ↔ m.windows[id]? = none := by
  rw [tracks, Std.ExtHashMap.contains_eq_isSome_getElem?, Option.isSome_eq_false_iff,
    Option.isNone_iff_eq_none]

/-- The call names a window that is not tracked and does not begin to track it. -/
def Idle (m : Manager) (call : Call ω) : Prop :=
  m.tracks call.id = false ∧ call.operation.begins m.setting = false

instance (m : Manager) (call : Call ω) : Decidable (m.Idle call) :=
  inferInstanceAs (Decidable (_ ∧ _))

namespace Idle

variable {m : Manager} {call : Call ω}

omit [HostChannel ω] [PropertySource ω] in
theorem untracked (h : m.Idle call) : m.windows[call.id]? = none :=
  (m.tracks_eq_false_iff call.id).1 h.1

/-- An idle call ends well and leaves everything as it was. -/
theorem perform_eq (h : m.Idle call) (world : ω) :
    m.perform call.id call.operation world = ⟨.ok (), m, world⟩ := by
  have hstore : m.windows.store call.id none = m.windows := by
    have hsame := m.windows.store_getElem? call.id
    rwa [h.untracked] at hsame
  simp only [perform, h.untracked, step_idle h.2, Outcome.map, hstore, focusAfter_untracked]

theorem after_eq (h : m.Idle call) : m.after call = m := by
  rw [after, h.perform_eq]

theorem offers_eq (h : m.Idle call) : m.offers call = [] :=
  (m.after_untracked call h.untracked).1

end Idle

/-- A call that begins to track a window adds a fresh record, and changes no other. -/
theorem after_begun (m : Manager) (call : Call ω) (hnone : m.windows[call.id]? = none)
    (hbegins : call.operation.begins m.setting = true) :
    ∃ w, Fresh m.setting call.id (Recorded.start call.world) w ∧
      (m.after call).windows = m.windows.insert call.id w := by
  have hvalue := (m.after_eq_recorded call hnone).1
  have hsome := step_isSome_of_untracked m.setting call.id call.operation
    (Recorded.start call.world)
  rw [hbegins, ← hvalue] at hsome
  obtain ⟨w, hw⟩ := Option.isSome_iff_exists.1 hsome
  refine ⟨w, step_fresh (hvalue.symm.trans hw), ?_⟩
  refine Std.ExtHashMap.ext_getElem? fun other => ?_
  rw [Std.ExtHashMap.getElem?_insert]
  by_cases hid : call.id = other
  · subst hid
    rw [hw, if_pos (by simp)]
  · rw [m.after_getElem?_of_ne hid, if_neg (by simpa using hid)]

/-- A focus report about a tracked window moves the focus there. -/
theorem focused_of_report {m : Manager} {id : WindowId} {w : Window}
    (htracked : m.windows[id]? = some w) (world : ω) :
    (m.after ⟨id, .guest .focused, world⟩).focused = some id := by
  simp only [after, perform, Outcome.map, focusAfter, htracked, Option.isSome_some, if_true]

/-! ### Runs -/

/-- The calls of a run that are not idle when they are made. -/
def withoutIdle : Manager → List (Call ω) → List (Call ω)
  | _, [] => []
  | m, call :: calls =>
      if m.Idle call then m.withoutIdle calls else call :: (m.after call).withoutIdle calls

/-- Idle calls can be left out of a run.  The window manager ends in the same state, and the
same requests reach the host. -/
theorem run_withoutIdle (m : Manager) (calls : List (Call ω)) :
    m.run (m.withoutIdle calls) = m.run calls ∧
      ∀ id, acceptedFor id m (m.withoutIdle calls) = acceptedFor id m calls := by
  induction calls generalizing m with
  | nil => exact ⟨rfl, fun id => rfl⟩
  | cons call calls ih =>
      by_cases hidle : m.Idle call
      · obtain ⟨hrun, haccepted⟩ := ih m
        refine ⟨?_, fun id => ?_⟩
        · rw [withoutIdle, if_pos hidle, run_cons, hidle.after_eq, hrun]
        · rw [withoutIdle, if_pos hidle, haccepted, acceptedFor, hidle.after_eq, hidle.offers_eq]
          simp [Offer.acceptedRequests]
      · obtain ⟨hrun, haccepted⟩ := ih (m.after call)
        refine ⟨?_, fun id => ?_⟩
        · rw [withoutIdle, if_neg hidle, run_cons, run_cons, hrun]
        · rw [withoutIdle, if_neg hidle, acceptedFor, acceptedFor, haccepted]

/-- What comes of an operation on a window that is not tracked, in any state and any world.
It ends well, sends nothing and leaves the focus where it is.  If it is the creation of the
window, a request to map it, its reparenting to the root or its adoption, exactly one record
is added and no other is changed; any other operation leaves everything as it was. -/
theorem perform_untracked (m : Manager) (call : Call ω) (hnone : m.windows[call.id]? = none) :
    m.result call = .ok () ∧ m.offers call = [] ∧ (m.after call).focused = m.focused ∧
      if call.operation.begins m.setting then
        ∃ w, Fresh m.setting call.id (Recorded.start call.world) w ∧
          (m.after call).windows = m.windows.insert call.id w ∧
          (m.after call).windows.size = m.windows.size + 1
      else m.perform call.id call.operation call.world = ⟨.ok (), m, call.world⟩ := by
  refine ⟨?_, (m.after_untracked call hnone).1, ?_, ?_⟩
  · simp only [result, perform, hnone, Outcome.map, step_untracked_ok]
  · simp only [after, perform, hnone, Outcome.map, focusAfter_untracked]
  · split
    next hbegins =>
      obtain ⟨w, hfresh, hwindows⟩ := m.after_begun call hnone hbegins
      refine ⟨w, hfresh, hwindows, ?_⟩
      have hnew : call.id ∉ m.windows := by
        rw [Std.ExtHashMap.mem_iff_isSome_getElem?, hnone]
        decide
      rw [hwindows, Std.ExtHashMap.size_insert, if_neg hnew]
    next hidle =>
      have hcall : m.Idle call := ⟨(m.tracks_eq_false_iff call.id).2 hnone, by simpa using hidle⟩
      exact hcall.perform_eq call.world

/-- Window 7 has the focus, and window 8 is not tracked. -/
def focusedRun : List (Call (Surroundings Queue PropertyTable)) :=
  [.queued 7 (.guest (.created false .empty)), .queued 7 (.guest .focused)]

/-- A focus report does nothing for window 8, and a request to map it adds its record. -/
theorem perform_untracked_focusedRun :
    let m := (new (Setting.plain true)).run focusedRun
    let focus := Call.queued 8 (.guest .focused)
    let map := Call.queued 8 (.guest .mapRequested)
    m.focused = some 7 ∧ m.windows[(8 : WindowId)]? = none ∧
      m.perform 8 (.guest .focused) focus.world = ⟨.ok (), m, focus.world⟩ ∧
      m.result map = .ok () ∧ m.offers map = [] ∧ (m.after map).focused = some 7 ∧
      (m.after map).windows.size = m.windows.size + 1 := by
  intro m focus map
  have hnone : m.windows[(8 : WindowId)]? = none := by
    rw [run_getElem?, getElem?_new]
    rfl
  have hcreated : ((new (Setting.plain true)).run (focusedRun.take 1)).windows[(7 : WindowId)]? =
      some (Window.created 7 false .empty) := by
    rw [run_getElem?, getElem?_new]
    rfl
  have hfocused : m.focused = some 7 := focused_of_report hcreated _
  obtain ⟨-, -, -, hidle⟩ := m.perform_untracked focus hnone
  obtain ⟨hok, hsilent, hfocus, hbegun⟩ := m.perform_untracked map hnone
  obtain ⟨w, -, -, hsize⟩ := hbegun
  exact ⟨hfocused, hnone, hidle, hok, hsilent, hfocus.trans hfocused, hsize⟩

end Manager

end GuestShell

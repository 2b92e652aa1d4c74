import GuestShell.Proofs.Display.Routing
import GuestShell.Proofs.Latest
import GuestShell.Proofs.Manager.Focus

/-!
# The property that names the active window

The root window has a property that names the active window.  It is written when an event
brings the focus to a tracked window, and at no other time.  The focus can be lost, though:
a window that has it may be destroyed or embedded.  Then no window has the focus, and the
property goes on to name the one that is gone, until the focus comes to another window.

This file says exactly when that is so (`activeWindow_names_focus_iff`).  The value of the
property is the one that was written last, which is what the display has if it accepts what
is written; that it is read by anybody is NOT claimed.
-/

namespace GuestShell

/-- The value that a request gives to the property that names the active window. -/
def Request.activeWindow? (setting : Setting) : Request → Option PropertyData
  | .changeProperty window property _ data =>
      if window = setting.root ∧ property = setting.atoms.netActiveWindow then some data else none
  | _ => none

/-- The value that an exchange would give to the property. -/
def Exchange.activeWindow? (setting : Setting) (e : Exchange) : Option PropertyData :=
  e.request.activeWindow? setting

/-- The value of the property, if it was written. -/
def activeWindow (setting : Setting) (log : List Exchange) : Option PropertyData :=
  (log.filterMap fun e => if e.answer.isOk then e.activeWindow? setting else none).getLast?

/-- The display accepted what was written to the property. -/
def ActiveWindowAccepted (setting : Setting) (log : List Exchange) : Prop :=
  ∀ e ∈ log, (e.activeWindow? setting).isSome = true → ¬e.Failed

/-- The display accepts every property that is written. -/
def Connection.Accepting (χ : Type) [Connection χ] : Prop :=
  ∀ window property type data (world : χ),
    (Connection.perform (.changeProperty window property type data) world).1 = .ok ()

/-- The property names the window with the focus, or no window. -/
def NamesFocus (active : Option PropertyData) : Option WindowId → Prop
  | some id => active = some (.words [id])
  | none => active = none ∨ active = some (.words [0])

/-- The event takes a window away from the window manager. -/
def DisplayEvent.withdraws (setting : Setting) (id : WindowId) : DisplayEvent → Bool
  | .destroyNotify window => window = id
  | .reparentNotify window parent => window = id ∧ parent ≠ setting.root
  | _ => false

theorem Exchange.IsRead.activeWindow? {e : Exchange} (h : e.IsRead) (setting : Setting) :
    e.activeWindow? setting = none := by
  obtain ⟨window, property, type, hrequest⟩ := h
  rw [Exchange.activeWindow?, hrequest]
  rfl

/-- What is not written to the property leaves it. -/
theorem activeWindow_append_of_none {setting : Setting} {log others : List Exchange}
    (hothers : ∀ e ∈ others, e.activeWindow? setting = none) :
    activeWindow setting (log ++ others) = activeWindow setting log := by
  have hnothing : (others.filterMap fun e =>
      if e.answer.isOk then e.activeWindow? setting else none) = [] := by
    rw [List.filterMap_eq_nil_iff]
    intro e he
    rw [hothers e he]
    split <;> rfl
  rw [activeWindow, List.filterMap_append, hnothing, List.append_nil, activeWindow]

/-- What is written and accepted is the value. -/
theorem activeWindow_concat_of_some {setting : Setting} {log : List Exchange} {e : Exchange}
    {data : PropertyData} (hwritten : e.activeWindow? setting = some data) (haccepted : ¬e.Failed) :
    activeWindow setting (log ++ [e]) = some data := by
  have hok : e.answer.isOk = true := by
    cases hanswer : e.answer with
    | error fault => exact absurd ⟨fault, hanswer⟩ haccepted
    | ok reply => rfl
  rw [activeWindow, List.filterMap_append, List.filterMap_cons, if_pos hok, hwritten,
    List.filterMap_nil, List.getLast?_concat]

namespace Manager

/-- The event brings the focus to a tracked window. -/
def Focuses (m : Manager) (event : DisplayEvent) (id : WindowId) : Prop :=
  event = .focusIn id ∧ m.tracks id = true

end Manager

namespace DisplayEvent

/-- An event takes away the window that it is about, if its operation ends the tracking. -/
theorem withdraws_of_some {event : DisplayEvent} {guest : GuestEvent}
    (hguest : GuestEvent.ofDisplayEvent? event = some guest) (setting : Setting) (id : WindowId) :
    event.withdraws setting id =
      (decide (guest.window = id) && (Operation.guest guest.change).ends setting) := by
  cases event with
  | clientMessage window messageType data =>
      cases data with
      | words data =>
          cases hguest
          exact (Bool.and_false _).symm
      | other => cases hguest
  | error => cases hguest
  | other => cases hguest
  | destroyNotify window =>
      cases hguest
      exact (Bool.and_true _).symm
  | reparentNotify window parent =>
      cases hguest
      simp [withdraws, Operation.ends]
  | _ =>
      cases hguest
      exact (Bool.and_false _).symm

theorem withdraws_of_none {event : DisplayEvent}
    (hnone : GuestEvent.ofDisplayEvent? event = none) (setting : Setting) (id : WindowId) :
    event.withdraws setting id = false := by
  rcases eq_of_none hnone with rfl | rfl | ⟨window, messageType, rfl⟩ <;> rfl

/-- Only one kind of event is a focus report. -/
theorem eq_focusIn {event : DisplayEvent} {guest : GuestEvent}
    (hguest : GuestEvent.ofDisplayEvent? event = some guest) (hreport : guest.change = .focused) :
    event = .focusIn guest.window := by
  cases event with
  | clientMessage window messageType data =>
      cases data with
      | words data => cases hguest; cases hreport
      | other => cases hguest
  | error => cases hguest
  | other => cases hguest
  | focusIn window => cases hguest; rfl
  | _ => cases hguest; cases hreport

theorem followUp_of_focuses {m : Manager} {event : DisplayEvent} {id : WindowId}
    (hfocuses : m.Focuses event id) :
    event.followUp m = some (m.setting.atoms.activeWindowRequest m.setting.root (some id)) := by
  obtain ⟨rfl, htracked⟩ := hfocuses
  exact if_pos htracked

/-- What other events call for is not about the property. -/
theorem activeWindow?_followUp {m : Manager} {event : DisplayEvent}
    (hnot : ∀ id, ¬m.Focuses event id) {request : Request}
    (hrequest : event.followUp m = some request) (setting : Setting) :
    request.activeWindow? setting = none := by
  cases event with
  | focusIn window =>
      rw [followUp] at hrequest
      split at hrequest
      next htracked => exact absurd ⟨rfl, htracked⟩ (hnot window)
      next => cases hrequest
  | createNotify | mapRequest | configureRequest => cases hrequest; rfl
  | _ => cases hrequest

end DisplayEvent

/-! ### One event -/

namespace Manager

section Worlds

variable {ω : Type} [Connection ω] [HostChannel ω] [PropertySource ω]

theorem route_focusTracked {m : Manager} (h : m.FocusTracked) (event : DisplayEvent) (world : ω) :
    (m.route event world).2.1.FocusTracked := by
  cases hguest : GuestEvent.ofDisplayEvent? event with
  | none =>
      rw [m.route_of_none hguest]
      exact h
  | some guest =>
      rw [m.route_of_some hguest]
      exact h.perform _ _ _

/-- Whether an event brings the focus to a window can be told before and after it. -/
theorem route_focuses_iff (m : Manager) (event : DisplayEvent) (id : WindowId) (world : ω) :
    (m.route event world).2.1.Focuses event id ↔ m.Focuses event id := by
  refine and_congr_right ?_
  rintro rfl
  exact iff_of_eq (congrArg (· = true) (m.perform_focused_tracks id world))

theorem route_focused_of_focuses {m : Manager} {event : DisplayEvent} {id : WindowId}
    (hfocuses : m.Focuses event id) (world : ω) :
    (m.route event world).2.1.focused = some id := by
  obtain ⟨rfl, htracked⟩ := hfocuses
  exact (m.perform_focused id world).trans (if_pos htracked)

/-- Every other event leaves the focus, unless it takes away the window that has it. -/
theorem route_focused_of_not {m : Manager} (h : m.FocusTracked) {event : DisplayEvent}
    (hnot : ∀ id, ¬m.Focuses event id) (world : ω) :
    (m.route event world).2.1.focused =
      m.focused.filter fun id => !event.withdraws m.setting id := by
  cases hguest : GuestEvent.ofDisplayEvent? event with
  | none =>
      rw [m.route_of_none hguest]
      cases m.focused <;> simp [Option.filter, DisplayEvent.withdraws_of_none hguest]
  | some guest =>
      rw [m.route_of_some hguest]
      simp only [DisplayEvent.withdraws_of_some hguest]
      by_cases hreport : guest.change = .focused
      · -- a focus report that does not bring the focus is about a window that is not tracked
        have huntracked : m.tracks guest.window ≠ true :=
          fun htracked => hnot guest.window ⟨DisplayEvent.eq_focusIn hguest hreport, htracked⟩
        rw [handle, hreport, perform_focused, if_neg huntracked]
        cases m.focused <;> simp [Option.filter, Operation.ends]
      · have hother : Operation.guest guest.change ≠ .guest .focused :=
          fun hsame => hreport (Operation.guest.inj hsame)
        rw [handle, h.perform_focused_eq hother]
        cases m.focused with
        | none => simp
        | some id =>
            by_cases hid : guest.window = id
            · -- the event is about the window that has the focus
              subst hid
              cases (Operation.guest guest.change).ends m.setting <;> simp [Option.filter]
            · simp [Option.filter, hid, Ne.symm hid]

end Worlds

variable {χ σ : Type} [Connection χ] [HostChannel σ]

/-- The transcript of a routed event goes on from the one before. -/
theorem route_exchanges_mem (m : Manager) (event : DisplayEvent) (d : Desk (Transcribed χ) σ)
    {e : Exchange} (he : e ∈ d.exchanges) : e ∈ (m.route event d).2.2.exchanges := by
  obtain ⟨reads, told, hexchanges, -⟩ := m.route_exchanges event d
  rw [hexchanges, List.append_assoc]
  exact List.mem_append_left _ he

/-- An event that brings the focus to a window has the property name it, if that is
accepted. -/
theorem route_activeWindow_of_focuses {m : Manager} {event : DisplayEvent} {id : WindowId}
    (hfocuses : m.Focuses event id) {d : Desk (Transcribed χ) σ}
    (haccepted : ActiveWindowAccepted m.setting (m.route event d).2.2.exchanges) :
    activeWindow m.setting (m.route event d).2.2.exchanges = some (.words [id]) := by
  obtain ⟨reads, told, hexchanges, -, hrequests, -⟩ := m.route_exchanges event d
  rw [DisplayEvent.followUp_of_focuses ((m.route_focuses_iff event id d).2 hfocuses),
    route_setting, Option.toList_some, List.map_eq_singleton_iff] at hrequests
  obtain ⟨e, rfl, hrequest⟩ := hrequests
  have hwritten : e.activeWindow? m.setting = some (.words [id]) := by
    rw [Exchange.activeWindow?, hrequest]
    exact if_pos ⟨rfl, rfl⟩
  have hmem : e ∈ (m.route event d).2.2.exchanges := by
    rw [hexchanges]
    exact List.mem_append_right _ (List.mem_singleton_self e)
  have hdone := haccepted e hmem (by rw [hwritten]; rfl)
  rw [hexchanges, activeWindow_concat_of_some hwritten hdone]

/-- Every other event leaves the property. -/
theorem route_activeWindow_of_not {m : Manager} {event : DisplayEvent}
    (hnot : ∀ id, ¬m.Focuses event id) (d : Desk (Transcribed χ) σ) :
    activeWindow m.setting (m.route event d).2.2.exchanges =
      activeWindow m.setting d.exchanges := by
  obtain ⟨reads, told, hexchanges, hreads, hrequests, -⟩ := m.route_exchanges event d
  have htold : ∀ e ∈ told, e.activeWindow? m.setting = none := by
    intro e he
    have hrequest : e.request ∈ (event.followUp (m.route event d).2.1).toList :=
      hrequests ▸ List.mem_map_of_mem he
    rw [Option.mem_toList] at hrequest
    exact DisplayEvent.activeWindow?_followUp
      (fun id => (m.route_focuses_iff event id d).not.2 (hnot id)) hrequest m.setting
  rw [hexchanges, activeWindow_append_of_none htold,
    activeWindow_append_of_none fun e he => (hreads e he).activeWindow? m.setting]

/-! ### All events -/

/-- What is exchanged with the display of a desk while some events are routed. -/
def transcript (setting : Setting) (events : List DisplayEvent) (d : Desk χ σ) : List Exchange :=
  ((new setting).routeAll events d.transcribe).2.exchanges

/-- The window manager after some events, which can be told without the transcript. -/
def routed (setting : Setting) (events : List DisplayEvent) (d : Desk χ σ) : Manager :=
  ((new setting).routeAll events d).1

/-- The events by which a window got the focus, where no later event brought it to another. -/
def LatestFocus (setting : Setting) (d : Desk χ σ) :
    List DisplayEvent → List DisplayEvent → DisplayEvent → List DisplayEvent → Prop :=
  Latest (fun before event => ∃ id, (routed setting before d).Focuses event id)
    (fun before event => ∃ id, (routed setting before d).Focuses event id)

theorem routed_eq_observed (setting : Setting) (events : List DisplayEvent) (d : Desk χ σ) :
    routed setting events d = ((new setting).routeAll events d.transcribe).1 :=
  congrArg Prod.fst ((new setting).routeAll_plain events d.transcribe)

theorem routed_focusTracked (setting : Setting) (events : List DisplayEvent) (d : Desk χ σ) :
    (routed setting events d).FocusTracked := by
  induction events using List.reverseRecOn with
  | nil => exact FocusTracked.new setting
  | append_singleton events event ih =>
      rw [routed, routeAll_concat]
      exact route_focusTracked ih event _

/-- What was accepted in the end was accepted before the last event. -/
theorem activeWindowAccepted_of_concat {setting : Setting} {events : List DisplayEvent}
    {event : DisplayEvent} {d : Desk χ σ}
    (haccepted : ActiveWindowAccepted setting (transcript setting (events ++ [event]) d)) :
    ActiveWindowAccepted setting (transcript setting events d) := by
  intro e he
  refine haccepted e ?_
  rw [transcript, routeAll_concat]
  exact route_exchanges_mem _ event _ he

theorem routed_setting (setting : Setting) (events : List DisplayEvent) (d : Desk χ σ) :
    (routed setting events d).setting = setting :=
  routeAll_setting _ events d

section Concat

variable {setting : Setting} {events : List DisplayEvent} {event : DisplayEvent} {d : Desk χ σ}

/-- One more event, which brings the focus to a window. -/
theorem routed_concat_of_focuses {id : WindowId}
    (hfocuses : (routed setting events d).Focuses event id)
    (haccepted : ActiveWindowAccepted setting (transcript setting (events ++ [event]) d)) :
    (routed setting (events ++ [event]) d).focused = some id ∧
      activeWindow setting (transcript setting (events ++ [event]) d) = some (.words [id]) := by
  have hsetting := routed_setting setting events d
  rw [routed_eq_observed] at hfocuses hsetting
  rw [transcript, routeAll_concat] at haccepted
  rw [routed_eq_observed, transcript, routeAll_concat]
  refine ⟨route_focused_of_focuses hfocuses _, ?_⟩
  have hwritten := route_activeWindow_of_focuses hfocuses (by rwa [hsetting])
  rwa [hsetting] at hwritten

/-- One more event, which does not. -/
theorem routed_concat_of_not (hnot : ¬∃ id, (routed setting events d).Focuses event id) :
    (routed setting (events ++ [event]) d).focused =
        (routed setting events d).focused.filter (fun id => !event.withdraws setting id) ∧
      activeWindow setting (transcript setting (events ++ [event]) d) =
        activeWindow setting (transcript setting events d) := by
  have hsetting := routed_setting setting events d
  have htracked := routed_focusTracked setting events d
  rw [routed_eq_observed] at hnot hsetting htracked
  rw [routed_eq_observed, routed_eq_observed, transcript, transcript, routeAll_concat]
  have hfocused := route_focused_of_not htracked (fun id h => hnot ⟨id, h⟩)
    ((new setting).routeAll events d.transcribe).2
  have hkept := route_activeWindow_of_not (fun id h => hnot ⟨id, h⟩)
    ((new setting).routeAll events d.transcribe).2
  rw [hsetting] at hfocused hkept
  exact ⟨hfocused, hkept⟩

end Concat

/-- The property names the window that got the focus last.  This window has the focus still if
no later event took it away, and no window has it otherwise.  If no window ever got the focus,
none has it, and the property was not written. -/
theorem activeWindow_latestFocus (setting : Setting) (events : List DisplayEvent) (d : Desk χ σ)
    (haccepted : ActiveWindowAccepted setting (transcript setting events d)) :
    (∀ id before after, LatestFocus setting d events before (.focusIn id) after →
      activeWindow setting (transcript setting events d) = some (.words [id]) ∧
      (routed setting events d).focused =
        if after.any (·.withdraws setting id) then none else some id) ∧
    ((¬∃ before event after, LatestFocus setting d events before event after) →
      activeWindow setting (transcript setting events d) = none ∧
      (routed setting events d).focused = none) := by
  induction events using List.reverseRecOn with
  | nil => exact ⟨fun id before after h => absurd h Latest.not_nil, fun _ => ⟨rfl, rfl⟩⟩
  | append_singleton events event ih =>
      obtain ⟨hlatest, hnever⟩ := ih (activeWindowAccepted_of_concat haccepted)
      by_cases hfocus : ∃ id, (routed setting events d).Focuses event id
      · -- the event is the latest of its kind, and there is no other that is the latest
        obtain ⟨id, hfocuses⟩ := hfocus
        obtain ⟨hfocused, hwritten⟩ := routed_concat_of_focuses hfocuses haccepted
        constructor
        · intro other before after h
          rcases h.of_concat with ⟨rfl, hsame, rfl⟩ | ⟨after', -, -, hnot⟩
          · have hid : id = other := by
              rw [← hsame] at hfocuses
              exact DisplayEvent.focusIn.inj hfocuses.1.symm
            subst hid
            exact ⟨hwritten, hfocused⟩
          · exact absurd ⟨id, hfocuses⟩ hnot
        · intro hnone
          exact absurd ⟨events, event, [], Latest.last ⟨id, hfocuses⟩⟩ hnone
      · -- the latest is the one before, and the event may take its window away
        obtain ⟨hfocused, hwritten⟩ := routed_concat_of_not hfocus
        rw [hfocused, hwritten]
        constructor
        · intro id before after h
          rcases h.of_concat with ⟨rfl, rfl, rfl⟩ | ⟨after', rfl, hbefore, -⟩
          · exact absurd h.marked hfocus
          · obtain ⟨hnames, hholds⟩ := hlatest id before after' hbefore
            refine ⟨hnames, ?_⟩
            rw [hholds, List.any_append, List.any_cons, List.any_nil, Bool.or_false]
            cases after'.any (·.withdraws setting id) <;>
              cases hgone : event.withdraws setting id <;> simp [Option.filter, hgone]
        · intro hnone
          obtain ⟨hunwritten, hunfocused⟩ := hnever fun ⟨before, mark, after, h⟩ =>
            hnone ⟨before, mark, after ++ [event], h.concat hfocus⟩
          rw [hunfocused]
          exact ⟨hunwritten, rfl⟩

/-- On a display that accepts every property, everything written to this one was accepted. -/
theorem activeWindowAccepted_of_accepting (haccepting : Connection.Accepting χ) (setting : Setting)
    (events : List DisplayEvent) (d : Desk χ σ) :
    ActiveWindowAccepted setting (transcript setting events d) := by
  induction events using List.reverseRecOn with
  | nil => exact fun e he => absurd he List.not_mem_nil
  | append_singleton events event ih =>
      obtain ⟨reads, told, hexchanges, hreads, -, hanswers⟩ :=
        route_exchanges ((new setting).routeAll events d.transcribe).1 event
          ((new setting).routeAll events d.transcribe).2
      intro e he hwritten
      rw [transcript, routeAll_concat, hexchanges, List.mem_append, List.mem_append] at he
      rcases he with (hearlier | hread) | htold
      · exact ih e hearlier hwritten
      · rw [(hreads e hread).activeWindow? setting] at hwritten
        cases hwritten
      · obtain ⟨world, hanswer⟩ := hanswers e htold
        obtain ⟨request, answer⟩ := e
        cases request with
        | changeProperty window property type data =>
            rintro ⟨fault, hfault⟩
            rw [haccepting window property type data world] at hanswer
            rw [hanswer] at hfault
            cases hfault
        | _ => cases hwritten

/-- A window that got the focus last and was taken away since. -/
theorem activeWindow_of_withdrawn {setting : Setting} {events before after : List DisplayEvent}
    {d : Desk χ σ} (haccepted : ActiveWindowAccepted setting (transcript setting events d))
    {id : WindowId} (hlatest : LatestFocus setting d events before (.focusIn id) after)
    (hwithdrawn : ∃ later ∈ after, later.withdraws setting id = true) :
    (routed setting events d).focused = none ∧
      activeWindow setting (transcript setting events d) = some (.words [id]) := by
  obtain ⟨hnames, hholds⟩ :=
    (activeWindow_latestFocus setting events d haccepted).1 id before after hlatest
  rw [if_pos (List.any_eq_true.2 hwithdrawn)] at hholds
  exact ⟨hholds, hnames⟩

/-- Either a window that got the focus last was taken away since, or the property names the
window that has the focus, or no window ever got it. -/
theorem activeWindow_cases (setting : Setting) (events : List DisplayEvent) (d : Desk χ σ)
    (haccepted : ActiveWindowAccepted setting (transcript setting events d)) :
    (∃ id before after, LatestFocus setting d events before (.focusIn id) after ∧
      ∃ later ∈ after, later.withdraws setting id = true) ∨
    (∃ id, (routed setting events d).focused = some id ∧
      activeWindow setting (transcript setting events d) = some (.words [id])) ∨
    ((routed setting events d).focused = none ∧
      activeWindow setting (transcript setting events d) = none) := by
  obtain ⟨hlatest, hnever⟩ := activeWindow_latestFocus setting events d haccepted
  by_cases hfocus : ∃ before event after, LatestFocus setting d events before event after
  · obtain ⟨before, event, after, h⟩ := hfocus
    obtain ⟨id, rfl, -⟩ := h.marked
    by_cases hwithdrawn : ∃ later ∈ after, later.withdraws setting id = true
    · exact Or.inl ⟨id, before, after, h, hwithdrawn⟩
    · obtain ⟨hnames, hholds⟩ := hlatest id before after h
      rw [if_neg (List.any_eq_true.not.2 hwithdrawn)] at hholds
      exact Or.inr (Or.inl ⟨id, hholds, hnames⟩)
  · obtain ⟨hunwritten, hnowhere⟩ := hnever hfocus
    exact Or.inr (Or.inr ⟨hnowhere, hunwritten⟩)

/-- As long as the display accepts what is written to the property, it names the window that
has the focus.  If no window has the focus, the property names none or was not written, unless
the window that got the focus last was destroyed or embedded since.  Then it still names that
window, and the focus is nowhere. -/
theorem activeWindow_names_focus_iff (setting : Setting) (events : List DisplayEvent)
    (d : Desk χ σ) (haccepted : ActiveWindowAccepted setting (transcript setting events d)) :
    let active := activeWindow setting (transcript setting events d)
    let focused := (routed setting events d).focused
    (∀ id, focused = some id → active = some (.words [id])) ∧
      (NamesFocus active focused ↔
        ¬∃ id before after, LatestFocus setting d events before (.focusIn id) after ∧ id ≠ 0 ∧
          ∃ later ∈ after, later.withdraws setting id = true) ∧
      ∀ id before after, LatestFocus setting d events before (.focusIn id) after →
        (∃ later ∈ after, later.withdraws setting id = true) →
          focused = none ∧ active = some (.words [id]) := by
  intro active focused
  have hgone (id : WindowId) (before after : List DisplayEvent)
      (hlatest : LatestFocus setting d events before (.focusIn id) after)
      (hwithdrawn : ∃ later ∈ after, later.withdraws setting id = true) :
      focused = none ∧ active = some (.words [id]) :=
    activeWindow_of_withdrawn haccepted hlatest hwithdrawn
  have hcases := activeWindow_cases setting events d haccepted
  change _ ∨ (∃ id, focused = some id ∧ active = some (.words [id])) ∨
    (focused = none ∧ active = none) at hcases
  refine ⟨?_, ⟨?_, ?_⟩, hgone⟩
  · intro id hfocused
    rcases hcases with ⟨other, before, after, h, hwithdrawn⟩ | ⟨other, hholds, hnames⟩ |
      ⟨hnowhere, -⟩
    · rw [(hgone other before after h hwithdrawn).1] at hfocused
      cases hfocused
    · rw [hholds] at hfocused
      cases hfocused
      exact hnames
    · rw [hnowhere] at hfocused
      cases hfocused
  · rintro hnames ⟨id, before, after, h, hnonzero, hwithdrawn⟩
    obtain ⟨hnowhere, hactive⟩ := hgone id before after h hwithdrawn
    rw [hnowhere, hactive] at hnames
    rcases hnames with hunwritten | hzero
    · cases hunwritten
    · cases hzero
      exact hnonzero rfl
  · intro hkept
    rcases hcases with ⟨id, before, after, h, hwithdrawn⟩ | ⟨id, hholds, hnames⟩ |
      ⟨hnowhere, hunwritten⟩
    · have hzero : id = 0 := by
        by_contra hnonzero
        exact hkept ⟨id, before, after, h, hnonzero, hwithdrawn⟩
      obtain ⟨hnowhere, hactive⟩ := hgone id before after h hwithdrawn
      rw [hnowhere, hactive, hzero]
      exact Or.inr rfl
    · rw [hholds, hnames]
      rfl
    · rw [hnowhere, hunwritten]
      exact Or.inl rfl

end Manager

/-- A display that does what it is asked and has nothing to tell. -/
structure ObligingDisplay where

/-- What is answered where there is nothing to tell. -/
def Request.emptyReply : (request : Request) → request.Reply
  | .internAtom _ => (0 : UInt32)
  | .getWindowAttributes _ => (⟨.unmapped, false, 0⟩ : WindowAttributes)
  | .getGeometry _ => Geometry.empty
  | .queryTree _ => ([] : List WindowId)
  | .getProperty .. => (⟨0, 0, []⟩ : PropertyValue)
  | .getSelectionOwner _ => (0 : UInt32)
  | .createWindow _ => ()
  | .changeWindowAttributes .. => ()
  | .configureWindow .. => ()
  | .mapWindow _ => ()
  | .changeProperty .. => ()
  | .setSelectionOwner .. => ()

instance : Connection ObligingDisplay where
  screens _ := []
  newId d := (.ok 1, d)
  perform request d := (.ok request.emptyReply, d)
  flush d := (.ok (), d)

namespace Manager

/-- A window is created, gets the focus and is destroyed.  The property still names it. -/
theorem activeWindow_names_destroyed :
    let setting := Setting.plain true
    let events : List DisplayEvent :=
      [.createNotify 7 false 0 0 800 600, .focusIn 7, .destroyNotify 7]
    let d : Desk ObligingDisplay Queue := ⟨⟨⟩, .empty⟩
    ActiveWindowAccepted setting (transcript setting events d) ∧
      (routed setting events d).focused = none ∧
      activeWindow setting (transcript setting events d) = some (.words [7]) ∧
      ¬NamesFocus (activeWindow setting (transcript setting events d))
        (routed setting events d).focused := by
  intro setting events d
  have haccepted : ActiveWindowAccepted setting (transcript setting events d) :=
    activeWindowAccepted_of_accepting (fun _ _ _ _ _ => rfl) setting events d
  have htracked : (routed setting [.createNotify 7 false 0 0 800 600] d).tracks 7 = true := by
    change ((new setting).perform 7 _ d).value.tracks 7 = true
    rw [tracks_eq_isSome, perform_getElem?, if_pos rfl, getElem?_new]
    rfl
  have hlatest : LatestFocus setting d events [.createNotify 7 false 0 0 800 600] (.focusIn 7)
      [.destroyNotify 7] := by
    refine ⟨rfl, ⟨7, rfl, htracked⟩, ?_⟩
    rintro earlier later rest hsplit ⟨id, hfocuses, -⟩
    have hlater : later ∈ [DisplayEvent.destroyNotify 7] := by
      rw [hsplit]
      exact List.mem_append_right _ List.mem_cons_self
    rw [List.mem_singleton.1 hlater] at hfocuses
    cases hfocuses
  have hwithdrawn : ∃ later ∈ [DisplayEvent.destroyNotify 7],
      later.withdraws setting 7 = true := ⟨_, List.mem_cons_self, rfl⟩
  obtain ⟨-, hiff, hgone⟩ := activeWindow_names_focus_iff setting events d haccepted
  obtain ⟨hnowhere, hactive⟩ := hgone 7 _ _ hlatest hwithdrawn
  refine ⟨haccepted, hnowhere, hactive, ?_⟩
  rw [hiff, not_not]
  exact ⟨7, _, _, hlatest, by decide, hwithdrawn⟩

end Manager

end GuestShell

import GuestShell.Program.Basic
import GuestShell.Proofs.Display.ActiveWindow
import GuestShell.Proofs.Display.Dialogue

/-!
# Windows that are taken in at the start

At the start every child of the root window is looked at once.  What is found is a *sighting*:
the child is gone, asks to be left alone, is gone before its geometry is known, or is *met*.  A
sighting stands for the requests that were made and for the answers to them, so the sightings of
all children tell everything that was asked of the display.

They also tell which windows are tracked then: those that were met, each with the record of the
first time.  The properties in it are those that the answers name, if the window was viewable,
and are otherwise still unknown.  No sighting has a part in the record of another window.

That the display answers the same when it is asked again is NOT assumed.  A scan that loses the
connection ends with an error, and what it leaves is not described.
-/

namespace GuestShell

/-- A child of the root window that is taken in. -/
structure Meeting where
  window : WindowId
  attributes : WindowAttributes
  willing : attributes.overrideRedirect = false
  geometry : Geometry
  /-- What became of the request for reports, which nobody waits for. -/
  selected : Except Fault Unit
  sent : selected ≠ .error .lost
  /-- The properties that were read. -/
  reads : List Exchange
  onlyReads : ∀ e ∈ reads, e.IsRead
  unread : attributes.mapState ≠ .viewable → reads = []

/-- What is found of a child of the root window. -/
inductive Sighting where
  | vanished (window : WindowId)
  /-- The window is not to be managed. -/
  | leftAlone (window : WindowId) (attributes : WindowAttributes)
      (unwilling : attributes.overrideRedirect = true)
  /-- The window is gone before its geometry is known. -/
  | unplaced (window : WindowId) (attributes : WindowAttributes)
      (willing : attributes.overrideRedirect = false)
  | met (meeting : Meeting)

namespace Meeting

/-- What was asked about the window. -/
def exchanges (meeting : Meeting) : List Exchange :=
  [⟨.getWindowAttributes meeting.window, .ok meeting.attributes⟩,
   ⟨.getGeometry meeting.window, .ok meeting.geometry⟩,
   ⟨.changeWindowAttributes meeting.window [(0x800, 0x600000)], meeting.selected⟩] ++
    meeting.reads

/-- The record of a window that was not tracked before.  If it is viewable, it is taken over with
the properties that the answers name. -/
def record (setting : Setting) (meeting : Meeting) : Window :=
  let w := Window.created meeting.window false meeting.geometry
  if meeting.attributes.mapState = .viewable then
    (w.takenOver setting (⟨meeting.reads, []⟩ : Answers)).1
  else w

/-- Everything that the record of a viewable window has was asked for. -/
def Asked (setting : Setting) (meeting : Meeting) : Prop :=
  meeting.attributes.mapState = .viewable →
    meeting.reads.map Exchange.request = Window.inquiries setting meeting.window
      (PropertySource.text meeting.window setting.atoms.netWmName
        (⟨meeting.reads, []⟩ : Answers)).1.isSome

/-- A record that says of its window what the answers said, and has no host objects. -/
structure Recorded (meeting : Meeting) (w : Window) : Prop where
  id : w.id = meeting.window
  geometry : w.geometry = meeting.geometry
  overrideRedirect : w.overrideRedirect = false
  toplevel : w.toplevel = none
  auraSurface : w.auraSurface = none
  hostSurface : w.hostSurface = none
  managed : w.managed = true ↔ meeting.attributes.mapState = .viewable

theorem recorded_record (setting : Setting) (meeting : Meeting) :
    meeting.Recorded (meeting.record setting) := by
  unfold record
  split
  next hviewable => exact ⟨rfl, rfl, rfl, rfl, rfl, rfl, fun _ => hviewable, fun _ => rfl⟩
  next hhidden => exact ⟨rfl, rfl, rfl, rfl, rfl, rfl, nofun, fun h => absurd h hhidden⟩

end Meeting

namespace Sighting

def window : Sighting → WindowId
  | vanished window => window
  | leftAlone window .. => window
  | unplaced window .. => window
  | met meeting => meeting.window

/-- What was asked about the child, and what came of it. -/
def exchanges : Sighting → List Exchange
  | vanished window => [⟨.getWindowAttributes window, .error .refused⟩]
  | leftAlone window attributes _ => [⟨.getWindowAttributes window, .ok attributes⟩]
  | unplaced window attributes _ =>
      [⟨.getWindowAttributes window, .ok attributes⟩, ⟨.getGeometry window, .error .refused⟩]
  | met meeting => meeting.exchanges

def met? : Sighting → Option Meeting
  | met meeting => some meeting
  | _ => none

end Sighting

/-- The first meeting with a window. -/
def firstMeeting (sightings : List Sighting) (id : WindowId) : Option Meeting :=
  (sightings.filterMap Sighting.met?).find? fun meeting => meeting.window = id

theorem Sighting.met?_eq_some_iff {s : Sighting} {meeting : Meeting} :
    s.met? = some meeting ↔ s = .met meeting := by
  cases s <;> simp [met?]

theorem firstMeeting_cons_met (meeting : Meeting) (sightings : List Sighting) (id : WindowId) :
    firstMeeting (.met meeting :: sightings) id =
      if meeting.window = id then some meeting else firstMeeting sightings id := by
  by_cases hid : meeting.window = id <;> simp [firstMeeting, Sighting.met?, hid]

theorem firstMeeting_cons_of_ne {s : Sighting} {id : WindowId}
    (hother : ∀ meeting, s = .met meeting → meeting.window ≠ id) (sightings : List Sighting) :
    firstMeeting (s :: sightings) id = firstMeeting sightings id := by
  cases s with
  | met meeting => rw [firstMeeting_cons_met, if_neg (hother meeting rfl)]
  | _ => rfl

/-- There is a first meeting with every window that was met. -/
theorem firstMeeting_isSome_iff (sightings : List Sighting) (id : WindowId) :
    (firstMeeting sightings id).isSome = true ↔
      ∃ meeting, .met meeting ∈ sightings ∧ meeting.window = id := by
  simp only [firstMeeting, List.find?_isSome, List.mem_filterMap, Sighting.met?_eq_some_iff,
    exists_eq_right, decide_eq_true_eq]

/-- Reports are asked for from the windows that are met, and what is asked for is always the
same. -/
theorem Sighting.selects_iff (s : Sighting) (id : WindowId) (values : ValueList) :
    (∃ e ∈ s.exchanges, e.request = .changeWindowAttributes id values) ↔
      ∃ meeting, s = .met meeting ∧ meeting.window = id ∧
        values = [(0x800, 0x600000)] := by
  cases s with
  | met meeting =>
      have hreads : ∀ e ∈ meeting.reads, e.request ≠ .changeWindowAttributes id values := by
        intro e he hrequest
        obtain ⟨window, property, type, hread⟩ := meeting.onlyReads e he
        rw [hread] at hrequest
        cases hrequest
      constructor
      · rintro ⟨e, he, hrequest⟩
        rcases List.mem_append.1 he with hasked | hread
        · simp only [List.mem_cons, List.not_mem_nil, or_false] at hasked
          rcases hasked with rfl | rfl | rfl
          · cases hrequest
          · cases hrequest
          · cases hrequest
            exact ⟨meeting, rfl, rfl, rfl⟩
        · exact absurd hrequest (hreads e hread)
      · rintro ⟨other, hsame, rfl, rfl⟩
        cases hsame
        exact ⟨_, List.mem_append_left _ (List.mem_cons_of_mem _ (List.mem_cons_of_mem _
          (List.mem_singleton_self _))), rfl⟩
  | vanished => simp [exchanges]
  | leftAlone => simp [exchanges]
  | unplaced => simp [exchanges]

namespace Manager

/-- The window manager after a sighting: a window that is met for the first time is tracked. -/
def seeing (m : Manager) : Sighting → Manager
  | .met meeting =>
      if m.tracks meeting.window then m
      else { m with windows := m.windows.store meeting.window (meeting.record m.setting) }
  | _ => m

@[simp] theorem seeing_setting (m : Manager) (s : Sighting) :
    (m.seeing s).setting = m.setting := by
  cases s with
  | met meeting => simp only [seeing]; split <;> rfl
  | _ => rfl

@[simp] theorem seeing_focused (m : Manager) (s : Sighting) :
    (m.seeing s).focused = m.focused := by
  cases s with
  | met meeting => simp only [seeing]; split <;> rfl
  | _ => rfl

theorem foldl_seeing_setting (m : Manager) (sightings : List Sighting) :
    (sightings.foldl seeing m).setting = m.setting := by
  induction sightings generalizing m with
  | nil => rfl
  | cons s rest ih => rw [List.foldl_cons, ih, seeing_setting]

theorem foldl_seeing_focused (m : Manager) (sightings : List Sighting) :
    (sightings.foldl seeing m).focused = m.focused := by
  induction sightings generalizing m with
  | nil => rfl
  | cons s rest ih => rw [List.foldl_cons, ih, seeing_focused]

/-- A window keeps its record, or gets that of the meeting. -/
theorem seeing_met_getElem? (m : Manager) (meeting : Meeting) (id : WindowId) :
    (m.seeing (.met meeting)).windows[id]? =
      m.windows[id]?.or
        (if meeting.window = id then some (meeting.record m.setting) else none) := by
  simp only [seeing]
  split
  next htracked =>
    by_cases hid : meeting.window = id
    · subst hid
      rw [tracks_eq_isSome] at htracked
      obtain ⟨w, hw⟩ := Option.isSome_iff_exists.1 htracked
      rw [hw, Option.some_or]
    · rw [if_neg hid, Option.or_none]
  next huntracked =>
    have hnone := (m.tracks_eq_false_iff meeting.window).1 (Bool.eq_false_of_not_eq_true huntracked)
    rw [Registry.getElem?_store]
    by_cases hid : meeting.window = id
    · subst hid
      simp [hnone]
    · simp [hid]

/-- A window becomes tracked only when it is met. -/
theorem seeing_tracks_of_ne (m : Manager) {s : Sighting} {id : WindowId}
    (hother : ∀ meeting, s = .met meeting → meeting.window ≠ id) :
    (m.seeing s).tracks id = m.tracks id := by
  cases s with
  | met meeting =>
      rw [tracks_eq_isSome, tracks_eq_isSome, seeing_met_getElem?, if_neg (hother meeting rfl),
        Option.or_none]
  | _ => rfl

/-- A window that was not tracked has the record of the first meeting with it. -/
theorem foldl_seeing_getElem? (m : Manager) (sightings : List Sighting) (id : WindowId) :
    (sightings.foldl seeing m).windows[id]? =
      m.windows[id]?.or ((firstMeeting sightings id).map (Meeting.record m.setting)) := by
  induction sightings generalizing m with
  | nil => simp [firstMeeting]
  | cons s rest ih =>
      rw [List.foldl_cons, ih, seeing_setting]
      cases s with
      | met meeting =>
          rw [seeing_met_getElem?, Option.or_assoc, firstMeeting_cons_met]
          congr 1
          by_cases hid : meeting.window = id <;> simp [hid]
      | _ => rfl

/-- These are sightings of some children, one of each.  The first meeting with a window that was
not tracked asked for everything. -/
structure Finds (m : Manager) (children : List WindowId) (sightings : List Sighting) : Prop where
  windows : sightings.map Sighting.window = children
  asked : ∀ id meeting, m.tracks id = false → firstMeeting sightings id = some meeting →
    meeting.Asked m.setting

namespace Finds

variable {m : Manager}

theorem nil : m.Finds [] [] where
  windows := rfl
  asked _ _ _ hfirst := by cases hfirst

theorem cons {s : Sighting} {children : List WindowId} {sightings : List Sighting}
    (hasked : m.tracks s.window = false → ∀ meeting, s = .met meeting → meeting.Asked m.setting)
    (h : (m.seeing s).Finds children sightings) :
    m.Finds (s.window :: children) (s :: sightings) where
  windows := by rw [List.map_cons, h.windows]
  asked id meeting hnone hfirst := by
    by_cases hmet : ∃ other, s = .met other ∧ other.window = id
    · obtain ⟨other, rfl, rfl⟩ := hmet
      rw [firstMeeting_cons_met, if_pos rfl] at hfirst
      obtain rfl := Option.some.inj hfirst
      exact hasked hnone _ rfl
    · -- a sighting of another window does not make this one tracked
      have hother : ∀ other, s = .met other → other.window ≠ id :=
        fun other hsame hwindow => hmet ⟨other, hsame, hwindow⟩
      rw [firstMeeting_cons_of_ne hother] at hfirst
      rw [← m.seeing_setting s]
      exact h.asked id meeting ((m.seeing_tracks_of_ne hother).trans hnone) hfirst

end Finds

end Manager

/-! ### One child -/

namespace Manager

variable {χ σ : Type} [Connection χ] [HostChannel σ]

/-- A window that is tracked is not adopted once more. -/
theorem adopt_of_tracked {m : Manager} {window : WindowId} (htracked : m.tracks window = true)
    (geometry : Geometry) (viewable : Bool) (d : Desk χ σ) :
    m.adopt window geometry viewable d = (.ok m, d) := by
  rw [tracks_eq_isSome] at htracked
  obtain ⟨w, hw⟩ := Option.isSome_iff_exists.1 htracked
  have hrefused : m.perform window (.adopt geometry viewable) d =
      ⟨.error (.duplicateWindow window), m, d⟩ := by
    refine m.perform_of_unchanged nofun ?_
    rw [hw]
    rfl
  simp only [adopt, hrefused]

/-- The record with which a window is adopted, and the world after its properties were read. -/
theorem adopt_of_untracked {m : Manager} {window : WindowId} (hnone : m.windows[window]? = none)
    (geometry : Geometry) (viewable : Bool) (d : Desk χ σ) :
    let w := Window.created window false geometry
    let read := if viewable then w.takenOver m.setting d else (w, d)
    m.adopt window geometry viewable d =
      (.ok { m with windows := m.windows.store window read.1 }, read.2) := by
  intro w read
  cases viewable with
  | false => simp [adopt, perform, Operation.step, Outcome.map, hnone, focusAfter, Registry.store,
      read, w]
  | true =>
      have hsilent := Window.manage_silent (w := w) rfl m.setting d
      simp [adopt, perform, Operation.step, Outcome.map, hnone, focusAfter, Registry.store,
        hsilent, read, w]

/-- A child that is met is adopted, and what was read of it is told by the answers. -/
theorem adopt_met (m : Manager) (window : WindowId) {attributes : WindowAttributes}
    (hwilling : attributes.overrideRedirect = false) (geometry : Geometry)
    {selected : Except Fault Unit} (hsent : selected ≠ .error .lost) (d : Desk χ σ) :
    ∃ (meeting : Meeting) (d' : Desk χ σ), meeting.window = window ∧
      meeting.attributes = attributes ∧ meeting.geometry = geometry ∧
      meeting.selected = selected ∧ Dialogue d meeting.reads d' ∧
      (m.tracks window = false → meeting.Asked m.setting) ∧
      m.adopt window geometry (attributes.mapState = .viewable) d =
        (.ok (m.seeing (.met meeting)), d') := by
  by_cases htracked : m.tracks window = true
  · refine ⟨⟨window, attributes, hwilling, geometry, selected, hsent, [], nofun, fun _ => rfl⟩, d,
      rfl, rfl, rfl, rfl, .done d, ?_, ?_⟩
    · intro hnone
      rw [htracked] at hnone
      cases hnone
    · rw [adopt_of_tracked htracked, seeing, if_pos htracked]
  · have hnone := (m.tracks_eq_false_iff window).1 (Bool.eq_false_of_not_eq_true htracked)
    by_cases hviewable : attributes.mapState = .viewable
    · -- the meeting has the reads of this very dialogue, so its record is the one that is stored
      obtain ⟨reads, hdialogue, honly, hagain⟩ :=
        Retells.takenOver (Window.created window false geometry) m.setting d
      have hretold := hagain [] []
      rw [List.append_nil] at hretold
      refine ⟨⟨window, attributes, hwilling, geometry, selected, hsent, reads, honly,
        fun h => absurd hviewable h⟩, _, rfl, rfl, rfl, rfl, hdialogue, ?_, ?_⟩
      · intro _ _
        have hasked := Answers.takenOver_asked (Window.created window false geometry) m.setting
          ⟨reads, []⟩
        rwa [hretold] at hasked
      · rw [adopt_of_untracked hnone, seeing, if_neg htracked, Meeting.record]
        simp only [hviewable, decide_true, if_true, hretold]
    · refine ⟨⟨window, attributes, hwilling, geometry, selected, hsent, [], nofun, fun _ => rfl⟩,
        d, rfl, rfl, rfl, rfl, .done d, fun _ h => absurd h hviewable, ?_⟩
      rw [adopt_of_untracked hnone, seeing, if_neg htracked, Meeting.record]
      simp only [hviewable, decide_false, Bool.false_eq_true, if_false]

/-- Looking at a child loses the connection, or comes to a sighting and does what follows from
it. -/
theorem examine_cases (m : Manager) (window : WindowId) (d : Desk χ σ) :
    Action.Loses (m.examine window) .lost d ∨
    ∃ s d', Sighting.window s = window ∧ Dialogue d s.exchanges d' ∧
      (m.tracks window = false → ∀ meeting, s = .met meeting → meeting.Asked m.setting) ∧
      m.examine window d = (.ok (m.seeing s), d') := by
  unfold examine
  rcases hattributes : Connection.perform (.getWindowAttributes window) d with
    ⟨(_ | _) | (attributes : WindowAttributes), d₁⟩
  · exact Or.inl (.bind (.ask? hattributes _) _)
  · refine Or.inr ⟨.vanished window, d₁, rfl, .of_eq hattributes, fun _ _ => nofun, ?_⟩
    rw [Action.bind_of_ok (Action.ask?_of_refused hattributes _)]
    rfl
  · have hfirst := Dialogue.of_eq hattributes
    have hanswered := Action.ask?_of_ok hattributes Fault.lost
    by_cases hoverride : attributes.overrideRedirect = true
    · refine Or.inr ⟨.leftAlone window attributes hoverride, d₁, rfl, hfirst, fun _ _ => nofun,
        ?_⟩
      rw [Action.bind_of_ok hanswered]
      simp only [hoverride, if_true]
      rfl
    · have hwilling := Bool.eq_false_of_not_eq_true hoverride
      rcases hgeometry : Connection.perform (.getGeometry window) d₁ with
        ⟨(_ | _) | (geometry : Geometry), d₂⟩
      · refine Or.inl (.after hfirst hanswered ?_)
        simp only [hwilling, Bool.false_eq_true, if_false]
        exact .bind (.ask? hgeometry _) _
      · refine Or.inr ⟨.unplaced window attributes hwilling, d₂, rfl,
          hfirst.append (.of_eq hgeometry), fun _ _ => nofun, ?_⟩
        rw [Action.bind_of_ok hanswered]
        simp only [hwilling, Bool.false_eq_true, if_false]
        rw [Action.bind_of_ok (Action.ask?_of_refused hgeometry _)]
        rfl
      · have hsecond := hfirst.append (.of_eq hgeometry)
        have hplaced := Action.ask?_of_ok hgeometry Fault.lost
        rcases hselected : Connection.perform
          (.changeWindowAttributes window (selectEvents guestEvents)) d₂ with ⟨selected, d₃⟩
        by_cases hlost : selected = .error .lost
        · subst hlost
          refine Or.inl (.after hfirst hanswered ?_)
          simp only [hwilling, Bool.false_eq_true, if_false]
          exact .after (.of_eq hgeometry) hplaced (.bind (.tell hselected _) _)
        · obtain ⟨meeting, d₄, rfl, rfl, rfl, rfl, hreads, hasked, hadopted⟩ :=
            m.adopt_met window hwilling geometry hlost d₃
          refine Or.inr ⟨.met meeting, d₄, rfl,
            (hsecond.append (.of_eq hselected)).append hreads, ?_, ?_⟩
          · intro hnone other hsame
            exact Sighting.met.inj hsame ▸ hasked hnone
          · have htold : Action.tell (.changeWindowAttributes meeting.window
                (selectEvents guestEvents)) Fault.lost d₂ = (.ok (), d₃) := by
              rw [Action.tell_of_sent (by rwa [hselected]), hselected]
            rw [Action.bind_of_ok hanswered]
            simp only [hwilling, Bool.false_eq_true, if_false]
            rw [Action.bind_of_ok hplaced]
            exact (Action.bind_of_ok htold _).trans hadopted

/-! ### All children -/

/-- Going through some children loses the connection, or comes to a sighting of each. -/
theorem examineAll_cases (m : Manager) (children : List WindowId) (d : Desk χ σ) :
    Action.Loses (children.foldlM examine m) .lost d ∨
    ∃ (sightings : List Sighting) (d' : Desk χ σ), m.Finds children sightings ∧
      Dialogue d (sightings.flatMap Sighting.exchanges) d' ∧
      children.foldlM examine m d = (.ok (sightings.foldl seeing m), d') := by
  induction children generalizing m d with
  | nil => exact Or.inr ⟨[], d, .nil, .done d, rfl⟩
  | cons window rest ih =>
      rw [List.foldlM_cons]
      rcases m.examine_cases window d with
        hloses | ⟨s, d', rfl, hdialogue, hasked, hexamined⟩
      · exact Or.inl (hloses.bind _)
      · rcases ih (m.seeing s) d' with hloses | ⟨sightings, d'', hfinds, hrest, hend⟩
        · exact Or.inl (.after hdialogue hexamined hloses)
        · rw [Action.bind_of_ok hexamined]
          exact Or.inr ⟨s :: sightings, d'', .cons hasked hfinds, hdialogue.append hrest, hend⟩

/-- A scan of a root window with known children loses the connection, or comes to a sighting of
each of them. -/
theorem scan_cases (m : Manager) {children : List WindowId} {d d₁ : Desk χ σ}
    (hchildren : Connection.perform (.queryTree m.setting.root) d = (.ok children, d₁)) :
    Action.Loses m.scan .lost d ∨
    ∃ (sightings : List Sighting) (d' : Desk χ σ), m.Finds children sightings ∧
      Dialogue d (⟨.queryTree m.setting.root, .ok children⟩ ::
        sightings.flatMap Sighting.exchanges) d' ∧
      m.scan d = (.ok (sightings.foldl seeing m), d') := by
  have hfirst := Dialogue.of_eq hchildren
  have hasked := Action.ask_of_ok hchildren Fault.lost Fault.refused
  rcases m.examineAll_cases children d₁ with hloses | ⟨sightings, d', hfinds, hrest, hend⟩
  · exact Or.inl (.after hfirst hasked hloses)
  · exact Or.inr ⟨sightings, d', hfinds, hfirst.append hrest,
      (Action.bind_of_ok hasked _).trans hend⟩

end Manager

/-! ### The start of the program -/

namespace Program

variable {ω : Type}

/-- Nothing that waits is nothing to hand over. -/
theorem handOver_of_empty [HostTransport ω] (manager : Manager) (hosted : Bool) (world : ω) :
    (handOver ⟨manager, .empty, hosted⟩ : Action ω Failure Program) world =
      (.ok ⟨manager, .empty, hosted⟩, world) := by
  cases hosted <;> rfl

section Desks

variable {ε ε' α : Type} {x : Action (Desk ω Queue) ε α} {queue : Queue} {world : ω}
  {d : Desk ω Queue}

theorem atDesk_of_ok {a : α} (h : x ⟨world, queue⟩ = (.ok a, d)) (f : ε → ε') :
    atDesk queue (x.adapt f) world = (.ok (a, d.channel), d.display) := by
  have hadapted : (x.adapt f).run ⟨world, queue⟩ = (.ok a, d) := by
    change (Except.mapError f (x ⟨world, queue⟩).1, (x ⟨world, queue⟩).2) = _
    rw [h]
    rfl
  simp only [atDesk, hadapted]

theorem atDesk_of_error {e : ε} (h : x ⟨world, queue⟩ = (.error e, d)) (f : ε → ε') :
    atDesk queue (x.adapt f) world = (.error (f e), d.display) := by
  have hadapted : (x.adapt f).run ⟨world, queue⟩ = (.error (f e), d) := by
    change (Except.mapError f (x ⟨world, queue⟩).1, (x ⟨world, queue⟩).2) = _
    rw [h]
    rfl
  simp only [atDesk, hadapted]

end Desks

variable [Connection ω] [HostTransport ω]

/-- Tracking the windows that are there loses the connection, or comes to a sighting of each
child, and nothing else happens. -/
theorem trackExisting_cases (m : Manager) (hosted : Bool) {children : List WindowId} {world : ω}
    (hchildren : (Connection.perform (.queryTree m.setting.root) world).1 = .ok children) :
    Action.Loses (trackExisting m hosted : Action ω Failure Program) .notSent world ∨
    ∃ (sightings : List Sighting) (world' : ω), m.Finds children sightings ∧
      Dialogue world (⟨.queryTree m.setting.root, .ok children⟩ ::
        sightings.flatMap Sighting.exchanges) world' ∧
      (trackExisting m hosted : Action ω Failure Program) world =
        (.ok ⟨sightings.foldl Manager.seeing m, .empty, hosted⟩, world') := by
  let d : Desk ω Queue := ⟨world, .empty⟩
  have hdesk : Connection.perform (.queryTree m.setting.root) d =
      (.ok children, (Connection.perform (.queryTree m.setting.root) d).2) :=
    Prod.ext hchildren rfl
  rcases m.scan_cases hdesk with
    ⟨hdialogue, hlost, hscan⟩ | ⟨sightings, d', hfinds, hdialogue, hscan⟩
  · refine Or.inl ⟨hdialogue.atDesk.1, hlost, ?_⟩
    exact Action.bind_of_error (atDesk_of_error hscan scanFailure) _
  · obtain ⟨hdisplay, hsilent⟩ := hdialogue.atDesk
    refine Or.inr ⟨sightings, d'.display, hfinds, hdisplay, ?_⟩
    have hscanned := atDesk_of_ok hscan scanFailure
    rw [hsilent] at hscanned
    exact (Action.bind_of_ok hscanned _).trans (handOver_of_empty _ hosted _)

/-- The windows that are there at the start.

If the display names the children of the root window and no request is lost, the start-up scan
ends well.  There is a sighting of each child, in the order of the children, such that the
requests that were made and their answers are those of the sightings, behind the question for the
children, and nothing is left in the queue or was sent to the host.

The windows that are tracked then are those that were met, which are also those that were asked
for reports of their properties and of the focus.  Each has the record of the first meeting: with
the geometry of the reply, without override-redirect and without host objects, and managed if it
was viewable.  Its title, class, leader and application id were then asked for, and are what the
answers say. -/
theorem existingWindows_tracked {χ : Type} [Connection χ] (setting : Setting) (hosted : Bool)
    (site : Site (Transcribed χ)) {children : List WindowId}
    (hchildren : (Connection.perform (.queryTree setting.root) site).1 = .ok children)
    (hup : ∀ e ∈ ((trackExisting (.new setting) hosted : Action _ Failure Program)
      site).2.display.exchanges.drop site.display.exchanges.length, e.answer ≠ .error .lost) :
    ∃ (p : Program) (site' : Site (Transcribed χ)) (sightings : List Sighting),
      (trackExisting (.new setting) hosted : Action _ Failure Program) site = (.ok p, site') ∧
      p.hosted = hosted ∧ p.queue = .empty ∧
      site'.socket = site.socket ∧ site'.files = site.files ∧
      sightings.map Sighting.window = children ∧
      site'.display.exchanges = site.display.exchanges ++
        ⟨.queryTree setting.root, .ok children⟩ :: sightings.flatMap Sighting.exchanges ∧
      (∀ e ∈ sightings.flatMap Sighting.exchanges, e.AnsweredBy χ) ∧
      p.manager.setting = setting ∧ p.manager.focused = none ∧
      (∀ id, p.manager.windows[id]? =
        (firstMeeting sightings id).map (Meeting.record setting)) ∧
      (∀ id, p.manager.tracks id = true ↔
        ∃ meeting, .met meeting ∈ sightings ∧ meeting.window = id) ∧
      (∀ id values, (∃ e ∈ sightings.flatMap Sighting.exchanges,
          e.request = .changeWindowAttributes id values) ↔
        p.manager.tracks id = true ∧ values = [(0x800, 0x600000)]) ∧
      ∀ id w, p.manager.windows[id]? = some w →
        ∃ meeting, firstMeeting sightings id = some meeting ∧ meeting.Recorded w ∧
          meeting.Asked setting := by
  rcases trackExisting_cases (.new setting) hosted hchildren with
    ⟨hdialogue, ⟨e, he, hlost⟩, hend⟩ |
      ⟨sightings, site', hfinds, hdialogue, hend⟩
  · -- a lost request would be among the exchanges of the scan
    rw [hend, hdialogue.atSite.1.transcribed, List.drop_left] at hup
    exact absurd hlost (hup e he)
  · obtain ⟨hdisplay, hfiles, hsocket⟩ := hdialogue.atSite
    have hrecord : ∀ id, (sightings.foldl Manager.seeing (.new setting)).windows[id]? =
        (firstMeeting sightings id).map (Meeting.record setting) := by
      intro id
      rw [Manager.foldl_seeing_getElem?, Manager.getElem?_new, Option.none_or]
      rfl
    have htracks : ∀ id, (sightings.foldl Manager.seeing (.new setting)).tracks id = true ↔
        ∃ meeting, .met meeting ∈ sightings ∧ meeting.window = id := by
      intro id
      rw [Manager.tracks_eq_isSome, hrecord, Option.isSome_map, firstMeeting_isSome_iff]
    refine ⟨_, site', sightings, hend, rfl, rfl, hsocket, hfiles, hfinds.windows,
      hdisplay.transcribed, ?_, Manager.foldl_seeing_setting _ _,
      Manager.foldl_seeing_focused _ _, hrecord, htracks, ?_, ?_⟩
    · intro e he
      obtain ⟨t, hanswer⟩ := hdisplay.answeredBy e (List.mem_cons_of_mem _ he)
      exact ⟨t.world, hanswer⟩
    · intro id values
      rw [htracks]
      constructor
      · rintro ⟨e, he, hrequest⟩
        obtain ⟨s, hs, hmem⟩ := List.mem_flatMap.1 he
        obtain ⟨meeting, rfl, hwindow, hvalues⟩ := (s.selects_iff id values).1 ⟨e, hmem, hrequest⟩
        exact ⟨⟨meeting, hs, hwindow⟩, hvalues⟩
      · rintro ⟨⟨meeting, hmet, hwindow⟩, hvalues⟩
        obtain ⟨e, hmem, hrequest⟩ := (Sighting.selects_iff (.met meeting) id values).2
          ⟨meeting, rfl, hwindow, hvalues⟩
        exact ⟨e, List.mem_flatMap.2 ⟨_, hmet, hmem⟩, hrequest⟩
    · intro id w hw
      rw [hrecord] at hw
      obtain ⟨meeting, hfirst, rfl⟩ := Option.map_eq_some_iff.1 hw
      have huntracked : (Manager.new setting).tracks id = false :=
        (Manager.tracks_eq_false_iff _ id).2 (Manager.getElem?_new setting id)
      exact ⟨meeting, hfirst, meeting.recorded_record setting,
        hfinds.asked id meeting huntracked hfirst⟩

/-- Where nothing is ever lost, nothing is lost here. -/
theorem kept_of_never_lost {χ : Type} [Connection χ]
    (hkeeps : ∀ request (world : χ), (Connection.perform request world).1 ≠ .error .lost)
    (m : Manager) (hosted : Bool) {site : Site (Transcribed χ)} {children : List WindowId}
    (hchildren : (Connection.perform (.queryTree m.setting.root) site).1 = .ok children) :
    ∀ e ∈ ((trackExisting m hosted : Action _ Failure Program) site).2.display.exchanges.drop
      site.display.exchanges.length, e.answer ≠ .error .lost := by
  have hkept : ∀ {exchanges site'}, Dialogue site exchanges site' →
      ∀ e ∈ site'.display.exchanges.drop site.display.exchanges.length,
        e.answer ≠ .error .lost := by
    intro exchanges site' hdialogue e he
    obtain ⟨hdisplay, -⟩ := hdialogue.atSite
    rw [hdisplay.transcribed, List.drop_left] at he
    obtain ⟨t, hanswer⟩ := hdisplay.answeredBy e he
    rw [hanswer]
    exact hkeeps e.request t.world
  rcases trackExisting_cases m hosted hchildren with
    ⟨hdialogue, -, hend⟩ | ⟨sightings, site', -, hdialogue, hend⟩
  · rw [hend]
    exact hkept hdialogue
  · rw [hend]
    exact hkept hdialogue

end Program

/-- A display with a window that is shown, one that is not to be managed and one that is gone.
The first is named twice. -/
structure PorchDisplay where

def PorchDisplay.answer : (request : Request) → Except Fault request.Reply
  | .queryTree _ => .ok ([7, 8, 9, 7] : List WindowId)
  | .getWindowAttributes window =>
      if window = 7 then .ok (⟨.viewable, false, 0⟩ : WindowAttributes)
      else if window = 8 then .ok (⟨.viewable, true, 0⟩ : WindowAttributes)
      else .error .refused
  | .getGeometry _ => .ok (⟨5, 6, 300, 200⟩ : Geometry)
  | request => .ok request.emptyReply

instance : Connection PorchDisplay where
  screens _ := []
  newId d := (.ok 1, d)
  perform request d := (PorchDisplay.answer request, d)
  flush d := (.ok (), d)

namespace PorchDisplay

theorem answer_ne_lost (request : Request) : answer request ≠ .error .lost := by
  unfold answer
  split
  · nofun
  · split
    · nofun
    · split <;> nofun
  · nofun
  · nofun

theorem eq_answer {e : Exchange} (h : e.AnsweredBy PorchDisplay) : e.answer = answer e.request := by
  obtain ⟨world, hanswer⟩ := h
  exact hanswer

/-- The window that is met is the one that is shown. -/
theorem of_met {meeting : Meeting} (h : ∀ e ∈ meeting.exchanges, e.AnsweredBy PorchDisplay) :
    meeting.window = 7 ∧ meeting.attributes.mapState = .viewable ∧
      meeting.geometry = ⟨5, 6, 300, 200⟩ := by
  have hattributes := eq_answer (h _ (List.mem_append_left _ List.mem_cons_self))
  have hgeometry := eq_answer
    (h _ (List.mem_append_left _ (List.mem_cons_of_mem _ List.mem_cons_self)))
  have hwilling := meeting.willing
  simp only [answer] at hattributes hgeometry
  split at hattributes
  next hwindow =>
    refine ⟨hwindow, ?_, Except.ok.inj hgeometry⟩
    rw [Except.ok.inj hattributes]
  next =>
    split at hattributes
    · rw [Except.ok.inj hattributes] at hwilling
      cases hwilling
    · cases hattributes

/-- It is met whenever it is looked at. -/
theorem met_of_window {s : Sighting} (hwindow : s.window = 7)
    (h : ∀ e ∈ s.exchanges, e.AnsweredBy PorchDisplay) : ∃ meeting, s = .met meeting := by
  cases s with
  | met meeting => exact ⟨meeting, rfl⟩
  | vanished window =>
      obtain rfl : window = 7 := hwindow
      have hgone := eq_answer (h _ List.mem_cons_self)
      cases hgone
  | leftAlone window attributes unwilling =>
      obtain rfl : window = 7 := hwindow
      have hattributes := eq_answer (h _ List.mem_cons_self)
      rw [Except.ok.inj hattributes] at unwilling
      cases unwilling
  | unplaced window attributes willing =>
      have hgone := eq_answer (h _ (List.mem_cons_of_mem _ List.mem_cons_self))
      cases hgone

end PorchDisplay

namespace Program

/-- Of the windows on the porch the one that is shown is tracked, with the record of the first of
two meetings. -/
theorem existingWindows_tracked_porch :
    let setting := Setting.plain true
    let site : Site (Transcribed PorchDisplay) := ⟨.start ⟨⟩, .empty, none⟩
    ∃ p site', (trackExisting (.new setting) true : Action _ Failure Program) site =
        (.ok p, site') ∧
      p.manager.tracks 7 = true ∧ p.manager.tracks 8 = false ∧ p.manager.tracks 9 = false ∧
      ∃ w, p.manager.windows[(7 : WindowId)]? = some w ∧ w.geometry = ⟨5, 6, 300, 200⟩ ∧
        w.managed = true := by
  intro setting site
  obtain ⟨p, site', sightings, hend, -, -, -, -, hwindows, -, hanswers, -, -, -, htracks, -,
    hrecord⟩ := existingWindows_tracked (χ := PorchDisplay) setting true site rfl
      (kept_of_never_lost (fun request _ => PorchDisplay.answer_ne_lost request) _ true rfl)
  have hmet : ∀ meeting, .met meeting ∈ sightings → meeting.window = 7 ∧
      meeting.attributes.mapState = .viewable ∧ meeting.geometry = ⟨5, 6, 300, 200⟩ :=
    fun meeting hmem => PorchDisplay.of_met fun e he =>
      hanswers e (List.mem_flatMap.2 ⟨_, hmem, he⟩)
  have hother : ∀ id, id ≠ 7 → p.manager.tracks id = false := by
    intro id hid
    refine Bool.eq_false_of_not_eq_true fun htracked => ?_
    obtain ⟨meeting, hmem, hwindow⟩ := (htracks id).1 htracked
    exact hid (hwindow.symm.trans (hmet meeting hmem).1)
  have hfirst : p.manager.tracks 7 = true := by
    have hseven : (7 : WindowId) ∈ sightings.map Sighting.window := by
      rw [hwindows]
      exact List.mem_cons_self
    obtain ⟨s, hs, hwindow⟩ := List.mem_map.1 hseven
    obtain ⟨meeting, rfl⟩ := PorchDisplay.met_of_window hwindow fun e he =>
      hanswers e (List.mem_flatMap.2 ⟨s, hs, he⟩)
    exact (htracks 7).2 ⟨meeting, hs, hwindow⟩
  have hsome := hfirst
  rw [Manager.tracks_eq_isSome] at hsome
  obtain ⟨w, hw⟩ := Option.isSome_iff_exists.1 hsome
  obtain ⟨meeting, hmeeting, hrecorded, -⟩ := hrecord 7 w hw
  have hmem : .met meeting ∈ sightings := by
    obtain ⟨s, hs, hsame⟩ := List.mem_filterMap.1 (List.mem_of_find?_eq_some hmeeting)
    rwa [Sighting.met?_eq_some_iff.1 hsame] at hs
  obtain ⟨-, hviewable, hgeometry⟩ := hmet meeting hmem
  exact ⟨p, site', hend, hfirst, hother 8 (by decide), hother 9 (by decide), w, hw,
    hrecorded.geometry.trans hgeometry, hrecorded.managed.2 hviewable⟩

end Program

end GuestShell

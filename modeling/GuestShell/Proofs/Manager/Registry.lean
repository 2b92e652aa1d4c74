import GuestShell.Proofs.Latest
import GuestShell.Proofs.Manager.Focus
import GuestShell.Proofs.Manager.SurfaceScale
import Mathlib.Data.Set.Card

/-!
# The registry in every state

Four kinds of operations begin the tracking of a window and two end it; errors return from the
middle of others.  Whatever the order, and whatever the channels refuse, the registry has one
record for each window that was begun and not ended since, each under the number of its window.
The window with the focus is among them, and a record without a role says nothing of the host.

Whether a window is tracked can be told from the calls alone: by the latest call that begins it,
if no later one ends it (`tracks_run_iff`).  So can the number of records, which are counted along
the run, since a registry cannot list its keys (`exists_keys_run`).

What the records say of their windows is NOT the subject here.
-/

namespace GuestShell

/-- No operation both begins and ends the tracking of its window. -/
theorem Operation.ends_of_begins {setting : Setting} {operation : Operation}
    (hbegins : operation.begins setting = true) : operation.ends setting = false := by
  cases operation with
  | guest change =>
      cases change with
      | reparented parent =>
          have hroot : parent = setting.root := of_decide_eq_true hbegins
          exact decide_eq_false (not_not_intro hroot)
      | destroyed => cases hbegins
      | _ => rfl
  | _ => rfl

/-! ### Counting records -/

namespace Registry

/-- The numbers under which there are records, each counted once. -/
structure Keys (r : Registry) (ids : Finset WindowId) : Prop where
  mem_iff : ∀ id, id ∈ ids ↔ r[id]?.isSome = true
  size_eq : r.size = ids.card

namespace Keys

theorem empty : Keys ∅ ∅ where
  mem_iff := by
    intro id
    simp
  size_eq := Std.ExtHashMap.size_empty

variable {r : Registry} {ids : Finset WindowId}

theorem mem_iff_mem (h : r.Keys ids) (id : WindowId) : id ∈ ids ↔ id ∈ r := by
  rw [h.mem_iff, Std.ExtHashMap.mem_iff_isSome_getElem?]

theorem store_none (h : r.Keys ids) (id : WindowId) : (r.store id none).Keys (ids.erase id) where
  mem_iff := by
    intro other
    rw [Finset.mem_erase, h.mem_iff, getElem?_store]
    by_cases hid : id = other
    · simp [hid]
    · simp [hid, Ne.symm hid]
  size_eq := by
    rw [store, Std.ExtHashMap.size_erase, Finset.card_erase_eq_ite, h.size_eq]
    simp only [h.mem_iff_mem]

theorem store_some (h : r.Keys ids) (id : WindowId) (w : Window) :
    (r.store id (some w)).Keys (insert id ids) where
  mem_iff := by
    intro other
    rw [Finset.mem_insert, h.mem_iff, getElem?_store]
    by_cases hid : id = other
    · simp [hid]
    · simp [hid, Ne.symm hid]
  size_eq := by
    rw [store, Std.ExtHashMap.size_insert, Finset.card_insert_eq_ite, h.size_eq]
    simp only [h.mem_iff_mem]

/-- What is stored under one number, a record or none, is counted too. -/
theorem exists_store (h : r.Keys ids) (id : WindowId) (record : Option Window) :
    ∃ ids', (r.store id record).Keys ids' := by
  cases record with
  | none => exact ⟨ids.erase id, h.store_none id⟩
  | some w => exact ⟨insert id ids, h.store_some id w⟩

end Keys

end Registry

namespace Manager

variable {ω : Type} [HostChannel ω] [PropertySource ω]

/-- The records of every run can be counted. -/
theorem exists_keys_run (setting : Setting) (calls : List (Call ω)) :
    ∃ ids, ((new setting).run calls).windows.Keys ids := by
  induction calls using List.reverseRecOn with
  | nil => exact ⟨∅, .empty⟩
  | append_singleton calls call ih =>
      obtain ⟨ids, hids⟩ := ih
      rw [run_concat]
      exact hids.exists_store call.id _

/-! ### Which windows are tracked -/

/-- A call tracks its window afterwards if it begins that, or if the window was tracked and the
call does not end that. -/
theorem after_tracks_iff (m : Manager) (call : Call ω) :
    (m.after call).tracks call.id = true ↔
      call.operation.begins m.setting = true ∨
        (m.tracks call.id = true ∧ ¬call.operation.ends m.setting = true) := by
  cases htracked : m.tracks call.id with
  | true =>
      have hafter : (m.after call).tracks call.id = !call.operation.ends m.setting :=
        perform_tracks_of_tracked htracked call.operation call.world
      rw [hafter, Bool.not_eq_true', Bool.not_eq_true]
      constructor
      · intro hgoes
        exact Or.inr ⟨rfl, hgoes⟩
      · rintro (hbegins | ⟨-, hgoes⟩)
        · exact Operation.ends_of_begins hbegins
        · exact hgoes
  | false =>
      have hnone := (m.tracks_eq_false_iff call.id).1 htracked
      have hafter : (m.after call).tracks call.id = call.operation.begins m.setting := by
        rw [tracks_eq_isSome, (m.after_eq_recorded call hnone).1, step_isSome_of_untracked]
      rw [hafter]
      simp

/-- The window was created, asked to be mapped, reparented to the root or adopted, and neither
destroyed nor reparented elsewhere since. -/
def Begun (setting : Setting) (calls : List (Call ω)) (id : WindowId) : Prop :=
  ∃ before start after,
    Latest (fun _ call => call.id = id ∧ call.operation.begins setting = true)
      (fun _ call => call.id = id ∧ call.operation.ends setting = true) calls before start after

theorem tracks_run_iff (setting : Setting) (calls : List (Call ω)) (id : WindowId) :
    ((new setting).run calls).tracks id = true ↔ Begun setting calls id := by
  induction calls using List.reverseRecOn with
  | nil =>
      constructor
      · intro htracked
        rw [run_nil, tracks_eq_isSome, getElem?_new] at htracked
        cases htracked
      · rintro ⟨before, start, after, hlatest⟩
        exact absurd hlatest Latest.not_nil
  | append_singleton calls call ih =>
      refine Iff.trans ?_ exists_latest_concat_iff.symm
      rw [run_concat]
      -- a call for another window neither begins nor ends, and leaves the record
      by_cases hid : call.id = id
      · subst hid
        rw [after_tracks_iff, ih, run_setting]
        simp only [true_and]
        rfl
      · have hkept : (((new setting).run calls).after call).tracks id =
            ((new setting).run calls).tracks id :=
          perform_tracks_of_ne _ hid call.operation call.world
        rw [hkept, ih]
        simp only [hid, false_and, not_false_eq_true, and_true, false_or]
        rfl

/-! ### Records without a role -/

/-- What the host was told of a window goes with the role. -/
theorem hostState_normal_of_run (setting : Setting) (calls : List (Call ω)) {id : WindowId}
    {w : Window} (hw : ((new setting).run calls).windows[id]? = some w)
    (hroleless : w.toplevel = none) : w.hostState = .normal := by
  refine run_tracked_induction (P := fun _ _ w => w.toplevel = none → w.hostState = .normal)
    setting (fun _ _ _ _ _ h => h) ?_ ?_ calls hw hroleless
  · intro calls id w htoplevel hstate hhost _
    exact hhost
  · intro calls call w w' hw hw' ih hnone
    obtain ⟨o, hstep, hvalue, -, -⟩ := after_stateStep _ call hw
    rw [hw'] at hvalue
    cases hstep with
    | forgotten heffect => cases hvalue
    | unmapped heffect =>
        cases hvalue
        rfl
    | assigned heffect =>
        cases hvalue
        cases hnone
    | @forwarded s heffect =>
        -- without a role nothing is forwarded, so nothing is told
        cases hvalue
        rw [Window.forwardState_toplevel] at hnone
        have hkept : w.toplevel = none := hnone
        simp only [Window.forwardState, hkept]
        exact ih hkept
    | noted heffect hkeeps =>
        cases hvalue
        rw [hkeeps.hostState]
        exact ih (hkeeps.toplevel.symm.trans hnone)

theorem focusTracked_of_run (setting : Setting) (calls : List (Call ω)) :
    ((new setting).run calls).FocusTracked := by
  induction calls using List.reverseRecOn with
  | nil => exact FocusTracked.new setting
  | append_singleton calls call ih =>
      rw [run_concat]
      exact ih.perform call.id call.operation call.world

/-- The registry is consistent in every state, whatever the channels refused on the way.

Every record is kept under the number of its window.  The window that has the focus, if any, is
tracked.  A record without a role has nothing that the host was told and the default scale.  The
tracked windows are those that were created, asked to be mapped, reparented to the root or adopted,
and that were neither destroyed nor reparented elsewhere since, and there are as many records as
there are such windows. -/
theorem registry_consistent (setting : Setting) (calls : List (Call ω)) :
    let m := (new setting).run calls
    (∀ (id : WindowId) (w : Window), m.windows[id]? = some w → w.id = id) ∧
    (∀ id, m.focused = some id → m.tracks id = true) ∧
    (∀ (id : WindowId) (w : Window), m.windows[id]? = some w → w.toplevel = none →
      w.hostState = .normal ∧ w.scale = .default) ∧
    (∀ id, m.tracks id = true ↔ Begun setting calls id) ∧
    m.windows.size = Set.ncard {id | Begun setting calls id} := by
  refine ⟨fun id w => id_eq_of_run setting calls, focusTracked_of_run setting calls, ?_,
    tracks_run_iff setting calls, ?_⟩
  · intro id w hw hroleless
    refine ⟨hostState_normal_of_run setting calls hw hroleless, ?_⟩
    cases calibrated_of_run setting calls hw with
    | default hdefault => exact hdefault
    | current _ hrole _ =>
        rw [Window.hasRole, hroleless] at hrole
        cases hrole
  · -- the counted keys are the windows that were begun, whatever finite set they make
    obtain ⟨ids, hids⟩ := exists_keys_run setting calls
    have hset : {id | Begun setting calls id} = (ids : Set WindowId) := by
      ext id
      rw [Set.mem_ofPred_eq, ← tracks_run_iff, tracks_eq_isSome, Finset.mem_coe, hids.mem_iff]
    rw [hset, Set.ncard_coe_finset, hids.size_eq]

/-- Window 7 gets a role and becomes fullscreen, its request to be maximized is refused, and it is
unmapped; windows 8 and 9 are begun and ended, window 10 comes under the root.  Window 7 is then
reported as created once more, which is an error, and gets the focus. -/
def registryRun : List (Call (Surroundings UnreliableQueue PropertyTable)) :=
  let atoms := Atoms.numbered
  [.refusing 0 7 (.guest (.created false .empty)),
   .refusing 0 7 (.assignRole 30),
   .refusing 0 8 (.guest .mapRequested),
   .refusing 0 7 (.guest (.messaged atoms.netWmState ⟨1, atoms.netWmStateFullscreen, 0, 0, 0⟩)),
   .refusing 1 7 (.guest (.messaged atoms.netWmState
     ⟨1, atoms.netWmStateMaximizedVert, atoms.netWmStateMaximizedHorz, 0, 0⟩)),
   .refusing 0 9 (.adopt .empty true),
   .refusing 0 8 (.guest .destroyed),
   .refusing 0 9 (.guest (.reparented 7)),
   .refusing 0 7 (.guest .unmapped),
   .refusing 0 10 (.guest (.reparented 1)),
   .refusing 0 7 (.guest (.created false .empty)),
   .refusing 0 7 (.guest .focused)]

/-- Two windows are left.  Window 7 is still to be fullscreen and maximized, but there is no host
object any more that was told so. -/
theorem registry_consistent_registryRun :
    let m := (new (Setting.plain true)).run registryRun
    m.windows.size = 2 ∧ m.focused = some 7 ∧ m.tracks 7 = true ∧
      {id | Begun (Setting.plain true) registryRun id} = {7, 10} ∧
      ∃ w, m.windows[(7 : WindowId)]? = some w ∧ w.id = 7 ∧ w.state = ⟨true, true, false⟩ ∧
        w.toplevel = none ∧ w.hostState = .normal ∧ w.scale = .default := by
  intro m
  obtain ⟨hid, hfocus, hroleless, htracks, hsize⟩ :=
    registry_consistent (Setting.plain true) registryRun
  have hrecord : ∃ w, m.windows[(7 : WindowId)]? = some w ∧ w.state = ⟨true, true, false⟩ ∧
      w.toplevel = none := by
    rw [run_getElem?, getElem?_new]
    exact ⟨_, rfl, rfl, rfl⟩
  have hfocused : m.focused = some 7 := by
    have hbefore : ∃ w, ((new (Setting.plain true)).run
        (registryRun.take 11)).windows[(7 : WindowId)]? = some w := by
      rw [run_getElem?, getElem?_new]
      exact ⟨_, rfl⟩
    obtain ⟨w, hw⟩ := hbefore
    exact focused_of_report hw _
  have hkept : m.tracks 10 = true := by
    rw [tracks_eq_isSome, run_getElem?, getElem?_new]
    rfl
  have hothers : ∀ id, id ≠ 7 → id ≠ 10 → m.tracks id = false := by
    intro id h7 h10
    rw [tracks_eq_false_iff, run_getElem?, getElem?_new]
    by_cases h8 : id = 8
    · subst h8
      rfl
    · by_cases h9 : id = 9
      · subst h9
        rfl
      · simp only [registryRun, Call.refusing, List.foldl_cons, List.foldl_nil, stepRecord,
          if_neg (Ne.symm h7), if_neg (Ne.symm h8), if_neg (Ne.symm h9), if_neg (Ne.symm h10)]
  have hset : {id | Begun (Setting.plain true) registryRun id} = {7, 10} := by
    ext id
    rw [Set.mem_ofPred_eq, ← htracks, Set.mem_insert_iff, Set.mem_singleton_iff]
    constructor
    · intro htracked
      by_contra hnone
      rw [not_or] at hnone
      rw [hothers id hnone.1 hnone.2] at htracked
      cases htracked
    · rintro (rfl | rfl)
      · exact hfocus 7 hfocused
      · exact hkept
  obtain ⟨w, hw, hstate, hnone⟩ := hrecord
  obtain ⟨hhost, hscale⟩ := hroleless 7 w hw hnone
  refine ⟨?_, hfocused, hfocus 7 hfocused, hset, w, hw, hid 7 w hw, hstate, hnone, hhost,
    hscale⟩
  rw [hsize, hset]
  exact Set.ncard_pair (by decide)

end Manager

end GuestShell

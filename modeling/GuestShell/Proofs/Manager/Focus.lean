import GuestShell.Proofs.Manager.Untracked

/-!
# The focus

Two kinds of operations move the focus.  A focus report about a tracked window moves it there.
An operation that ends the tracking of the window that has it takes it away, and no window has
it then.  All others leave it, whatever becomes of the requests that they send.

So the window that has the focus is tracked.  It is NOT claimed that the display's focus is at
this window: the window manager does not hear of a focus that goes elsewhere.
-/

namespace GuestShell

/-- The operations after which a window is not tracked. -/
def Operation.ends (setting : Setting) : Operation → Bool
  | .guest .destroyed => true
  | .guest (.reparented parent) => parent ≠ setting.root
  | _ => false

variable {ω : Type} [HostChannel ω] [PropertySource ω]

/-- A tracked window stays tracked unless the operation ends that. -/
theorem step_isSome_of_tracked (setting : Setting) (id : WindowId) (w : Window)
    (operation : Operation) (world : ω) :
    (operation.step setting id (some w) world).value.isSome = !operation.ends setting := by
  cases operation with
  | guest change =>
      cases change with
      | reparented parent =>
          simp only [Operation.step, GuestChange.step, Operation.ends]
          by_cases hroot : parent = setting.root
          · simp [hroot]
          · simp [hroot]
      | _ => rfl
  | _ => rfl

namespace Manager

theorem tracks_eq_isSome (m : Manager) (id : WindowId) : m.tracks id = m.windows[id]?.isSome :=
  Std.ExtHashMap.contains_eq_isSome_getElem?

theorem perform_getElem? (m : Manager) (id other : WindowId) (operation : Operation) (world : ω) :
    (m.perform id operation world).value.windows[other]? =
      if id = other then (operation.step m.setting id m.windows[id]? world).value
      else m.windows[other]? :=
  Registry.getElem?_store _ _ _ _

/-- An operation that leaves the record of its window leaves everything, unless it is a focus
report. -/
theorem perform_of_unchanged (m : Manager) {id : WindowId} {operation : Operation} {world : ω}
    {result : Except ManagerError Unit} (hother : operation ≠ .guest .focused)
    (hstep : operation.step m.setting id m.windows[id]? world =
      ⟨result, m.windows[id]?, world⟩) : m.perform id operation world = ⟨result, m, world⟩ := by
  have hfocus : focusAfter id operation m.windows[id]? m.windows[id]? m.focused = m.focused := by
    unfold focusAfter
    rw [if_neg hother]
    cases m.windows[id]? <;> simp
  simp only [perform, hstep, Outcome.map, Registry.store_getElem?, hfocus]

theorem perform_tracks_of_tracked {m : Manager} {id : WindowId} (htracked : m.tracks id = true)
    (operation : Operation) (world : ω) :
    (m.perform id operation world).value.tracks id = !operation.ends m.setting := by
  rw [tracks_eq_isSome] at htracked
  obtain ⟨w, hw⟩ := Option.isSome_iff_exists.1 htracked
  rw [tracks_eq_isSome, perform_getElem?, if_pos rfl, hw, step_isSome_of_tracked]

theorem perform_tracks_of_ne (m : Manager) {id other : WindowId} (hne : id ≠ other)
    (operation : Operation) (world : ω) :
    (m.perform id operation world).value.tracks other = m.tracks other := by
  rw [tracks_eq_isSome, perform_getElem?, if_neg hne, tracks_eq_isSome]

/-- The focus report about a window does not track it. -/
theorem perform_focused_tracks (m : Manager) (id : WindowId) (world : ω) :
    (m.perform id (.guest .focused) world).value.tracks id = m.tracks id := by
  cases htracked : m.tracks id with
  | true => exact perform_tracks_of_tracked htracked _ world
  | false =>
      have hnone := (m.tracks_eq_false_iff id).1 htracked
      rw [tracks_eq_isSome, perform_getElem?, if_pos rfl, hnone]
      rfl

/-- A focus report moves the focus to its window if that is tracked. -/
theorem perform_focused (m : Manager) (id : WindowId) (world : ω) :
    (m.perform id (.guest .focused) world).value.focused =
      if m.tracks id then some id else m.focused := by
  rw [tracks_eq_isSome]
  rfl

/-- Other operations leave the focus if they do not end the tracking of their window. -/
theorem perform_focused_of_kept (m : Manager) (id : WindowId) {operation : Operation}
    (hother : operation ≠ .guest .focused) (hkept : operation.ends m.setting = false)
    (world : ω) : (m.perform id operation world).value.focused = m.focused := by
  simp only [perform, Outcome.map, focusAfter, if_neg hother]
  cases hw : m.windows[id]? with
  | none => simp
  | some w =>
      have hsome := step_isSome_of_tracked m.setting id w operation world
      rw [hkept] at hsome
      rw [← Option.not_isSome, hsome]
      simp

/-- The window with the focus, if there is one, is tracked. -/
def FocusTracked (m : Manager) : Prop := ∀ id, m.focused = some id → m.tracks id = true

theorem FocusTracked.new (setting : Setting) : (new setting).FocusTracked := by
  intro id hfocused
  cases hfocused

namespace FocusTracked

variable {m : Manager}

/-- Everything but a focus report leaves the focus, unless it ends the tracking of the window
that has it. -/
theorem perform_focused_eq (h : m.FocusTracked) {id : WindowId} {operation : Operation}
    (hother : operation ≠ .guest .focused) (world : ω) :
    (m.perform id operation world).value.focused =
      if operation.ends m.setting = true ∧ m.focused = some id then none else m.focused := by
  simp only [perform, Outcome.map, focusAfter, if_neg hother]
  by_cases hfocused : m.focused = some id
  · -- the window with the focus has a record, which is there afterwards or not
    have htracked := h id hfocused
    rw [tracks_eq_isSome] at htracked
    obtain ⟨w, hw⟩ := Option.isSome_iff_exists.1 htracked
    have hvalue := step_isSome_of_tracked m.setting id w operation world
    rw [hw, ← Option.not_isSome, hvalue]
    simp [hfocused]
  · simp [hfocused]

/-- Every operation keeps the window with the focus tracked. -/
theorem perform (h : m.FocusTracked) (id : WindowId) (operation : Operation) (world : ω) :
    (m.perform id operation world).value.FocusTracked := by
  intro other hfocused
  by_cases hreport : operation = .guest .focused
  · subst hreport
    rw [perform_focused] at hfocused
    split at hfocused
    next htracked =>
      cases hfocused
      rw [perform_focused_tracks]
      exact htracked
    next huntracked =>
      have hheld := h other hfocused
      have hne : id ≠ other := fun hsame => huntracked (hsame ▸ hheld)
      rw [perform_tracks_of_ne m hne]
      exact hheld
  · rw [h.perform_focused_eq hreport] at hfocused
    split at hfocused
    next => cases hfocused
    next hkept =>
      have hheld := h other hfocused
      by_cases hid : id = other
      · subst hid
        have hgoes : operation.ends m.setting = false :=
          Bool.eq_false_of_not_eq_true fun hends => hkept ⟨hends, hfocused⟩
        rw [perform_tracks_of_tracked hheld, hgoes]
        rfl
      · rw [perform_tracks_of_ne m hid]
        exact hheld

end FocusTracked

end Manager

end GuestShell

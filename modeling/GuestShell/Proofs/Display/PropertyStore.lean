import GuestShell.Display.Connection
import GuestShell.Proofs.Manager.Recorded

/-!
# Displays that keep properties

A property store is what a display knows of the properties of windows.  Values are set and
deleted as a whole.  The store answers requests for properties as displays do, which is with
the first `maxPropertyWords` words of a value, or with none of it if another type is asked
for; all other requests are refused.

Reading never fails and leaves the store as it is.  So the texts, classes and windows of a
store are what can be read of it, and they are NOT those of the whole values where these are
longer than what is read.
-/

namespace GuestShell

/-- The properties of windows. -/
structure PropertyStore where
  value : WindowId → Atom → Option PropertyValue

namespace PropertyStore

/-- No window has any property. -/
def empty : PropertyStore := ⟨fun _ _ => none⟩

/-- Sets a property of a window, or deletes it. -/
def set (s : PropertyStore) (id : WindowId) (property : Atom) (value : Option PropertyValue) :
    PropertyStore :=
  ⟨fun i p => if i = id ∧ p = property then value else s.value i p⟩

/-- The beginning of a value. -/
def beginning (v : PropertyValue) : PropertyValue :=
  { v with value := v.value.take (4 * maxPropertyWords) }

/-- What a request for a property of a type is answered with; type zero stands for any. -/
def reply (s : PropertyStore) (id : WindowId) (property type : Atom) : PropertyValue :=
  match s.value id property with
  | none => ⟨0, 0, []⟩
  | some v => if type = 0 ∨ type = v.type then beginning v else { v with value := [] }

instance : Connection PropertyStore where
  screens _ := []
  newId s := (.ok 0, s)
  perform request s :=
    match request with
    | .getProperty id property type => (.ok (s.reply id property type), s)
    | _ => (.error .refused, s)
  flush s := (.ok (), s)

instance : PropertySource PropertyStore := Connection.propertySource

/-! ### What can be read -/

/-- The beginning of a property.  One of type zero is none. -/
def readable (s : PropertyStore) (id : WindowId) (property : Atom) : Option PropertyValue :=
  (s.value id property).bind fun v => if v.type = 0 then none else some (beginning v)

/-- The text of a property. -/
def text (s : PropertyStore) (id : WindowId) (property : Atom) : Option String :=
  (s.readable id property).bind PropertyValue.text?

/-- The class part of the class property, which is a string. -/
def className (s : PropertyStore) (id : WindowId) : Option String :=
  (s.readable id PredefinedAtom.wmClass.number).bind fun v =>
    if v.type = PredefinedAtom.string.number then parseWmClass v.value else none

/-- The window that a property of this type names. -/
def window (s : PropertyStore) (id : WindowId) (property : Atom) : Option WindowId :=
  (s.readable id property).bind fun v =>
    if v.type = PredefinedAtom.window.number then v.window? else none

/-- The title of a window: its `_NET_WM_NAME`, else its `WM_NAME`, else empty. -/
def title (s : PropertyStore) (atoms : Atoms) (id : WindowId) : String :=
  ((s.text id atoms.netWmName).or (s.text id atoms.wmName)).getD ""

/-! ### What a change leaves -/

section Set

variable (s : PropertyStore) {id other : WindowId} {property p : Atom}
  (value : Option PropertyValue)

theorem readable_set_of_ne (hne : ¬ (other = id ∧ p = property)) :
    (s.set id property value).readable other p = s.readable other p := by
  have hvalue : (s.set id property value).value other p = s.value other p := if_neg hne
  rw [readable, hvalue, readable]

theorem text_set_of_ne (hne : ¬ (other = id ∧ p = property)) :
    (s.set id property value).text other p = s.text other p := by
  rw [text, s.readable_set_of_ne value hne, text]

theorem className_set_of_ne (hne : ¬ (other = id ∧ PredefinedAtom.wmClass.number = property)) :
    (s.set id property value).className other = s.className other := by
  rw [className, s.readable_set_of_ne value hne, className]

theorem window_set_of_ne (hne : ¬ (other = id ∧ p = property)) :
    (s.set id property value).window other p = s.window other p := by
  rw [window, s.readable_set_of_ne value hne, window]

theorem title_set_of_ne {atoms : Atoms}
    (hne : ¬ (other = id ∧ (property = atoms.wmName ∨ property = atoms.netWmName))) :
    (s.set id property value).title atoms other = s.title atoms other := by
  rw [title, s.text_set_of_ne value fun h => hne ⟨h.1, Or.inr h.2.symm⟩,
    s.text_set_of_ne value fun h => hne ⟨h.1, Or.inl h.2.symm⟩, title]

end Set

/-! ### Requests -/

/-- A request reads the beginning of a property, without its bytes if the type is not the one
asked for. -/
theorem readProperty_eq (s : PropertyStore) (id : WindowId) (property type : Atom) :
    Connection.readProperty id property type s =
      ((s.readable id property).map fun v =>
        if type = 0 ∨ type = v.type then v else { v with value := [] }, s) := by
  have hreply : Connection.perform (.getProperty id property type) s =
      (.ok (s.reply id property type), s) := rfl
  simp only [Connection.readProperty, hreply, reply, readable]
  cases s.value id property with
  | none => rfl
  | some v =>
      simp only [Option.bind_some]
      by_cases htype : type = 0 ∨ type = v.type
      · rw [if_pos htype]
        by_cases hnone : v.type = 0 <;> simp [beginning, hnone, htype]
      · rw [if_neg htype]
        by_cases hnone : v.type = 0 <;> simp [beginning, hnone, htype]

theorem text_read (s : PropertyStore) (id : WindowId) (property : Atom) :
    PropertySource.text id property s = (s.text id property, s) := by
  change Connection.readText id property s = _
  simp only [Connection.readText, readProperty_eq, true_or, if_true, Option.map_id', text]

theorem className_read (s : PropertyStore) (id : WindowId) :
    PropertySource.className id s = (s.className id, s) := by
  change Connection.readClassName id s = _
  simp only [Connection.readClassName, readProperty_eq, className, Option.bind_map]
  congr 2
  funext v
  -- the bytes of a value of another type hold no class
  by_cases htype : v.type = PredefinedAtom.string.number
  · simp [htype]
  · have hother : ¬ (PredefinedAtom.string.number = 0 ∨ PredefinedAtom.string.number = v.type) :=
      fun h => h.elim nofun fun h => htype h.symm
    simp only [Function.comp_apply, if_neg htype, if_neg hother]
    rfl

theorem window_read (s : PropertyStore) (id : WindowId) (property : Atom) :
    PropertySource.window id property s = (s.window id property, s) := by
  change Connection.readWindow id property s = _
  simp only [Connection.readWindow, readProperty_eq, window, Option.bind_map]
  congr 2
  funext v
  by_cases htype : v.type = PredefinedAtom.window.number
  · simp [htype]
  · have hother : ¬ (PredefinedAtom.window.number = 0 ∨ PredefinedAtom.window.number = v.type) :=
      fun h => h.elim nofun fun h => htype h.symm
    simp only [Function.comp_apply, if_neg htype, if_neg hother, PropertyValue.window?]
    split <;> rfl

end PropertyStore

end GuestShell

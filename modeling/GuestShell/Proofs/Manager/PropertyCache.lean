import GuestShell.Proofs.Display.PropertyStore
import GuestShell.Proofs.Manager.PropertyStep

/-!
# Records follow the properties of their windows

A record keeps what was read of the properties of its window.  The display changes them when
it wants to and announces every change, and the window manager reads a property when it takes
a notification in.  By then there may have been other changes, and the reading sees them all.

So whatever the record of a managed window has is what the display has now, or a notification
about a property that it comes from is still to come (`Window.Caches`).  Every change of the
display and every operation keep it that way (`Window.Caches.change`, `PropertyStep.tended`).
Nothing is claimed of windows that are not managed: they are read anew when they are taken
over.
-/

namespace GuestShell

/-! ### One field -/

/-- What is recorded is what there is now, or something that it comes from is awaited. -/
def Follows {α : Type} (recorded current : α) (source awaited : Atom → Prop) : Prop :=
  recorded = current ∨ ∃ property, source property ∧ awaited property

namespace Follows

variable {α : Type} {recorded recorded' current current' : α}
  {source awaited awaited' : Atom → Prop}

theorem eq_of_forall (h : Follows recorded current source awaited)
    (hnone : ∀ property, ¬ awaited property) : recorded = current :=
  h.resolve_right fun ⟨property, _, hawaited⟩ => hnone property hawaited

theorem mono (h : Follows recorded current source awaited)
    (hawaited : ∀ p, awaited p → awaited' p) : Follows recorded current source awaited' :=
  h.imp_right fun ⟨p, hp, hbefore⟩ => ⟨p, hp, hawaited p hbefore⟩

/-- A change leaves what there is, or hits it and is awaited. -/
theorem change {property : Atom} {hits : Prop} (h : Follows recorded current source awaited)
    (hcurrent : ¬ (hits ∧ source property) → current' = current)
    (hawaited : ∀ p, awaited p → awaited' p) (hchanged : hits → awaited' property) :
    Follows recorded current' source awaited' := by
  by_cases hhits : hits ∧ source property
  · exact Or.inr ⟨property, hhits.2, hchanged hhits.1⟩
  · rw [hcurrent hhits]
    exact h.mono hawaited

/-- What is read again is current, and it is read if something that it comes from is noticed. -/
theorem read {noticed : Atom → Prop} {reads : Prop} [Decidable reads]
    (hwritten : recorded' = if reads then current else recorded)
    (hkept : ¬ reads → Follows recorded current source fun p => noticed p ∨ awaited p)
    (hnoticed : ∀ p, source p → noticed p → reads) :
    Follows recorded' current source awaited := by
  by_cases hreads : reads
  · exact Or.inl (hwritten.trans (if_pos hreads))
  · rw [Follows, hwritten, if_neg hreads]
    rcases hkept hreads with hcurrent | ⟨p, hp, hnotice | hawaited⟩
    · exact Or.inl hcurrent
    · exact absurd (hnoticed p hp hnotice) hreads
    · exact Or.inr ⟨p, hp, hawaited⟩

end Follows

/-! ### Atoms -/

/-- The properties that records keep something of, but for the configured one. -/
def cachedProperties : List String := ["WM_NAME", "_NET_WM_NAME", "WM_CLASS", "WM_CLIENT_LEADER"]

/-- A numbering of names tells some names apart, and numbers the class property as every
display does. -/
structure AtomNumbering (atomOf : String → Atom) (names : List String) : Prop where
  distinct : ∀ a ∈ names, ∀ b ∈ names, atomOf a = atomOf b → a = b
  wmClass : atomOf "WM_CLASS" = PredefinedAtom.wmClass.number

/-- The atoms of the cached properties differ. -/
structure Atoms.TellsApart (atoms : Atoms) : Prop where
  wmClass : atoms.wmClass = PredefinedAtom.wmClass.number
  class_not_name : ¬ atoms.Names atoms.wmClass
  leader_not_name : ¬ atoms.Names atoms.wmClientLeader
  leader_ne_class : atoms.wmClientLeader ≠ atoms.wmClass

/-- The atoms of a display that numbers names like this. -/
def Atoms.numberedBy (atomOf : String → Atom) (appIdProperty : Option String) : Atoms :=
  Id.run (intern (m := Id) atomOf appIdProperty)

theorem Atoms.numberedBy_appId (atomOf : String → Atom) (appIdProperty : Option String) :
    (numberedBy atomOf appIdProperty).appId = appIdProperty.map atomOf := by
  cases appIdProperty <;> rfl

/-- The application id property is none of the other cached ones, if there is one. -/
def Atoms.Separate (atoms : Atoms) : Prop :=
  ∀ property, atoms.appId = some property →
    ¬ atoms.Names property ∧ property ≠ atoms.wmClass ∧ property ≠ atoms.wmClientLeader

section Numbered

variable {atomOf : String → Atom} {appIdProperty : Option String}
  (hnumbering : AtomNumbering atomOf (cachedProperties ++ appIdProperty.toList))
include hnumbering

theorem AtomNumbering.ne {a b : String} (ha : a ∈ cachedProperties) (hb : b ∈ cachedProperties)
    (hne : a ≠ b) : atomOf a ≠ atomOf b := fun h =>
  hne (hnumbering.distinct a (List.mem_append_left _ ha) b (List.mem_append_left _ hb) h)

theorem AtomNumbering.tellsApart : (Atoms.numberedBy atomOf appIdProperty).TellsApart where
  wmClass := hnumbering.wmClass
  class_not_name := by
    rintro (h | h)
    · exact hnumbering.ne (by decide) (by decide) (by decide) h
    · exact hnumbering.ne (by decide) (by decide) (by decide) h
  leader_not_name := by
    rintro (h | h)
    · exact hnumbering.ne (by decide) (by decide) (by decide) h
    · exact hnumbering.ne (by decide) (by decide) (by decide) h
  leader_ne_class := hnumbering.ne (by decide) (by decide) (by decide)

theorem AtomNumbering.separate
    (hconfigured : ∀ name, appIdProperty = some name → name ∉ cachedProperties) :
    (Atoms.numberedBy atomOf appIdProperty).Separate := by
  intro property happId
  rw [Atoms.numberedBy_appId] at happId
  obtain ⟨name, rfl, rfl⟩ := Option.map_eq_some_iff.1 happId
  have hne {other : String} (hother : other ∈ cachedProperties) : atomOf name ≠ atomOf other := by
    intro h
    have hsame := hnumbering.distinct name (List.mem_append_right _ (List.mem_singleton_self _))
      other (List.mem_append_left _ hother) h
    exact hconfigured name rfl (hsame ▸ hother)
  refine ⟨?_, hne (by decide), hne (by decide)⟩
  rintro (h | h)
  · exact hne (by decide) h
  · exact hne (by decide) h

end Numbered

section Reading

variable {atoms : Atoms} {property : Atom}

theorem Reading.ofProperty_of_names (hname : atoms.Names property) :
    ofProperty atoms property = .title := if_pos hname

theorem Reading.ofProperty_wmClass (htells : atoms.TellsApart) :
    ofProperty atoms atoms.wmClass = .className :=
  (if_neg htells.class_not_name).trans (if_pos rfl)

theorem Reading.ofProperty_appId (hseparate : atoms.Separate)
    (happId : atoms.appId = some property) : ofProperty atoms property = .appId property := by
  obtain ⟨hname, hclass, -⟩ := hseparate property happId
  exact (if_neg hname).trans ((if_neg hclass).trans (if_pos happId.symm))

theorem Reading.ofProperty_clientLeader (htells : atoms.TellsApart) (hseparate : atoms.Separate) :
    ofProperty atoms atoms.wmClientLeader = .clientLeader := by
  have happId : ¬ some atoms.wmClientLeader = atoms.appId :=
    fun h => (hseparate _ h.symm).2.2 rfl
  exact (if_neg htells.leader_not_name).trans ((if_neg htells.leader_ne_class).trans
    ((if_neg happId).trans (if_pos rfl)))

end Reading

/-! ### Reading from a store -/

section Store

variable {χ : Type} (r : Recorded (Surroundings χ PropertyStore))

theorem Recorded.text_read (id : WindowId) (property : Atom) :
    PropertySource.text id property r = (r.world.properties.text id property, r) := by
  have hread := r.world.properties.text_read id property
  simp only [PropertySource.text] at hread ⊢
  rw [hread]

theorem Recorded.className_read (id : WindowId) :
    PropertySource.className id r = (r.world.properties.className id, r) := by
  have hread := r.world.properties.className_read id
  simp only [PropertySource.className] at hread ⊢
  rw [hread]

theorem Recorded.window_read (id : WindowId) (property : Atom) :
    PropertySource.window id property r = (r.world.properties.window id property, r) := by
  have hread := r.world.properties.window_read id property
  simp only [PropertySource.window] at hread ⊢
  rw [hread]

theorem Recorded.title_read (atoms : Atoms) (id : WindowId) :
    readTitle atoms id r = (r.world.properties.title atoms id, r) := by
  rw [readTitle, r.text_read, PropertyStore.title]
  cases r.world.properties.text id atoms.netWmName with
  | some title => rfl
  | none =>
      simp only [r.text_read]
      rfl

variable (w : Window) (setting : Setting) (reading : Reading)

theorem Window.reread_title :
    (w.reread setting r reading).1.title =
      if reading = .title ∨ reading = .all then r.world.properties.title setting.atoms w.id
      else w.title := by
  cases reading <;> simp [reread, takenOver, r.title_read]

theorem Window.reread_className :
    (w.reread setting r reading).1.className =
      if reading = .className ∨ reading = .all then r.world.properties.className w.id
      else w.className := by
  cases reading <;> simp [reread, takenOver, r.className_read, r.title_read]

theorem Window.reread_clientLeader :
    (w.reread setting r reading).1.clientLeader =
      if reading = .clientLeader ∨ reading = .all then
        r.world.properties.window w.id setting.atoms.wmClientLeader
      else w.clientLeader := by
  cases reading <;> simp [reread, takenOver, r.className_read, r.title_read, r.window_read]

/-- With an application id property configured, it is read as itself or with everything else. -/
theorem Window.reread_appIdProperty {property : Atom} (happId : setting.atoms.appId = some property)
    (hother : ∀ other, reading = .appId other → other = property) :
    (w.reread setting r reading).1.appIdProperty =
      if reading = .appId property ∨ reading = .all then r.world.properties.text w.id property
      else w.appIdProperty := by
  cases reading with
  | appId other =>
      obtain rfl := hother other rfl
      simp [reread, r.text_read]
  | all =>
      simp [reread, takenOver, readAppId, happId, r.className_read, r.title_read, r.window_read,
        r.text_read]
  | _ => simp [reread]

/-- Without an application id property there is nothing to be read of one. -/
theorem Window.reread_appIdProperty_of_none (hnone : setting.atoms.appId = none)
    (hother : ∀ other, reading ≠ .appId other) :
    (w.reread setting r reading).1.appIdProperty = w.appIdProperty := by
  cases reading with
  | appId other => exact absurd rfl (hother other)
  | all => simp [reread, takenOver, readAppId, hnone]
  | _ => rfl

end Store

/-! ### One record -/

/-- What a record has from the properties of its window follows the display. -/
structure Window.Caches (atoms : Atoms) (store : PropertyStore) (awaited : Atom → Prop)
    (w : Window) : Prop where
  title : Follows w.title (store.title atoms w.id) atoms.Names awaited
  className : Follows w.className (store.className w.id) (· = atoms.wmClass) awaited
  clientLeader : atoms.Separate →
    Follows w.clientLeader (store.window w.id atoms.wmClientLeader) (· = atoms.wmClientLeader)
      awaited
  appIdProperty : atoms.Separate → ∀ property, atoms.appId = some property →
    Follows w.appIdProperty (store.text w.id property) (· = property) awaited

namespace Window.Caches

variable {atoms : Atoms} {store : PropertyStore} {awaited awaited' : Atom → Prop} {w : Window}

theorem mono (h : w.Caches atoms store awaited) (hawaited : ∀ p, awaited p → awaited' p) :
    w.Caches atoms store awaited' where
  title := h.title.mono hawaited
  className := h.className.mono hawaited
  clientLeader hseparate := (h.clientLeader hseparate).mono hawaited
  appIdProperty hseparate p happId := (h.appIdProperty hseparate p happId).mono hawaited

/-- What the host was told of the state does not matter. -/
theorem hostState (h : w.Caches atoms store awaited) (hostState : WindowState) :
    { w with hostState := hostState }.Caches atoms store awaited :=
  ⟨h.title, h.className, h.clientLeader, h.appIdProperty⟩

/-- The display changes a property, of this window or of another one. -/
theorem change (htells : atoms.TellsApart) (h : w.Caches atoms store awaited) {id : WindowId}
    {property : Atom} (value : Option PropertyValue) (hawaited : ∀ p, awaited p → awaited' p)
    (hchanged : w.id = id → awaited' property) :
    w.Caches atoms (store.set id property value) awaited' where
  title := h.title.change (fun hmiss => store.title_set_of_ne value hmiss) hawaited hchanged
  className := by
    refine h.className.change (fun hmiss => store.className_set_of_ne value ?_) hawaited hchanged
    rw [← htells.wmClass]
    exact fun h => hmiss ⟨h.1, h.2.symm⟩
  clientLeader hseparate := (h.clientLeader hseparate).change
    (fun hmiss => store.window_set_of_ne value fun h => hmiss ⟨h.1, h.2.symm⟩) hawaited hchanged
  appIdProperty hseparate p happId := (h.appIdProperty hseparate p happId).change
    (fun hmiss => store.text_set_of_ne value fun h => hmiss ⟨h.1, h.2.symm⟩) hawaited hchanged

end Window.Caches

/-- A record under the number of its window follows the display while it is managed.  Without
an application id property there is nothing recorded of one. -/
structure Window.Tended (atoms : Atoms) (store : PropertyStore) (awaited : Atom → Prop)
    (id : WindowId) (w : Window) : Prop where
  id_eq : w.id = id
  unread : atoms.appId = none → w.appIdProperty = none
  caches : w.managed = true → w.Caches atoms store awaited

theorem Window.Tended.mono {atoms : Atoms} {store : PropertyStore} {awaited awaited' : Atom → Prop}
    {id : WindowId} {w : Window} (h : w.Tended atoms store awaited id)
    (hawaited : ∀ p, awaited p → awaited' p) : w.Tended atoms store awaited' id :=
  ⟨h.id_eq, h.unread, fun hmanaged => (h.caches hmanaged).mono hawaited⟩

section Step

variable {χ : Type} {setting : Setting} {w w' : Window}
  {r : Recorded (Surroundings χ PropertyStore)} {operation : Operation} {sending : Sending}
  {awaited : Atom → Prop}

theorem Operation.appId_of_reading {property : Atom}
    (hreading : operation.reading setting = .appId property) :
    setting.atoms.appId = some property := by
  cases operation with
  | guest change =>
      cases change with
      | propertyChanged other =>
          change Reading.ofProperty setting.atoms other = _ at hreading
          unfold Reading.ofProperty at hreading
          split at hreading
          · cases hreading
          · split at hreading
            · cases hreading
            · split at hreading
              next happId =>
                cases hreading
                exact happId.symm
              next => split at hreading <;> cases hreading
      | _ => cases hreading
  | _ => cases hreading

/-- An operation keeps the record up to date, but for what is awaited, and a notification that
it takes in is awaited no longer.  If it takes the window over, the record need not have been
up to date before. -/
theorem PropertyStep.caches (htells : setting.atoms.TellsApart)
    (hstep : PropertyStep setting w r operation w' sending)
    (h : operation ≠ .guest .mapRequested → w.Caches setting.atoms r.world.properties fun p =>
      operation = .guest (.propertyChanged p) ∨ awaited p) :
    w'.Caches setting.atoms r.world.properties awaited := by
  have hkept {reads : Prop} (hreads : ¬ (reads ∨ operation.reading setting = .all)) :=
    h fun hop => hreads (Or.inr (by rw [hop]; rfl))
  have hnotice {p : Atom} {reading : Reading} (hop : operation = .guest (.propertyChanged p))
      (hreads : Reading.ofProperty setting.atoms p = reading) :
      operation.reading setting = reading ∨ operation.reading setting = .all := by
    rw [hop]
    exact Or.inl hreads
  constructor
  · rw [hstep.id]
    exact .read (hstep.properties.title.trans (Window.reread_title r w setting _))
      (fun hreads => (hkept hreads).title)
      fun p hname hop => hnotice hop (Reading.ofProperty_of_names hname)
  · rw [hstep.id]
    refine .read (hstep.properties.className.trans (Window.reread_className r w setting _))
      (fun hreads => (hkept hreads).className) ?_
    rintro p rfl hop
    exact hnotice hop (Reading.ofProperty_wmClass htells)
  · intro hseparate
    rw [hstep.id]
    refine .read (hstep.properties.clientLeader.trans (Window.reread_clientLeader r w setting _))
      (fun hreads => (hkept hreads).clientLeader hseparate) ?_
    rintro p rfl hop
    exact hnotice hop (Reading.ofProperty_clientLeader htells hseparate)
  · intro hseparate property happId
    rw [hstep.id]
    refine .read (hstep.properties.appIdProperty.trans
      (Window.reread_appIdProperty r w setting _ happId fun other hreading =>
        Option.some.inj ((Operation.appId_of_reading hreading).symm.trans happId)))
      (fun hreads => (hkept hreads).appIdProperty hseparate property happId) ?_
    rintro p rfl hop
    exact hnotice hop (Reading.ofProperty_appId hseparate happId)

theorem PropertyStep.tended (htells : setting.atoms.TellsApart) {id : WindowId}
    (hstep : PropertyStep setting w r operation w' sending)
    (h : w.Tended setting.atoms r.world.properties
      (fun p => operation = .guest (.propertyChanged p) ∨ awaited p) id) :
    w'.Tended setting.atoms r.world.properties awaited id where
  id_eq := hstep.id.trans h.id_eq
  unread hnone := by
    rw [hstep.properties.appIdProperty, Window.reread_appIdProperty_of_none r w setting _ hnone]
    · exact h.unread hnone
    · intro property hreading
      have happId := Operation.appId_of_reading hreading
      rw [hnone] at happId
      cases happId
  caches hmanaged := hstep.caches htells fun hmap =>
    h.caches ((Operation.managed_of_managedAfter
      (hstep.managed.symm.trans hmanaged)).resolve_left hmap).1

/-- A record with which a window begins to be tracked. -/
theorem Fresh.tended (htells : setting.atoms.TellsApart) {id : WindowId}
    (h : Fresh setting id r w) : w.Tended setting.atoms r.world.properties awaited id := by
  have hcreated (overrideRedirect : Bool) (geometry : Geometry) (awaited : Atom → Prop) :
      (Window.created id overrideRedirect geometry).Tended setting.atoms r.world.properties
        awaited id :=
    ⟨rfl, fun _ => rfl, nofun⟩
  cases h with
  | created overrideRedirect geometry => exact hcreated overrideRedirect geometry awaited
  | takenOver geometry =>
      have hwrites : Writes setting (.created id false geometry) r (.guest .mapRequested) _ _ _ :=
        .mapRequested
      exact (hwrites.propertyStep nofun nofun).tended htells (hcreated false geometry _)

end Step

end GuestShell

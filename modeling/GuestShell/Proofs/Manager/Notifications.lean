import GuestShell.Proofs.Manager.PropertyCache

/-!
# Notifications about properties

A window manager with a display: the display changes properties and queues a notification for
every change, and the window manager takes the notifications in one by one.  Between any two
of these, anything else can happen to a window.

At every point the records of managed windows follow the display (`NotifiedManager.Coherent`),
and once no notification about such a window is waiting, its record has what the display has.
When that is the case is NOT said here: a display that changes properties all the time need
never be caught up with.
-/

namespace GuestShell

/-- What happens: the display sets or deletes a property, the window manager takes in the
notification that waited longest, or something else happens to a window. -/
inductive Happening where
  | changed (id : WindowId) (property : Atom) (value : Option PropertyValue)
  | delivered
  | operated (id : WindowId) (operation : Operation)

/-- What a happening makes of the properties of windows. -/
def Happening.change (store : PropertyStore) : Happening → PropertyStore
  | .changed id property value => store.set id property value
  | .delivered | .operated .. => store

/-- A window manager with its channel to the host and a display with the notifications about
properties that it did not deliver yet, oldest first. -/
structure NotifiedManager (χ : Type) where
  manager : Manager
  channel : χ
  store : PropertyStore
  pending : List (WindowId × Atom)

namespace NotifiedManager

variable {χ : Type} [HostChannel χ]

/-- Nothing was changed yet. -/
def start (setting : Setting) (channel : χ) (store : PropertyStore) : NotifiedManager χ :=
  ⟨.new setting, channel, store, []⟩

/-- Performs an operation, which reads what is in the store at this time. -/
def operate (s : NotifiedManager χ) (id : WindowId) (operation : Operation) : NotifiedManager χ :=
  let o := s.manager.perform id operation (⟨s.channel, s.store⟩ : Surroundings χ PropertyStore)
  { s with manager := o.value, channel := o.world.channel, store := o.world.properties }

def step (s : NotifiedManager χ) : Happening → NotifiedManager χ
  | .changed id property value =>
      { s with
        store := s.store.set id property value
        pending := s.pending ++ [(id, property)] }
  | .delivered =>
    match s.pending with
    | [] => s
    | (id, property) :: rest =>
        { s with pending := rest }.operate id (.guest (.propertyChanged property))
  | .operated id operation => s.operate id operation

def run (s : NotifiedManager χ) (happenings : List Happening) : NotifiedManager χ :=
  happenings.foldl step s

/-- Operations leave the store. -/
theorem operate_store (s : NotifiedManager χ) (id : WindowId) (operation : Operation) :
    (s.operate id operation).store = s.store := by
  have hinvariant : WorldInvariant fun world : Surroundings χ PropertyStore =>
      world.properties = s.store := by
    refine ⟨fun _ _ h => h, ?_, ?_, ?_⟩
    · intro id property world h
      exact (congrArg Prod.snd (world.properties.text_read id property)).trans h
    · intro id world h
      exact (congrArg Prod.snd (world.properties.className_read id)).trans h
    · intro id property world h
      exact (congrArg Prod.snd (world.properties.window_read id property)).trans h
  exact hinvariant.step s.manager.setting id operation s.manager.windows[id]? rfl

/-- The store is what the display made of it. -/
theorem run_store (s : NotifiedManager χ) (happenings : List Happening) :
    (s.run happenings).store = happenings.foldl Happening.change s.store := by
  induction happenings generalizing s with
  | nil => rfl
  | cons happening happenings ih =>
      have hstep : (s.step happening).store = happening.change s.store := by
        cases happening with
        | changed id property value => rfl
        | delivered =>
            rw [step]
            split
            · rfl
            · exact operate_store _ _ _
        | operated id operation => exact operate_store s id operation
      rw [List.foldl_cons, ← hstep]
      exact ih (s.step happening)

/-- Every record follows the display. -/
structure Coherent (setting : Setting) (s : NotifiedManager χ) : Prop where
  setting_eq : s.manager.setting = setting
  tended : ∀ (id : WindowId) (w : Window), s.manager.windows[id]? = some w →
    w.Tended setting.atoms s.store (fun p => (id, p) ∈ s.pending) id

omit [HostChannel χ] in
theorem coherent_start (setting : Setting) (channel : χ) (store : PropertyStore) :
    (start setting channel store).Coherent setting where
  setting_eq := rfl
  tended id w hw := by
    rw [start, Manager.getElem?_new] at hw
    cases hw

variable {setting : Setting} {s : NotifiedManager χ}

/-- An operation leaves every record following, and the notification that it takes in, if it
is one, need not be in the queue any more. -/
theorem coherent_operate (htells : setting.atoms.TellsApart) (id : WindowId) (operation : Operation)
    (hsetting : s.manager.setting = setting)
    (htended : ∀ (other : WindowId) (w : Window), s.manager.windows[other]? = some w →
      w.Tended setting.atoms s.store
        (fun p => other = id ∧ operation = .guest (.propertyChanged p) ∨ (other, p) ∈ s.pending)
        other) :
    (s.operate id operation).Coherent setting where
  setting_eq := hsetting
  tended other w hw := by
    let call : Call (Surroundings χ PropertyStore) := ⟨id, operation, ⟨s.channel, s.store⟩⟩
    rw [operate_store]
    change (s.manager.after call).windows[other]? = some w at hw
    by_cases hid : id = other
    · subst hid
      cases hbefore : s.manager.windows[id]? with
      | none =>
          have hvalue := (s.manager.after_eq_recorded call hbefore).1
          rw [hw, hsetting] at hvalue
          exact (step_fresh hvalue.symm).tended htells
      | some w₀ =>
          obtain ⟨w₁, r₁, sending, hostState, -, hstep, rfl⟩ :=
            s.manager.after_record call hbefore hw
          rw [hsetting] at hstep
          have hwritten := hstep.tended htells
            ((htended id w₀ hbefore).mono fun p h => h.imp_left And.right)
          exact ⟨hwritten.id_eq, hwritten.unread,
            fun hmanaged => (hwritten.caches hmanaged).hostState hostState⟩
    · rw [Manager.after_getElem?_of_ne _ hid] at hw
      exact (htended other w hw).mono fun p h => h.resolve_left fun h => hid h.1.symm

theorem coherent_step (htells : setting.atoms.TellsApart) (h : s.Coherent setting)
    (happening : Happening) : (s.step happening).Coherent setting := by
  cases happening with
  | changed id property value =>
      refine ⟨h.setting_eq, fun other w hw => ?_⟩
      have htended := h.tended other w hw
      refine ⟨htended.id_eq, htended.unread, fun hmanaged => ?_⟩
      refine (htended.caches hmanaged).change htells value
        (fun p hp => List.mem_append_left _ hp) fun hid => ?_
      rw [← htended.id_eq, hid]
      exact List.mem_append_right _ List.mem_cons_self
  | delivered =>
      rw [step]
      split
      · exact h
      next id property rest hpending =>
        refine coherent_operate htells id _ h.setting_eq fun other w hw =>
          (h.tended other w hw).mono fun p hp => ?_
        rw [hpending] at hp
        rcases List.mem_cons.1 hp with hhead | hrest
        · cases hhead
          exact Or.inl ⟨rfl, rfl⟩
        · exact Or.inr hrest
  | operated id operation =>
      exact coherent_operate htells id operation h.setting_eq fun other w hw =>
        (h.tended other w hw).mono fun p hp => Or.inr hp

theorem coherent_run (htells : setting.atoms.TellsApart) (h : s.Coherent setting)
    (happenings : List Happening) : (s.run happenings).Coherent setting := by
  induction happenings generalizing s with
  | nil => exact h
  | cons happening happenings ih => exact ih (coherent_step htells h happening)

/-! ### Windows that are managed -/

/-- The window is tracked and managed. -/
structure Manages (s : NotifiedManager χ) (id : WindowId) : Prop where
  managed : ∃ w : Window, s.manager.windows[id]? = some w ∧ w.managed = true

/-- A window is managed once it is asked for to be mapped. -/
theorem manages_of_mapRequested (s : NotifiedManager χ) (id : WindowId) :
    (s.operate id (.guest .mapRequested)).Manages id := by
  let call : Call (Surroundings χ PropertyStore) :=
    ⟨id, .guest .mapRequested, ⟨s.channel, s.store⟩⟩
  have hvalue := (s.manager.after_eq_recorded call rfl).1
  let w := trackedOrNew id s.manager.windows[id]?
  let read := w.takenOver s.manager.setting (Recorded.start call.world)
  obtain ⟨hostState, hkept⟩ :=
    Sending.applicationId.perform_value s.manager.setting.identity read.1 read.2
  exact ⟨_, hvalue, (congrArg Window.managed hkept).trans rfl⟩

/-- Notifications about properties leave windows managed. -/
theorem Manages.delivered {id : WindowId} (h : s.Manages id) : (s.step .delivered).Manages id := by
  obtain ⟨w, hw, hmanaged⟩ := h
  rw [step]
  split
  · exact ⟨w, hw, hmanaged⟩
  next other property rest hpending =>
    let call : Call (Surroundings χ PropertyStore) :=
      ⟨other, .guest (.propertyChanged property), ⟨s.channel, s.store⟩⟩
    by_cases hid : other = id
    · subst hid
      rcases s.manager.after_propertyStep call hw with
        ⟨hforgets, -, -⟩ | ⟨w₁, r₁, sending, -, hstep, hvalue, -, -⟩
      · rcases hforgets with hop | ⟨parent, -, hop⟩ <;> cases hop
      · obtain ⟨hostState, hkept⟩ := sending.perform_value s.manager.setting.identity w₁ r₁
        rw [hkept] at hvalue
        exact ⟨_, hvalue, hstep.managed.trans hmanaged⟩
    · have hother := s.manager.after_getElem?_of_ne (show call.id ≠ id from hid)
      exact ⟨w, hother.trans hw, hmanaged⟩

/-- A window stays managed while properties change and notifications are delivered. -/
theorem Manages.run {id : WindowId} (h : s.Manages id) {happenings : List Happening}
    (hquiet : ∀ happening ∈ happenings, ∀ other operation, happening ≠ .operated other operation) :
    (s.run happenings).Manages id := by
  induction happenings generalizing s with
  | nil => exact h
  | cons happening happenings ih =>
      have hrest := fun other hmem => hquiet other (List.mem_cons_of_mem _ hmem)
      cases happening with
      | changed => exact ih ⟨h.managed⟩ hrest
      | delivered => exact ih h.delivered hrest
      | operated other operation => exact absurd rfl (hquiet _ List.mem_cons_self other operation)

/-! ### Records of managed windows -/

/-- Records keep up with the display.  Whatever was changed, delivered and operated in which
order, a managed window about which no notification is waiting has the title and the class that
the display has now, and the client leader and the application id property too, unless the
property that is configured for application ids is one of the other cached ones. -/
theorem records_follow_display (setting : Setting) (atomOf : String → Atom)
    (hatoms : setting.atoms = .numberedBy atomOf setting.identity.appIdProperty)
    (hnumbering : AtomNumbering atomOf (cachedProperties ++ setting.identity.appIdProperty.toList))
    (channel : χ) (store : PropertyStore) (happenings : List Happening) {id : WindowId}
    {w : Window} :
    let s := (start setting channel store).run happenings
    s.manager.windows[id]? = some w → w.managed = true →
    (∀ property, (id, property) ∉ s.pending) →
      w.title = ((s.store.text id (atomOf "_NET_WM_NAME")).or
        (s.store.text id (atomOf "WM_NAME"))).getD "" ∧
      w.className = s.store.className id ∧
      ((∀ name, setting.identity.appIdProperty = some name → name ∉ cachedProperties) →
        w.clientLeader = s.store.window id (atomOf "WM_CLIENT_LEADER") ∧
        w.appIdProperty =
          setting.identity.appIdProperty.bind fun name => s.store.text id (atomOf name)) := by
  intro s hw hmanaged hnone
  have htells : setting.atoms.TellsApart := hatoms ▸ hnumbering.tellsApart
  have hcoherent : s.Coherent setting :=
    coherent_run htells (coherent_start setting channel store) happenings
  have htended := hcoherent.tended id w hw
  have hcaches := htended.caches hmanaged
  have htitle := hcaches.title.eq_of_forall hnone
  have hclass := hcaches.className.eq_of_forall hnone
  rw [htended.id_eq] at htitle hclass
  refine ⟨?_, hclass, fun hconfigured => ?_⟩
  · rw [htitle, hatoms]
    rfl
  · have hseparate : setting.atoms.Separate := hatoms ▸ hnumbering.separate hconfigured
    have hleader := (hcaches.clientLeader hseparate).eq_of_forall hnone
    rw [htended.id_eq, hatoms] at hleader
    refine ⟨hleader, ?_⟩
    have happId : setting.atoms.appId = setting.identity.appIdProperty.map atomOf := by
      rw [hatoms, Atoms.numberedBy_appId]
    cases hname : setting.identity.appIdProperty with
    | none =>
        rw [hname] at happId
        exact htended.unread happId
    | some name =>
        rw [hname] at happId
        have hproperty := (hcaches.appIdProperty hseparate _ happId).eq_of_forall hnone
        rw [htended.id_eq] at hproperty
        exact hproperty

/-- Numbers for the cached properties, and one for all other names. -/
def numbering (name : String) : Atom :=
  match name with
  | "WM_NAME" => 39
  | "WM_CLASS" => 67
  | "_NET_WM_NAME" => 200
  | "WM_CLIENT_LEADER" => 201
  | _ => 202

/-- A setting with an application id property. -/
def identifying : Setting :=
  { Setting.plain true with
    atoms := .numberedBy numbering (some "APPLICATION_ID")
    identity := { Identity.default with appIdProperty := some "APPLICATION_ID" } }

/-- A string as the value of a property. -/
def stringValue (bytes : List UInt8) : PropertyValue :=
  ⟨PredefinedAtom.string.number, 8, bytes⟩

/-- The bytes of `mail`. -/
def mail : List UInt8 := [109, 97, 105, 108]

theorem decodeLossy_mail : Utf8.decodeLossy mail = "mail" := by
  simp [mail, Utf8.decodeLossy, Utf8.decodeFrom, Utf8.decodeFrom.begin, Utf8.Start.ofByte]

/-- The bytes of `Mail`. -/
def mailClass : List UInt8 := [77, 97, 105, 108]

theorem decodeLossy_mailClass : Utf8.decodeLossy mailClass = "Mail" := by
  simp [mailClass, Utf8.decodeLossy, Utf8.decodeFrom, Utf8.decodeFrom.begin, Utf8.Start.ofByte]

/-- After a window was mapped, and before the first change is noticed, there are others. -/
def renamings : List Happening :=
  [.changed 7 200 none,
   .delivered,
   .changed 7 39 (some (stringValue mail)),
   .changed 7 67 (some (stringValue (mail ++ 0 :: (mailClass ++ 0 :: [])))),
   .changed 7 202 (some (stringValue mail)),
   .delivered,
   .delivered,
   .delivered,
   .delivered]

/-- A window is mapped before a change of its title is noticed, and then it is renamed and gets a
class.  Once every notification is delivered, the record is up to date. -/
theorem records_follow_display_renamings :
    let mapped : List Happening :=
      [.changed 7 200 (some (stringValue [])), .operated 7 (.guest .mapRequested)]
    let s := (start identifying Queue.empty .empty).run (mapped ++ renamings)
    ∃ w, s.manager.windows[(7 : WindowId)]? = some w ∧ w.managed = true ∧ s.pending = [] ∧
      w.title = "mail" ∧ w.className = some "Mail" ∧ w.appIdProperty = some "mail" := by
  intro mapped s
  have hnumbering : AtomNumbering numbering
      (cachedProperties ++ identifying.identity.appIdProperty.toList) :=
    ⟨by decide +kernel, rfl⟩
  have hmanages : s.Manages 7 := by
    have hquiet : ∀ happening ∈ renamings, ∀ other operation,
        happening ≠ .operated other operation := by
      simp [renamings]
    have hmapped : ((start identifying Queue.empty .empty).run mapped).Manages 7 :=
      manages_of_mapRequested _ 7
    have hrun := hmapped.run hquiet
    rwa [NotifiedManager.run, NotifiedManager.run, ← List.foldl_append] at hrun
  obtain ⟨w, hw, hmanaged⟩ := hmanages
  have hpending : s.pending = [] := rfl
  obtain ⟨htitle, hclass, hseparate⟩ := records_follow_display identifying numbering rfl hnumbering
    Queue.empty .empty (mapped ++ renamings) hw hmanaged fun property => by
      change (7, property) ∉ s.pending
      rw [hpending]
      exact List.not_mem_nil
  obtain ⟨-, happId⟩ := hseparate (by rintro name ⟨⟩; decide)
  have hnet : s.store.text 7 (numbering "_NET_WM_NAME") = none := by
    rw [run_store]
    rfl
  have hname : s.store.text 7 (numbering "WM_NAME") = some (Utf8.decodeLossy mail) := by
    rw [run_store]
    rfl
  have hproperty : s.store.text 7 (numbering "APPLICATION_ID") =
      some (Utf8.decodeLossy mail) := by
    rw [run_store]
    rfl
  have hparsed : s.store.className 7 = parseWmClass (mail ++ 0 :: (mailClass ++ 0 :: [])) := by
    rw [run_store]
    rfl
  rw [hparsed, parseWmClass_terminated (by decide) (by decide), decodeLossy_mailClass] at hclass
  refine ⟨w, hw, hmanaged, hpending, ?_, hclass, ?_⟩
  · rw [hnet, hname, decodeLossy_mail] at htitle
    exact htitle
  · rw [decodeLossy_mail] at hproperty
    exact happId.trans hproperty

end NotifiedManager

end GuestShell

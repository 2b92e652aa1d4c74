import GuestShell.Proofs.Manager.ApplicationId
import GuestShell.Proofs.Manager.Failures
import GuestShell.Proofs.Manager.Notifications

/-!
# The property that is configured for application ids

The property that may hold a window's own application id can have any name, also one of those
that the window manager reads for something else.  When it takes a window over it reads the
property for each purpose.  A notification it reads for one purpose only: one that is about a
name of the window is read as a title, and one about the class as a class, whatever else the
property is configured for.

So a notification about the configured property takes effect unless another purpose hides that
one (`Manager.configuredId_takesEffect_iff`).  When a hidden change is noticed after all is NOT said
here; the next time is when the window is to be mapped again.
-/

namespace GuestShell

theorem Atoms.names_numberedBy (atomOf : String → Atom) (appIdProperty : Option String)
    (property : Atom) : (numberedBy atomOf appIdProperty).Names property ↔
      property = atomOf "WM_NAME" ∨ property = atomOf "_NET_WM_NAME" := Iff.rfl

theorem Atoms.numberedBy_wmClass (atomOf : String → Atom) (appIdProperty : Option String) :
    (numberedBy atomOf appIdProperty).wmClass = atomOf "WM_CLASS" := rfl

/-- A notification about the configured property is read for it if it is not about a name or the
class. -/
theorem Reading.ofProperty_configured {atoms : Atoms} {property : Atom}
    (happId : atoms.appId = some property) (hname : ¬atoms.Names property)
    (hclass : property ≠ atoms.wmClass) : ofProperty atoms property = .appId property :=
  (if_neg hname).trans ((if_neg hclass).trans (if_pos happId.symm))

section Reread

variable {ω : Type} [PropertySource ω] (w : Window) (setting : Setting) (world : ω)
  (reading : Reading)

theorem Window.reread_auraSurface :
    (w.reread setting world reading).1.auraSurface = w.auraSurface := by
  cases reading <;> rfl

/-- Only taking a window over makes it managed. -/
theorem Window.reread_managed (hother : reading ≠ .all) :
    (w.reread setting world reading).1.managed = w.managed := by
  cases reading with
  | all => exact absurd rfl hother
  | _ => rfl

end Reread

/-- A request that has a text which fits into a message is accepted by a channel that takes what
it is offered. -/
theorem ShellRequest.Offered.acceptedRequests_of_taken {request : ShellRequest}
    {result : Except ManagerError Unit} {offers : List Offer} {text : String}
    (h : request.Offered result offers) (htext : request.text? = some text)
    (hfits : (Utf8.encode text).length ≤ 65519) (htaken : ∀ o ∈ offers, o.accepted = true) :
    Offer.acceptedRequests offers = [request] := by
  cases h with
  | accepted hbytes => exact (Offered.accepted hbytes).acceptedRequests_of_ok
  | refused hbytes e => exact absurd (htaken _ (List.mem_singleton_self _)) Bool.false_ne_true
  | tooLong hbytes =>
      have hlong := ((encode_eq_error_iff htext _).1 hbytes).1
      omega

namespace Manager

variable {ω : Type} [HostChannel ω] [PropertySource ω]

/-- The notification that a property of a window changed. -/
def notifies (id : WindowId) (property : Atom) (world : ω) : Call ω :=
  ⟨id, .guest (.propertyChanged property), world⟩

/-- A call leaves the current text of a property as the application id property of its window, and
it got one application id accepted for an aura surface, the one that the record has then. -/
inductive TakesEffect (m : Manager) (call : Call ω) (property : Atom) (auraSurface : UInt32) : Prop
  | told {w : Window} (hw : (m.after call).windows[call.id]? = some w)
      (htext : w.appIdProperty = (PropertySource.text call.id property call.world).1)
      (hone : (Offer.acceptedRequests (m.offers call)).filter (·.isApplicationId) =
        [.setApplicationId auraSurface (m.setting.identity.resolve w)])

/-- A notification about a name is read as one about the title, and no application id is told. -/
theorem notifies_name (m : Manager) {property : Atom} (hname : m.setting.atoms.Names property)
    (id : WindowId) (world : ω) :
    (Offer.acceptedRequests (m.offers (notifies id property world))).filter
      (·.isApplicationId) = [] := by
  have hreads := Reading.ofProperty_of_names hname
  refine filter_acceptedRequests_eq_nil (m.offers_of_not_identifies _ ?_)
  intro w _ hidentifies
  obtain ⟨-, hclass | happId⟩ := Operation.identifies_propertyChanged.1 hidentifies
  · cases hreads.symm.trans hclass
  · cases hreads.symm.trans happId

section Notified

variable (m : Manager) {id : WindowId} {w : Window} (hw : m.windows[id]? = some w)
  (property : Atom) (world : ω)

include hw

/-- A notification about a tracked window has a property read again and what follows from it
sent. -/
theorem after_notifies :
    let call := notifies id property world
    let reading := Reading.ofProperty m.setting.atoms property
    let read := w.reread m.setting (Recorded.start world) reading
    let o := (reading.sending w read.1).perform m.setting.identity read.1 read.2
    (m.after call).windows[id]? = some o.value ∧ m.result call = o.result ∧
      m.offers call = o.world.offers := by
  intro call reading read o
  have hafter := m.after_eq_recorded call hw
  have hstep : call.operation.step m.setting id (some w) (Recorded.start call.world) =
      o.map some :=
    congrArg (Outcome.map some) (w.propertyChanged_eq m.setting property (Recorded.start world))
  rw [show call.id = id from rfl, hstep] at hafter
  exact hafter

variable {auraSurface : UInt32} (hmanaged : w.managed = true)
  (haura : w.auraSurface = some auraSurface)
  (htaken : ∀ o ∈ m.offers (notifies id property world), o.accepted = true)
  (hfits : ∀ w', (m.after (notifies id property world)).windows[id]? = some w' →
    (Utf8.encode (m.setting.identity.resolve w')).length ≤ 65519)

include hmanaged haura htaken hfits

/-- A notification that is read for the class or for the application id leaves the record that was
read, and its id is told. -/
theorem notifies_told
    (hreads : Reading.ofProperty m.setting.atoms property = .className ∨
      Reading.ofProperty m.setting.atoms property = .appId property) :
    let call := notifies id property world
    let w' := (w.reread m.setting (Recorded.start world)
      (Reading.ofProperty m.setting.atoms property)).1
    (m.after call).windows[id]? = some w' ∧
      (Offer.acceptedRequests (m.offers call)).filter (·.isApplicationId) =
        [.setApplicationId auraSurface (m.setting.identity.resolve w')] := by
  intro call w'
  obtain ⟨hvalue, -, hoffers⟩ := m.after_notifies hw property world
  have hnone := (w.reread_writes m.setting (Recorded.start world)
    (rfl : Reading.ofProperty m.setting.atoms property = _)).1.offers_eq
  have hsurface : w'.auraSurface = some auraSurface := (w.reread_auraSurface _ _ _).trans haura
  have hsending : (Reading.ofProperty m.setting.atoms property).sending w w' = .applicationId := by
    have hnotAll : Reading.ofProperty m.setting.atoms property ≠ .all := by
      rcases hreads with hreads | hreads <;> simp [hreads]
    have hheld : w'.managed = true := (w.reread_managed _ _ _ hnotAll).trans hmanaged
    rcases hreads with hreads | hreads <;> rw [hreads]
    · exact (Sending.ofManaged_eq_applicationId w').2 hheld
    · exact (Sending.ofManaged_eq_applicationId w').2 hheld
  have hoffered := w'.sendApplicationId_offered hsurface m.setting.identity hnone
  rw [hsending] at hvalue hoffers
  have hrecord : (m.after call).windows[id]? = some w' := by
    refine hvalue.trans (congrArg some ?_)
    simp only [Sending.perform, Window.sendApplicationId]
    split <;> rfl
  refine ⟨hrecord, ?_⟩
  have haccepted := hoffered.acceptedRequests_of_taken rfl (hfits w' hrecord) (hoffers ▸ htaken)
  rw [hoffers, Sending.perform, haccepted]
  rfl

/-- Read for the class, the id is told from a record that has its application id property from
before. -/
theorem takesEffect_className
    (hreads : Reading.ofProperty m.setting.atoms property = .className) :
    m.TakesEffect (notifies id property world) property auraSurface ↔
      w.appIdProperty = (PropertySource.text id property world).1 := by
  obtain ⟨hrecord, hone⟩ :=
    m.notifies_told hw property world hmanaged haura htaken hfits (Or.inl hreads)
  rw [hreads] at hrecord hone
  constructor
  · rintro ⟨hw', htext, -⟩
    obtain rfl := Option.some.inj (hrecord.symm.trans hw')
    exact htext
  · exact fun htext => .told hrecord htext hone

theorem takesEffect_appId (hid : w.id = id)
    (hreads : Reading.ofProperty m.setting.atoms property = .appId property) :
    m.TakesEffect (notifies id property world) property auraSurface := by
  obtain ⟨hrecord, hone⟩ :=
    m.notifies_told hw property world hmanaged haura htaken hfits (Or.inr hreads)
  rw [hreads] at hrecord hone
  have htext : (w.reread m.setting (Recorded.start world) (.appId property)).1.appIdProperty =
      (PropertySource.text id property world).1 := by
    rw [← hid]
    rfl
  exact .told hrecord htext hone

end Notified

/-- When the configured application id property takes effect.  On a channel that takes what it is
offered, a notification about it has its current text recorded and the id that follows from it told,
exactly if the property is not one that names are read from, and the record has that text already if
it is the one that the class is read from.  This is so for every numbering of names, in every state
that is reached, and also where an id is forced on all windows. -/
theorem configuredId_takesEffect_iff (setting : Setting) (atomOf : String → Atom) {name : String}
    (hatoms : setting.atoms = .numberedBy atomOf setting.identity.appIdProperty)
    (hname : setting.identity.appIdProperty = some name) (calls : List (Call ω)) {id : WindowId}
    {w : Window} {auraSurface : UInt32} (hw : ((new setting).run calls).windows[id]? = some w)
    (hmanaged : w.managed = true) (haura : w.auraSurface = some auraSurface) (world : ω)
    (htaken : ∀ o ∈ ((new setting).run calls).offers (notifies id (atomOf name) world),
      o.accepted = true)
    (hfits : ∀ w', (((new setting).run calls).after
        (notifies id (atomOf name) world)).windows[id]? = some w' →
      (Utf8.encode (setting.identity.resolve w')).length ≤ 65519) :
    ((new setting).run calls).TakesEffect (notifies id (atomOf name) world) (atomOf name)
        auraSurface ↔
      atomOf name ≠ atomOf "WM_NAME" ∧ atomOf name ≠ atomOf "_NET_WM_NAME" ∧
      (atomOf name = atomOf "WM_CLASS" →
        w.appIdProperty = (PropertySource.text id (atomOf name) world).1) := by
  have hsetting : ((new setting).run calls).setting = setting := run_setting (new setting) calls
  have hid : w.id = id := id_eq_of_run setting calls hw
  -- of the run nothing else is used
  generalize (new setting).run calls = m at hw htaken hfits hsetting ⊢
  subst hsetting
  have happId : m.setting.atoms.appId = some (atomOf name) := by
    rw [hatoms, Atoms.numberedBy_appId, hname]
    rfl
  have hnames : m.setting.atoms.Names (atomOf name) ↔
      atomOf name = atomOf "WM_NAME" ∨ atomOf name = atomOf "_NET_WM_NAME" := by
    rw [hatoms, Atoms.names_numberedBy]
  have hwmClass : m.setting.atoms.wmClass = atomOf "WM_CLASS" := by
    rw [hatoms, Atoms.numberedBy_wmClass]
  by_cases hhidden : m.setting.atoms.Names (atomOf name)
  · have hnone := m.notifies_name hhidden id world
    constructor
    · rintro ⟨-, -, hone⟩
      rw [hnone] at hone
      cases hone
    · rintro ⟨hother, hnetOther, -⟩
      exact ((hnames.1 hhidden).elim hother hnetOther).elim
  · obtain ⟨hother, hnetOther⟩ := not_or.1 (mt hnames.2 hhidden)
    by_cases hclass : atomOf name = m.setting.atoms.wmClass
    · have hreads : Reading.ofProperty m.setting.atoms (atomOf name) = .className :=
        (if_neg hhidden).trans (if_pos hclass)
      rw [m.takesEffect_className hw _ world hmanaged haura htaken hfits hreads]
      exact ⟨fun htext => ⟨hother, hnetOther, fun _ => htext⟩,
        fun h => h.2.2 (hclass.trans hwmClass)⟩
    · have hreads := Reading.ofProperty_configured happId hhidden hclass
      have heffect := m.takesEffect_appId hw _ world hmanaged haura htaken hfits hid hreads
      exact ⟨fun _ => ⟨hother, hnetOther, fun h => absurd (h.trans hwmClass.symm) hclass⟩,
        fun _ => heffect⟩

/-- A setting with an application id property of this name. -/
def identifiedBy (name : String) : Setting :=
  { Setting.plain true with
    atoms := .numberedBy NotifiedManager.numbering (some name)
    identity := { Identity.default with appIdProperty := some name } }

/-- A window without properties is mapped and gets an aura surface. -/
def surfacedRun : List (Call (Surroundings Queue PropertyTable)) :=
  [.queued 7 (.guest (.created false .empty)),
   .queued 7 (.guest .mapRequested),
   .queued 7 (.assignAuraSurface 40)]

/-- The property with this name is set to `Editor`. -/
def edited (name : String) : Call (Surroundings Queue PropertyTable) :=
  let property := NotifiedManager.numbering name
  notifies 7 property ⟨.empty, PropertyTable.empty.setText 7 property (some "Editor")⟩

/-- A property of its own takes effect, and one with the name of the title does not. -/
theorem configuredId_takesEffect_surfacedRun :
    let m := fun name => (new (identifiedBy name)).run surfacedRun
    let numbering := NotifiedManager.numbering
    (m "APPLICATION_ID").TakesEffect (edited "APPLICATION_ID") (numbering "APPLICATION_ID") 40 ∧
    ¬(m "WM_NAME").TakesEffect (edited "WM_NAME") (numbering "WM_NAME") 40 := by
  intro m numbering
  have htaken (name : String) : ∀ o ∈ (m name).offers (edited name), o.accepted = true :=
    accepted_of_reliable reliable_queued _ _
  have hrecord (name : String) (hname : name = "APPLICATION_ID" ∨ name = "WM_NAME") :
      (m name).windows[(7 : WindowId)]? =
        some { Window.new 7 with managed := true, auraSurface := some 40 } := by
    rw [run_getElem?, getElem?_new]
    rcases hname with rfl | rfl <;> decide +kernel
  have hafter (name : String) (w : Window)
      (hrun : (surfacedRun ++ [edited name]).foldl (stepRecord (identifiedBy name) 7) none =
        some w) :
      ((m name).after (edited name)).windows[(7 : WindowId)]? = some w := by
    rw [← run_concat, run_getElem?, getElem?_new]
    exact hrun
  constructor
  · refine (configuredId_takesEffect_iff _ numbering rfl rfl surfacedRun
      (hrecord _ (Or.inl rfl)) rfl rfl _ (htaken _) ?_).2 (by decide +kernel)
    intro w hw
    obtain rfl := Option.some.inj (hw.symm.trans (hafter _ { Window.new 7 with
      managed := true, auraSurface := some 40, appIdProperty := some "Editor" }
      (by decide +kernel)))
    decide +kernel
  · refine fun h => ((configuredId_takesEffect_iff _ numbering rfl rfl surfacedRun
      (hrecord _ (Or.inr rfl)) rfl rfl _ (htaken _) ?_).1 h).1 rfl
    intro w hw
    obtain rfl := Option.some.inj (hw.symm.trans (hafter _ { Window.new 7 with
      managed := true, auraSurface := some 40, title := "Editor" } (by decide +kernel)))
    decide +kernel

end Manager

end GuestShell

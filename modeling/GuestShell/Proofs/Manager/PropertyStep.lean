import GuestShell.Proofs.Manager.RecordStep

/-!
# What operations read of a window's properties

Of the fields that a record has from the properties of its window, an operation reads one
again, or all of them, or none, and which it is depends on nothing but the operation and the
setting.  `Reading.ofProperty` says what a notification reads: the names hide everything else
that has the same atom, and the class hides the application id property, which hides the
client leader.

The application id is sent by exactly the operations of `Operation.Identifies`.  They are not
those after which it can be another one: when the client leader changes, nothing is sent.
-/

namespace GuestShell

/-- The properties of its window that an operation reads again. -/
inductive Reading where
  | nothing
  | title
  | className
  | appId (property : Atom)
  | clientLeader
  /-- The window is taken over. -/
  | all
  deriving DecidableEq, Repr

/-- What a notification about a property reads. -/
def Reading.ofProperty (atoms : Atoms) (property : Atom) : Reading :=
  if property = atoms.wmName ∨ property = atoms.netWmName then .title
  else if property = atoms.wmClass then .className
  else if some property = atoms.appId then .appId property
  else if property = atoms.wmClientLeader then .clientLeader
  else .nothing

theorem Reading.ofProperty_cases (atoms : Atoms) (property : Atom) :
    (atoms.Names property ∧ ofProperty atoms property = .title) ∨
    (¬ atoms.Names property ∧
      (ofProperty atoms property = .className ∨ ofProperty atoms property = .appId property ∨
        ofProperty atoms property = .clientLeader ∨ ofProperty atoms property = .nothing)) := by
  unfold ofProperty
  split
  next hname => exact Or.inl ⟨hname, rfl⟩
  next hother =>
    refine Or.inr ⟨hother, ?_⟩
    split
    · exact Or.inl rfl
    · split
      · exact Or.inr (Or.inl rfl)
      · split
        · exact Or.inr (Or.inr (Or.inl rfl))
        · exact Or.inr (Or.inr (Or.inr rfl))

namespace Operation

/-- What an operation reads again. -/
def reading (setting : Setting) : Operation → Reading
  | .guest .mapRequested => .all
  | .guest (.propertyChanged property) => .ofProperty setting.atoms property
  | _ => .nothing

/-- Whether the window is managed after an operation, given whether it was before. -/
def managedAfter (managed : Bool) : Operation → Bool
  | .guest .mapRequested => true
  | .guest .unmapped => false
  | _ => managed

/-- A window that is managed after an operation was so before, unless it is taken over. -/
theorem managed_of_managedAfter {operation : Operation} {managed : Bool}
    (h : operation.managedAfter managed = true) :
    operation = .guest .mapRequested ∨ managed = true ∧ operation ≠ .guest .unmapped := by
  cases operation with
  | guest change =>
      cases change with
      | mapRequested => exact Or.inl rfl
      | unmapped => cases h
      | _ => exact Or.inr ⟨h, nofun⟩
  | _ => exact Or.inr ⟨h, nofun⟩

/-- The operations that send the application id of a window: when it is taken over, when the
class or the application id property is read again of a managed window, when a managed window
gets an aura surface, and when the application id is to be updated. -/
inductive Identifies (setting : Setting) (w : Window) : Operation → Prop
  | mapRequested : Identifies setting w (.guest .mapRequested)
  | className {property : Atom} (hmanaged : w.managed = true)
      (hreads : Reading.ofProperty setting.atoms property = .className) :
      Identifies setting w (.guest (.propertyChanged property))
  | appId {property : Atom} (hmanaged : w.managed = true)
      (hreads : Reading.ofProperty setting.atoms property = .appId property) :
      Identifies setting w (.guest (.propertyChanged property))
  | surfaced (hmanaged : w.managed = true) (auraSurface : UInt32) :
      Identifies setting w (.assignAuraSurface auraSurface)
  | updated : Identifies setting w .updateApplicationId

theorem Identifies.not_forgets {setting : Setting} {w : Window} {operation : Operation}
    (h : operation.Identifies setting w) : ¬ operation.Forgets setting := by
  rintro (hop | ⟨parent, -, hop⟩) <;> cases h <;> cases hop

theorem identifies_propertyChanged {setting : Setting} {w : Window} {property : Atom} :
    Identifies setting w (.guest (.propertyChanged property)) ↔
      w.managed = true ∧ (Reading.ofProperty setting.atoms property = .className ∨
        Reading.ofProperty setting.atoms property = .appId property) := by
  constructor
  · intro h
    cases h with
    | className hmanaged hreads => exact ⟨hmanaged, Or.inl hreads⟩
    | appId hmanaged hreads => exact ⟨hmanaged, Or.inr hreads⟩
  · rintro ⟨hmanaged, hreads | hreads⟩
    · exact .className hmanaged hreads
    · exact .appId hmanaged hreads

end Operation

/-- A record has the same from the properties of its window as another one. -/
structure Window.SameProperties (w w' : Window) : Prop where
  title : w.title = w'.title
  className : w.className = w'.className
  clientLeader : w.clientLeader = w'.clientLeader
  appIdProperty : w.appIdProperty = w'.appIdProperty

theorem Window.SameProperties.refl (w : Window) : w.SameProperties w := ⟨rfl, rfl, rfl, rfl⟩

section Reread

variable {ω : Type} [PropertySource ω]

/-- The record with properties read again, and the world after that. -/
def Window.reread (w : Window) (setting : Setting) (world : ω) : Reading → Window × ω
  | .nothing => (w, world)
  | .title =>
    let title := readTitle setting.atoms w.id world
    ({ w with title := title.1 }, title.2)
  | .className =>
    let className := PropertySource.className w.id world
    ({ w with className := className.1 }, className.2)
  | .appId property =>
    let appIdProperty := PropertySource.text w.id property world
    ({ w with appIdProperty := appIdProperty.1 }, appIdProperty.2)
  | .clientLeader =>
    let clientLeader := PropertySource.window w.id setting.atoms.wmClientLeader world
    ({ w with clientLeader := clientLeader.1 }, clientLeader.2)
  | .all => w.takenOver setting world

/-- What is sent when a notification has been read, given the record before and after. -/
def Reading.sending (w w' : Window) : Reading → Sending
  | .title => if w'.title = w.title then .nothing else .title
  | .className => .ofManaged w'
  | .appId _ => .ofManaged w'
  | .nothing | .clientLeader | .all => .nothing

/-- A notification reads one property again, records it and sends what follows from it. -/
theorem Window.propertyChanged_eq [HostChannel ω] (w : Window) (setting : Setting)
    (property : Atom) (world : ω) :
    let reading := Reading.ofProperty setting.atoms property
    let read := w.reread setting world reading
    w.propertyChanged setting property world =
      (reading.sending w read.1).perform setting.identity read.1 read.2 := by
  simp only [propertyChanged, Reading.ofProperty]
  split
  · simp only [titleChanged]
    split
    next hsame =>
      -- a title that reads as it is recorded is recorded once more
      have hkept : (w.reread setting world .title).1 = w := by simp only [reread, hsame]
      rw [hkept, show Reading.title.sending w w = .nothing from if_pos rfl]
      rfl
    next hnew =>
      rw [show Reading.title.sending w (w.reread setting world .title).1 = .title from if_neg hnew]
      rfl
  · split
    · exact (Sending.perform_ofManaged _ _ _).symm
    · split
      · exact (Sending.perform_ofManaged _ _ _).symm
      · split
        next hleader => rw [hleader]; rfl
        · rfl

theorem Window.reread_id (w : Window) (setting : Setting) (world : ω) (reading : Reading) :
    (w.reread setting world reading).1.id = w.id := by
  cases reading <;> rfl

/-- What an operation writes of the properties of its window, and whether it sends the
application id. -/
structure PropertyStep (setting : Setting) (w : Window) (r : Recorded ω) (operation : Operation)
    (w' : Window) (sending : Sending) : Prop where
  id : w'.id = w.id
  properties : w'.SameProperties (w.reread setting r (operation.reading setting)).1
  managed : w'.managed = operation.managedAfter w.managed
  sends : sending = .applicationId ↔ operation.Identifies setting w

/-- Of the operations other than notifications and new aura surfaces it is told by what they
write. -/
theorem Writes.propertyStep {setting : Setting} {w w' : Window} {r r' : Recorded ω}
    {operation : Operation} {sending : Sending}
    (h : Writes setting w r operation w' r' sending)
    (hproperty : ∀ property, operation ≠ .guest (.propertyChanged property))
    (hsurface : ∀ auraSurface, operation ≠ .assignAuraSurface auraSurface) :
    PropertyStep setting w r operation w' sending := by
  cases h with
  | sameTitle | renamed | propertyChanged => exact absurd rfl (hproperty _)
  | surfaced => exact absurd rfl (hsurface _)
  | mapRequested => exact ⟨rfl, .refl _, rfl, fun _ => .mapRequested, fun _ => rfl⟩
  | identified => exact ⟨rfl, .refl _, rfl, fun _ => .updated, fun _ => rfl⟩
  | configured change =>
      obtain ⟨scale, hconfigured⟩ := w.configured_eq setting change
      rw [hconfigured]
      exact ⟨rfl, ⟨rfl, rfl, rfl, rfl⟩, rfl, nofun, nofun⟩
  | focused s hsending =>
      refine ⟨rfl, ⟨rfl, rfl, rfl, rfl⟩, rfl, ?_, nofun⟩
      rcases hsending with rfl | rfl <;> exact nofun
  | messaged s hostSurface hsending =>
      refine ⟨rfl, ⟨rfl, rfl, rfl, rfl⟩, rfl, ?_, nofun⟩
      rcases hsending with rfl | rfl <;> exact nofun
  | created | adopted | reparented | unmapped | assigned =>
      exact ⟨rfl, ⟨rfl, rfl, rfl, rfl⟩, rfl, nofun, nofun⟩

theorem Sending.ofManaged_eq_applicationId (w : Window) :
    ofManaged w = .applicationId ↔ w.managed = true := by
  unfold ofManaged
  cases w.managed <;> simp

/-- What a notification reads, writes and sends. -/
theorem Window.reread_writes (setting : Setting) (w : Window) (r : Recorded ω)
    {property : Atom} {reading : Reading}
    (hreading : Reading.ofProperty setting.atoms property = reading) :
    let read := w.reread setting r reading
    let sending := reading.sending w read.1
    Writes setting w r (.guest (.propertyChanged property)) read.1 read.2 sending ∧
      PropertyStep setting w r (.guest (.propertyChanged property)) read.1 sending := by
  intro read sending
  -- of the second part it remains to see what is sent
  have hstep (hmanaged : read.1.managed = w.managed)
      (hsends : sending = .applicationId ↔
        w.managed = true ∧ (reading = .className ∨ reading = .appId property)) :
      PropertyStep setting w r (.guest (.propertyChanged property)) read.1 sending := by
    refine ⟨w.reread_id setting r reading, ?_, hmanaged, ?_⟩
    · rw [Operation.reading, hreading]
      exact .refl _
    · rw [Operation.identifies_propertyChanged, hreading]
      exact hsends
  have hquiet (hsending : sending ≠ .applicationId) (hclass : reading ≠ .className)
      (happId : reading ≠ .appId property) :
      sending = .applicationId ↔
        w.managed = true ∧ (reading = .className ∨ reading = .appId property) :=
    ⟨fun h => absurd h hsending, fun h => (h.2.elim hclass happId).elim⟩
  rcases Reading.ofProperty_cases setting.atoms property with
    ⟨hname, htitle⟩ | ⟨hother, hclass | happId | hleader | hnothing⟩
  · obtain rfl := hreading.symm.trans htitle
    by_cases hsame : read.1.title = w.title
    · have hsilent : sending = .nothing := if_pos hsame
      have hkept : read.1 = w := congrArg (fun title => { w with title := title }) hsame
      refine ⟨?_, hstep rfl (hquiet (by rw [hsilent]; nofun) nofun nofun)⟩
      rw [hsilent, hkept]
      exact .sameTitle hname hsame
    · have hsent : sending = .title := if_neg hsame
      refine ⟨?_, hstep rfl (hquiet (by rw [hsent]; nofun) nofun nofun)⟩
      rw [hsent]
      exact .renamed hname hsame
  · obtain rfl := hreading.symm.trans hclass
    refine ⟨.propertyChanged (w := w) (r := r) hother read.1.className w.appIdProperty
      w.clientLeader read.2 rfl (Sending.ofManaged_cases read.1), hstep rfl ?_⟩
    exact (Sending.ofManaged_eq_applicationId _).trans (and_iff_left (Or.inl rfl)).symm
  · obtain rfl := hreading.symm.trans happId
    refine ⟨.propertyChanged (w := w) (r := r) hother w.className read.1.appIdProperty
      w.clientLeader read.2 rfl (Sending.ofManaged_cases read.1), hstep rfl ?_⟩
    exact (Sending.ofManaged_eq_applicationId _).trans (and_iff_left (Or.inr rfl)).symm
  · obtain rfl := hreading.symm.trans hleader
    exact ⟨.propertyChanged (w := w) (r := r) hother w.className w.appIdProperty
      read.1.clientLeader read.2 rfl (Or.inl rfl), hstep rfl (hquiet nofun nofun nofun)⟩
  · obtain rfl := hreading.symm.trans hnothing
    exact ⟨.propertyChanged (w := w) (r := r) hother w.className w.appIdProperty w.clientLeader r
      rfl (Or.inl rfl), hstep rfl (hquiet nofun nofun nofun)⟩

/-- An operation on a tracked window forgets it, or writes a record and sends. -/
theorem step_propertyStep [HostChannel ω] (setting : Setting) (id : WindowId) (w : Window)
    (operation : Operation) (r : Recorded ω) :
    (operation.Forgets setting ∧ operation.step setting id (some w) r = ⟨.ok (), none, r⟩) ∨
      ∃ w' r' sending, Writes setting w r operation w' r' sending ∧
        PropertyStep setting w r operation w' sending ∧
        operation.step setting id (some w) r =
          (sending.perform setting.identity w' r').map some := by
  by_cases hproperty : ∃ property, operation = .guest (.propertyChanged property)
  · obtain ⟨property, rfl⟩ := hproperty
    obtain ⟨hwrites, hread⟩ := w.reread_writes setting r
      (rfl : Reading.ofProperty setting.atoms property = _)
    refine Or.inr ⟨_, _, _, hwrites, hread, ?_⟩
    exact congrArg (Outcome.map some) (w.propertyChanged_eq setting property r)
  · by_cases hsurface : ∃ auraSurface, operation = .assignAuraSurface auraSurface
    · obtain ⟨auraSurface, rfl⟩ := hsurface
      refine Or.inr ⟨_, _, _, .surfaced auraSurface (Sending.ofManaged_cases _), ?_,
        congrArg (Outcome.map some) (Sending.perform_ofManaged _ _ _).symm⟩
      refine ⟨rfl, ⟨rfl, rfl, rfl, rfl⟩, rfl, ?_⟩
      refine (Sending.ofManaged_eq_applicationId _).trans
        ⟨fun hmanaged => .surfaced (w := w) hmanaged auraSurface, ?_⟩
      intro h
      cases h with
      | surfaced hmanaged => exact hmanaged
    · rcases step_writes setting id w operation r with
        hforgets | ⟨o, hstep, w', r', sending, hwrites, ho⟩
      · exact Or.inl hforgets
      · rw [ho] at hstep
        exact Or.inr ⟨w', r', sending, hwrites,
          hwrites.propertyStep (not_exists.1 hproperty) (not_exists.1 hsurface), hstep⟩

/-- A call about a tracked window forgets it, or writes a record and sends. -/
theorem Manager.after_propertyStep [HostChannel ω] (m : Manager) (call : Call ω) {w : Window}
    (hw : m.windows[call.id]? = some w) :
    (call.operation.Forgets m.setting ∧ (m.after call).windows[call.id]? = none ∧
      m.offers call = []) ∨
    ∃ w' r' sending,
      Writes m.setting w (Recorded.start call.world) call.operation w' r' sending ∧
        PropertyStep m.setting w (Recorded.start call.world) call.operation w' sending ∧
        let o := sending.perform m.setting.identity w' r'
        (m.after call).windows[call.id]? = some o.value ∧ m.result call = o.result ∧
          m.offers call = o.world.offers := by
  have hafter := m.after_eq_recorded call hw
  rcases step_propertyStep m.setting call.id w call.operation (Recorded.start call.world) with
    ⟨hforgets, hstep⟩ | ⟨w', r', sending, hwrites, hread, hstep⟩
  · simp only [hstep] at hafter
    exact Or.inl ⟨hforgets, hafter.1, hafter.2.2⟩
  · simp only [hstep] at hafter
    exact Or.inr ⟨w', r', sending, hwrites, hread, hafter⟩

/-- The record that a call leaves of a tracked window is the one that was written, but for what
it says of the host's state. -/
theorem Manager.after_record [HostChannel ω] (m : Manager) (call : Call ω) {w w' : Window}
    (hw : m.windows[call.id]? = some w) (hw' : (m.after call).windows[call.id]? = some w') :
    ∃ w₁ r₁ sending hostState,
      Writes m.setting w (Recorded.start call.world) call.operation w₁ r₁ sending ∧
        PropertyStep m.setting w (Recorded.start call.world) call.operation w₁ sending ∧
        w' = { w₁ with hostState := hostState } := by
  rcases m.after_propertyStep call hw with
    ⟨-, hforgotten, -⟩ | ⟨w₁, r₁, sending, hwrites, hstep, hvalue, -, -⟩
  · rw [hw'] at hforgotten
    cases hforgotten
  · obtain ⟨hostState, hkept⟩ := sending.perform_value m.setting.identity w₁ r₁
    rw [hw', hkept] at hvalue
    exact ⟨w₁, r₁, sending, hostState, hwrites, hstep, Option.some.inj hvalue⟩

end Reread

end GuestShell

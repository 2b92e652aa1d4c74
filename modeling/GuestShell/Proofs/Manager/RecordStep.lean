import GuestShell.Proofs.Manager.StateEffect

/-!
# What operations do to a record

Every operation on a tracked window forgets its record, or writes it and then sends at most
one kind of thing.  `Writes` lists the records that can be written, with what the operation
read and what it sends afterwards.  Sending changes nothing of a record but what it says of
the host's state, so whatever else is true of the written record is true in the end.

The states of a window and the host's knowledge of them are left open here; they have a
description of their own, by their effects.
-/

namespace GuestShell

/-- The operations after which a window is not tracked any more. -/
def Operation.Forgets (setting : Setting) (operation : Operation) : Prop :=
  operation = .guest .destroyed ∨
    ∃ parent, parent ≠ setting.root ∧ operation = .guest (.reparented parent)

/-- The properties that a title is read from. -/
def Atoms.Names (atoms : Atoms) (property : Atom) : Prop :=
  property = atoms.wmName ∨ property = atoms.netWmName

/-- What an operation sends when the record is written. -/
inductive Sending where
  | nothing
  /-- The window is tracked already, and the operation would begin that. -/
  | refusal (id : WindowId)
  | state
  | title
  | applicationId

namespace Sending

variable {ω : Type} [HostChannel ω]

def perform (identity : Identity) : Sending → Window → ω → Outcome Window ω
  | .nothing, w, world => ⟨.ok (), w, world⟩
  | .refusal id, w, world => ⟨.error (.duplicateWindow id), w, world⟩
  | .state, w, world => w.forwardState world
  | .title, w, world => w.sendTitle world
  | .applicationId, w, world => w.sendApplicationId identity world

/-- What is sent of the application id goes out only while the window is managed. -/
def ofManaged (w : Window) : Sending := if w.managed then .applicationId else .nothing

theorem perform_ofManaged (identity : Identity) (w : Window) (world : ω) :
    (ofManaged w).perform identity w world = w.sendApplicationIdIfManaged identity world := by
  unfold ofManaged Window.sendApplicationIdIfManaged
  split <;> rfl

/-- Whatever is sent, the record stays but for what it says of the host's state. -/
theorem perform_value (identity : Identity) (sending : Sending) (w : Window) (r : Recorded ω) :
    ∃ hostState, (sending.perform identity w r).value = { w with hostState := hostState } := by
  cases sending with
  | nothing => exact ⟨w.hostState, rfl⟩
  | refusal id => exact ⟨w.hostState, rfl⟩
  | state => exact ⟨_, w.forwardState_eq_hostState r⟩
  | title =>
      refine ⟨w.hostState, ?_⟩
      simp only [perform, Window.sendTitle]
      split <;> rfl
  | applicationId =>
      refine ⟨w.hostState, ?_⟩
      simp only [perform, Window.sendApplicationId]
      split <;> rfl

end Sending

namespace Window

/-- A new geometry changes the geometry and perhaps the scale, and nothing else. -/
theorem configured_eq (w : Window) (setting : Setting) (change : GeometryChange) :
    ∃ scale, w.configured setting change =
      { w with geometry := w.geometry.change change, scale := scale } := by
  simp only [configured]
  split
  · exact ⟨_, rfl⟩
  · exact ⟨w.scale, rfl⟩

variable {ω : Type} [PropertySource ω]

/-- The record of a window that is taken over, and the world after its properties were read. -/
def takenOver (w : Window) (setting : Setting) (world : ω) : Window × ω :=
  let title := readTitle setting.atoms w.id world
  let className := PropertySource.className w.id title.2
  let clientLeader := PropertySource.window w.id setting.atoms.wmClientLeader className.2
  let appIdProperty := w.readAppId setting clientLeader.2
  ({ w with
      managed := true
      title := title.1
      className := className.1
      clientLeader := clientLeader.1
      appIdProperty := appIdProperty.1 }, appIdProperty.2)

theorem manage_eq [HostChannel ω] (w : Window) (setting : Setting) (world : ω) :
    w.manage setting world =
      (w.takenOver setting world).1.sendApplicationId setting.identity
        (w.takenOver setting world).2 := rfl

theorem takenOver_offers (w : Window) (setting : Setting) (r : Recorded ω) :
    (w.takenOver setting r).2.offers = r.offers := by
  have hread := readTitle_offers setting.atoms w.id r
  exact (readAppId_offers w setting _).trans hread

end Window

variable {ω : Type} [PropertySource ω]

/-- What an operation on a tracked window writes, unless it forgets the window: the record,
the world in which that is done and what is sent then. -/
inductive Writes (setting : Setting) (w : Window) (r : Recorded ω) :
    Operation → Window → Recorded ω → Sending → Prop
  | created (id : WindowId) (overrideRedirect : Bool) (geometry : Geometry) :
      Writes setting w r (.guest (.created overrideRedirect geometry)) w r (.refusal id)
  | adopted (id : WindowId) (geometry : Geometry) (viewable : Bool) :
      Writes setting w r (.adopt geometry viewable) w r (.refusal id)
  | reparented : Writes setting w r (.guest (.reparented setting.root)) w r .nothing
  | mapRequested :
      Writes setting w r (.guest .mapRequested) (w.takenOver setting r).1
        (w.takenOver setting r).2 .applicationId
  | unmapped : Writes setting w r (.guest .unmapped) w.unmapped r .nothing
  | configured (change : GeometryChange) :
      Writes setting w r (.guest (.configureRequested change)) (w.configured setting change) r
        .nothing
  | focused (s : WindowState) {sending : Sending}
      (hsending : sending = .nothing ∨ sending = .state) :
      Writes setting w r (.guest .focused) { w with state := s } r sending
  | messaged {messageType : Atom} {data : MessageWords} (s : WindowState)
      (hostSurface : Option UInt32) {sending : Sending}
      (hsending : sending = .nothing ∨ sending = .state) :
      Writes setting w r (.guest (.messaged messageType data))
        { w with state := s, hostSurface := hostSurface } r sending
  /-- A name changed, and the title reads as it is recorded. -/
  | sameTitle {property : Atom} (hname : setting.atoms.Names property)
      (hsame : (readTitle setting.atoms w.id r).1 = w.title) :
      Writes setting w r (.guest (.propertyChanged property)) w
        (readTitle setting.atoms w.id r).2 .nothing
  | renamed {property : Atom} (hname : setting.atoms.Names property)
      (hnew : (readTitle setting.atoms w.id r).1 ≠ w.title) :
      Writes setting w r (.guest (.propertyChanged property))
        { w with title := (readTitle setting.atoms w.id r).1 }
        (readTitle setting.atoms w.id r).2 .title
  | propertyChanged {property : Atom} (hother : ¬ setting.atoms.Names property)
      (className : Option String) (appIdProperty : Option String)
      (clientLeader : Option WindowId) (r' : Recorded ω) (hread : r'.offers = r.offers)
      {sending : Sending} (hsending : sending = .nothing ∨ sending = .applicationId) :
      Writes setting w r (.guest (.propertyChanged property))
        { w with className, appIdProperty, clientLeader } r' sending
  | assigned (toplevel : UInt32) :
      Writes setting w r (.assignRole toplevel) (w.assignRole toplevel) r .nothing
  | surfaced (auraSurface : UInt32) {sending : Sending}
      (hsending : sending = .nothing ∨ sending = .applicationId) :
      Writes setting w r (.assignAuraSurface auraSurface)
        { w with auraSurface := some auraSurface } r sending
  | identified : Writes setting w r .updateApplicationId w r .applicationId

namespace Writes

variable {setting : Setting} {w w' : Window} {r r' : Recorded ω} {operation : Operation}
  {sending : Sending}

/-- Nothing is offered to the channel before the record is written. -/
theorem offers_eq (h : Writes setting w r operation w' r' sending) : r'.offers = r.offers := by
  cases h with
  | mapRequested => exact w.takenOver_offers setting r
  | sameTitle => exact readTitle_offers setting.atoms w.id r
  | renamed => exact readTitle_offers setting.atoms w.id r
  | propertyChanged hother className appIdProperty clientLeader r' hread => exact hread
  | _ => rfl

end Writes

theorem Sending.ofManaged_cases (w : Window) :
    Sending.ofManaged w = .nothing ∨ Sending.ofManaged w = .applicationId := by
  unfold Sending.ofManaged
  cases w.managed with
  | false => exact Or.inl rfl
  | true => exact Or.inr rfl

variable [HostChannel ω]

/-- What a step of a tracked window comes to if it does not forget the window. -/
def WritesThenSends (setting : Setting) (w : Window) (r : Recorded ω) (operation : Operation)
    (o : Outcome Window (Recorded ω)) : Prop :=
  ∃ w' r' sending, Writes setting w r operation w' r' sending ∧
    o = sending.perform setting.identity w' r'

theorem focused_writes (setting : Setting) (w : Window) (r : Recorded ω) :
    WritesThenSends setting w r (.guest .focused) (w.focused r) := by
  unfold Window.focused
  split
  · exact ⟨_, _, _, .focused _ (Or.inr rfl), rfl⟩
  · exact ⟨_, _, _, .focused w.state (Or.inl rfl), rfl⟩

theorem messaged_writes (setting : Setting) (w : Window) (messageType : Atom)
    (data : MessageWords) (r : Recorded ω) :
    WritesThenSends setting w r (.guest (.messaged messageType data))
      (w.messaged setting messageType data r) := by
  have hsilent : ∀ s hostSurface, WritesThenSends setting w r (.guest (.messaged messageType data))
      ⟨.ok (), { w with state := s, hostSurface := hostSurface }, r⟩ :=
    fun s hostSurface => ⟨_, _, _, .messaged s hostSurface (Or.inl rfl), rfl⟩
  have hforward : ∀ s, WritesThenSends setting w r (.guest (.messaged messageType data))
      ({ w with state := s }.forwardState r) :=
    fun s => ⟨_, _, _, .messaged s w.hostSurface (Or.inr rfl), rfl⟩
  unfold Window.messaged
  split
  · unfold Window.stateMessaged
    cases StateRequest.decode setting.atoms data with
    | none => exact hsilent w.state w.hostSurface
    | some request =>
        simp only
        split
        · exact hsilent (request.apply w.state) w.hostSurface
        · exact hforward (request.apply w.state)
  · split
    · unfold Window.changeStateMessaged
      split
      · exact hforward { w.state with iconified := true }
      · exact hsilent w.state w.hostSurface
    · split
      · exact hsilent w.state (some data.first)
      · exact hsilent w.state w.hostSurface

theorem propertyChanged_writes (setting : Setting) (w : Window) (property : Atom)
    (r : Recorded ω) :
    WritesThenSends setting w r (.guest (.propertyChanged property))
      (w.propertyChanged setting property r) := by
  simp only [Window.propertyChanged]
  split
  next hname =>
    simp only [Window.titleChanged]
    split
    next hsame => exact ⟨_, _, _, .sameTitle hname hsame, rfl⟩
    next hnew => exact ⟨_, _, _, .renamed hname hnew, rfl⟩
  next hother =>
    have hwritten : ∀ className appIdProperty clientLeader (r' : Recorded ω)
        (sending : Sending),
        r'.offers = r.offers → sending = .nothing ∨ sending = .applicationId →
        WritesThenSends setting w r (.guest (.propertyChanged property))
          (sending.perform setting.identity { w with className, appIdProperty, clientLeader } r') :=
      fun className appIdProperty clientLeader r' sending hread hsending =>
        ⟨_, r', sending, .propertyChanged hother className appIdProperty clientLeader r' hread
          hsending, rfl⟩
    split
    · -- the class
      rw [← Sending.perform_ofManaged]
      exact hwritten _ w.appIdProperty w.clientLeader _ _ rfl (Sending.ofManaged_cases _)
    · split
      · -- the application id property
        rw [← Sending.perform_ofManaged]
        exact hwritten w.className _ w.clientLeader _ _ rfl (Sending.ofManaged_cases _)
      · split
        · -- the client leader
          exact hwritten w.className w.appIdProperty _ (PropertySource.window w.id property r).2
            .nothing rfl (Or.inl rfl)
        · exact hwritten w.className w.appIdProperty w.clientLeader r .nothing rfl (Or.inl rfl)

/-- A recorded step of a tracked window forgets it, or writes a record and sends. -/
theorem step_writes (setting : Setting) (id : WindowId) (w : Window) (operation : Operation)
    (r : Recorded ω) :
    (operation.Forgets setting ∧ operation.step setting id (some w) r = ⟨.ok (), none, r⟩) ∨
      ∃ o, operation.step setting id (some w) r = o.map some ∧
        WritesThenSends setting w r operation o := by
  cases operation with
  | guest change =>
      cases change with
      | created overrideRedirect geometry =>
          exact Or.inr ⟨_, rfl, _, _, _, .created id overrideRedirect geometry, rfl⟩
      | destroyed => exact Or.inl ⟨Or.inl rfl, rfl⟩
      | reparented parent =>
          by_cases hroot : parent = setting.root
          · subst hroot
            refine Or.inr ⟨⟨.ok (), w, r⟩, ?_, _, _, _, .reparented, rfl⟩
            simp only [Operation.step, GuestChange.step, if_true]
            rfl
          · refine Or.inl ⟨Or.inr ⟨parent, hroot, rfl⟩, ?_⟩
            simp only [Operation.step, GuestChange.step, if_neg hroot]
      | mapRequested =>
          exact Or.inr ⟨_, rfl, _, _, _, .mapRequested, w.manage_eq setting r⟩
      | unmapped => exact Or.inr ⟨⟨.ok (), w.unmapped, r⟩, rfl, _, _, _, .unmapped, rfl⟩
      | configureRequested change =>
          exact Or.inr ⟨⟨.ok (), w.configured setting change, r⟩, rfl, _, _, _,
            .configured change, rfl⟩
      | focused => exact Or.inr ⟨_, rfl, focused_writes setting w r⟩
      | propertyChanged property =>
          exact Or.inr ⟨_, rfl, propertyChanged_writes setting w property r⟩
      | messaged messageType data =>
          exact Or.inr ⟨_, rfl, messaged_writes setting w messageType data r⟩
  | adopt geometry viewable =>
      exact Or.inr ⟨⟨.error (.duplicateWindow id), w, r⟩, rfl, _, _, _,
        .adopted id geometry viewable, rfl⟩
  | assignRole toplevel =>
      exact Or.inr ⟨⟨.ok (), w.assignRole toplevel, r⟩, rfl, _, _, _, .assigned toplevel, rfl⟩
  | assignAuraSurface auraSurface =>
      exact Or.inr ⟨_, rfl, _, _, _, .surfaced auraSurface (Sending.ofManaged_cases _),
        (Sending.perform_ofManaged _ _ _).symm⟩
  | updateApplicationId => exact Or.inr ⟨_, rfl, _, _, _, .identified, rfl⟩

/-- The records with which windows begin to be tracked. -/
inductive Fresh (setting : Setting) (id : WindowId) (r : Recorded ω) : Window → Prop
  | created (overrideRedirect : Bool) (geometry : Geometry) :
      Fresh setting id r (.created id overrideRedirect geometry)
  | takenOver (geometry : Geometry) :
      Fresh setting id r ((Window.created id false geometry).takenOver setting r).1

/-- A window that was not tracked and is now has a fresh record. -/
theorem step_fresh {setting : Setting} {id : WindowId} {operation : Operation} {r : Recorded ω}
    {w : Window} (hw : (operation.step setting id none r).value = some w) :
    Fresh setting id r w := by
  cases operation with
  | guest change =>
      cases change with
      | created overrideRedirect geometry =>
          cases hw
          exact .created overrideRedirect geometry
      | reparented parent =>
          simp only [Operation.step, GuestChange.step] at hw
          split at hw
          · cases hw
            exact .created false .empty
          · cases hw
      | mapRequested =>
          cases hw
          exact .takenOver .empty
      | _ => cases hw
  | adopt geometry viewable =>
      cases viewable with
      | false =>
          cases hw
          exact .created false geometry
      | true =>
          cases hw
          exact .takenOver geometry
  | _ => cases hw

namespace Manager

/-- A call about a tracked window forgets it, or writes a record and sends. -/
theorem after_writes (m : Manager) (call : Call ω) {w : Window}
    (hw : m.windows[call.id]? = some w) :
    (call.operation.Forgets m.setting ∧ (m.after call).windows[call.id]? = none ∧
      m.offers call = []) ∨
    ∃ w' r' sending,
      Writes m.setting w (Recorded.start call.world) call.operation w' r' sending ∧
        let o := sending.perform m.setting.identity w' r'
        (m.after call).windows[call.id]? = some o.value ∧ m.result call = o.result ∧
          m.offers call = o.world.offers := by
  have hafter := m.after_eq_recorded call hw
  rcases step_writes m.setting call.id w call.operation (Recorded.start call.world) with
    ⟨hforgets, hstep⟩ | ⟨o, hstep, w', r', sending, hwrites, ho⟩
  · simp only [hstep] at hafter
    exact Or.inl ⟨hforgets, hafter.1, hafter.2.2⟩
  · simp only [hstep, ho] at hafter
    exact Or.inr ⟨w', r', sending, hwrites, hafter⟩

/-- The record that a call leaves of a tracked window is the one that was written, but for what
it says of the host's state. -/
theorem after_written (m : Manager) (call : Call ω) {w w' : Window}
    (hw : m.windows[call.id]? = some w) (hw' : (m.after call).windows[call.id]? = some w') :
    ∃ w₁ r₁ sending hostState,
      Writes m.setting w (Recorded.start call.world) call.operation w₁ r₁ sending ∧
        w' = { w₁ with hostState := hostState } := by
  rcases m.after_writes call hw with
    ⟨-, hforgotten, -⟩ | ⟨w₁, r₁, sending, hwrites, hvalue, -, -⟩
  · rw [hw'] at hforgotten
    cases hforgotten
  · obtain ⟨hostState, hkept⟩ := sending.perform_value m.setting.identity w₁ r₁
    rw [hw', hkept] at hvalue
    exact ⟨w₁, r₁, sending, hostState, hwrites, Option.some.inj hvalue⟩

/-- An invariant of the records of all runs: it holds of fresh records, and every written
record keeps it, whatever is then recorded of the host's state. -/
theorem run_record_induction {P : WindowId → Window → Prop} (setting : Setting)
    (hfresh : ∀ id (r : Recorded ω) w, Fresh setting id r w → P id w)
    (hwrites : ∀ id w (r : Recorded ω) operation w' r' sending hostState,
      Writes setting w r operation w' r' sending → P id w →
        P id { w' with hostState := hostState })
    (calls : List (Call ω)) {id : WindowId} {w : Window}
    (hw : ((new setting).run calls).windows[id]? = some w) : P id w := by
  refine run_induction (P := fun _ id w => P id w) setting (fun _ _ _ _ _ h => h) ?_ calls hw
  intro calls call w' ih hw'
  have hsetting : ((new setting).run calls).setting = setting := run_setting _ calls
  rw [run_concat] at hw'
  cases hbefore : ((new setting).run calls).windows[call.id]? with
  | none =>
      have hvalue := (after_eq_recorded _ call hbefore).1
      rw [hw', hsetting] at hvalue
      exact hfresh _ _ w' (step_fresh hvalue.symm)
  | some w =>
      obtain ⟨w₁, r₁, sending, hostState, hwritten, rfl⟩ := after_written _ call hbefore hw'
      rw [hsetting] at hwritten
      exact hwrites call.id w _ _ w₁ r₁ sending hostState hwritten (ih w hbefore)

/-- A record is kept under the number of its window. -/
theorem id_eq_of_run (setting : Setting) (calls : List (Call ω)) {id : WindowId} {w : Window}
    (hw : ((new setting).run calls).windows[id]? = some w) : w.id = id := by
  refine run_record_induction (P := fun id w => w.id = id) setting ?_ ?_ calls hw
  · intro id r w hfresh
    cases hfresh <;> rfl
  · intro id w r operation w' r' sending hostState hwrites h
    cases hwrites with
    | configured change =>
        obtain ⟨scale, hconfigured⟩ := w.configured_eq setting change
        rw [hconfigured]
        exact h
    | _ => exact h

end Manager

end GuestShell

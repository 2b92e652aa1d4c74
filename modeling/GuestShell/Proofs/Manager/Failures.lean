import GuestShell.Proofs.Manager.Focus
import GuestShell.Proofs.Manager.PropertyStep

/-!
# How reports fail

On a channel that refuses nothing there are two ways for a report to fail.  A window is created
that is tracked already, or a text has to be told that is too long for a message.  `Fails` says
when this is so from the record of the window and the properties that are read, without looking
at what is sent.  States are never too long, and a window that is only taken in has nothing that
could be told about it.

A report that fails sends nothing, and it concerns its own window alone.  What it leaves of the
record of that window is NOT said here: a title that could not be told is recorded nevertheless.
-/

namespace GuestShell

section Told

variable {ω : Type} [PropertySource ω]

/-- What a report makes the window manager tell: a title that reads differently to the toplevel,
and an application id to the aura surface. -/
inductive GuestChange.Tells (setting : Setting) (w : Window) (world : ω) :
    GuestChange → ShellRequest → Prop
  | title {property : Atom} {toplevel : UInt32}
      (hreads : Reading.ofProperty setting.atoms property = .title)
      (hrole : w.toplevel = some toplevel)
      (hnew : (readTitle setting.atoms w.id world).1 ≠ w.title) :
      Tells setting w world (.propertyChanged property)
        (.setTitle toplevel (readTitle setting.atoms w.id world).1)
  | identity {change : GuestChange} {auraSurface : UInt32}
      (hidentifies : Operation.Identifies setting w (.guest change))
      (hsurface : w.auraSurface = some auraSurface) :
      Tells setting w world change
        (.setApplicationId auraSurface (setting.identity.resolve
          (w.reread setting world ((Operation.guest change).reading setting)).1))

/-- The two ways in which a report can fail where the channel does not. -/
inductive Manager.Fails (m : Manager) (world : ω) : GuestEvent → ManagerError → Prop
  /-- The window is tracked already. -/
  | duplicate {id : WindowId} {overrideRedirect : Bool} {geometry : Geometry}
      (htracked : m.tracks id = true) :
      Fails m world ⟨id, .created overrideRedirect geometry⟩ (.duplicateWindow id)
  /-- A title or an application id is too long for a message. -/
  | tooLong {event : GuestEvent} {w : Window} {request : ShellRequest} {text : String}
      (hw : m.windows[event.window]? = some w)
      (htells : event.change.Tells m.setting w world request)
      (htext : request.text? = some text) (hlong : 65519 < (Utf8.encode text).length) :
      Fails m world event (.wire (.tooLarge request.message.size))

namespace GuestChange

variable {setting : Setting} {w : Window} {world : ω} {change : GuestChange}
  {request : ShellRequest}

/-- Of what is told there is always a text. -/
theorem Tells.text (h : change.Tells setting w world request) :
    ∃ text, request.text? = some text := by
  cases h with
  | title => exact ⟨_, rfl⟩
  | identity => exact ⟨_, rfl⟩

/-- No report tells both a title and an application id. -/
theorem Tells.unique {other : ShellRequest} (h : change.Tells setting w world request)
    (hother : change.Tells setting w world other) : other = request := by
  -- a notification that is read as one for the title is not read as another
  have hapart : ∀ property, Reading.ofProperty setting.atoms property = .title →
      ¬Operation.Identifies setting w (.guest (.propertyChanged property)) := by
    intro property htitle hidentifies
    obtain ⟨-, hreads⟩ := Operation.identifies_propertyChanged.1 hidentifies
    rw [htitle] at hreads
    rcases hreads with hclass | happId
    · cases hclass
    · cases happId
  cases h with
  | title hreads hrole hnew =>
      cases hother with
      | title hreads' hrole' hnew' => rw [Option.some.inj (hrole.symm.trans hrole')]
      | identity hidentifies hsurface => exact absurd hidentifies (hapart _ hreads)
  | identity hidentifies hsurface =>
      cases hother with
      | title hreads' hrole' hnew' => exact absurd hidentifies (hapart _ hreads')
      | identity hidentifies' hsurface' => rw [Option.some.inj (hsurface.symm.trans hsurface')]

/-- Nothing is told of a property that is read for neither. -/
theorem not_tells_of_reading {property : Atom}
    (hreads : Reading.ofProperty setting.atoms property ≠ .title ∧
      Reading.ofProperty setting.atoms property ≠ .className ∧
      Reading.ofProperty setting.atoms property ≠ .appId property) (request : ShellRequest) :
    ¬(GuestChange.propertyChanged property).Tells setting w world request := by
  obtain ⟨htitle, hclass, happId⟩ := hreads
  intro htells
  cases htells with
  | title hother => exact htitle hother
  | identity hidentifies =>
      exact (Operation.identifies_propertyChanged.1 hidentifies).2.elim hclass happId

/-- Only notifications and taking a window over make the window manager tell something. -/
theorem Tells.cases_change (h : change.Tells setting w world request) :
    change = .mapRequested ∨ ∃ property, change = .propertyChanged property := by
  cases h with
  | title => exact Or.inr ⟨_, rfl⟩
  | identity hidentifies hsurface =>
      cases hidentifies with
      | mapRequested => exact Or.inl rfl
      | className => exact Or.inr ⟨_, rfl⟩
      | appId => exact Or.inr ⟨_, rfl⟩

end GuestChange

end Told

namespace ShellRequest

/-- There are no bytes exactly for a text of more than 65519 bytes. -/
theorem encode_eq_error_iff {r : ShellRequest} {text : String} (htext : r.text? = some text)
    (e : Wire.WireError) :
    r.encode = .error e ↔ 65519 < (Utf8.encode text).length ∧ e = .tooLarge r.message.size := by
  have hsize := size_message_of_text htext
  unfold encode Wire.Message.encode
  by_cases hfits : r.message.size ≤ Wire.maxSize
  · rw [if_pos hfits]
    have hshort := hsize.1 hfits
    constructor
    · nofun
    · rintro ⟨hlong, -⟩
      omega
  · rw [if_neg hfits]
    have hlong : 65519 < (Utf8.encode text).length := Nat.lt_of_not_le fun h => hfits (hsize.2 h)
    constructor
    · intro he
      exact ⟨hlong, (Except.error.inj he).symm⟩
    · rintro ⟨-, rfl⟩
      rfl

end ShellRequest

/-! ### Sending on a queue -/

variable {π : Type}

/-- What becomes of a queue and of the report for which a text was to be told. -/
inductive Queued (request : ShellRequest) (q : Queue) : Except ManagerError Unit → Queue → Prop
  | pushed {bytes : List UInt8} (hbytes : request.encode = .ok bytes) :
      Queued request q (.ok ()) (q.push bytes)
  | tooLong {e : Wire.WireError} (hbytes : request.encode = .error e) :
      Queued request q (.error (.wire e)) q

namespace Queued

variable {request : ShellRequest} {q q' : Queue} {result : Except ManagerError Unit}

theorem error_iff (h : Queued request q result q') {text : String}
    (htext : request.text? = some text) (e : ManagerError) :
    result = .error e ↔
      65519 < (Utf8.encode text).length ∧ e = .wire (.tooLarge request.message.size) := by
  cases h with
  | pushed hbytes =>
      refine ⟨nofun, ?_⟩
      rintro ⟨hlong, -⟩
      have hnobytes := (ShellRequest.encode_eq_error_iff htext _).2 ⟨hlong, rfl⟩
      rw [hbytes] at hnobytes
      cases hnobytes
  | tooLong hbytes =>
      obtain ⟨hlong, hsize⟩ := (ShellRequest.encode_eq_error_iff htext _).1 hbytes
      constructor
      · rintro ⟨⟩
        exact ⟨hlong, congrArg ManagerError.wire hsize⟩
      · rintro ⟨-, rfl⟩
        rw [hsize]

theorem eq_of_error (h : Queued request q result q') {e : ManagerError} (he : result = .error e) :
    q' = q := by
  cases h with
  | pushed hbytes => cases he
  | tooLong hbytes => rfl

theorem push_of_ok (h : Queued request q result q') (hok : result = .ok ()) :
    ∃ bytes, request.encode = .ok bytes ∧ q' = q.push bytes := by
  cases h with
  | pushed hbytes => exact ⟨_, hbytes, rfl⟩
  | tooLong hbytes => cases hok

end Queued

theorem ShellRequest.send_queued (request : ShellRequest) (s : Surroundings Queue π) :
    Queued request s.channel (request.send s).1 (request.send s).2.channel := by
  unfold send
  cases hbytes : request.encode with
  | error e => exact .tooLong hbytes
  | ok bytes => exact .pushed hbytes

namespace Window

theorem sendAll_ok {requests : List (StateAxis × ShellRequest)}
    (habout : ∀ p ∈ requests, p.2.isText = false) (w : Window) (s : Surroundings Queue π) :
    (sendAll requests w s).result = .ok () := by
  induction requests generalizing w s with
  | nil => rfl
  | cons head rest ih =>
      obtain ⟨axis, request⟩ := head
      obtain ⟨bytes, hbytes⟩ := ShellRequest.encode_of_not_isText (habout _ List.mem_cons_self)
      have hsent : request.send s = (.ok (), { s with channel := s.channel.push bytes }) := by
        simp only [ShellRequest.send, hbytes]
        rfl
      simp only [sendAll, hsent]
      exact ih (fun p hp => habout p (List.mem_cons_of_mem _ hp)) _ _

/-- The host is always brought in line on a queue. -/
theorem forwardState_ok (w : Window) (s : Surroundings Queue π) :
    (w.forwardState s).result = .ok () := by
  unfold forwardState
  cases w.toplevel with
  | none => rfl
  | some toplevel => exact sendAll_ok (fun p hp => (WindowState.syncRequests_about hp).1) w s

theorem focused_ok (w : Window) (s : Surroundings Queue π) : (w.focused s).result = .ok () := by
  unfold focused
  split
  · exact forwardState_ok _ s
  · rfl

theorem messaged_ok (w : Window) (setting : Setting) (messageType : Atom) (data : MessageWords)
    (s : Surroundings Queue π) : (w.messaged setting messageType data s).result = .ok () := by
  unfold messaged
  split
  · unfold stateMessaged
    cases StateRequest.decode setting.atoms data with
    | none => rfl
    | some request =>
        simp only
        split
        · rfl
        · exact forwardState_ok _ s
  · split
    · unfold changeStateMessaged
      split
      · exact forwardState_ok _ s
      · rfl
    · split <;> rfl

/-! ### Reading does not touch the queue -/

variable [PropertySource π]

theorem readTitle_channel (atoms : Atoms) (id : WindowId) (s : Surroundings Queue π) :
    (readTitle atoms id s).2.channel = s.channel := by
  unfold readTitle
  split
  next heq => exact congrArg (fun p => p.2.channel) heq.symm
  next heq => exact congrArg (fun p => p.2.channel) heq.symm

theorem takenOver_channel (w : Window) (setting : Setting) (s : Surroundings Queue π) :
    (w.takenOver setting s).2.channel = s.channel := by
  have hread := readTitle_channel setting.atoms w.id s
  have hlast : ∀ s : Surroundings Queue π, (w.readAppId setting s).2.channel = s.channel := by
    intro s
    unfold readAppId
    split <;> rfl
  exact (hlast _).trans hread

theorem reread_channel (w : Window) (setting : Setting) (s : Surroundings Queue π)
    (reading : Reading) : (w.reread setting s reading).2.channel = s.channel := by
  cases reading with
  | title => exact readTitle_channel setting.atoms w.id s
  | all => exact w.takenOver_channel setting s
  | _ => rfl

end Window

/-! ### One report -/

variable [PropertySource π]

/-- What a report about a tracked window does to a queue: if there is something to tell, this is
tried, and if there is not, the report ends well. -/
def TellsOrOk (change : GuestChange) (setting : Setting) (w : Window) (s : Surroundings Queue π)
    {α : Type} (o : Outcome α (Surroundings Queue π)) : Prop :=
  (∃ request, change.Tells setting w s request ∧
    Queued request s.channel o.result o.world.channel) ∨
  (∀ request, ¬change.Tells setting w s request) ∧ o.result = .ok ()

/-- An application id is told to the aura surface, if there is one. -/
theorem Operation.Identifies.tellsOrOk {setting : Setting} {w : Window} {change : GuestChange}
    (hidentifies : Operation.Identifies setting w (.guest change)) (s : Surroundings Queue π)
    (hnotitle : ∀ property, change = .propertyChanged property →
      Reading.ofProperty setting.atoms property ≠ .title) :
    let read := w.reread setting s ((Operation.guest change).reading setting)
    TellsOrOk change setting w s (read.1.sendApplicationId setting.identity read.2) := by
  intro read
  have hsurface : read.1.auraSurface = w.auraSurface := by
    simp only [read]
    cases (Operation.guest change).reading setting <;> rfl
  have hchannel : read.2.channel = s.channel := w.reread_channel setting s _
  unfold Window.sendApplicationId
  rw [hsurface]
  cases hattached : w.auraSurface with
  | none =>
      refine Or.inr ⟨?_, rfl⟩
      intro request htells
      cases htells with
      | title hreads => exact hnotitle _ rfl hreads
      | identity _ hother =>
          rw [hattached] at hother
          cases hother
  | some auraSurface =>
      refine Or.inl ⟨_, .identity hidentifies hattached, ?_⟩
      rw [← hchannel]
      exact ShellRequest.send_queued _ read.2

/-- A title that reads differently is told to the toplevel, if there is one. -/
theorem Window.titleChanged_tellsOrOk (w : Window) {setting : Setting} {property : Atom}
    (htitle : Reading.ofProperty setting.atoms property = .title) (s : Surroundings Queue π) :
    let read := w.reread setting s .title
    TellsOrOk (.propertyChanged property) setting w s
      ((Reading.title.sending w read.1).perform setting.identity read.1 read.2) := by
  intro read
  have hnotidentity : ¬Operation.Identifies setting w (.guest (.propertyChanged property)) := by
    rw [Operation.identifies_propertyChanged, htitle]
    simp
  by_cases hsame : read.1.title = w.title
  · rw [show Reading.title.sending w read.1 = .nothing from if_pos hsame]
    refine Or.inr ⟨?_, rfl⟩
    intro request htells
    cases htells with
    | title _ _ hnew => exact hnew hsame
    | identity hother => exact hnotidentity hother
  · rw [show Reading.title.sending w read.1 = .title from if_neg hsame, Sending.perform, sendTitle,
      show read.1.toplevel = w.toplevel from rfl]
    cases hrole : w.toplevel with
    | none =>
        refine Or.inr ⟨?_, rfl⟩
        intro request htells
        cases htells with
        | title _ hother =>
            rw [hrole] at hother
            cases hother
        | identity hother => exact hnotidentity hother
    | some toplevel =>
        refine Or.inl ⟨_, .title htitle hrole hsame, ?_⟩
        rw [← w.reread_channel setting s .title]
        exact ShellRequest.send_queued _ read.2

/-- A class or an application id property that was read again has the application id told while
the window is managed. -/
theorem Window.identityChanged_tellsOrOk (w : Window) {setting : Setting} {property : Atom}
    (hreads : Reading.ofProperty setting.atoms property = .className ∨
      Reading.ofProperty setting.atoms property = .appId property) (s : Surroundings Queue π) :
    let read := w.reread setting s (Reading.ofProperty setting.atoms property)
    TellsOrOk (.propertyChanged property) setting w s
      ((Sending.ofManaged read.1).perform setting.identity read.1 read.2) := by
  intro read
  have htitle : Reading.ofProperty setting.atoms property ≠ .title := by
    rcases hreads with hreads | hreads <;> rw [hreads] <;> nofun
  have hmanaged : read.1.managed = w.managed := by
    simp only [read]
    rcases hreads with hreads | hreads <;> rw [hreads] <;> rfl
  unfold Sending.ofManaged
  rw [hmanaged]
  by_cases hheld : w.managed = true
  · rw [if_pos hheld]
    have hidentifies := Operation.identifies_propertyChanged.2 ⟨hheld, hreads⟩
    exact hidentifies.tellsOrOk s fun other hsame => GuestChange.propertyChanged.inj hsame ▸ htitle
  · rw [if_neg hheld]
    refine Or.inr ⟨?_, rfl⟩
    intro request htells
    cases htells with
    | title hother => exact htitle hother
    | identity hidentifies => exact hheld (Operation.identifies_propertyChanged.1 hidentifies).1

theorem Window.propertyChanged_tellsOrOk (w : Window) (setting : Setting) (property : Atom)
    (s : Surroundings Queue π) :
    TellsOrOk (.propertyChanged property) setting w s (w.propertyChanged setting property s) := by
  rw [w.propertyChanged_eq setting property s]
  rcases Reading.ofProperty_cases setting.atoms property with
    ⟨-, htitle⟩ | ⟨-, hclass | happId | hleader | hnothing⟩
  · rw [htitle]
    exact w.titleChanged_tellsOrOk htitle s
  · have hspoken := w.identityChanged_tellsOrOk (Or.inl hclass) s
    rw [hclass] at hspoken ⊢
    exact hspoken
  · have hspoken := w.identityChanged_tellsOrOk (Or.inr happId) s
    rw [happId] at hspoken ⊢
    exact hspoken
  · rw [hleader]
    exact Or.inr ⟨GuestChange.not_tells_of_reading (by rw [hleader]; simp), rfl⟩
  · rw [hnothing]
    exact Or.inr ⟨GuestChange.not_tells_of_reading (by rw [hnothing]; simp), rfl⟩

/-- A report that does not create a window tells what there is to tell, or ends well. -/
theorem GuestChange.step_tellsOrOk (setting : Setting) (id : WindowId) {change : GuestChange}
    (hother : ∀ overrideRedirect geometry, change ≠ .created overrideRedirect geometry)
    (w : Window) (s : Surroundings Queue π) :
    TellsOrOk change setting w s (change.step setting id (some w) s) := by
  have hquiet (hneither : ¬(change = .mapRequested ∨ ∃ p, change = .propertyChanged p)) :
      ∀ request, ¬change.Tells setting w s request :=
    fun request htells => hneither htells.cases_change
  -- the focus and state messages may send too, but never anything that has a text
  cases change with
  | created overrideRedirect geometry => exact absurd rfl (hother overrideRedirect geometry)
  | mapRequested => exact Operation.Identifies.mapRequested.tellsOrOk s nofun
  | propertyChanged property => exact w.propertyChanged_tellsOrOk setting property s
  | focused => exact Or.inr ⟨hquiet (by simp), w.focused_ok s⟩
  | messaged messageType data =>
      exact Or.inr ⟨hquiet (by simp), w.messaged_ok setting messageType data s⟩
  | reparented parent =>
      refine Or.inr ⟨hquiet (by simp), ?_⟩
      simp only [step]
      split <;> rfl
  | destroyed => exact Or.inr ⟨hquiet (by simp), rfl⟩
  | unmapped => exact Or.inr ⟨hquiet (by simp), rfl⟩
  | configureRequested => exact Or.inr ⟨hquiet (by simp), rfl⟩

namespace Manager

/-- The creation of a window that is tracked is refused, and nothing changes. -/
theorem handle_created_of_tracked {ω : Type} [HostChannel ω] [PropertySource ω] (m : Manager)
    {id : WindowId} (htracked : m.tracks id = true) (overrideRedirect : Bool)
    (geometry : Geometry) (world : ω) :
    m.handle ⟨id, .created overrideRedirect geometry⟩ world =
      ⟨.error (.duplicateWindow id), m, world⟩ := by
  rw [tracks_eq_isSome] at htracked
  obtain ⟨w, hw⟩ := Option.isSome_iff_exists.1 htracked
  refine m.perform_of_unchanged nofun ?_
  rw [hw]
  rfl

/-- What a report comes to: it creates a window that is tracked, it is about a window that is not
tracked and ends well, or it tells what there is to tell about a tracked window. -/
theorem handle_cases (m : Manager) (event : GuestEvent) (s : Surroundings Queue π) :
    (∃ overrideRedirect geometry, event.change = .created overrideRedirect geometry ∧
      m.tracks event.window = true) ∨
    (m.windows[event.window]? = none ∧ (m.handle event s).result = .ok ()) ∨
    ∃ w, m.windows[event.window]? = some w ∧
      (∀ overrideRedirect geometry, event.change ≠ .created overrideRedirect geometry) ∧
      TellsOrOk event.change m.setting w s (m.handle event s) := by
  cases hw : m.windows[event.window]? with
  | none =>
      refine Or.inr (Or.inl ⟨rfl, ?_⟩)
      simp only [handle, perform, hw, Outcome.map, step_untracked_ok]
  | some w =>
      by_cases hcreated : ∃ overrideRedirect geometry,
          event.change = .created overrideRedirect geometry
      · obtain ⟨overrideRedirect, geometry, hchange⟩ := hcreated
        refine Or.inl ⟨overrideRedirect, geometry, hchange, ?_⟩
        rw [tracks_eq_isSome, hw]
        rfl
      · have hother : ∀ overrideRedirect geometry,
            event.change ≠ .created overrideRedirect geometry :=
          fun overrideRedirect geometry hchange => hcreated ⟨overrideRedirect, geometry, hchange⟩
        refine Or.inr (Or.inr ⟨w, rfl, hother, ?_⟩)
        have htells := GuestChange.step_tellsOrOk m.setting event.window hother w s
        simp only [TellsOrOk, handle, perform, hw] at htells ⊢
        exact htells

/-- How a report fails on a queue is told by the record and the properties. -/
theorem handle_eq_error_iff (m : Manager) (event : GuestEvent) (s : Surroundings Queue π)
    (e : ManagerError) : (m.handle event s).result = .error e ↔ m.Fails s event e := by
  rcases m.handle_cases event s with
    ⟨overrideRedirect, geometry, hchange, htracked⟩ | ⟨hnone, hok⟩ | ⟨w, hw, hother, htells⟩
  · obtain ⟨id, change⟩ := event
    obtain rfl : change = .created overrideRedirect geometry := hchange
    rw [m.handle_created_of_tracked htracked]
    constructor
    · rintro ⟨⟩
      exact .duplicate htracked
    · intro hfails
      cases hfails with
      | duplicate => rfl
      | tooLong _ htells =>
          rcases htells.cases_change with hmap | ⟨property, hproperty⟩
          · cases hmap
          · cases hproperty
  · rw [hok]
    refine ⟨nofun, ?_⟩
    intro hfails
    cases hfails with
    | duplicate htracked =>
        rw [tracks_eq_isSome, hnone] at htracked
        cases htracked
    | tooLong hw =>
        rw [hnone] at hw
        cases hw
  · constructor
    · intro he
      rcases htells with ⟨request, htells, hqueued⟩ | ⟨-, hok⟩
      · obtain ⟨text, htext⟩ := htells.text
        obtain ⟨hlong, rfl⟩ := (hqueued.error_iff htext e).1 he
        exact .tooLong hw htells htext hlong
      · rw [hok] at he
        cases he
    · intro hfails
      cases hfails with
      | duplicate => exact absurd rfl (hother _ _)
      | tooLong hw' htells' htext hlong =>
          obtain rfl := Option.some.inj (hw.symm.trans hw')
          -- what is too long is what was told, since a report has one text at most
          rcases htells with ⟨request, htells, hqueued⟩ | ⟨hnothing, -⟩
          · obtain rfl := htells.unique htells'
            exact (hqueued.error_iff htext _).2 ⟨hlong, rfl⟩
          · exact absurd htells' (hnothing _)

/-- A report that fails queues nothing. -/
theorem handle_channel_of_error {m : Manager} {event : GuestEvent} {s : Surroundings Queue π}
    {e : ManagerError} (he : (m.handle event s).result = .error e) :
    (m.handle event s).world.channel = s.channel := by
  rcases m.handle_cases event s with
    ⟨overrideRedirect, geometry, hchange, htracked⟩ | ⟨-, hok⟩ | ⟨w, -, -, htells⟩
  · obtain ⟨id, change⟩ := event
    obtain rfl : change = .created overrideRedirect geometry := hchange
    rw [m.handle_created_of_tracked htracked]
  · rw [hok] at he
    cases he
  · rcases htells with ⟨request, -, hqueued⟩ | ⟨-, hok⟩
    · exact hqueued.eq_of_error he
    · rw [hok] at he
      cases he

/-- A report that fails leaves the focus. -/
theorem Fails.focused_eq {m : Manager} {event : GuestEvent} {s : Surroundings Queue π}
    {e : ManagerError} (h : m.Fails s event e) : (m.handle event s).value.focused = m.focused := by
  cases h with
  | duplicate htracked => rw [m.handle_created_of_tracked htracked]
  | tooLong hw htells =>
      obtain ⟨id, change⟩ := event
      have hkept : change ≠ .focused ∧ Operation.ends m.setting (.guest change) = false := by
        rcases htells.cases_change with hchange | ⟨property, hchange⟩
        · obtain rfl : change = .mapRequested := hchange
          exact ⟨nofun, rfl⟩
        · obtain rfl : change = .propertyChanged property := hchange
          exact ⟨nofun, rfl⟩
      have hunfocused : Operation.guest change ≠ .guest .focused :=
        fun hsame => hkept.1 (Operation.guest.inj hsame)
      exact m.perform_focused_of_kept id hunfocused hkept.2 s

/-- When a report fails on a queue, and what it leaves then.

It fails exactly in one of two ways: it is the creation of a window that is tracked, or the title
or the application id that it makes the window manager tell has more than 65519 bytes.  In all
other cases it ends well, whatever the record of its window says and whatever the properties are.

A refused creation leaves everything as it was.  A text that is too long leaves the queue, the
focus and the records of all other windows.  A text that is not too long is one message at the
end of the queue. -/
theorem handle_fails_iff (m : Manager) (event : GuestEvent) (s : Surroundings Queue π) :
    let o := m.handle event s
    (∀ e, o.result = .error e ↔ m.Fails s event e) ∧
    (o.result = .ok () ↔ ∀ e, ¬m.Fails s event e) ∧
    (∀ id, o.result = .error (.duplicateWindow id) →
      id = event.window ∧ o.value = m ∧ o.world = s) ∧
    (∀ e, o.result = .error e →
      o.world.channel = s.channel ∧ o.value.focused = m.focused ∧
        ∀ other, other ≠ event.window → o.value.windows[other]? = m.windows[other]?) ∧
    ∀ w request, m.windows[event.window]? = some w →
      event.change.Tells m.setting w s request → o.result = .ok () →
      ∃ bytes, request.encode = .ok bytes ∧ o.world.channel = s.channel.push bytes := by
  intro o
  have hfails : ∀ e, o.result = .error e ↔ m.Fails s event e := m.handle_eq_error_iff event s
  refine ⟨hfails, ?_, ?_, ?_, ?_⟩
  · constructor
    · intro hok e hfail
      have he := (hfails e).2 hfail
      rw [hok] at he
      cases he
    · intro hnever
      cases hresult : o.result with
      | ok u => rfl
      | error e => exact absurd ((hfails e).1 hresult) (hnever e)
  · intro id he
    have hfail := (hfails _).1 he
    obtain ⟨window, change⟩ := event
    cases hfail with
    | duplicate htracked =>
        have ho : o = _ := m.handle_created_of_tracked htracked _ _ s
        exact ⟨rfl, by rw [ho], by rw [ho]⟩
  · intro e he
    refine ⟨handle_channel_of_error he, ((hfails e).1 he).focused_eq, ?_⟩
    intro other hother
    exact (m.perform_getElem? _ _ _ _).trans (if_neg hother.symm)
  · intro w request hw htells hok
    rcases m.handle_cases event s with
      ⟨overrideRedirect, geometry, hchange, -⟩ | ⟨hnone, -⟩ | ⟨w', hw', -, htold⟩
    · rcases htells.cases_change with hmap | ⟨property, hproperty⟩
      · rw [hchange] at hmap
        cases hmap
      · rw [hchange] at hproperty
        cases hproperty
    · rw [hnone] at hw
      cases hw
    · obtain rfl := Option.some.inj (hw.symm.trans hw')
      rcases htold with ⟨request', htells', hqueued⟩ | ⟨hnothing, -⟩
      · obtain rfl := htells.unique htells'
        exact hqueued.push_of_ok hok
      · exact absurd htells (hnothing _)

/-- A text of one letter has as many bytes as letters. -/
theorem length_encode_replicate (n : Nat) :
    (Utf8.encode (String.ofList (List.replicate n 'a'))).length = n := by
  induction n with
  | zero => rfl
  | succ n ih =>
      rw [Utf8.encode, Array.length_toList] at ih ⊢
      rw [List.replicate_succ, String.ofList_cons, String.toByteArray_append, ByteArray.data_append,
        Array.size_append, ih]
      exact Nat.add_comm 1 n

/-- A title of 65520 bytes cannot be told, and a window cannot be created again. -/
theorem handle_fails_iff_longTitle :
    let title := String.ofList (List.replicate 65520 'a')
    let m := (new (.plain true)).run
      [.queued 7 (.guest (.created false .empty)), .queued 7 (.assignRole 30)]
    let s : Surroundings Queue PropertyTable :=
      ⟨.empty, PropertyTable.empty.setText 7 Atoms.numbered.netWmName (some title)⟩
    let named := m.handle ⟨7, .propertyChanged Atoms.numbered.netWmName⟩ s
    let created := m.handle ⟨7, .created true .empty⟩ s
    named.result = .error (.wire (.tooLarge (ShellRequest.setTitle 30 title).message.size)) ∧
      named.world.channel = .empty ∧
      created.result = .error (.duplicateWindow 7) ∧ created.value = m := by
  intro title m s named created
  have hw : m.windows[(7 : WindowId)]? =
      some { Window.created 7 false .empty with toplevel := some 30 } := by
    rw [run_getElem?, getElem?_new]
    rfl
  have htracked : m.tracks 7 = true := by
    rw [tracks_eq_isSome, hw]
    rfl
  have hlength : (Utf8.encode title).length = 65520 := length_encode_replicate 65520
  have hlong : 65519 < (Utf8.encode title).length := by omega
  have hnew : title ≠ "" := by
    intro hempty
    rw [hempty] at hlength
    cases hlength
  obtain ⟨hnamed, -, -, hkept, -⟩ :=
    m.handle_fails_iff ⟨7, .propertyChanged Atoms.numbered.netWmName⟩ s
  obtain ⟨hcreated, -, hunchanged, -, -⟩ := m.handle_fails_iff ⟨7, .created true .empty⟩ s
  have htooLong := (hnamed _).2 (.tooLong hw (.title rfl rfl hnew) rfl hlong)
  have hduplicate := (hcreated _).2 (.duplicate htracked)
  exact ⟨htooLong, (hkept _ htooLong).1, hduplicate, (hunchanged 7 hduplicate).2.1⟩

end Manager

end GuestShell

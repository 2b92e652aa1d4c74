import GuestShell.Proofs.Display.ActiveWindow
import GuestShell.Proofs.Manager.RecordStep

/-!
# What guest windows are given

A guest window that is created, wants to be mapped or configured, or gets the focus has the
display asked for something on its behalf.  What this is, `DisplayEvent.service` says from the
event alone and, for the focus, from whether the window is tracked.  Nothing else has a part in
it: not the records, not the properties, not the channel to the host and not whether the window
manager took the event in without an error.

What is asked of a display is known in every world that keeps a `Journal`.  Properties may be
read over the same connection or come from somewhere else; reads are the only other requests
that an event leads to.  A configure request is passed on with the values that its mask names,
and those of them that a geometry has are the ones that are recorded.

It is NOT claimed that the display does what it is asked, or that a lost connection is noticed
by reads.
-/

namespace GuestShell

/-- A property is asked for. -/
def Request.isRead : Request → Bool
  | .getProperty .. => true
  | _ => false

theorem Exchange.IsRead.isRead {e : Exchange} (h : e.IsRead) : e.request.isRead = true := by
  obtain ⟨window, property, type, hrequest⟩ := h
  rw [hrequest]
  rfl

/-- A log went on with reads only, which were answered in a world of some kind. -/
def OnlyReads (ω : Type) [Connection ω] (log log' : List Exchange) : Prop :=
  ∃ reads, log' = log ++ reads ∧ ∀ e ∈ reads, e.IsRead ∧ e.AnsweredBy ω

theorem OnlyReads.refl (ω : Type) [Connection ω] (log : List Exchange) : OnlyReads ω log log :=
  ⟨[], (List.append_nil log).symm, nofun⟩

theorem OnlyReads.trans {ω : Type} [Connection ω] {log log' log'' : List Exchange}
    (h : OnlyReads ω log log') (h' : OnlyReads ω log' log'') : OnlyReads ω log log'' := by
  obtain ⟨reads, rfl, hreads⟩ := h
  obtain ⟨others, rfl, hothers⟩ := h'
  refine ⟨reads ++ others, List.append_assoc _ _ _, ?_⟩
  intro e he
  exact (List.mem_append.1 he).elim (hreads e) (hothers e)

/-- A record of everything that is asked of the display of a world.  Messages to the host are
not in it, and of properties that are looked up nothing but reads is. -/
structure Journal (ω : Type) [Connection ω] [HostChannel ω] [PropertySource ω] where
  log : ω → List Exchange
  perform : ∀ request world, log (Connection.perform request world).2 =
    log world ++ [⟨request, (Connection.perform request world).1⟩]
  send : ∀ message world, log (HostChannel.send message world).2 = log world
  text : ∀ id property world,
    OnlyReads ω (log world) (log (PropertySource.text id property world).2)
  className : ∀ id world, OnlyReads ω (log world) (log (PropertySource.className id world).2)
  window : ∀ id property world,
    OnlyReads ω (log world) (log (PropertySource.window id property world).2)

instance {ω π : Type} [Connection ω] : Connection (Surroundings ω π) where
  screens s := Connection.screens s.channel
  newId s := ((Connection.newId s.channel).1, { s with channel := (Connection.newId s.channel).2 })
  perform request s :=
    ((Connection.perform request s.channel).1,
      { s with channel := (Connection.perform request s.channel).2 })
  flush s := ((Connection.flush s.channel).1, { s with channel := (Connection.flush s.channel).2 })

namespace Journal

section Worlds

variable {χ σ : Type} [Connection χ]

theorem onlyReads_readProperty (id : WindowId) (property type : Atom)
    (d : Desk (Transcribed χ) σ) :
    OnlyReads (Desk (Transcribed χ) σ) d.exchanges
      (Connection.readProperty id property type d).2.exchanges := by
  refine ⟨_, readProperty_exchange id property type d, ?_⟩
  intro e he
  rw [List.mem_singleton.1 he]
  exact ⟨⟨_, _, _, rfl⟩, d, rfl⟩

variable [HostChannel σ]

/-- A desk that reads properties over its connection. -/
def desk : Journal (Desk (Transcribed χ) σ) where
  log := Desk.exchanges
  perform _ _ := rfl
  send _ _ := rfl
  text id property d := onlyReads_readProperty id property 0 d
  className id d := onlyReads_readProperty id _ _ d
  window id property d := onlyReads_readProperty id property _ d

end Worlds

variable {ω : Type} [Connection ω] [HostChannel ω] [PropertySource ω] (J : Journal ω)

theorem worldInvariant (log : List Exchange) :
    WorldInvariant fun world => OnlyReads ω log (J.log world) where
  send message world h := by rwa [J.send message world]
  text id property world h := h.trans (J.text id property world)
  className id world h := h.trans (J.className id world)
  window id property world h := h.trans (J.window id property world)

/-- Taking in what an event says of a window asks for properties only. -/
theorem handle_log (m : Manager) (guest : GuestEvent) (world : ω) :
    OnlyReads ω (J.log world) (J.log (m.handle guest world).world) :=
  (J.worldInvariant (J.log world)).step m.setting guest.window (.guest guest.change)
    m.windows[guest.window]? (.refl _ _)

/-- What an event calls for is asked once.  If it is not lost, the event was handled. -/
theorem follow_log (event : DisplayEvent) (m : Manager) (world : ω) :
    ∃ told, J.log (Manager.follow event m world).2 = J.log world ++ told ∧
      told.map Exchange.request = (event.followUp m).toList ∧ (∀ e ∈ told, e.AnsweredBy ω) ∧
      ((∀ e ∈ told, e.answer ≠ .error .lost) →
        (Manager.follow event m world).1 = .ok .handled) := by
  unfold Manager.follow
  cases event.followUp m with
  | none => exact ⟨[], (List.append_nil _).symm, rfl, nofun, fun _ => rfl⟩
  | some request =>
      refine ⟨[⟨request, (Connection.perform request world).1⟩], ?_, rfl, ?_, ?_⟩
      · rw [← J.perform request world]
        simp only [ExceptT.run, Action.tell]
        rcases Connection.perform request world with ⟨(_ | _) | reply, next⟩ <;> rfl
      · intro e he
        rw [List.mem_singleton.1 he]
        exact ⟨world, rfl⟩
      · intro hsent
        have hkept := hsent _ (List.mem_singleton_self _)
        simp only [ExceptT.run, Action.tell_of_sent hkept]

/-- What is exchanged with the display while an event is routed. -/
def exchanged (m : Manager) (event : DisplayEvent) (world : ω) : List Exchange :=
  (J.log (m.route event world).2.2).drop (J.log world).length

/-- What is asked of the display while an event is routed, but for properties. -/
def asked (m : Manager) (event : DisplayEvent) (world : ω) : List Request :=
  ((J.exchanged m event world).map Exchange.request).filter fun request => !request.isRead

end Journal

/-! ### Configure requests -/

/-- The values that a configure request can name, in the order of their bits. -/
def ConfigureValue.all : List ConfigureValue :=
  [.x, .y, .width, .height, .borderWidth, .sibling, .stackMode]

namespace ConfigureRequest

/-- What is asked for a value, as it stands in a request. -/
def word (r : ConfigureRequest) : ConfigureValue → UInt32
  | .x => r.x.toInt32.toUInt32
  | .y => r.y.toInt32.toUInt32
  | .width => r.width.toUInt32
  | .height => r.height.toUInt32
  | .borderWidth => r.borderWidth.toUInt32
  | .sibling => r.sibling
  | .stackMode => r.stackMode

/-- Those of some values that the mask names. -/
def namedOf (r : ConfigureRequest) (values : List ConfigureValue) : ValueList :=
  (values.filter r.names).map fun value => (value.bit.toUInt32, r.word value)

theorem namedOf_cons (r : ConfigureRequest) (value : ConfigureValue)
    (values : List ConfigureValue) :
    r.namedOf (value :: values) =
      (if r.names value then [(value.bit.toUInt32, r.word value)] else []) ++
        r.namedOf values := by
  unfold namedOf
  cases hnamed : r.names value <;> simp [hnamed]

@[simp] theorem namedOf_nil (r : ConfigureRequest) : r.namedOf [] = [] := rfl

/-- The values that are passed on are those that the mask names. -/
theorem values_eq (r : ConfigureRequest) : r.values = r.namedOf ConfigureValue.all := by
  simp only [ConfigureValue.all, namedOf_cons, namedOf_nil, values, List.append_assoc,
    List.append_nil]
  rfl

end ConfigureRequest

namespace DisplayEvent

/-- What is asked of the display on behalf of the window that an event is about.  The reports that
are asked of a new window are those of properties, 0x400000, and of the focus, 0x200000. -/
def service (setting : Setting) (tracks : WindowId → Bool) : DisplayEvent → List Request
  | .createNotify window .. => [.changeWindowAttributes window [(0x800, 0x600000)]]
  | .mapRequest window => [.mapWindow window]
  | .configureRequest r => [.configureWindow r.window (r.namedOf ConfigureValue.all)]
  | .focusIn window =>
      if tracks window then
        [.changeProperty setting.root setting.atoms.netActiveWindow
          PredefinedAtom.window.number (.words [window])]
      else []
  | .destroyNotify _ | .reparentNotify .. | .unmapNotify _ | .propertyNotify .. |
    .clientMessage .. | .error | .other => []

/-- What a routed event comes to if the connection is not lost. -/
def routed (event : DisplayEvent) : Routed :=
  if event = .error ∨ (GuestEvent.ofDisplayEvent? event).isSome then .handled else .ignored

end DisplayEvent

namespace Journal

variable {ω : Type} [Connection ω] [HostChannel ω] [PropertySource ω] (J : Journal ω)

omit J in
/-- What an event calls for is its service, whatever taking it in came to. -/
theorem followUp_route (m : Manager) (event : DisplayEvent) (world : ω) :
    (event.followUp (m.route event world).2.1).toList = event.service m.setting m.tracks := by
  -- only the focus asks the window manager, and taking it in starts and ends no record
  cases event with
  | focusIn window =>
      have htracks : (m.route (.focusIn window) world).2.1.tracks window = m.tracks window :=
        m.perform_focused_tracks window world
      rw [DisplayEvent.followUp, htracks, m.route_setting, DisplayEvent.service]
      split <;> rfl
  | configureRequest r => rw [DisplayEvent.followUp, r.values_eq]; rfl
  | clientMessage window messageType data => cases data <;> rfl
  | _ => rfl

/-- A routed event reads properties and then asks for its service. -/
theorem route_log (m : Manager) (event : DisplayEvent) (world : ω) :
    ∃ reads told, J.log (m.route event world).2.2 = J.log world ++ (reads ++ told) ∧
      (∀ e ∈ reads, e.IsRead) ∧
      told.map Exchange.request = event.service m.setting m.tracks ∧
      (∀ e ∈ reads ++ told, e.AnsweredBy ω) ∧
      ((∀ e ∈ told, e.answer ≠ .error .lost) → (m.route event world).1 = .ok event.routed) := by
  have hservice := followUp_route m event world
  cases hguest : GuestEvent.ofDisplayEvent? event with
  | none =>
      rw [DisplayEvent.followUp_of_none hguest] at hservice
      rw [m.route_of_none hguest, ← hservice, DisplayEvent.routed, hguest]
      refine ⟨[], [], (List.append_nil _).symm, nofun, rfl, nofun, ?_⟩
      intro
      simp
  | some guest =>
      rw [m.route_of_some hguest] at hservice ⊢
      obtain ⟨reads, hreads, hall⟩ := J.handle_log m guest world
      obtain ⟨told, htold, hrequests, hanswers, hok⟩ :=
        J.follow_log event (m.handle guest world).value (m.handle guest world).world
      refine ⟨reads, told, ?_, fun e he => (hall e he).1, hrequests.trans hservice, ?_, ?_⟩
      · rw [htold, hreads, List.append_assoc]
      · intro e he
        exact (List.mem_append.1 he).elim (fun hread => (hall e hread).2) (hanswers e)
      · intro hsent
        have hrouted : event.routed = .handled := by
          rw [DisplayEvent.routed, hguest]
          exact if_pos (Or.inr rfl)
        rw [hrouted]
        exact hok hsent

/-- Nothing is lost in a world that loses nothing. -/
theorem kept_of_never_lost
    (hkeeps : ∀ request (world : ω), (Connection.perform request world).1 ≠ .error .lost)
    (m : Manager) (event : DisplayEvent) (world : ω) :
    ∀ e ∈ J.exchanged m event world, e.answer ≠ .error .lost := by
  obtain ⟨reads, told, hlog, -, -, hanswers, -⟩ := J.route_log m event world
  intro e he
  rw [exchanged, hlog, List.drop_left] at he
  obtain ⟨answered, hanswer⟩ := hanswers e he
  rw [hanswer]
  exact hkeeps e.request answered

end Journal

end GuestShell

import GuestShell.Display.Desk
import GuestShell.Display.Router
import GuestShell.Proofs.Display.Transcript
import GuestShell.Proofs.Manager.Recorded

/-!
# What routed events ask of a display

When an event is routed, the window manager takes it in first and then makes the request that
the event calls for, if there is one.  Taking it in, it asks the display for properties and for
nothing else (`Manager.route_exchanges`).

The properties of a desk are read over its connection, so the display of the desk is what is
put under observation, and reads stand in the transcript with everything else.  Routing cannot
tell an observed desk from a plain one (`Manager.route_plain`).

It is NOT claimed that a display does what it is asked, nor that it can still be reached.
-/

namespace GuestShell

/-- A property was asked for. -/
def Exchange.IsRead (e : Exchange) : Prop :=
  ∃ window property type, e.request = .getProperty window property type

/-- The answer is the one that a display of some kind gives in some world. -/
def Exchange.AnsweredBy (χ : Type) [Connection χ] (e : Exchange) : Prop :=
  ∃ world : χ, e.answer = (Connection.perform e.request world).1

namespace Desk

variable {χ σ : Type}

/-- The desk with its display under observation. -/
def transcribe (d : Desk χ σ) : Desk (Transcribed χ) σ := ⟨.start d.display, d.channel⟩

/-- An observed desk without the transcript. -/
def plain (d : Desk (Transcribed χ) σ) : Desk χ σ := ⟨d.display.world, d.channel⟩

/-- What was asked of the display, and what came of it. -/
def exchanges (d : Desk (Transcribed χ) σ) : List Exchange := d.display.exchanges

end Desk

/-! ### Properties over a connection -/

namespace ConnectionMap

variable {ω ω' : Type} [Connection ω] [Connection ω'] {f : ω → ω'} (hf : ConnectionMap f)

include hf

theorem readProperty_map (id : WindowId) (property type : Atom) (world : ω) :
    Connection.readProperty id property type (f world) =
      ((Connection.readProperty id property type world).1,
        f (Connection.readProperty id property type world).2) := by
  unfold Connection.readProperty
  rw [hf.perform]
  rcases Connection.perform (.getProperty id property type) world with ⟨_ | reply, next⟩ <;> rfl

end ConnectionMap

section Observed

variable {χ σ : Type} [Connection χ]

theorem Desk.plain_connectionMap :
    ConnectionMap (Desk.plain : Desk (Transcribed χ) σ → Desk χ σ) where
  screens _ := rfl
  newId _ := rfl
  perform _ _ := rfl
  flush _ := rfl

variable [HostChannel σ]

theorem Desk.plain_worldMap : WorldMap (Desk.plain : Desk (Transcribed χ) σ → Desk χ σ) where
  send _ _ := rfl
  text id property d := by
    simp only [PropertySource.text, Connection.readText, plain_connectionMap.readProperty_map]
  className id d := by
    simp only [PropertySource.className, Connection.readClassName,
      plain_connectionMap.readProperty_map]
  window id property d := by
    simp only [PropertySource.window, Connection.readWindow, plain_connectionMap.readProperty_map]

omit [HostChannel σ] in
/-- Reading a property is one exchange, with what the display answers. -/
theorem readProperty_exchange (id : WindowId) (property type : Atom)
    (d : Desk (Transcribed χ) σ) :
    (Connection.readProperty id property type d).2.exchanges = d.exchanges ++
      [⟨.getProperty id property type,
        (Connection.perform (.getProperty id property type) d).1⟩] := by
  have hperformed : (Connection.perform (.getProperty id property type) d).2.exchanges =
      d.exchanges ++ [⟨.getProperty id property type,
        (Connection.perform (.getProperty id property type) d).1⟩] := rfl
  rw [← hperformed, Connection.readProperty]
  split
  next heq => rw [heq]
  next heq => rw [heq]

omit [HostChannel σ] in
theorem readProperty_exchanges (id : WindowId) (property type : Atom)
    (d : Desk (Transcribed χ) σ) :
    ∃ e : Exchange, e.IsRead ∧
      (Connection.readProperty id property type d).2.exchanges = d.exchanges ++ [e] :=
  ⟨_, ⟨_, _, _, rfl⟩, readProperty_exchange id property type d⟩

/-- The transcript went on from one with reads only. -/
def ReadsSince (log : List Exchange) (d : Desk (Transcribed χ) σ) : Prop :=
  ∃ reads, d.exchanges = log ++ reads ∧ ∀ e ∈ reads, e.IsRead

omit [HostChannel σ] in
theorem ReadsSince.readProperty {log : List Exchange} {d : Desk (Transcribed χ) σ}
    (h : ReadsSince log d) (id : WindowId) (property type : Atom) :
    ReadsSince log (Connection.readProperty id property type d).2 := by
  obtain ⟨reads, hexchanges, hreads⟩ := h
  obtain ⟨e, hread, hlast⟩ := readProperty_exchanges id property type d
  refine ⟨reads ++ [e], by rw [hlast, hexchanges, List.append_assoc], ?_⟩
  intro other hother
  rcases List.mem_append.1 hother with hearlier | hsame
  · exact hreads other hearlier
  · rw [List.mem_singleton.1 hsame]
    exact hread

/-- Whatever an operation asks of a desk, it asks the display for properties only. -/
theorem ReadsSince.worldInvariant (log : List Exchange) :
    WorldInvariant (ReadsSince log : Desk (Transcribed χ) σ → Prop) where
  send _ _ h := h
  text id property _ h := h.readProperty id property 0
  className id _ h := h.readProperty id _ _
  window id property _ h := h.readProperty id property _

end Observed

/-! ### Routing -/

namespace DisplayEvent

/-- The events that say nothing of a window. -/
theorem eq_of_none {event : DisplayEvent} (hnone : GuestEvent.ofDisplayEvent? event = none) :
    event = .error ∨ event = .other ∨
      ∃ window messageType, event = .clientMessage window messageType .other := by
  cases event with
  | clientMessage window messageType data =>
      cases data with
      | words data => cases hnone
      | other => exact Or.inr (Or.inr ⟨window, messageType, rfl⟩)
  | error => exact Or.inl rfl
  | other => exact Or.inr (Or.inl rfl)
  | _ => cases hnone

/-- Events that say nothing of a window call for nothing. -/
theorem followUp_of_none {event : DisplayEvent} (hnone : GuestEvent.ofDisplayEvent? event = none)
    (m : Manager) : event.followUp m = none := by
  rcases eq_of_none hnone with rfl | rfl | ⟨window, messageType, rfl⟩ <;> rfl

end DisplayEvent

namespace Manager

section Worlds

variable {ω : Type} [Connection ω] [HostChannel ω] [PropertySource ω]

/-- An event that says nothing of a window changes nothing. -/
theorem route_of_none (m : Manager) {event : DisplayEvent}
    (hnone : GuestEvent.ofDisplayEvent? event = none) (world : ω) :
    m.route event world = (.ok (if event = .error then .handled else .ignored), m, world) := by
  rcases DisplayEvent.eq_of_none hnone with rfl | rfl | ⟨window, messageType, rfl⟩ <;> rfl

/-- An event about a window is taken in and then followed. -/
theorem route_of_some (m : Manager) {event : DisplayEvent} {guest : GuestEvent}
    (hguest : GuestEvent.ofDisplayEvent? event = some guest) (world : ω) :
    m.route event world =
      ((follow event (m.handle guest world).value (m.handle guest world).world).1,
        (m.handle guest world).value,
        (follow event (m.handle guest world).value (m.handle guest world).world).2) := by
  cases event with
  | clientMessage window messageType data =>
      cases data with
      | words data => cases hguest; rfl
      | other => cases hguest
  | error => cases hguest
  | other => cases hguest
  | _ => cases hguest; rfl

/-- Some events, one after another. -/
def routeAll (m : Manager) (events : List DisplayEvent) (world : ω) : Manager × ω :=
  events.foldl (fun s event => (s.1.route event s.2).2) (m, world)

theorem routeAll_concat (m : Manager) (events : List DisplayEvent) (event : DisplayEvent)
    (world : ω) :
    m.routeAll (events ++ [event]) world =
      ((m.routeAll events world).1.route event (m.routeAll events world).2).2 := by
  rw [routeAll, List.foldl_append]
  rfl

theorem route_setting (m : Manager) (event : DisplayEvent) (world : ω) :
    (m.route event world).2.1.setting = m.setting := by
  cases hguest : GuestEvent.ofDisplayEvent? event with
  | none => rw [m.route_of_none hguest]
  | some guest =>
      rw [m.route_of_some hguest]
      rfl

theorem routeAll_setting (m : Manager) (events : List DisplayEvent) (world : ω) :
    (m.routeAll events world).1.setting = m.setting := by
  induction events generalizing m world with
  | nil => rfl
  | cons event events ih => exact (ih _ _).trans (m.route_setting event world)

variable {ω' : Type} [Connection ω'] [HostChannel ω'] [PropertySource ω'] {f : ω → ω'}

omit [HostChannel ω] [PropertySource ω] [HostChannel ω'] [PropertySource ω'] in
theorem follow_map (hf : ConnectionMap f) (event : DisplayEvent) (m : Manager) (world : ω) :
    follow event m (f world) = ((follow event m world).1, f (follow event m world).2) := by
  unfold follow
  cases event.followUp m with
  | none => rfl
  | some request =>
      have htold := hf.tell_mapped request Fault.lost world
      simp only [ExceptT.run] at htold ⊢
      rw [htold]
      rcases Action.tell request Fault.lost world with ⟨_ | _, next⟩ <;> rfl

omit [Connection ω] [Connection ω'] in
theorem handle_map (hf : WorldMap f) (m : Manager) (guest : GuestEvent) (world : ω) :
    m.handle guest (f world) = (m.handle guest world).mapWorld f := by
  simp only [handle, perform, hf.step_map]
  rfl

/-- Routing does in the image of a world what it does in the world. -/
theorem route_map (hworld : WorldMap f) (hconnection : ConnectionMap f) (m : Manager)
    (event : DisplayEvent) (world : ω) :
    m.route event (f world) =
      ((m.route event world).1, (m.route event world).2.1, f (m.route event world).2.2) := by
  cases hguest : GuestEvent.ofDisplayEvent? event with
  | none => rw [m.route_of_none hguest, m.route_of_none hguest]
  | some guest =>
      rw [m.route_of_some hguest, m.route_of_some hguest, handle_map hworld]
      simp only [Outcome.mapWorld, follow_map hconnection]

end Worlds

variable {χ σ : Type} [Connection χ] [HostChannel σ]

/-- Routing cannot tell an observed desk from a plain one. -/
theorem route_plain (m : Manager) (event : DisplayEvent) (d : Desk (Transcribed χ) σ) :
    m.route event d.plain =
      ((m.route event d).1, (m.route event d).2.1, (m.route event d).2.2.plain) :=
  route_map Desk.plain_worldMap Desk.plain_connectionMap m event d

theorem routeAll_plain (m : Manager) (events : List DisplayEvent) (d : Desk (Transcribed χ) σ) :
    m.routeAll events d.plain = ((m.routeAll events d).1, (m.routeAll events d).2.plain) := by
  induction events generalizing m d with
  | nil => rfl
  | cons event events ih =>
      have hfirst := m.route_plain event d
      simp only [routeAll, List.foldl_cons, hfirst] at ih ⊢
      exact ih _ _

omit [HostChannel σ] in
/-- The request that an event calls for is made once, and the display answers it. -/
theorem follow_exchanges (event : DisplayEvent) (m : Manager) (d : Desk (Transcribed χ) σ) :
    ∃ told, (follow event m d).2.exchanges = d.exchanges ++ told ∧
      told.map Exchange.request = (event.followUp m).toList ∧
      ∀ e ∈ told, e.AnsweredBy χ := by
  unfold follow
  cases event.followUp m with
  | none => exact ⟨[], (List.append_nil _).symm, rfl, by simp⟩
  | some request =>
      refine ⟨[⟨request, (Connection.perform request d).1⟩], ?_, rfl, ?_⟩
      · have hperformed : (Connection.perform request d).2.exchanges =
            d.exchanges ++ [⟨request, (Connection.perform request d).1⟩] := rfl
        rw [← hperformed]
        simp only [ExceptT.run, Action.tell]
        rcases Connection.perform request d with ⟨(_ | _) | reply, next⟩ <;> rfl
      · intro e he
        rw [List.mem_singleton.1 he]
        exact ⟨d.display.world, rfl⟩

/-- A routed event asks for properties, and then makes the request that it calls for. -/
theorem route_exchanges (m : Manager) (event : DisplayEvent) (d : Desk (Transcribed χ) σ) :
    ∃ reads told, (m.route event d).2.2.exchanges = d.exchanges ++ reads ++ told ∧
      (∀ e ∈ reads, e.IsRead) ∧
      told.map Exchange.request = (event.followUp (m.route event d).2.1).toList ∧
      ∀ e ∈ told, e.AnsweredBy χ := by
  cases hguest : GuestEvent.ofDisplayEvent? event with
  | none =>
      rw [m.route_of_none hguest, DisplayEvent.followUp_of_none hguest]
      exact ⟨[], [], by simp, by simp, rfl, by simp⟩
  | some guest =>
      rw [m.route_of_some hguest]
      obtain ⟨reads, hreads, hall⟩ := (ReadsSince.worldInvariant d.exchanges).step m.setting
        guest.window (.guest guest.change) m.windows[guest.window]?
        (⟨[], (List.append_nil _).symm, by simp⟩ : ReadsSince d.exchanges d)
      obtain ⟨told, htold, hrequests, hanswers⟩ :=
        follow_exchanges event (m.handle guest d).value (m.handle guest d).world
      refine ⟨reads, told, ?_, hall, hrequests, hanswers⟩
      rw [htold]
      exact congrArg (· ++ told) hreads

end Manager

end GuestShell

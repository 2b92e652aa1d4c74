import GuestShell.Manager.Basic

/-!
# Channels that are listened to

A recorded world is a world together with the messages that were offered to its channel and
what became of them.  Operations cannot tell a recorded world from the world that it
records: they end alike, leave the same records and, the recording apart, the same world.
So what is proved of the recording of an operation is true of the operation itself.

The argument is made once for all maps between worlds that respect the channel and the
properties; recording is one of them.
-/

namespace GuestShell

/-- A message that was offered to a channel. -/
structure Offer where
  message : List UInt8
  /-- The channel took it. -/
  accepted : Bool
  deriving DecidableEq, Repr

/-- A world and what was offered to its channel, oldest first. -/
structure Recorded (ω : Type) where
  world : ω
  offers : List Offer

/-- A recording that begins. -/
def Recorded.start {ω : Type} (world : ω) : Recorded ω := ⟨world, []⟩

/-- A channel and a source of properties that know nothing of each other. -/
structure Surroundings (χ π : Type) where
  channel : χ
  properties : π

section Instances

variable {ω χ π : Type}

instance [HostChannel ω] : HostChannel (Recorded ω) where
  send message r :=
    let sent := HostChannel.send message r.world
    (sent.1, ⟨sent.2, r.offers ++ [⟨message, sent.1.isOk⟩]⟩)

instance [PropertySource ω] : PropertySource (Recorded ω) where
  text id property r :=
    ((PropertySource.text id property r.world).1,
      { r with world := (PropertySource.text id property r.world).2 })
  className id r :=
    ((PropertySource.className id r.world).1,
      { r with world := (PropertySource.className id r.world).2 })
  window id property r :=
    ((PropertySource.window id property r.world).1,
      { r with world := (PropertySource.window id property r.world).2 })

instance [HostChannel χ] : HostChannel (Surroundings χ π) where
  send message s :=
    ((HostChannel.send message s.channel).1,
      { s with channel := (HostChannel.send message s.channel).2 })

instance [PropertySource π] : PropertySource (Surroundings χ π) where
  text id property s :=
    ((PropertySource.text id property s.properties).1,
      { s with properties := (PropertySource.text id property s.properties).2 })
  className id s :=
    ((PropertySource.className id s.properties).1,
      { s with properties := (PropertySource.className id s.properties).2 })
  window id property s :=
    ((PropertySource.window id property s.properties).1,
      { s with properties := (PropertySource.window id property s.properties).2 })

end Instances

section Outcomes

variable {ω ω' : Type} (f : ω → ω')

/-- The outcome with its world replaced. -/
def Outcome.mapWorld {α : Type} (o : Outcome α ω) : Outcome α ω' :=
  ⟨o.result, o.value, f o.world⟩

theorem ifTracked_mapWorld (record : Option Window) (world : ω) {g : Window → Outcome Window ω}
    {g' : Window → Outcome Window ω'} (hg : ∀ w, g' w = (g w).mapWorld f) :
    ifTracked record (f world) g' = (ifTracked record world g).mapWorld f := by
  cases record with
  | none => rfl
  | some w => simp only [ifTracked, hg]; rfl

theorem beginTracking_mapWorld (id : WindowId) (record : Option Window)
    (overrideRedirect : Bool) (geometry : Geometry) (world : ω) :
    beginTracking id record overrideRedirect geometry (f world) =
      (beginTracking id record overrideRedirect geometry world).mapWorld f := by
  cases record <;> rfl

end Outcomes

variable {ω ω' : Type} [HostChannel ω] [PropertySource ω] [HostChannel ω'] [PropertySource ω']

/-- A map between worlds that answers to everything an operation can ask a world for. -/
structure WorldMap (f : ω → ω') : Prop where
  send : ∀ message world, HostChannel.send message (f world) =
    ((HostChannel.send message world).1, f (HostChannel.send message world).2)
  text : ∀ id property world, PropertySource.text id property (f world) =
    ((PropertySource.text id property world).1, f (PropertySource.text id property world).2)
  className : ∀ id world, PropertySource.className id (f world) =
    ((PropertySource.className id world).1, f (PropertySource.className id world).2)
  window : ∀ id property world, PropertySource.window id property (f world) =
    ((PropertySource.window id property world).1, f (PropertySource.window id property world).2)

/-- Forgetting the recording. -/
theorem WorldMap.recorded_world : WorldMap (Recorded.world : Recorded ω → ω) where
  send _ _ := rfl
  text _ _ _ := rfl
  className _ _ := rfl
  window _ _ _ := rfl

namespace WorldMap

variable {f : ω → ω'} (hf : WorldMap f)

include hf

theorem send_map (request : ShellRequest) (world : ω) :
    request.send (f world) = ((request.send world).1, f (request.send world).2) := by
  unfold ShellRequest.send
  cases request.encode with
  | error e => rfl
  | ok bytes =>
      simp only [hf.send]
      cases HostChannel.send bytes world with
      | mk result world' => cases result <;> rfl

theorem sendAll_map (requests : List (StateAxis × ShellRequest)) (w : Window) (world : ω) :
    Window.sendAll requests w (f world) = (Window.sendAll requests w world).mapWorld f := by
  induction requests generalizing w world with
  | nil => rfl
  | cons head rest ih =>
      obtain ⟨axis, request⟩ := head
      simp only [Window.sendAll, hf.send_map]
      cases hsent : request.send world with
      | mk result world' =>
          cases result with
          | error e => rfl
          | ok u => exact ih (w.told axis) world'

theorem forwardState_map (w : Window) (world : ω) :
    w.forwardState (f world) = (w.forwardState world).mapWorld f := by
  unfold Window.forwardState
  cases w.toplevel with
  | none => rfl
  | some toplevel => exact hf.sendAll_map _ w world

theorem sendApplicationId_map (w : Window) (identity : Identity) (world : ω) :
    w.sendApplicationId identity (f world) =
      (w.sendApplicationId identity world).mapWorld f := by
  unfold Window.sendApplicationId
  cases w.auraSurface with
  | none => rfl
  | some auraSurface => simp only [hf.send_map]; rfl

theorem sendApplicationIdIfManaged_map (w : Window) (identity : Identity) (world : ω) :
    w.sendApplicationIdIfManaged identity (f world) =
      (w.sendApplicationIdIfManaged identity world).mapWorld f := by
  unfold Window.sendApplicationIdIfManaged
  split
  · exact hf.sendApplicationId_map w identity world
  · rfl

theorem sendTitle_map (w : Window) (world : ω) :
    w.sendTitle (f world) = (w.sendTitle world).mapWorld f := by
  unfold Window.sendTitle
  cases w.toplevel with
  | none => rfl
  | some toplevel => simp only [hf.send_map]; rfl

theorem readTitle_map (atoms : Atoms) (id : WindowId) (world : ω) :
    GuestShell.readTitle atoms id (f world) =
      ((GuestShell.readTitle atoms id world).1, f (GuestShell.readTitle atoms id world).2) := by
  unfold GuestShell.readTitle
  simp only [hf.text]
  cases hread : PropertySource.text id atoms.netWmName world with
  | mk title world' =>
      cases title with
      | none => simp only [hf.text]
      | some title => rfl

theorem readAppId_map (w : Window) (setting : Setting) (world : ω) :
    w.readAppId setting (f world) =
      ((w.readAppId setting world).1, f (w.readAppId setting world).2) := by
  unfold Window.readAppId
  cases setting.atoms.appId with
  | none => rfl
  | some property => exact hf.text w.id property world

theorem manage_map (w : Window) (setting : Setting) (world : ω) :
    w.manage setting (f world) = (w.manage setting world).mapWorld f := by
  unfold Window.manage
  simp only [hf.readTitle_map, hf.className, hf.window, hf.readAppId_map, hf.sendApplicationId_map]

theorem focused_map (w : Window) (world : ω) :
    w.focused (f world) = (w.focused world).mapWorld f := by
  unfold Window.focused
  split
  · exact hf.forwardState_map _ world
  · rfl

theorem titleChanged_map (w : Window) (setting : Setting) (world : ω) :
    w.titleChanged setting (f world) = (w.titleChanged setting world).mapWorld f := by
  unfold Window.titleChanged
  simp only [hf.readTitle_map]
  split
  · rfl
  · exact hf.sendTitle_map _ _

theorem propertyChanged_map (w : Window) (setting : Setting) (property : Atom) (world : ω) :
    w.propertyChanged setting property (f world) =
      (w.propertyChanged setting property world).mapWorld f := by
  simp only [Window.propertyChanged]
  split
  · exact hf.titleChanged_map w setting world
  · split
    · simp only [hf.className, hf.sendApplicationIdIfManaged_map]
    · split
      · simp only [hf.text, hf.sendApplicationIdIfManaged_map]
      · split
        · simp only [hf.window]; rfl
        · rfl

theorem messaged_map (w : Window) (setting : Setting) (messageType : Atom) (data : MessageWords)
    (world : ω) :
    w.messaged setting messageType data (f world) =
      (w.messaged setting messageType data world).mapWorld f := by
  unfold Window.messaged
  split
  · unfold Window.stateMessaged
    cases StateRequest.decode setting.atoms data with
    | none => rfl
    | some request =>
        simp only
        split
        · rfl
        · exact hf.forwardState_map _ world
  · split
    · unfold Window.changeStateMessaged
      split
      · exact hf.forwardState_map _ world
      · rfl
    · split <;> rfl

theorem guestStep_map (setting : Setting) (id : WindowId) (change : GuestChange)
    (record : Option Window) (world : ω) :
    change.step setting id record (f world) =
      (change.step setting id record world).mapWorld f := by
  cases change with
  | created overrideRedirect geometry => exact beginTracking_mapWorld f _ _ _ _ world
  | destroyed => rfl
  | reparented parent => simp only [GuestChange.step]; split <;> rfl
  | mapRequested => simp only [GuestChange.step, hf.manage_map]; rfl
  | unmapped => rfl
  | configureRequested change => rfl
  | focused => exact ifTracked_mapWorld f record world fun w => hf.focused_map w world
  | propertyChanged property =>
      exact ifTracked_mapWorld f record world fun w =>
        hf.propertyChanged_map w setting property world
  | messaged messageType data =>
      exact ifTracked_mapWorld f record world fun w =>
        hf.messaged_map w setting messageType data world

/-- An operation does in the image of a world what it does in the world. -/
theorem step_map (setting : Setting) (id : WindowId) (operation : Operation)
    (record : Option Window) (world : ω) :
    operation.step setting id record (f world) =
      (operation.step setting id record world).mapWorld f := by
  cases operation with
  | guest change => exact hf.guestStep_map setting id change record world
  | adopt geometry viewable =>
      cases record with
      | some w => rfl
      | none =>
          simp only [Operation.step]
          split
          · rw [hf.manage_map]; rfl
          · rfl
  | assignRole toplevel => rfl
  | assignAuraSurface auraSurface =>
      exact ifTracked_mapWorld f record world fun w => hf.sendApplicationIdIfManaged_map _ _ world
  | updateApplicationId =>
      exact ifTracked_mapWorld f record world fun w => hf.sendApplicationId_map w _ world

end WorldMap

/-- Listening to the channel changes nothing of an operation. -/
theorem step_recorded (setting : Setting) (id : WindowId) (operation : Operation)
    (record : Option Window) (r : Recorded ω) :
    (operation.step setting id record r).mapWorld Recorded.world =
      operation.step setting id record r.world :=
  (WorldMap.recorded_world.step_map setting id operation record r).symm

/-- What holds of a world whatever is asked of it. -/
structure WorldInvariant (I : ω → Prop) : Prop where
  send : ∀ message world, I world → I (HostChannel.send message world).2
  text : ∀ id property world, I world → I (PropertySource.text id property world).2
  className : ∀ id world, I world → I (PropertySource.className id world).2
  window : ∀ id property world, I world → I (PropertySource.window id property world).2

namespace WorldInvariant

variable {I : ω → Prop} (hI : WorldInvariant I)

/-- The worlds in which the invariant holds are worlds of their own. -/
@[reducible] def channel : HostChannel { world : ω // I world } where
  send message s :=
    ((HostChannel.send message s.1).1, ⟨_, hI.send message s.1 s.2⟩)

@[reducible] def properties : PropertySource { world : ω // I world } where
  text id property s :=
    ((PropertySource.text id property s.1).1, ⟨_, hI.text id property s.1 s.2⟩)
  className id s :=
    ((PropertySource.className id s.1).1, ⟨_, hI.className id s.1 s.2⟩)
  window id property s :=
    ((PropertySource.window id property s.1).1, ⟨_, hI.window id property s.1 s.2⟩)

include hI

/-- An operation keeps every invariant of its world. -/
theorem step (setting : Setting) (id : WindowId) (operation : Operation)
    (record : Option Window) {world : ω} (hworld : I world) :
    I (operation.step setting id record world).world := by
  let _ := hI.channel
  let _ := hI.properties
  have hmap : WorldMap (Subtype.val : { world : ω // I world } → ω) := by
    constructor <;> intros <;> rfl
  rw [hmap.step_map setting id operation record ⟨world, hworld⟩]
  exact (operation.step setting id record (⟨world, hworld⟩ : { world : ω // I world })).world.2

end WorldInvariant

end GuestShell

import GuestShell.Manager.Sending
import GuestShell.Scale.Calibration

/-!
# What an operation does to one record

Every operation is a function of the record of its window, which may be absent, and of the
world it reads properties from and sends requests to.  Operations on a window that is not
tracked do nothing, except those that begin tracking it.

The functions in `Window` are for a record that exists; `Operation.step` is for all cases.
-/

namespace GuestShell

variable {ω : Type} [HostChannel ω] [PropertySource ω]

namespace Window

/-- A fresh record for a window of a known geometry. -/
def created (id : WindowId) (overrideRedirect : Bool) (geometry : Geometry) : Window :=
  { new id with overrideRedirect := overrideRedirect, geometry := geometry }

/-- Reads the configured application id property, if one is configured. -/
def readAppId (w : Window) (setting : Setting) (world : ω) : Option String × ω :=
  match setting.atoms.appId with
  | none => (w.appIdProperty, world)
  | some property => PropertySource.text w.id property world

/-- Takes the window over: reads what its properties say and tells the host its id. -/
def manage (w : Window) (setting : Setting) (world : ω) : Outcome Window ω :=
  match readTitle setting.atoms w.id world with
  | (title, world) =>
    match PropertySource.className w.id world with
    | (className, world) =>
      match PropertySource.window w.id setting.atoms.wmClientLeader world with
      | (clientLeader, world) =>
        match w.readAppId setting world with
        | (appIdProperty, world) =>
          { w with
            managed := true
            title := title
            className := className
            clientLeader := clientLeader
            appIdProperty := appIdProperty }.sendApplicationId setting.identity world

/-- The guest unmapped the window, and the host objects go with the mapping. -/
def unmapped (w : Window) : Window :=
  { w with managed := false }.clearHostObjects

/-- Records a geometry.  In direct mode a window with a role is calibrated for it. -/
def configured (w : Window) (setting : Setting) (change : GeometryChange) : Window :=
  let w := { w with geometry := w.geometry.change change }
  if setting.scale.isDirect && w.hasRole then
    { w with scale := setting.scale.calibrate w.scale w.geometry.pixels }
  else w

/-- The focus ends the iconified state, and changes held back meanwhile go to the host. -/
def focused (w : Window) (world : ω) : Outcome Window ω :=
  if w.state.iconified then
    { w with state := { w.state with iconified := false } }.forwardState world
  else ⟨.ok (), w, world⟩

/-- Reads the title again.  The host is told only of a different one. -/
def titleChanged (w : Window) (setting : Setting) (world : ω) : Outcome Window ω :=
  match readTitle setting.atoms w.id world with
  | (title, world) =>
    if title = w.title then ⟨.ok (), w, world⟩
    else { w with title := title }.sendTitle world

/-- Reads the property that changed again.  The names come first, then the class, the
application id property and the client leader; other properties do not matter here. -/
def propertyChanged (w : Window) (setting : Setting) (property : Atom) (world : ω) :
    Outcome Window ω :=
  let atoms := setting.atoms
  if property = atoms.wmName ∨ property = atoms.netWmName then w.titleChanged setting world
  else if property = atoms.wmClass then
    match PropertySource.className w.id world with
    | (className, world) =>
      { w with className := className }.sendApplicationIdIfManaged setting.identity world
  else if some property = atoms.appId then
    match PropertySource.text w.id property world with
    | (appIdProperty, world) =>
      { w with appIdProperty := appIdProperty }.sendApplicationIdIfManaged setting.identity
        world
  else if property = atoms.wmClientLeader then
    match PropertySource.window w.id property world with
    | (clientLeader, world) => ⟨.ok (), { w with clientLeader := clientLeader }, world⟩
  else ⟨.ok (), w, world⟩

/-- Applies a `_NET_WM_STATE` message.  While the window is iconified the change is
recorded and held back. -/
def stateMessaged (w : Window) (setting : Setting) (data : MessageWords) (world : ω) :
    Outcome Window ω :=
  match StateRequest.decode setting.atoms data with
  | none => ⟨.ok (), w, world⟩
  | some request =>
    let w := { w with state := request.apply w.state }
    if w.state.iconified then ⟨.ok (), w, world⟩ else w.forwardState world

/-- The word of a `WM_CHANGE_STATE` message that asks for the iconified state. -/
def iconicState : UInt32 := 3

/-- Applies a `WM_CHANGE_STATE` message, where windows can be iconified. -/
def changeStateMessaged (w : Window) (setting : Setting) (data : MessageWords) (world : ω) :
    Outcome Window ω :=
  if setting.iconify && data.first == iconicState then
    { w with state := { w.state with iconified := true } }.forwardState world
  else ⟨.ok (), w, world⟩

/-- Applies a client message. -/
def messaged (w : Window) (setting : Setting) (messageType : Atom) (data : MessageWords)
    (world : ω) : Outcome Window ω :=
  if messageType = setting.atoms.netWmState then w.stateMessaged setting data world
  else if messageType = setting.atoms.wmChangeState then
    w.changeStateMessaged setting data world
  else if messageType = setting.atoms.wlSurfaceId then
    ⟨.ok (), { w with hostSurface := some data.first }, world⟩
  else ⟨.ok (), w, world⟩

/-- Attaches a toplevel.  The state at this time counts as known to the host. -/
def assignRole (w : Window) (toplevel : UInt32) : Window :=
  { w with toplevel := some toplevel, hostState := w.state }

/-- Attaches an aura surface, and tells it the application id of a managed window. -/
def assignAuraSurface (w : Window) (setting : Setting) (auraSurface : UInt32) (world : ω) :
    Outcome Window ω :=
  { w with auraSurface := some auraSurface }.sendApplicationIdIfManaged setting.identity world

end Window

/-- Does to a tracked window what `f` says, and nothing to an untracked one. -/
def ifTracked (record : Option Window) (world : ω) (f : Window → Outcome Window ω) :
    Outcome (Option Window) ω :=
  match record with
  | none => ⟨.ok (), none, world⟩
  | some w => (f w).map some

/-- Begins to track a window; refused if it is tracked already. -/
def beginTracking (id : WindowId) (record : Option Window) (overrideRedirect : Bool)
    (geometry : Geometry) (world : ω) : Outcome (Option Window) ω :=
  match record with
  | none => ⟨.ok (), some (.created id overrideRedirect geometry), world⟩
  | some w => ⟨.error (.duplicateWindow id), some w, world⟩

/-- The record of a window, a fresh one if it has none. -/
def trackedOrNew (id : WindowId) (record : Option Window) : Window :=
  record.getD (.created id false .empty)

namespace GuestChange

/-- What a report does to the record of its window.  A window whose new parent is not the
root is embedded in another one and is not tracked any more. -/
def step (setting : Setting) (id : WindowId) (change : GuestChange) (record : Option Window)
    (world : ω) : Outcome (Option Window) ω :=
  match change with
  | .created overrideRedirect geometry => beginTracking id record overrideRedirect geometry world
  | .destroyed => ⟨.ok (), none, world⟩
  | .reparented parent =>
      if parent = setting.root then ⟨.ok (), some (trackedOrNew id record), world⟩
      else ⟨.ok (), none, world⟩
  | .mapRequested => ((trackedOrNew id record).manage setting world).map some
  | .unmapped => ⟨.ok (), record.map Window.unmapped, world⟩
  | .configureRequested change => ⟨.ok (), record.map (·.configured setting change), world⟩
  | .focused => ifTracked record world fun w => w.focused world
  | .propertyChanged property =>
      ifTracked record world fun w => w.propertyChanged setting property world
  | .messaged messageType data =>
      ifTracked record world fun w => w.messaged setting messageType data world

end GuestChange

namespace Operation

/-- What an operation does to the record of its window. -/
def step (setting : Setting) (id : WindowId) (operation : Operation) (record : Option Window)
    (world : ω) : Outcome (Option Window) ω :=
  match operation with
  | .guest change => change.step setting id record world
  | .adopt geometry viewable =>
    match record with
    | some w => ⟨.error (.duplicateWindow id), some w, world⟩
    | none =>
      let w := Window.created id false geometry
      if viewable then (w.manage setting world).map some else ⟨.ok (), some w, world⟩
  | .assignRole toplevel => ⟨.ok (), record.map (·.assignRole toplevel), world⟩
  | .assignAuraSurface auraSurface =>
      ifTracked record world fun w => w.assignAuraSurface setting auraSurface world
  | .updateApplicationId =>
      ifTracked record world fun w => w.sendApplicationId setting.identity world

end Operation

end GuestShell

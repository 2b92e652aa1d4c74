import GuestShell.Host.Transport
import GuestShell.Proofs.Display.Routing
import GuestShell.Proofs.Manager.RecordStep

/-!
# Dialogues with a display

What lies between two worlds may be a dialogue and nothing else: some requests, performed one
after another, each with its answer.  A world that comes of a dialogue has kept everything that
requests do not touch, such as the channel to the host.  An action that loses the connection
(`Action.Loses`) has had a dialogue with a lost request in it.

What is read from the properties of a window is a function of the dialogue in which they were
read.  `Answers` is a world that gives the answers of a dialogue once more and notes for what it
was asked.  A reading that is retold there (`Retells`) comes to what it came to before, and asks
for the same.

The answers are those of the display, of which nothing is assumed.  In particular it is NOT
claimed that it would give them again.
-/

namespace GuestShell

/-- The second world comes of the first by requests with these answers. -/
inductive Dialogue {ω : Type} [Connection ω] : ω → List Exchange → ω → Prop
  | done (world : ω) : Dialogue world [] world
  | asked {world world' : ω} (request : Request) {rest : List Exchange}
      (hrest : Dialogue (Connection.perform request world).2 rest world') :
      Dialogue world (⟨request, (Connection.perform request world).1⟩ :: rest) world'

namespace Dialogue

section Laws

variable {ω : Type} [Connection ω] {world world' world'' : ω} {exchanges others : List Exchange}

theorem single (request : Request) (world : ω) :
    Dialogue world [⟨request, (Connection.perform request world).1⟩]
      (Connection.perform request world).2 :=
  .asked request (.done _)

theorem append (h : Dialogue world exchanges world') (hothers : Dialogue world' others world'') :
    Dialogue world (exchanges ++ others) world'' := by
  induction h with
  | done => exact hothers
  | asked request hrest ih => exact .asked request (ih hothers)

/-- A request whose answer is known. -/
theorem of_eq {request : Request} {answer : Except Fault request.Reply}
    (h : Connection.perform request world = (answer, world')) :
    Dialogue world [⟨request, answer⟩] world' := by
  have hsingle := single request world
  rwa [h] at hsingle

theorem answeredBy (h : Dialogue world exchanges world') : ∀ e ∈ exchanges, e.AnsweredBy ω := by
  induction h with
  | done => exact nofun
  | asked request hrest ih =>
      intro e he
      rcases List.mem_cons.1 he with rfl | hlater
      · exact ⟨_, rfl⟩
      · exact ih e hlater

end Laws

section Worlds

variable {χ σ : Type} [Connection χ]

/-- A dialogue is what the transcript goes on with. -/
theorem transcribed {t t' : Transcribed χ} {exchanges : List Exchange}
    (h : Dialogue t exchanges t') : t'.exchanges = t.exchanges ++ exchanges := by
  induction h with
  | done => exact (List.append_nil _).symm
  | @asked t t' request rest hrest ih =>
      have hfirst : (Connection.perform request t).2.exchanges =
          t.exchanges ++ [⟨request, (Connection.perform request t).1⟩] := rfl
      rw [ih, hfirst, List.append_assoc]
      rfl

/-- At a desk a dialogue is one with the display, and the channel is left alone. -/
theorem atDesk {d d' : Desk χ σ} {exchanges : List Exchange} (h : Dialogue d exchanges d') :
    Dialogue d.display exchanges d'.display ∧ d'.channel = d.channel := by
  induction h with
  | done d => exact ⟨.done _, rfl⟩
  | asked request hrest ih => exact ⟨.asked request ih.1, ih.2⟩

/-- At a site the files and the socket are left alone as well. -/
theorem atSite {s s' : Site χ} {exchanges : List Exchange} (h : Dialogue s exchanges s') :
    Dialogue s.display exchanges s'.display ∧ s'.files = s.files ∧ s'.socket = s.socket := by
  induction h with
  | done s => exact ⟨.done _, rfl, rfl⟩
  | asked request hrest ih => exact ⟨.asked request ih.1, ih.2⟩

end Worlds

end Dialogue

/-- An action fails after requests of which one was lost. -/
inductive Action.Loses {ω ε α : Type} [Connection ω] (x : Action ω ε α) (failure : ε)
    (world : ω) : Prop
  | intro {exchanges : List Exchange} {world' : ω} (hdialogue : Dialogue world exchanges world')
      (hlost : ∃ e ∈ exchanges, e.answer = .error .lost)
      (hfails : x world = (.error failure, world'))

namespace Action.Loses

variable {ω ε α β : Type} [Connection ω] {x : Action ω ε α} {failure : ε} {world world' : ω}

theorem ask? {request : Request}
    (h : Connection.perform request world = (.error .lost, world')) (failure : ε) :
    Action.Loses (Action.ask? request failure) failure world :=
  ⟨.of_eq h, ⟨_, List.mem_singleton_self _, rfl⟩, Action.ask?_of_lost h failure⟩

theorem tell {request : Request}
    (h : Connection.perform request world = (.error .lost, world')) (failure : ε) :
    Action.Loses (Action.tell request failure) failure world :=
  ⟨.of_eq h, ⟨_, List.mem_singleton_self _, rfl⟩, Action.tell_of_lost h failure⟩

theorem bind (h : Action.Loses x failure world) (f : α → Action ω ε β) :
    Action.Loses (x >>= f) failure world := by
  obtain ⟨hdialogue, hlost, hfails⟩ := h
  exact ⟨hdialogue, hlost, Action.bind_of_error hfails f⟩

/-- What is lost after a dialogue is lost altogether. -/
theorem after {exchanges : List Exchange} {a : α} {f : α → Action ω ε β}
    (hfirst : Dialogue world exchanges world') (hx : x world = (.ok a, world'))
    (h : Action.Loses (f a) failure world') : Action.Loses (x >>= f) failure world := by
  obtain ⟨hdialogue, ⟨e, he, hlost⟩, hfails⟩ := h
  exact ⟨hfirst.append hdialogue, ⟨e, List.mem_append_right _ he, hlost⟩,
    (Action.bind_of_ok hx f).trans hfails⟩

end Action.Loses

/-! ### Answers that are given once more -/

/-- A world that gives answers in their order, each to the request that it was given to.  It
remembers what it was asked. -/
structure Answers where
  exchanges : List Exchange
  asked : List Request

instance : Connection Answers where
  screens _ := []
  newId a := (.ok 0, a)
  perform request a :=
    match a.exchanges with
    | [] => (.error .lost, ⟨[], a.asked ++ [request]⟩)
    | e :: rest =>
        (if h : e.request = request then h ▸ e.answer else .error .lost,
          ⟨rest, a.asked ++ [request]⟩)
  flush a := (.ok (), a)

instance : PropertySource Answers := Connection.propertySource

/-- What is asked about a window that is taken over.  The second name is asked for only if there
is no first one. -/
def Window.inquiries (setting : Setting) (id : WindowId) (named : Bool) : List Request :=
  .getProperty id setting.atoms.netWmName 0 ::
    (if named then [] else [.getProperty id setting.atoms.wmName 0]) ++
    [.getProperty id PredefinedAtom.wmClass.number PredefinedAtom.string.number,
     .getProperty id setting.atoms.wmClientLeader PredefinedAtom.window.number] ++
    (setting.atoms.appId.map fun property => .getProperty id property 0).toList

namespace Answers

@[simp] theorem perform_asked (request : Request) (a : Answers) :
    (Connection.perform request a).2.asked = a.asked ++ [request] := by
  rcases a with ⟨_ | ⟨e, rest⟩, asked⟩ <;> rfl

@[simp] theorem readProperty_asked (id : WindowId) (property type : Atom) (a : Answers) :
    (Connection.readProperty id property type a).2.asked =
      a.asked ++ [.getProperty id property type] := by
  rw [← perform_asked]
  unfold Connection.readProperty
  split <;> next heq => rw [heq]

@[simp] theorem text_asked (id : WindowId) (property : Atom) (a : Answers) :
    (PropertySource.text id property a).2.asked = a.asked ++ [.getProperty id property 0] :=
  readProperty_asked id property 0 a

@[simp] theorem className_asked (id : WindowId) (a : Answers) :
    (PropertySource.className id a).2.asked = a.asked ++
      [.getProperty id PredefinedAtom.wmClass.number PredefinedAtom.string.number] :=
  readProperty_asked id _ _ a

@[simp] theorem window_asked (id : WindowId) (property : Atom) (a : Answers) :
    (PropertySource.window id property a).2.asked =
      a.asked ++ [.getProperty id property PredefinedAtom.window.number] :=
  readProperty_asked id property _ a

theorem readTitle_asked (atoms : Atoms) (id : WindowId) (a : Answers) :
    (readTitle atoms id a).2.asked = a.asked ++ .getProperty id atoms.netWmName 0 ::
      if (PropertySource.text id atoms.netWmName a).1.isSome then []
      else [.getProperty id atoms.wmName 0] := by
  have hfirst := text_asked id atoms.netWmName a
  unfold readTitle
  rcases hread : PropertySource.text id atoms.netWmName a with ⟨_ | title, next⟩
  · have hnext : next.asked = _ := hread ▸ hfirst
    simp [hnext]
  · have hnext : next.asked = _ := hread ▸ hfirst
    simp [hnext]

theorem readAppId_asked (w : Window) (setting : Setting) (a : Answers) :
    (w.readAppId setting a).2.asked = a.asked ++
      (setting.atoms.appId.map fun property => Request.getProperty w.id property 0).toList := by
  unfold Window.readAppId
  cases setting.atoms.appId with
  | none => exact (List.append_nil _).symm
  | some property => exact text_asked w.id property a

/-- Every property that a record has is asked for when a window is taken over. -/
theorem takenOver_asked (w : Window) (setting : Setting) (a : Answers) :
    (w.takenOver setting a).2.asked = a.asked ++ Window.inquiries setting w.id
      (PropertySource.text w.id setting.atoms.netWmName a).1.isSome := by
  simp only [Window.takenOver, readAppId_asked, window_asked, className_asked, readTitle_asked,
    Window.inquiries, List.append_assoc, List.cons_append, List.nil_append]

end Answers

section Retelling

variable {χ σ : Type} [Connection χ] {α β : Type}

/-- What is read at a desk is read once more from the answers of the dialogue, by the same
requests. -/
def Retells (x : Desk χ σ → α × Desk χ σ) (y : Answers → α × Answers) : Prop :=
  ∀ d, ∃ reads, Dialogue d reads (x d).2 ∧ (∀ e ∈ reads, e.IsRead) ∧
    ∀ rest asked, y ⟨reads ++ rest, asked⟩ =
      ((x d).1, ⟨rest, asked ++ reads.map Exchange.request⟩)

namespace Retells

theorem pure (a : α) : Retells (fun d : Desk χ σ => (a, d)) (fun r => (a, r)) :=
  fun d => ⟨[], .done d, nofun, fun _ asked => by rw [List.map_nil, List.append_nil]; rfl⟩

theorem bind {x : Desk χ σ → α × Desk χ σ} {y : Answers → α × Answers} (hx : Retells x y)
    {f : α → Desk χ σ → β × Desk χ σ} {g : α → Answers → β × Answers}
    (hf : ∀ a, Retells (f a) (g a)) :
    Retells (fun d => f (x d).1 (x d).2) (fun r => g (y r).1 (y r).2) := by
  intro d
  obtain ⟨reads, hfirst, hreads, hagain⟩ := hx d
  obtain ⟨others, hsecond, hothers, hthen⟩ := hf (x d).1 (x d).2
  refine ⟨reads ++ others, hfirst.append hsecond, ?_, ?_⟩
  · intro e he
    exact (List.mem_append.1 he).elim (hreads e) (hothers e)
  · intro rest asked
    simp only [List.append_assoc, hagain, hthen, List.map_append]

theorem map {x : Desk χ σ → α × Desk χ σ} {y : Answers → α × Answers} (hx : Retells x y)
    (f : α → β) : Retells (fun d => (f (x d).1, (x d).2)) (fun r => (f (y r).1, (y r).2)) :=
  hx.bind fun a => pure (f a)

theorem readProperty (id : WindowId) (property type : Atom) :
    Retells (Connection.readProperty id property type : Desk χ σ → _)
      (Connection.readProperty id property type) := by
  intro d
  refine ⟨[⟨.getProperty id property type,
    (Connection.perform (.getProperty id property type) d).1⟩], ?_, ?_, ?_⟩
  · have hworld : (Connection.readProperty id property type d).2 =
        (Connection.perform (.getProperty id property type) d).2 := by
      unfold Connection.readProperty
      split <;> next heq => rw [heq]
    rw [hworld]
    exact .single _ d
  · intro e he
    rw [List.mem_singleton.1 he]
    exact ⟨_, _, _, rfl⟩
  · intro rest asked
    have hanswer : Connection.perform (.getProperty id property type)
        (⟨[⟨.getProperty id property type,
          (Connection.perform (.getProperty id property type) d).1⟩] ++ rest, asked⟩ : Answers) =
        ((Connection.perform (.getProperty id property type) d).1,
          ⟨rest, asked ++ [.getProperty id property type]⟩) := by
      simp [Connection.perform]
    unfold Connection.readProperty
    rw [hanswer]
    rcases Connection.perform (.getProperty id property type) d with ⟨fault | reply, next⟩ <;> rfl

theorem text (id : WindowId) (property : Atom) :
    Retells (PropertySource.text id property : Desk χ σ → _) (PropertySource.text id property) :=
  (readProperty id property 0).map fun reply => reply.bind PropertyValue.text?

theorem className (id : WindowId) :
    Retells (PropertySource.className id : Desk χ σ → _) (PropertySource.className id) :=
  (readProperty id _ _).map fun reply => reply.bind fun p => parseWmClass p.value

theorem window (id : WindowId) (property : Atom) :
    Retells (PropertySource.window id property : Desk χ σ → _)
      (PropertySource.window id property) :=
  (readProperty id property _).map fun reply => reply.bind PropertyValue.window?

/-- The second name is read only if there is no first one. -/
theorem readTitle (atoms : Atoms) (id : WindowId) :
    Retells (GuestShell.readTitle atoms id : Desk χ σ → _) (GuestShell.readTitle atoms id) := by
  intro d
  obtain ⟨reads, hfirst, hreads, hagain⟩ := text id atoms.netWmName d
  unfold GuestShell.readTitle
  rcases hread : PropertySource.text id atoms.netWmName d with ⟨_ | title, next⟩
  · obtain ⟨others, hsecond, hothers, hthen⟩ := text id atoms.wmName next
    rw [hread] at hfirst hagain
    refine ⟨reads ++ others, hfirst.append hsecond, ?_, ?_⟩
    · intro e he
      exact (List.mem_append.1 he).elim (hreads e) (hothers e)
    · intro rest asked
      simp only [List.append_assoc, hagain, hthen, List.map_append]
  · rw [hread] at hfirst hagain
    refine ⟨reads, hfirst, hreads, ?_⟩
    intro rest asked
    simp only [hagain]

theorem readAppId (w : Window) (setting : Setting) :
    Retells (w.readAppId setting : Desk χ σ → _) (w.readAppId setting) := by
  unfold Window.readAppId
  cases setting.atoms.appId with
  | none => exact pure w.appIdProperty
  | some property => exact text w.id property

/-- The record of a window that is taken over is told by the answers. -/
theorem takenOver (w : Window) (setting : Setting) :
    Retells (w.takenOver setting : Desk χ σ → _) (w.takenOver setting) :=
  (readTitle setting.atoms w.id).bind fun title =>
    (className w.id).bind fun className =>
      (window w.id setting.atoms.wmClientLeader).bind fun clientLeader =>
        (readAppId w setting).map fun appIdProperty =>
          { w with managed := true, title, className, clientLeader, appIdProperty }

end Retells

end Retelling

end GuestShell

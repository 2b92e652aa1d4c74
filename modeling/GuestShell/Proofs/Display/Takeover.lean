import GuestShell.Display.Ownership
import GuestShell.Proofs.Display.Transcript
import Mathlib.Data.List.Induction

/-!
# Taking over a screen

An attempt to take over a screen goes through phases, and each exchange with the display leads
from one phase to the next (`Attempt.Step`).  What the display answers decides which one that
is.  The transcript of an attempt is a path through the phases from the first one, whatever the
display answers (`acquireOn_follows`); so what is to be shown of all attempts is shown of the
steps.

The root window is asked to redirect in one phase only, and no step leads out of the phase that
a fatal fault leads to.  Not every fault is fatal: no one awaits an answer to the creation of a
window or to the subscription to the former owner, and a former owner that cannot be looked at
has gone.

How long the former owner is waited for is NOT modelled, only how often it is looked at.
-/

namespace GuestShell

namespace Ownership

/-- How far an attempt to take over a screen has come. -/
inductive Phase where
  | opening
  | interned (selection : Atom)
  /-- The owner of the selection is known; zero is none. -/
  | asked (selection : Atom) (former : WindowId)
  /-- The former owner is watched. -/
  | challenged (selection : Atom) (former : WindowId)
  | created (selection : Atom) (former owner : WindowId)
  | taken (selection : Atom) (former owner : WindowId)
  /-- The selection was verified, and the former owner was looked at so many times. -/
  | waiting (former owner : WindowId) (looks : Nat)
  | gone (former owner : WindowId)
  | prepared (former owner : WindowId) (reported : WindowAttributes)
  | redirected (owner : WindowId)
  | stopped

/-- The phases in which the selection may be taken: it has no owner, or the owner is to go. -/
inductive Phase.Free : Phase → Atom → WindowId → Prop
  | unowned (selection : Atom) : Free (.asked selection 0) selection 0
  | challenged (selection : Atom) (former : WindowId) :
      Free (.challenged selection former) selection former

/-- The phases in which the waiting is over: there was no owner, or it has gone, or it was
looked at often enough. -/
inductive Phase.Waited : Phase → WindowId → WindowId → Prop
  | unowned (owner : WindowId) : Waited (.waiting 0 owner 0) 0 owner
  | gone (former owner : WindowId) : Waited (.gone former owner) former owner
  | patience {former : WindowId} (howned : former ≠ 0) (owner : WindowId) :
      Waited (.waiting former owner patience) former owner

/-- The phases in which nothing is asked for any more. -/
def Phase.Final : Phase → Prop
  | .redirected _ => True
  | .stopped => True
  | _ => False

theorem Phase.Free.not_final {p : Phase} {selection : Atom} {former : WindowId}
    (h : p.Free selection former) : ¬ p.Final := by
  cases h <;> exact id

theorem Phase.Waited.not_final {p : Phase} {former owner : WindowId} (h : p.Waited former owner) :
    ¬ p.Final := by
  cases h <;> exact id

/-- Asks a former owner for word of its end, 0x20000. -/
def subscription (former : WindowId) : Request :=
  .changeWindowAttributes former [(0x800, 0x20000)]

/-- Asks the root window for everything that is needed, besides what it reports: for word of its
children, 0x80000, for their redirection, 0x100000, for the focus, 0x200000, and for properties,
0x400000. -/
def redirection (root : WindowId) (reported : WindowAttributes) : Request :=
  .changeWindowAttributes root [(0x800, reported.eventMask ||| 0x780000)]

/-- What an attempt to take over a screen is made with. -/
structure Attempt where
  number : Nat
  screen : Screen
  replace : Bool

namespace Attempt

variable (a : Attempt)

/-- The faults that end an attempt, by phase and request. -/
inductive Fatal : Phase → Request → Fault → Prop
  | intern (fault : Fault) : Fatal .opening (.internAtom (selectionName a.number)) fault
  | ask (selection : Atom) (fault : Fault) :
      Fatal (.interned selection) (.getSelectionOwner selection) fault
  | create {p : Phase} {selection : Atom} {former : WindowId} (hfree : p.Free selection former)
      (owner : WindowId) : Fatal p (.createWindow (selectionWindow a.screen owner)) .lost
  | take (selection : Atom) (former owner : WindowId) (fault : Fault) :
      Fatal (.created selection former owner) (.setSelectionOwner owner selection) fault
  | verify (selection : Atom) (former owner : WindowId) (fault : Fault) :
      Fatal (.taken selection former owner) (.getSelectionOwner selection) fault
  | look {former : WindowId} (howned : former ≠ 0) (owner : WindowId) {looks : Nat}
      (hpatience : looks < patience) :
      Fatal (.waiting former owner looks) (.getWindowAttributes former) .lost
  | prepare {p : Phase} {former owner : WindowId} (hwaited : p.Waited former owner)
      (fault : Fault) : Fatal p (.getWindowAttributes a.screen.root) fault
  | redirect (former owner : WindowId) (reported : WindowAttributes) (fault : Fault) :
      Fatal (.prepared former owner reported) (redirection a.screen.root reported) fault

/-- What an exchange leads to. -/
inductive Step : Phase → Exchange → Phase → Prop
  | intern (selection : Atom) :
      Step .opening ⟨.internAtom (selectionName a.number), .ok selection⟩ (.interned selection)
  | ask (selection : Atom) (former : WindowId) :
      Step (.interned selection) ⟨.getSelectionOwner selection, .ok former⟩
        (.asked selection former)
  | challenge (selection : Atom) {former : WindowId} (howned : former ≠ 0)
      (hreplace : a.replace = true) (answer : Except Fault Unit) :
      Step (.asked selection former) ⟨subscription former, answer⟩
        (.challenged selection former)
  | create {p : Phase} {selection : Atom} {former : WindowId} (hfree : p.Free selection former)
      (owner : WindowId) {answer : Except Fault Unit} (hsent : answer ≠ .error .lost) :
      Step p ⟨.createWindow (selectionWindow a.screen owner), answer⟩
        (.created selection former owner)
  | take (selection : Atom) (former owner : WindowId) :
      Step (.created selection former owner) ⟨.setSelectionOwner owner selection, .ok ()⟩
        (.taken selection former owner)
  | verify (selection : Atom) (former owner : WindowId) :
      Step (.taken selection former owner) ⟨.getSelectionOwner selection, .ok owner⟩
        (.waiting former owner 0)
  /-- Another window has the selection. -/
  | overtaken (selection : Atom) (former : WindowId) {owner actual : WindowId}
      (hother : actual ≠ owner) :
      Step (.taken selection former owner) ⟨.getSelectionOwner selection, .ok actual⟩ .stopped
  | look {former : WindowId} (howned : former ≠ 0) (owner : WindowId) {looks : Nat}
      (hpatience : looks < patience) (attributes : WindowAttributes) :
      Step (.waiting former owner looks) ⟨.getWindowAttributes former, .ok attributes⟩
        (.waiting former owner (looks + 1))
  | exit {former : WindowId} (howned : former ≠ 0) (owner : WindowId) {looks : Nat}
      (hpatience : looks < patience) :
      Step (.waiting former owner looks) ⟨.getWindowAttributes former, .error .refused⟩
        (.gone former owner)
  | prepare {p : Phase} {former owner : WindowId} (hwaited : p.Waited former owner)
      (reported : WindowAttributes) :
      Step p ⟨.getWindowAttributes a.screen.root, .ok reported⟩ (.prepared former owner reported)
  | redirect (former owner : WindowId) (reported : WindowAttributes) :
      Step (.prepared former owner reported) ⟨redirection a.screen.root reported, .ok ()⟩
        (.redirected owner)
  | fail {p : Phase} {request : Request} {fault : Fault} (hfatal : a.Fatal p request fault) :
      Step p ⟨request, .error fault⟩ .stopped

/-- The exchanges lead from one phase to another. -/
def Path : Phase → List Exchange → Phase → Prop
  | p, [], q => p = q
  | p, e :: log, q => ∃ p', a.Step p e p' ∧ Path p' log q

/-- The transcript of an attempt that has come to a phase. -/
def At (p : Phase) (log : List Exchange) : Prop := a.Path .opening log p

/-- The errors with which an attempt can end in a phase. -/
inductive Ending : Phase → OwnershipError → Prop
  | stopped (e : OwnershipError) : Ending .stopped e
  | occupied (selection : Atom) {former : WindowId} (howned : former ≠ 0)
      (hkeep : a.replace = false) : Ending (.asked selection former) (.anotherManager former)
  /-- There was no number for the new window. -/
  | unnumbered {p : Phase} {selection : Atom} {former : WindowId} (hfree : p.Free selection former)
      (fault : IdFault) : Ending p (.ofIdFault fault)
  /-- The requests could not be handed over. -/
  | unflushed (p : Phase) : Ending p .connectionLost

/-- The attempt has ended with an error. -/
def Ended (e : OwnershipError) (log : List Exchange) : Prop := ∃ p, a.At p log ∧ a.Ending p e

variable {a}

/-! ### Paths -/

theorem path_append {p q : Phase} {xs ys : List Exchange} :
    a.Path p (xs ++ ys) q ↔ ∃ p', a.Path p xs p' ∧ a.Path p' ys q := by
  induction xs generalizing p with
  | nil => simp [Path]
  | cons e log ih =>
      simp only [List.cons_append, Path, ih]
      constructor
      · rintro ⟨m, hstep, p', hxs, hys⟩
        exact ⟨p', ⟨m, hstep, hxs⟩, hys⟩
      · rintro ⟨p', ⟨m, hstep, hxs⟩, hys⟩
        exact ⟨m, hstep, p', hxs, hys⟩

theorem At.step {p q : Phase} {log : List Exchange} {e : Exchange} (h : a.At p log)
    (hstep : a.Step p e q) : a.At q (log ++ [e]) :=
  path_append.2 ⟨p, h, q, hstep, rfl⟩

theorem At.fail {p : Phase} {log : List Exchange} {request : Request} {fault : Fault}
    (h : a.At p log) (hfatal : a.Fatal p request fault) (e : OwnershipError) :
    a.Ended e (log ++ [⟨request, .error fault⟩]) :=
  ⟨.stopped, h.step (.fail hfatal), .stopped e⟩

/-- What is invariant under steps holds of every transcript. -/
theorem At.induction {P : Phase → List Exchange → Prop} (hnil : P .opening [])
    (hstep : ∀ p log e q, P p log → a.Step p e q → P q (log ++ [e])) {p : Phase}
    {log : List Exchange} (h : a.At p log) : P p log := by
  induction log using List.reverseRecOn generalizing p with
  | nil =>
      cases h
      exact hnil
  | append_singleton log e ih =>
      obtain ⟨p', hlog, q, hlast, rfl⟩ := path_append.1 h
      exact hstep p' log e q (ih hlog) hlast

/-- Every exchange of an attempt is a step between two phases. -/
theorem At.split {p : Phase} {earlier later : List Exchange} {e : Exchange}
    (h : a.At p (earlier ++ e :: later)) :
    ∃ p₁ p₂, a.At p₁ earlier ∧ a.Step p₁ e p₂ ∧ a.Path p₂ later p := by
  obtain ⟨p₁, hearlier, p₂, hstep, hlater⟩ := path_append.1 h
  exact ⟨p₁, p₂, hearlier, hstep, hlater⟩

theorem Fatal.not_final {p : Phase} {request : Request} {fault : Fault}
    (h : a.Fatal p request fault) : ¬ p.Final := by
  cases h with
  | create hfree => exact hfree.not_final
  | prepare hwaited => exact hwaited.not_final
  | _ => exact id

theorem Step.not_final {p q : Phase} {e : Exchange} (h : a.Step p e q) : ¬ p.Final := by
  cases h with
  | create hfree => exact hfree.not_final
  | prepare hwaited => exact hwaited.not_final
  | fail hfatal => exact hfatal.not_final
  | _ => exact id

theorem path_of_final {p q : Phase} {log : List Exchange} (h : a.Path p log q)
    (hfinal : p.Final) : log = [] ∧ p = q := by
  cases log with
  | nil => exact ⟨rfl, h⟩
  | cons e log =>
      obtain ⟨p', hstep, -⟩ := h
      exact absurd hfinal hstep.not_final

/-! ### The procedure follows the steps -/

section

variable {ω : Type} [Connection ω] (a : Attempt)

/-- The attempt has come to one of some phases. -/
def AtSome (P : Phase → Prop) (log : List Exchange) : Prop := ∃ p, P p ∧ a.At p log

omit [Connection ω] in
theorem ensures_of_atSome {α : Type} {P : Phase → Prop}
    {x : Action (Transcribed ω) OwnershipError α} {Q : α → List Exchange → Prop}
    (h : ∀ p, P p → x.Ensures (a.At p) Q a.Ended) : x.Ensures (a.AtSome P) Q a.Ended := by
  rintro t ⟨p, hp, hlog⟩
  exact h p hp t hlog

/-- Every answer to the request is a step, and every fault is fatal. -/
theorem ask_follows {p : Phase} (request : Request) {onLost onRefused : OwnershipError}
    (next : request.Reply → Phase) (hreply : ∀ reply, a.Step p ⟨request, .ok reply⟩ (next reply))
    (hfatal : ∀ fault, a.Fatal p request fault) :
    (Action.ask request onLost onRefused : Action (Transcribed ω) OwnershipError _).Ensures
      (a.At p) (fun reply => a.At (next reply)) a.Ended :=
  .ask request (fun reply _ h => h.step (hreply reply)) fun e fault _ h => h.fail (hfatal fault) e

/-- A flush is no exchange.  In any phase its failure ends the attempt. -/
theorem flush_follows (p : Phase) :
    (Action.flush .connectionLost : Action (Transcribed ω) OwnershipError Unit).Ensures
      (a.At p) (fun _ => a.At p) a.Ended :=
  .flush (fun _ h => h) fun _ h => ⟨p, h, .unflushed p⟩

theorem challenge_follows (selection : Atom) (former : WindowId) :
    (challenge former a.replace : Action (Transcribed ω) OwnershipError Unit).Ensures
      (a.At (.asked selection former)) (fun _ => a.AtSome (·.Free selection former))
      a.Ended := by
  unfold challenge
  split
  next hunowned =>
    subst hunowned
    exact .pure fun log h => ⟨_, .unowned selection, h⟩
  next howned =>
    split
    next hreplace =>
      exact .attempt _ fun answer log h =>
        ⟨_, .challenged selection former, h.step (.challenge selection howned hreplace answer)⟩
    next hkeep =>
      exact .throw fun log h => ⟨_, h, .occupied selection howned (by simpa using hkeep)⟩

theorem takeSelection_follows (selection : Atom) (former : WindowId) :
    (takeSelection a.screen selection : Action (Transcribed ω) OwnershipError WindowId).Ensures
      (a.AtSome (·.Free selection former)) (fun owner => a.At (.waiting former owner 0))
      a.Ended := by
  refine a.ensures_of_atSome fun p hfree => ?_
  unfold takeSelection
  refine .bind (.newId (fun owner log h => h)
    fun fault log h => ⟨p, h, .unnumbered hfree fault⟩) fun owner => ?_
  refine .bind (.tell _ (Q := fun _ => a.At (.created selection former owner))
    (fun answer log hsent h => h.step (.create hfree owner hsent))
    fun log h => h.fail (.create hfree owner) _) fun _ => ?_
  refine .bind (a.ask_follows _ (fun _ => .taken selection former owner)
    (fun _ => .take selection former owner) (.take selection former owner)) fun _ => ?_
  -- what is answered now decides whether the selection was taken
  have hverify : ∀ actual : WindowId, a.Step (.taken selection former owner)
      ⟨.getSelectionOwner selection, .ok actual⟩
      (if actual = owner then .waiting former owner 0 else .stopped) := by
    intro actual
    split
    next hsame =>
      subst hsame
      exact .verify selection former actual
    next hother => exact .overtaken selection former hother
  refine .bind (a.ask_follows (.getSelectionOwner selection) _ hverify
    (.verify selection former owner)) fun actual => ?_
  split
  next hsame =>
    subst hsame
    exact .pure fun log h => h
  next hother => exact .throw fun log h => ⟨.stopped, h, .stopped _⟩

/-- The waiting goes on from any number of looks, and the induction is on those that are left. -/
theorem waitForExit_follows {former : WindowId} (howned : former ≠ 0) (owner : WindowId)
    (left : Nat) : ∀ looks, looks + left = patience →
    (waitForExit former left : Action (Transcribed ω) OwnershipError Unit).Ensures
      (a.At (.waiting former owner looks)) (fun _ => a.AtSome (·.Waited former owner))
      a.Ended := by
  induction left with
  | zero =>
      intro looks hlooks
      obtain rfl : looks = patience := hlooks
      exact .pure fun log h => ⟨_, .patience howned owner, h⟩
  | succ left ih =>
      intro looks hlooks
      have hpatience : looks < patience := by omega
      unfold waitForExit
      refine .bind (a.flush_follows _) fun _ => ?_
      refine .bind (.ask? (.getWindowAttributes former)
        (Q := fun attributes => a.At
          (if attributes.isSome then .waiting former owner (looks + 1) else .gone former owner))
        (fun attributes log h => h.step (.look howned owner hpatience attributes))
        (fun log h => h.step (.exit howned owner hpatience))
        fun log h => h.fail (.look howned owner hpatience) _) fun attributes => ?_
      cases attributes with
      | none => exact .pure fun log h => ⟨_, .gone former owner, h⟩
      | some attributes => exact ih (looks + 1) (by omega)

theorem redirect_follows (former owner : WindowId) :
    (redirect a.screen.root : Action (Transcribed ω) OwnershipError Unit).Ensures
      (a.AtSome (·.Waited former owner)) (fun _ => a.At (.redirected owner)) a.Ended := by
  refine a.ensures_of_atSome fun p hwaited => ?_
  unfold redirect
  refine .bind (a.ask_follows (.getWindowAttributes a.screen.root) (.prepared former owner)
    (.prepare hwaited) (.prepare hwaited)) fun reported => ?_
  exact a.ask_follows (redirection a.screen.root reported) (fun _ => .redirected owner)
    (fun _ => .redirect former owner reported) (.redirect former owner reported)

/-- The attempt on a screen that exists. -/
def acquireOn : Action ω OwnershipError Ownership := do
  let selection ← Action.ask (.internAtom (selectionName a.number)) .connectionLost
    .selectionNotInterned
  let current : WindowId ←
    Action.ask (.getSelectionOwner selection) .connectionLost .ownerUnknown
  challenge current a.replace
  let owner ← takeSelection a.screen selection
  if current ≠ 0 then waitForExit current patience
  redirect a.screen.root
  Action.flush .connectionLost
  return ⟨a.screen.root, owner⟩

/-- The transcript of an attempt is a path through the phases. -/
theorem acquireOn_follows :
    (a.acquireOn : Action (Transcribed ω) OwnershipError Ownership).Ensures (a.At .opening)
      (fun ownership log =>
        ownership.root = a.screen.root ∧ a.At (.redirected ownership.ownerWindow) log)
      a.Ended := by
  unfold acquireOn
  refine .bind (a.ask_follows (.internAtom (selectionName a.number)) .interned .intern .intern)
    fun selection => ?_
  refine .bind (a.ask_follows (.getSelectionOwner selection) (.asked selection)
    (.ask selection) (.ask selection)) fun former => ?_
  refine .bind (a.challenge_follows selection former) fun _ => ?_
  refine .bind (a.takeSelection_follows selection former) fun owner => ?_
  have hrest : ((do
      redirect a.screen.root
      Action.flush .connectionLost
      return ⟨a.screen.root, owner⟩) : Action (Transcribed ω) OwnershipError Ownership).Ensures
      (a.AtSome (·.Waited former owner))
      (fun ownership log =>
        ownership.root = a.screen.root ∧ a.At (.redirected ownership.ownerWindow) log)
      a.Ended := by
    refine .bind (a.redirect_follows former owner) fun _ => ?_
    refine .bind (a.flush_follows _) fun _ => ?_
    exact .pure fun log h => ⟨rfl, h⟩
  split
  next howned =>
    exact .bind (a.waitForExit_follows howned owner patience 0 rfl) fun _ => hrest
  next hunowned =>
    obtain rfl : former = 0 := not_not.1 hunowned
    intro t ht
    exact hrest t ⟨_, .unowned owner, ht⟩

end

end Attempt

/-- Nothing is asked of a screen that does not exist. -/
theorem acquire_eq {ω : Type} [Connection ω] (number : Nat) (replace : Bool) (world : ω) :
    acquire number replace world =
      match (Connection.screens world)[number]? with
      | none => (.error (.noScreen number), world)
      | some screen => (Attempt.mk number screen replace).acquireOn world := by
  have hworld : (getThe ω : Action ω OwnershipError ω) world = (.ok world, world) := rfl
  unfold acquire
  rw [Action.bind_of_ok hworld]
  cases (Connection.screens world)[number]? <;> rfl

/-! ### Worlds with the same answers -/

section

variable {ω ω' : Type} [Connection ω] [Connection ω'] {f : ω → ω'} (hf : ConnectionMap f)

include hf

theorem challenge_mapped (current : WindowId) (replace : Bool) :
    Action.Mapped f (challenge current replace) (challenge current replace) := by
  unfold challenge
  split
  · exact ConnectionMap.pure_mapped ()
  · split
    · exact hf.attempt_mapped _
    · exact ConnectionMap.throw_mapped _

theorem takeSelection_mapped (screen : Screen) (selection : Atom) :
    Action.Mapped f (takeSelection screen selection) (takeSelection screen selection) := by
  unfold takeSelection
  refine ConnectionMap.bind_mapped (hf.newId_mapped _) fun owner => ?_
  refine ConnectionMap.bind_mapped (hf.tell_mapped _ _) fun _ => ?_
  refine ConnectionMap.bind_mapped (hf.ask_mapped _ _ _) fun _ => ?_
  refine ConnectionMap.bind_mapped (hf.ask_mapped _ _ _) fun actual => ?_
  split
  · exact ConnectionMap.pure_mapped owner
  · exact ConnectionMap.throw_mapped _

theorem waitForExit_mapped (window : WindowId) (looks : Nat) :
    Action.Mapped f (waitForExit window looks) (waitForExit window looks) := by
  induction looks with
  | zero => exact ConnectionMap.pure_mapped ()
  | succ looks ih =>
      unfold waitForExit
      refine ConnectionMap.bind_mapped (hf.flush_mapped _) fun _ => ?_
      refine ConnectionMap.bind_mapped (hf.ask?_mapped _ _) fun attributes => ?_
      cases attributes with
      | none => exact ConnectionMap.pure_mapped ()
      | some attributes => exact ih

theorem redirect_mapped (root : WindowId) : Action.Mapped f (redirect root) (redirect root) := by
  unfold redirect
  exact ConnectionMap.bind_mapped (hf.ask_mapped _ _ _) fun _ => hf.ask_mapped _ _ _

theorem Attempt.acquireOn_mapped (a : Attempt) : Action.Mapped f a.acquireOn a.acquireOn := by
  have hrest : ∀ owner, Action.Mapped f
      (redirect a.screen.root >>= fun _ => Action.flush .connectionLost >>= fun _ =>
        (pure ⟨a.screen.root, owner⟩ : Action ω OwnershipError Ownership))
      (redirect a.screen.root >>= fun _ => Action.flush .connectionLost >>= fun _ =>
        pure ⟨a.screen.root, owner⟩) := by
    intro owner
    refine ConnectionMap.bind_mapped (redirect_mapped hf _) fun _ => ?_
    exact ConnectionMap.bind_mapped (hf.flush_mapped _) fun _ => ConnectionMap.pure_mapped _
  unfold Attempt.acquireOn
  refine ConnectionMap.bind_mapped (hf.ask_mapped _ _ _) fun selection => ?_
  refine ConnectionMap.bind_mapped (hf.ask_mapped _ _ _) fun current => ?_
  refine ConnectionMap.bind_mapped (challenge_mapped hf _ _) fun _ => ?_
  refine ConnectionMap.bind_mapped (takeSelection_mapped hf _ _) fun owner => ?_
  split
  · exact ConnectionMap.bind_mapped (waitForExit_mapped hf _ _) fun _ => hrest owner
  · exact hrest owner

/-- Taking over depends on the world through its answers only. -/
theorem acquire_map (number : Nat) (replace : Bool) (world : ω) :
    acquire number replace (f world) =
      ((acquire number replace world).1, f (acquire number replace world).2) := by
  rw [acquire_eq, acquire_eq, hf.screens world]
  cases (Connection.screens world)[number]? with
  | none => rfl
  | some screen => exact (Attempt.mk number screen replace).acquireOn_mapped hf world

end

end Ownership

end GuestShell

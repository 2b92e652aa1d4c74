import GuestShell.Proofs.Display.Action

/-!
# Transcripts of connections

What an action asks of a display is known from its transcript: the requests that it made, in
their order, each with what came of it.  A transcript is written by a world around the world
with the connection, and an action cannot tell the difference (`Transcribed.connectionMap`).

Transcripts are reasoned about with assertions before and after an action
(`Action.Ensures`).  The rules assume nothing of the answers, so what they show is true of
every display, also of one that contradicts itself.

Numbers of new windows and flushes are NOT transcribed.
-/

namespace GuestShell

/-- A request and what came of it. -/
structure Exchange where
  request : Request
  answer : Except Fault request.Reply

/-- The request was lost or refused. -/
def Exchange.Failed (e : Exchange) : Prop := ∃ fault, e.answer = .error fault

/-- A world whose exchanges with the display are written down, the oldest first. -/
structure Transcribed (ω : Type) where
  world : ω
  exchanges : List Exchange

namespace Transcribed

variable {ω : Type} [Connection ω]

/-- A world before its first exchange. -/
def start (world : ω) : Transcribed ω := ⟨world, []⟩

instance : Connection (Transcribed ω) where
  screens t := Connection.screens t.world
  newId t := ((Connection.newId t.world).1, ⟨(Connection.newId t.world).2, t.exchanges⟩)
  perform request t :=
    let o := Connection.perform request t.world
    (o.1, ⟨o.2, t.exchanges ++ [⟨request, o.1⟩]⟩)
  flush t := ((Connection.flush t.world).1, ⟨(Connection.flush t.world).2, t.exchanges⟩)

theorem connectionMap : ConnectionMap (world : Transcribed ω → ω) where
  screens _ := rfl
  newId _ := rfl
  perform _ _ := rfl
  flush _ := rfl

end Transcribed

namespace Action

variable {ω ε α β : Type}

/-- If `P` holds of the transcript before the action, then `Q` holds of its value and the
transcript afterwards, or `E` of its error and the transcript. -/
def Ensures (P : List Exchange → Prop) (x : Action (Transcribed ω) ε α)
    (Q : α → List Exchange → Prop) (E : ε → List Exchange → Prop) : Prop :=
  ∀ t, P t.exchanges →
    match x t with
    | (.ok a, t') => Q a t'.exchanges
    | (.error e, t') => E e t'.exchanges

namespace Ensures

variable {P : List Exchange → Prop} {Q : α → List Exchange → Prop}
  {R : β → List Exchange → Prop} {E : ε → List Exchange → Prop}

theorem pure {a : α} (hvalue : ∀ log, P log → Q a log) :
    Ensures (ω := ω) P (Pure.pure a) Q E :=
  fun t ht => hvalue t.exchanges ht

theorem throw {e : ε} (herror : ∀ log, P log → E e log) :
    Ensures (ω := ω) P (MonadExcept.throw e) Q E :=
  fun t ht => herror t.exchanges ht

theorem bind {x : Action (Transcribed ω) ε α} {f : α → Action (Transcribed ω) ε β}
    (hx : Ensures P x Q E) (hf : ∀ a, Ensures (Q a) (f a) R E) :
    Ensures P (x >>= f) R E := by
  intro t ht
  have hstart := hx t ht
  cases hresult : x t with
  | mk result next =>
      rw [hresult] at hstart
      cases result with
      | error e =>
          rw [bind_of_error hresult]
          exact hstart
      | ok a =>
          rw [bind_of_ok hresult]
          exact hf a next hstart

variable [Connection ω]

theorem ask (request : Request) {onLost onRefused : ε}
    {Q : request.Reply → List Exchange → Prop}
    (hreply : ∀ reply log, P log → Q reply (log ++ [⟨request, .ok reply⟩]))
    (hfault : ∀ e fault log, P log → E e (log ++ [⟨request, .error fault⟩])) :
    Ensures (ω := ω) P (Action.ask request onLost onRefused) Q E := by
  intro t ht
  simp only [Action.ask, Connection.perform]
  rcases Connection.perform request t.world with ⟨(_ | _) | reply, next⟩
  · exact hfault onLost .lost _ ht
  · exact hfault onRefused .refused _ ht
  · exact hreply reply _ ht

theorem tell (request : Request) {onLost : ε} {Q : Unit → List Exchange → Prop}
    (hsent : ∀ answer log, answer ≠ .error .lost → P log → Q () (log ++ [⟨request, answer⟩]))
    (hlost : ∀ log, P log → E onLost (log ++ [⟨request, .error .lost⟩])) :
    Ensures (ω := ω) P (Action.tell request onLost) Q E := by
  intro t ht
  simp only [Action.tell, Connection.perform]
  rcases Connection.perform request t.world with ⟨(_ | _) | reply, next⟩
  · exact hlost _ ht
  · exact hsent (.error .refused) _ (by simp) ht
  · exact hsent (.ok reply) _ (by simp) ht

theorem ask? (request : Request) {onLost : ε}
    {Q : Option request.Reply → List Exchange → Prop}
    (hreply : ∀ reply log, P log → Q (some reply) (log ++ [⟨request, .ok reply⟩]))
    (hrefused : ∀ log, P log → Q none (log ++ [⟨request, .error .refused⟩]))
    (hlost : ∀ log, P log → E onLost (log ++ [⟨request, .error .lost⟩])) :
    Ensures (ω := ω) P (Action.ask? request onLost) Q E := by
  intro t ht
  simp only [Action.ask?, Connection.perform]
  rcases Connection.perform request t.world with ⟨(_ | _) | reply, next⟩
  · exact hlost _ ht
  · exact hrefused _ ht
  · exact hreply reply _ ht

theorem attempt (request : Request) {Q : Unit → List Exchange → Prop}
    (hdone : ∀ answer log, P log → Q () (log ++ [⟨request, answer⟩])) :
    Ensures (ω := ω) P (Action.attempt request) Q E :=
  fun _ ht => hdone _ _ ht

theorem flush {onLost : ε} {Q : Unit → List Exchange → Prop} (hdone : ∀ log, P log → Q () log)
    (hlost : ∀ log, P log → E onLost log) :
    Ensures (ω := ω) P (Action.flush onLost) Q E := by
  intro t ht
  simp only [Action.flush, Connection.flush]
  rcases Connection.flush t.world with ⟨_ | _, _⟩
  · exact hlost _ ht
  · exact hdone _ ht

theorem newId {onFault : IdFault → ε} {Q : WindowId → List Exchange → Prop}
    (hid : ∀ id log, P log → Q id log) (hfault : ∀ fault log, P log → E (onFault fault) log) :
    Ensures (ω := ω) P (Action.newId onFault) Q E := by
  intro t ht
  simp only [Action.newId, Connection.newId]
  rcases Connection.newId t.world with ⟨_ | _, _⟩
  · exact hfault _ _ ht
  · exact hid _ _ ht

end Ensures

end Action

end GuestShell

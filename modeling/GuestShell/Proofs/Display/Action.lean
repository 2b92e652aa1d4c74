import GuestShell.Display.Connection

/-!
# Laws of actions

An action that is followed by another one ends with its own error, or the other goes on from
its value and the world that it left (`bind_of_error`, `bind_of_ok`).

Actions that are built from requests cannot tell a world from its image under a map that
answers to everything a connection can be asked for.  So a world may be put under observation,
and what is then seen of an action is true of the action itself.
-/

namespace GuestShell

namespace Action

variable {ω ε α β : Type}

theorem bind_of_ok {x : Action ω ε α} {world world' : ω} {a : α} (hx : x world = (.ok a, world'))
    (f : α → Action ω ε β) : (x >>= f) world = f a world' := by
  change ExceptT.bindCont f (x world).1 (x world).2 = _
  rw [hx]
  rfl

theorem bind_of_error {x : Action ω ε α} {world world' : ω} {e : ε}
    (hx : x world = (.error e, world')) (f : α → Action ω ε β) :
    (x >>= f) world = (.error e, world') := by
  change ExceptT.bindCont f (x world).1 (x world).2 = _
  rw [hx]
  rfl

section Requests

variable [Connection ω] {request : Request} {world world' : ω}

theorem ask_of_ok {reply : request.Reply}
    (h : Connection.perform request world = (.ok reply, world')) (onLost onRefused : ε) :
    Action.ask request onLost onRefused world = (.ok reply, world') := by
  simp only [ask, h]

theorem ask?_of_ok {reply : request.Reply}
    (h : Connection.perform request world = (.ok reply, world')) (onLost : ε) :
    Action.ask? request onLost world = (.ok (some reply), world') := by
  simp only [ask?, h]

theorem ask?_of_refused (h : Connection.perform request world = (.error .refused, world'))
    (onLost : ε) : Action.ask? request onLost world = (.ok none, world') := by
  simp only [ask?, h]

theorem ask?_of_lost (h : Connection.perform request world = (.error .lost, world'))
    (onLost : ε) : Action.ask? request onLost world = (.error onLost, world') := by
  simp only [ask?, h]

theorem tell_of_lost (h : Connection.perform request world = (.error .lost, world'))
    (onLost : ε) : Action.tell request onLost world = (.error onLost, world') := by
  simp only [tell, h]

/-- A request that is not lost is told, whether it is refused or not. -/
theorem tell_of_sent (hsent : (Connection.perform request world).1 ≠ .error .lost)
    (onLost : ε) :
    Action.tell request onLost world = (.ok (), (Connection.perform request world).2) := by
  revert hsent
  unfold tell
  rcases Connection.perform request world with ⟨(_ | _) | reply, next⟩
  · exact fun hsent => absurd rfl hsent
  · exact fun _ => rfl
  · exact fun _ => rfl

end Requests

end Action

variable {ω ω' : Type} [Connection ω] [Connection ω']

/-- A map between worlds that answers to everything a connection can be asked for. -/
structure ConnectionMap (f : ω → ω') : Prop where
  screens : ∀ world, Connection.screens (f world) = Connection.screens world
  newId : ∀ world, Connection.newId (f world) =
    ((Connection.newId world).1, f (Connection.newId world).2)
  perform : ∀ request world, Connection.perform request (f world) =
    ((Connection.perform request world).1, f (Connection.perform request world).2)
  flush : ∀ world, Connection.flush (f world) =
    ((Connection.flush world).1, f (Connection.flush world).2)

/-- One action does in the image of a world what the other does in the world. -/
def Action.Mapped {ε α : Type} (f : ω → ω') (x : Action ω ε α) (x' : Action ω' ε α) : Prop :=
  ∀ world, x' (f world) = ((x world).1, f (x world).2)

namespace ConnectionMap

variable {f : ω → ω'} (hf : ConnectionMap f) {ε α β : Type}

omit [Connection ω] [Connection ω'] in
theorem pure_mapped (a : α) : Action.Mapped f (pure a : Action ω ε α) (pure a) :=
  fun _ => rfl

omit [Connection ω] [Connection ω'] in
theorem throw_mapped (e : ε) : Action.Mapped f (throw e : Action ω ε α) (throw e) :=
  fun _ => rfl

omit [Connection ω] [Connection ω'] in
theorem bind_mapped {x : Action ω ε α} {x' : Action ω' ε α} (hx : Action.Mapped f x x')
    {g : α → Action ω ε β} {g' : α → Action ω' ε β} (hg : ∀ a, Action.Mapped f (g a) (g' a)) :
    Action.Mapped f (x >>= g) (x' >>= g') := by
  intro world
  have hstart := hx world
  cases hresult : x world with
  | mk result next =>
      rw [hresult] at hstart
      cases result with
      | error e => rw [Action.bind_of_error hresult, Action.bind_of_error hstart]
      | ok a => rw [Action.bind_of_ok hresult, Action.bind_of_ok hstart, hg a next]

include hf

theorem ask_mapped (request : Request) (onLost onRefused : ε) :
    Action.Mapped f (Action.ask request onLost onRefused : Action ω ε request.Reply)
      (Action.ask request onLost onRefused) := by
  intro world
  simp only [Action.ask, hf.perform]
  rcases Connection.perform request world with ⟨(_ | _) | reply, next⟩ <;> rfl

theorem tell_mapped (request : Request) (onLost : ε) :
    Action.Mapped f (Action.tell request onLost : Action ω ε Unit)
      (Action.tell request onLost) := by
  intro world
  simp only [Action.tell, hf.perform]
  rcases Connection.perform request world with ⟨(_ | _) | reply, next⟩ <;> rfl

theorem ask?_mapped (request : Request) (onLost : ε) :
    Action.Mapped f (Action.ask? request onLost : Action ω ε (Option request.Reply))
      (Action.ask? request onLost) := by
  intro world
  simp only [Action.ask?, hf.perform]
  rcases Connection.perform request world with ⟨(_ | _) | reply, next⟩ <;> rfl

theorem attempt_mapped (request : Request) :
    Action.Mapped f (Action.attempt request : Action ω ε Unit) (Action.attempt request) := by
  intro world
  simp only [Action.attempt, hf.perform]

theorem flush_mapped (onLost : ε) :
    Action.Mapped f (Action.flush onLost : Action ω ε Unit) (Action.flush onLost) := by
  intro world
  simp only [Action.flush, hf.flush]
  rcases Connection.flush world with ⟨_ | _, _⟩ <;> rfl

theorem newId_mapped (onFault : IdFault → ε) :
    Action.Mapped f (Action.newId onFault : Action ω ε WindowId) (Action.newId onFault) := by
  intro world
  simp only [Action.newId, hf.newId]
  rcases Connection.newId world with ⟨_ | _, _⟩ <;> rfl

end ConnectionMap

end GuestShell

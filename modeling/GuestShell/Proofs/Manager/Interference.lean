import GuestShell.Proofs.Manager.RecordStep

/-!
# Windows do not interfere

A session is a window manager with one queue that takes the messages of all its calls.  What
can be seen of one window is its record and the answers to the calls that name it: how they
ended and what they queued.  All of this is a function of these calls alone.  The calls about
other windows might as well not have been made, and of the calls about the window itself only
those matter that came after it was forgotten for the last time.

The argument replays the calls about one window on empty queues (`history`).  Messages that
wait already are a prefix that no operation can see.

The order in which the messages of different windows stand in the queue, and the window that
has the focus, do depend on all calls.  Nothing is claimed of them.
-/

namespace GuestShell

/-- A window manager and the queue that it sends to. -/
structure Session where
  manager : Manager
  queue : Queue

/-- How a call ended and the messages that it queued. -/
structure Answer where
  id : WindowId
  result : Except ManagerError Unit
  messages : List (List UInt8)

/-- The queue after messages that have been waiting longer. -/
def Queue.behind (earlier q : Queue) : Queue := ⟨earlier.waiting ++ q.waiting⟩

variable {π : Type} [PropertySource π]

theorem WorldMap.behind (earlier : Queue) :
    WorldMap fun s : Surroundings Queue π => { s with channel := earlier.behind s.channel } where
  send message s := by
    simp only [HostChannel.send, Queue.behind, Queue.push, List.append_assoc]
  text _ _ _ := rfl
  className _ _ := rfl
  window _ _ _ := rfl

/-- What a call comes to for the record of its window, on an empty queue. -/
def Call.alone (call : Call π) (setting : Setting) (record : Option Window) :
    Outcome (Option Window) (Surroundings Queue π) :=
  call.operation.step setting call.id record ⟨.empty, call.world⟩

/-- An operation forgets its window whether it was tracked or not. -/
theorem Operation.Forgets.step_value {ω : Type} [HostChannel ω] [PropertySource ω]
    {setting : Setting} {operation : Operation} (h : operation.Forgets setting) (id : WindowId)
    (record : Option Window) (world : ω) :
    (operation.step setting id record world).value = none := by
  rcases h with rfl | ⟨parent, hparent, rfl⟩
  · rfl
  · simp only [Operation.step, GuestChange.step, if_neg hparent]

namespace Session

/-- No window is tracked yet, and some messages may be waiting. -/
def start (setting : Setting) (queue : Queue) : Session := ⟨.new setting, queue⟩

def outcome (s : Session) (call : Call π) : Outcome Manager (Surroundings Queue π) :=
  s.manager.perform call.id call.operation ⟨s.queue, call.world⟩

def after (s : Session) (call : Call π) : Session :=
  ⟨(s.outcome call).value, (s.outcome call).world.channel⟩

/-- What a call queued is what stands in the queue after the messages that waited before. -/
def answer (s : Session) (call : Call π) : Answer :=
  ⟨call.id, (s.outcome call).result,
    (s.outcome call).world.channel.waiting.drop s.queue.waiting.length⟩

def run (s : Session) (calls : List (Call π)) : Session := calls.foldl after s

def answers : Session → List (Call π) → List Answer
  | _, [] => []
  | s, call :: calls => s.answer call :: (s.after call).answers calls

@[simp] theorem run_nil (s : Session) : s.run ([] : List (Call π)) = s := rfl

@[simp] theorem run_cons (s : Session) (call : Call π) (calls : List (Call π)) :
    s.run (call :: calls) = (s.after call).run calls := rfl

theorem run_append (s : Session) (xs ys : List (Call π)) :
    s.run (xs ++ ys) = (s.run xs).run ys :=
  List.foldl_append

@[simp] theorem after_setting (s : Session) (call : Call π) :
    (s.after call).manager.setting = s.manager.setting := rfl

@[simp] theorem run_setting (s : Session) (calls : List (Call π)) :
    (s.run calls).manager.setting = s.manager.setting := by
  induction calls generalizing s with
  | nil => rfl
  | cons call calls ih => rw [run_cons, ih, after_setting]

/-! ### One call -/

/-- A call does behind the messages that wait what it does on an empty queue. -/
theorem outcome_eq (s : Session) (call : Call π) {record : Option Window}
    (hrecord : s.manager.windows[call.id]? = record) :
    let o := call.alone s.manager.setting record
    (s.after call).manager.windows[call.id]? = o.value ∧
      (s.outcome call).result = o.result ∧
      (s.after call).queue.waiting = s.queue.waiting ++ o.world.channel.waiting := by
  have hstep := (WorldMap.behind s.queue).step_map s.manager.setting call.id call.operation
    record ⟨.empty, call.world⟩
  have hempty : s.queue.behind .empty = s.queue := by
    simp only [Queue.behind, Queue.empty, List.append_nil]
  simp only [hempty] at hstep
  refine ⟨?_, ?_, ?_⟩
  · simp only [after, outcome, Manager.perform, Outcome.map, hrecord, Registry.getElem?_store,
      if_true, hstep]
    rfl
  · simp only [outcome, Manager.perform, Outcome.map, hrecord, hstep]
    rfl
  · simp only [after, outcome, Manager.perform, Outcome.map, hrecord, hstep]
    rfl

/-- The answer to a call is the one that it has on an empty queue. -/
theorem answer_eq (s : Session) (call : Call π) {record : Option Window}
    (hrecord : s.manager.windows[call.id]? = record) :
    let o := call.alone s.manager.setting record
    s.answer call = ⟨call.id, o.result, o.world.channel.waiting⟩ := by
  obtain ⟨-, hresult, hqueue⟩ := s.outcome_eq call hrecord
  intro o
  have hwaiting : (s.outcome call).world.channel.waiting =
      s.queue.waiting ++ o.world.channel.waiting := hqueue
  rw [answer, hresult, hwaiting, List.drop_left]

/-- Nothing but the answers' messages is added to the queue. -/
theorem after_waiting (s : Session) (call : Call π) :
    (s.after call).queue.waiting = s.queue.waiting ++ (s.answer call).messages := by
  rw [(s.outcome_eq call rfl).2.2, s.answer_eq call rfl]

theorem after_getElem?_of_ne (s : Session) {call : Call π} {id : WindowId} (hne : call.id ≠ id) :
    (s.after call).manager.windows[id]? = s.manager.windows[id]? := by
  simp only [after, outcome, Manager.perform, Outcome.map, Registry.getElem?_store, if_neg hne]

/-! ### All calls -/

theorem run_waiting (s : Session) (calls : List (Call π)) :
    (s.run calls).queue.waiting = s.queue.waiting ++ (s.answers calls).flatMap (·.messages) := by
  induction calls generalizing s with
  | nil => simp [answers]
  | cons call calls ih =>
      rw [run_cons, ih, after_waiting, answers, List.flatMap_cons, List.append_assoc]

/-- The record of a window and the answers about it, when nothing but the calls that name it
is made and every call finds an empty queue. -/
def history (setting : Setting) : Option Window → List (Call π) → Option Window × List Answer
  | record, [] => (record, [])
  | record, call :: calls =>
      let o := call.alone setting record
      let later := history setting o.value calls
      (later.1, ⟨call.id, o.result, o.world.channel.waiting⟩ :: later.2)

/-- What is seen of a window is the history of the calls that name it. -/
theorem run_eq_history (s : Session) (id : WindowId) (calls : List (Call π)) :
    let seen := history s.manager.setting s.manager.windows[id]? (calls.filter (·.id = id))
    (s.run calls).manager.windows[id]? = seen.1 ∧
      (s.answers calls).filter (·.id = id) = seen.2 := by
  induction calls generalizing s with
  | nil => exact ⟨rfl, rfl⟩
  | cons call calls ih =>
      have hlater := ih (s.after call)
      rw [after_setting] at hlater
      rw [run_cons, answers]
      by_cases hid : call.id = id
      · -- the call is replayed on the record, and the rest goes on from what it leaves
        subst hid
        rw [(s.outcome_eq call rfl).1] at hlater
        rw [s.answer_eq call rfl, List.filter_cons_of_pos (by simp),
          List.filter_cons_of_pos (by simp), history]
        exact ⟨hlater.1, congrArg (List.cons _) hlater.2⟩
      · -- the call is not seen
        have hanswer : (s.answer call).id ≠ id := hid
        rw [after_getElem?_of_ne s hid] at hlater
        rw [List.filter_cons_of_neg (by simp [hid]), List.filter_cons_of_neg (by simp [hanswer])]
        exact hlater

/-- Two sessions that agree about a window go on to agree about it, if the calls that name it
are the same. -/
theorem seen_congr {s s' : Session} {id : WindowId} {calls others : List (Call π)}
    (hsetting : s.manager.setting = s'.manager.setting)
    (hrecord : s.manager.windows[id]? = s'.manager.windows[id]?)
    (hcalls : calls.filter (·.id = id) = others.filter (·.id = id)) :
    (s.run calls).manager.windows[id]? = (s'.run others).manager.windows[id]? ∧
      (s.answers calls).filter (·.id = id) = (s'.answers others).filter (·.id = id) := by
  have hseen := s.run_eq_history id calls
  have hseen' := s'.run_eq_history id others
  rw [hsetting, hrecord, hcalls] at hseen
  exact ⟨hseen.1.trans hseen'.1.symm, hseen.2.trans hseen'.2.symm⟩

theorem answers_id (s : Session) (calls : List (Call π)) :
    (s.answers calls).map (·.id) = calls.map (·.id) := by
  induction calls generalizing s with
  | nil => rfl
  | cons call calls ih => rw [answers, List.map_cons, List.map_cons, ih]; rfl

/-- If all calls name one window, all answers are about it. -/
theorem answers_of_own (s : Session) {id : WindowId} {calls : List (Call π)}
    (hown : ∀ call ∈ calls, call.id = id) :
    (s.answers calls).filter (·.id = id) = s.answers calls := by
  rw [List.filter_eq_self]
  intro answer hanswer
  have hmem : answer.id ∈ (s.answers calls).map (·.id) := List.mem_map_of_mem hanswer
  rw [answers_id, List.mem_map] at hmem
  obtain ⟨call, hcall, hsame⟩ := hmem
  exact decide_eq_true (hsame.symm.trans (hown call hcall))

/-- What is seen of a window from a session on is what is seen when only the calls about it
are made, in any session that agrees about its record. -/
theorem seen_eq_own (s s' : Session) {id : WindowId} (calls : List (Call π))
    (hsetting : s.manager.setting = s'.manager.setting)
    (hrecord : s.manager.windows[id]? = s'.manager.windows[id]?) :
    let own := calls.filter (·.id = id)
    (s.run calls).manager.windows[id]? = (s'.run own).manager.windows[id]? ∧
      (s.answers calls).filter (·.id = id) = s'.answers own := by
  intro own
  have hown : ∀ call ∈ own, call.id = id :=
    fun call hcall => of_decide_eq_true (List.mem_filter.1 hcall).2
  have hfilter : calls.filter (·.id = id) = own.filter (·.id = id) := by
    simp [own, List.filter_filter]
  rw [← s'.answers_of_own hown]
  exact seen_congr hsetting hrecord hfilter

/-- After a call that forgets its window, the session agrees about that window with one in
which no call was made. -/
theorem getElem?_after_forgets (s : Session) {forget : Call π}
    (hforgets : forget.operation.Forgets s.manager.setting) :
    (s.after forget).manager.windows[forget.id]? = none := by
  rw [(s.outcome_eq forget rfl).1]
  exact hforgets.step_value forget.id _ _

/-- Calls that are the same for every window leave the same records and have the same
answers about every window, however they follow each other. -/
theorem run_reordered (s : Session) {calls others : List (Call π)}
    (hsame : ∀ id, calls.filter (·.id = id) = others.filter (·.id = id)) :
    (s.run calls).manager.windows = (s.run others).manager.windows ∧
      ∀ id, (s.answers calls).filter (·.id = id) = (s.answers others).filter (·.id = id) := by
  have hseen := fun id => seen_congr (s := s) rfl rfl (hsame id)
  constructor
  · apply Std.ExtHashMap.ext_getElem?
    intro id
    exact (hseen id).1
  · intro id
    exact (hseen id).2

omit [PropertySource π] in
/-- To every window it is the same in which order two calls about different windows stand. -/
theorem filter_swap {call next : Call π} (hne : call.id ≠ next.id) (before after : List (Call π))
    (id : WindowId) :
    (before ++ call :: next :: after).filter (·.id = id) =
      (before ++ next :: call :: after).filter (·.id = id) := by
  simp only [List.filter_append, List.filter_cons]
  by_cases hcall : call.id = id
  · have hnext : next.id ≠ id := fun hnext => hne (hcall.trans hnext.symm)
    simp only [hcall, hnext, decide_false, Bool.false_eq_true, if_false]
  · simp only [hcall, decide_false, Bool.false_eq_true, if_false]

/-- Windows do not interfere.  All that is queued is in the answers.  What is seen of a
window, its record in the end and the answers about it, is what is seen when only the calls
that name it are made; after a call that forgets it, what is seen when only those that name
it afterwards are made.  So two calls about different windows can be made in either order:
the records and the answers about every window stay the same. -/
theorem windows_do_not_interfere (setting : Setting) (queue : Queue) (calls : List (Call π))
    (id : WindowId) :
    let fresh := start setting queue
    let own := calls.filter (·.id = id)
    (fresh.run calls).queue.waiting =
        queue.waiting ++ (fresh.answers calls).flatMap (·.messages) ∧
    (fresh.run calls).manager.windows[id]? = (fresh.run own).manager.windows[id]? ∧
    (fresh.answers calls).filter (·.id = id) = fresh.answers own ∧
    (∀ before forget after, calls = before ++ forget :: after → forget.id = id →
      forget.operation.Forgets setting →
      let later := after.filter (·.id = id)
      (fresh.run calls).manager.windows[id]? = (fresh.run later).manager.windows[id]? ∧
        ((fresh.run (before ++ [forget])).answers after).filter (·.id = id) =
          fresh.answers later) ∧
    (∀ before call next after, calls = before ++ call :: next :: after → call.id ≠ next.id →
      let swapped := before ++ next :: call :: after
      (fresh.run calls).manager.windows = (fresh.run swapped).manager.windows ∧
        ∀ other, (fresh.answers calls).filter (·.id = other) =
          (fresh.answers swapped).filter (·.id = other)) := by
  intro fresh own
  have hown : (fresh.run calls).manager.windows[id]? = (fresh.run own).manager.windows[id]? ∧
      (fresh.answers calls).filter (·.id = id) = fresh.answers own :=
    seen_eq_own fresh fresh calls rfl rfl
  refine ⟨run_waiting fresh calls, hown.1, hown.2, ?_, ?_⟩
  · intro before forget after hsplit hid hforgets later
    have hsetting : (fresh.run (before ++ [forget])).manager.setting = setting :=
      run_setting fresh _
    have hforgotten : (fresh.run (before ++ [forget])).manager.windows[id]? = none := by
      rw [run_append, run_cons, run_nil, ← hid]
      refine getElem?_after_forgets _ ?_
      rwa [run_setting]
    have hrun : fresh.run calls = (fresh.run (before ++ [forget])).run after := by
      rw [hsplit, ← run_append, List.append_assoc, List.singleton_append]
    rw [hrun]
    exact seen_eq_own _ fresh after hsetting (hforgotten.trans (Manager.getElem?_new setting id).symm)
  · intro before call next after hsplit hne swapped
    rw [hsplit]
    exact run_reordered fresh (filter_swap hne before after)

def asksFullscreen (id : WindowId) : Call PropertyTable :=
  let atoms := Atoms.numbered
  ⟨id, .guest (.messaged atoms.netWmState ⟨1, atoms.netWmStateFullscreen, 0, 0, 0⟩), .empty⟩

/-- Two windows become fullscreen.  The first is destroyed, another window gets its number and
becomes fullscreen too, and the second one goes on meanwhile. -/
def twoWindows : List (Call PropertyTable) :=
  [⟨7, .guest (.created false .empty), .empty⟩,
   ⟨7, .assignRole 30, .empty⟩,
   ⟨8, .guest (.created false .empty), .empty⟩,
   ⟨8, .assignRole 31, .empty⟩,
   asksFullscreen 7,
   asksFullscreen 8,
   ⟨7, .guest .destroyed, .empty⟩,
   ⟨7, .guest (.created false .empty), .empty⟩,
   ⟨8, .guest .mapRequested, .empty⟩,
   ⟨7, .assignRole 32, .empty⟩,
   asksFullscreen 7]

/-- The window that has the number in the end is told to the host as if there had never been
another one, and the first two windows could have asked the other way round. -/
theorem windows_do_not_interfere_twoWindows :
    let fresh := start (.plain true) .empty
    let later := (twoWindows.drop 7).filter (·.id = 7)
    let swapped := twoWindows.take 4 ++ asksFullscreen 8 :: asksFullscreen 7 :: twoWindows.drop 6
    ((fresh.answers later).flatMap (·.messages)).map ShellRequest.decode? =
        [some (.setFullscreen 32)] ∧
      (fresh.run twoWindows).manager.windows[(7 : WindowId)]? =
        (fresh.run later).manager.windows[(7 : WindowId)]? ∧
      ((fresh.run (twoWindows.take 7)).answers (twoWindows.drop 7)).filter (·.id = 7) =
        fresh.answers later ∧
      (fresh.run twoWindows).manager.windows = (fresh.run swapped).manager.windows := by
  intro fresh later swapped
  obtain ⟨-, -, -, hforget, hswap⟩ := windows_do_not_interfere (.plain true) .empty twoWindows 7
  obtain ⟨hrecord, hanswers⟩ := hforget (twoWindows.take 6) ⟨7, .guest .destroyed, .empty⟩
    (twoWindows.drop 7) rfl rfl (Or.inl rfl)
  have hdifferent : (asksFullscreen 7).id ≠ (asksFullscreen 8).id := by decide
  obtain ⟨hwindows, -⟩ := hswap (twoWindows.take 4) (asksFullscreen 7) (asksFullscreen 8)
    (twoWindows.drop 6) rfl hdifferent
  -- the later calls are replayed on a record, where they can be evaluated
  have hreplayed : fresh.answers later =
      (history (.plain true) (Manager.new (.plain true)).windows[(7 : WindowId)]? later).2 := by
    have hown : ∀ call ∈ later, call.id = 7 := by decide
    rw [← fresh.answers_of_own hown]
    exact (fresh.run_eq_history 7 later).2
  refine ⟨?_, hrecord, hanswers, hwindows⟩
  rw [hreplayed, Manager.getElem?_new]
  rfl

end Session

end GuestShell

import GuestShell.Proofs.Manager.AxisIndependence
import GuestShell.Proofs.Manager.Reconciliation

/-!
# What state messages mean

A `_NET_WM_STATE` message says what is to happen in its first word and to which states in the
next two.  As long as the atoms of the states can be told apart, it is decoded to the action of
the first word for exactly the states that the other two name (`StateRequest.decode_eq`).  So
the order of these two does not matter, nor does a word that names no state or is repeated.

A window that is not iconified and whose state the host has is then told to the host by one
request for each state that became different, fullscreen first.  How far this comes on a channel
that refuses messages is said here as well; that the rest is sent later is NOT.
-/

namespace GuestShell

/-- The atoms of the states can be told apart from each other and from zero. -/
structure Atoms.StatesApart (atoms : Atoms) : Prop where
  ne_zero : ∀ s : StateAtom, s.atom atoms ≠ 0
  injective : ∀ s s' : StateAtom, s.atom atoms = s'.atom atoms → s = s'

theorem Atoms.StatesApart.horz_ne_vert {atoms : Atoms} (happart : atoms.StatesApart) :
    atoms.netWmStateMaximizedHorz ≠ atoms.netWmStateMaximizedVert := by
  intro hsame
  cases happart.injective .maximizedHorz .maximizedVert hsame

/-- The word is the atom of a state. -/
def Atoms.NamesState (atoms : Atoms) (word : UInt32) : Prop :=
  ∃ s : StateAtom, word = s.atom atoms

/-- The word of a message that stands for an action. -/
def StateAction.word : StateAction → UInt32
  | .remove => 0
  | .add => 1
  | .toggle => 2

/-- The words with the two that name states exchanged. -/
def MessageWords.swap (data : MessageWords) : MessageWords :=
  { data with second := data.third, third := data.second }

/-! ### Decoding -/

namespace StateAction

theorem ofWord?_eq_some_iff {word : UInt32} {action : StateAction} :
    ofWord? word = some action ↔ word = action.word := by
  constructor
  · intro h
    unfold ofWord? at h
    split at h <;> cases h <;> rfl
  · rintro rfl
    cases action <;> rfl

theorem ofWord?_eq_none_iff {word : UInt32} : ofWord? word = none ↔ 2 < word := by
  constructor
  · intro h
    have hne : ∀ action : StateAction, word ≠ action.word := by
      intro action hword
      rw [ofWord?_eq_some_iff.2 hword] at h
      cases h
    have hremove : word.toNat ≠ 0 := fun hzero => hne .remove (UInt32.toNat_inj.1 hzero)
    have hadd : word.toNat ≠ 1 := fun hone => hne .add (UInt32.toNat_inj.1 hone)
    have htoggle : word.toNat ≠ 2 := fun htwo => hne .toggle (UInt32.toNat_inj.1 htwo)
    change 2 < word.toNat
    omega
  · intro hlarge
    cases hword : ofWord? word with
    | none => rfl
    | some action =>
        rw [ofWord?_eq_some_iff.1 hword] at hlarge
        cases action <;> exact absurd hlarge (by decide)

/-- Doing an action twice. -/
theorem apply_apply (action : StateAction) (value : Bool) :
    action.apply (action.apply value) =
      if action = .toggle then value else action.apply value := by
  cases action <;> cases value <;> rfl

end StateAction

namespace StateRequest

variable {atoms : Atoms}

theorem ofAtom?_eq_some_iff (happart : atoms.StatesApart) {atom : Atom} {s : StateAtom} :
    StateAtom.ofAtom? atoms atom = some s ↔ atom = s.atom atoms := by
  refine ⟨StateAtom.eq_atom_of_ofAtom?, ?_⟩
  rintro rfl
  have hne : ∀ other : StateAtom, other ≠ s → other.atom atoms ≠ s.atom atoms :=
    fun other hother hsame => hother (happart.injective other s hsame)
  unfold StateAtom.ofAtom?
  rw [if_neg (happart.ne_zero s)]
  cases s with
  | fullscreen => exact if_pos rfl
  | maximizedHorz => exact (if_neg (hne .fullscreen nofun)).trans (if_pos rfl)
  | maximizedVert =>
      exact (if_neg (hne .fullscreen nofun)).trans
        ((if_neg (hne .maximizedHorz nofun)).trans (if_pos rfl))

/-- A state is named if its atom is one of the two words. -/
theorem mem_named_iff (happart : atoms.StatesApart) {data : MessageWords} {s : StateAtom} :
    s ∈ [data.second, data.third].filterMap (StateAtom.ofAtom? atoms) ↔
      data.second = s.atom atoms ∨ data.third = s.atom atoms := by
  simp only [List.mem_filterMap, ofAtom?_eq_some_iff happart, List.mem_cons, List.not_mem_nil,
    or_false, or_and_right, exists_or, exists_eq_left]

/-- A message is decoded to its action, for the states that it names. -/
theorem decode_eq (happart : atoms.StatesApart) (data : MessageWords) :
    decode atoms data = (StateAction.ofWord? data.first).map fun action =>
      ⟨action, data.names atoms .fullscreen, data.names atoms .maximized⟩ := by
  have hfullscreen : ([data.second, data.third].filterMap (StateAtom.ofAtom? atoms)).contains
      .fullscreen = data.names atoms .fullscreen := by
    rw [Bool.eq_iff_iff, List.contains_iff_mem, mem_named_iff happart]
    simp only [MessageWords.names, StateAtom.atom, Bool.or_eq_true, beq_iff_eq]
  have hmaximized : (([data.second, data.third].filterMap (StateAtom.ofAtom? atoms)).contains
      .maximizedHorz && ([data.second, data.third].filterMap (StateAtom.ofAtom? atoms)).contains
      .maximizedVert) = data.names atoms .maximized := by
    have hne := happart.horz_ne_vert
    rw [Bool.eq_iff_iff, Bool.and_eq_true, List.contains_iff_mem, List.contains_iff_mem,
      mem_named_iff happart, mem_named_iff happart]
    simp only [MessageWords.names, StateAtom.atom, Bool.or_eq_true, Bool.and_eq_true, beq_iff_eq]
    -- one word cannot be both atoms
    grind
  unfold decode
  cases StateAction.ofWord? data.first with
  | none => rfl
  | some action => simp only [hfullscreen, hmaximized, Option.map_some]

theorem decode_eq_some_iff (happart : atoms.StatesApart) {data : MessageWords}
    {r : StateRequest} :
    decode atoms data = some r ↔
      data.first = r.action.word ∧ ∀ axis, r.isFor axis = data.names atoms axis := by
  rw [decode_eq happart, Option.map_eq_some_iff]
  constructor
  · rintro ⟨action, hword, rfl⟩
    refine ⟨StateAction.ofWord?_eq_some_iff.1 hword, ?_⟩
    intro axis
    cases axis <;> rfl
  · rintro ⟨hword, hfor⟩
    refine ⟨r.action, StateAction.ofWord?_eq_some_iff.2 hword, ?_⟩
    rw [← hfor .fullscreen, ← hfor .maximized]
    rfl

/-- Messages with the same action that name the same states are decoded alike. -/
theorem decode_congr (happart : atoms.StatesApart) {data other : MessageWords}
    (hfirst : data.first = other.first)
    (hnames : ∀ axis, data.names atoms axis = other.names atoms axis) :
    decode atoms data = decode atoms other := by
  rw [decode_eq happart, decode_eq happart, hfirst, hnames, hnames]

/-- The order of the two words that name states does not matter. -/
theorem decode_swap (happart : atoms.StatesApart) (data : MessageWords) :
    decode atoms data.swap = decode atoms data := by
  refine decode_congr happart rfl ?_
  intro axis
  cases axis with
  | fullscreen => exact Bool.or_comm _ _
  | maximized => simp only [MessageWords.names, MessageWords.swap, Bool.and_comm, Bool.or_comm]
  | iconified => rfl

/-- A word that names no state might as well be zero. -/
theorem decode_of_unknown (happart : atoms.StatesApart) {data : MessageWords}
    (hunknown : ¬atoms.NamesState data.second) :
    decode atoms { data with second := 0 } = decode atoms data := by
  have hword : ∀ s : StateAtom, (data.second == s.atom atoms) = (0 == s.atom atoms) := by
    intro s
    have hsecond : data.second ≠ s.atom atoms := fun hnames => hunknown ⟨s, hnames⟩
    rw [beq_eq_false_iff_ne.2 hsecond, beq_eq_false_iff_ne.2 (happart.ne_zero s).symm]
  have hfullscreen := hword .fullscreen
  have hhorz := hword .maximizedHorz
  have hvert := hword .maximizedVert
  refine decode_congr happart rfl ?_
  intro axis
  cases axis with
  | fullscreen => simp only [MessageWords.names, StateAtom.atom] at hfullscreen ⊢; rw [hfullscreen]
  | maximized =>
      simp only [MessageWords.names, StateAtom.atom] at hhorz hvert ⊢
      rw [hhorz, hvert]
  | iconified => rfl

/-- A word that stands there twice might as well stand there once. -/
theorem decode_of_repeated (happart : atoms.StatesApart) {data : MessageWords}
    (hrepeated : data.second = data.third) :
    decode atoms { data with third := 0 } = decode atoms data := by
  have hzero : ∀ s : StateAtom, (0 == s.atom atoms) = false :=
    fun s => beq_eq_false_iff_ne.2 (happart.ne_zero s).symm
  refine decode_congr happart rfl ?_
  intro axis
  cases axis with
  | fullscreen =>
      have hfullscreen := hzero .fullscreen
      simp only [MessageWords.names, StateAtom.atom] at hfullscreen ⊢
      rw [hfullscreen, ← hrepeated, Bool.or_self, Bool.or_false]
  | maximized =>
      -- neither one word nor one word and zero are both atoms
      have hhorz := hzero .maximizedHorz
      have hvert := hzero .maximizedVert
      simp only [MessageWords.names, StateAtom.atom] at hhorz hvert ⊢
      rw [hhorz, hvert, ← hrepeated, Bool.eq_iff_iff]
      simp only [Bool.and_false, Bool.or_false, Bool.or_eq_true, Bool.and_eq_true, beq_iff_eq,
        Bool.false_eq_true, false_iff]
      rintro (⟨hh, hv⟩ | ⟨hv, hh⟩) <;> exact happart.horz_ne_vert (hh.symm.trans hv)
  | iconified => rfl

/-! ### Applying -/

/-- The action is applied once to each state that the request is for, and to no other. -/
theorem apply_get (r : StateRequest) (s : WindowState) (axis : StateAxis) :
    (r.apply s).get axis = if r.isFor axis then r.action.apply (s.get axis) else s.get axis := by
  cases axis <;> rfl

end StateRequest

/-- States that have the same on every axis are the same. -/
theorem WindowState.ext_get {s s' : WindowState} (h : ∀ axis, s.get axis = s'.get axis) :
    s = s' := by
  cases s
  cases s'
  rw [mk.injEq]
  exact ⟨h .fullscreen, h .maximized, h .iconified⟩

/-- A request that is applied twice toggles back, or does what it did the first time. -/
theorem StateRequest.apply_apply (r : StateRequest) (s : WindowState) :
    r.apply (r.apply s) = if r.action = .toggle then s else r.apply s := by
  apply WindowState.ext_get
  intro axis
  rw [apply_get, apply_get]
  by_cases htoggle : r.action = .toggle
  · cases hfor : r.isFor axis <;> simp [htoggle, StateAction.apply]
  · cases hfor : r.isFor axis <;> simp [htoggle, hfor, apply_get, StateAction.apply_apply]

/-! ### What the host is told -/

/-- What a series of sends offers is the beginning of its requests, and all of them, accepted,
if it ends well. -/
theorem Window.Sends.map_request? {requests : List (StateAxis × ShellRequest)} {w w' : Window}
    {result : Except ManagerError Unit} {offers : List Offer}
    (h : Window.Sends requests w w' result offers) :
    offers.map Offer.request? <+: requests.map (some ·.2) ∧
      (result = .ok () → offers.map Offer.request? = requests.map (some ·.2) ∧
        ∀ o ∈ offers, o.accepted = true) := by
  induction h with
  | done w => exact ⟨List.prefix_rfl, fun _ => ⟨rfl, nofun⟩⟩
  | stopped hoffer =>
      refine ⟨?_, nofun⟩
      cases hoffer with
      | refused hbytes e =>
          simp only [List.map_cons, List.map_nil, Offer.request?,
            ShellRequest.decode?_of_encode hbytes]
          exact List.prefix_append [_] _
      | tooLong hbytes => exact List.nil_prefix
  | told hoffer hrest ih =>
      cases hoffer with
      | accepted hbytes =>
          simp only [List.map_cons, Offer.request?, ShellRequest.decode?_of_encode hbytes,
            List.singleton_append, List.mem_cons, forall_eq_or_imp, List.cons.injEq, true_and]
          exact ⟨(List.prefix_cons_inj _).2 ih.1, ih.2⟩

variable {ω : Type} [HostChannel ω] [PropertySource ω]

namespace Manager

/-- A call that brings the host in line is a series of sends of the requests that are needed. -/
theorem after_forwards_sends (m : Manager) (call : Call ω) {w : Window} {s : WindowState}
    {toplevel : UInt32} (hw : m.windows[call.id]? = some w) (hrole : w.toplevel = some toplevel)
    (hforwards : call.operation.Forwards m.setting w.state s) :
    ∃ w', Window.Sends (WindowState.syncRequests toplevel w.hostState s) { w with state := s } w'
      (m.result call) (m.offers call) := by
  obtain ⟨-, hend, hoffers⟩ := m.after_forwardState call hw hforwards
  obtain ⟨offers, hsends, hsent⟩ := Window.forwardState_sends (w := { w with state := s }) hrole
    (Recorded.start call.world)
  have hall : m.offers call = offers := hoffers.trans hsent
  rw [hend, hall]
  exact ⟨_, hsends⟩

/-- A state message to a window that is not iconified and whose state the host has. -/
theorem after_messaged_in_sync (m : Manager) {call : Call ω} {w : Window} {toplevel : UInt32}
    {words : MessageWords} (hw : m.windows[call.id]? = some w) (hrole : w.toplevel = some toplevel)
    (hoperation : call.operation = m.setting.stateMessage words)
    (hshown : w.state.iconified = false) (hhost : w.hostState = w.state) :
    let s := w.state.messaged m.setting.atoms words
    let requests := (WindowState.syncRequests toplevel w.state s).map (·.2)
    (m.offers call).map Offer.request? <+: requests.map some ∧
      (m.result call = .ok () ↔ ∀ o ∈ m.offers call, o.accepted = true) ∧
      (m.result call = .ok () →
        (m.offers call).map Offer.request? = requests.map some ∧
          (m.after call).windows[call.id]? = some (w.withStates s s)) := by
  intro s requests
  cases hdecode : StateRequest.decode m.setting.atoms words with
  | none =>
      -- a message without an action leaves the state, so nothing is needed
      have hsame : s = w.state := by simp only [s, WindowState.messaged, hdecode]
      obtain ⟨hvalue, hend, hoffers⟩ := m.after_eq_recorded call hw
      rw [hoperation, step_stateMessage, w.messaged_of_unknown _ hdecode] at hvalue hend hoffers
      have hnothing : requests = [] := by
        simp only [requests, hsame, WindowState.syncRequests_self, List.map_nil]
      rw [hnothing, hoffers, hend, hsame, Window.withStates_self hhost]
      exact ⟨List.nil_prefix, ⟨fun _ => List.forall_mem_nil _, fun _ => rfl⟩,
        fun _ => ⟨rfl, hvalue⟩⟩
  | some request =>
      have hsame : s = request.apply w.state := by simp only [s, WindowState.messaged, hdecode]
      have hforwards : call.operation.Forwards m.setting w.state s := by
        rw [hoperation, hsame]
        exact .change rfl hdecode hshown
      have hheld : w.hasRole = true := Option.isSome_iff_exists.2 ⟨toplevel, hrole⟩
      obtain ⟨w', hsends⟩ := m.after_forwards_sends call hw hrole hforwards
      rw [hhost] at hsends
      obtain ⟨hbegins, hok⟩ := hsends.map_request?
      have hmap : requests.map some =
          (WindowState.syncRequests toplevel w.state s).map (some ·.2) := List.map_map
      rw [hmap]
      refine ⟨hbegins, ⟨fun hresult => (hok hresult).2, ?_⟩, ?_⟩
      · refine hsends.result_of_accepted ?_
        intro p hp
        exact ShellRequest.encode_of_not_isText (WindowState.syncRequests_about hp).1
      · intro hresult
        exact ⟨(hok hresult).1, m.after_forwards_record call hw hheld hforwards hresult⟩

/-- What a `_NET_WM_STATE` message means, if the atoms of the states can be told apart.

It is decoded exactly if its first word is an action, and then to this action for the states
that the next two words name: fullscreen by its atom in either place, maximized by both of its
atoms in either order.  So these two words can be exchanged, one that names no state can be left
out and so can the second of two equal ones; the last two words do not matter.

What is decoded does the action once to each named state and keeps the rest of the state.  Done
twice, adding and removing do what they did once, and toggling is undone.

A window that has a role, is not iconified and whose state the host has is told to its toplevel
by one request for each of fullscreen and maximized that is different then, in this order.  The
channel is offered these requests until it refuses one; if it refuses none, the call ends well
and both states of the record are the new one. -/
theorem stateMessage_meaning (m : Manager) (happart : m.setting.atoms.StatesApart)
    (data : MessageWords) :
    let atoms := m.setting.atoms
    (StateRequest.decode atoms data = none ↔ 2 < data.first) ∧
    (∀ r, StateRequest.decode atoms data = some r →
      data.first = r.action.word ∧ (∀ axis, r.isFor axis = data.names atoms axis) ∧
      ∀ s, (∀ axis, (r.apply s).get axis =
          if data.names atoms axis then r.action.apply (s.get axis) else s.get axis) ∧
        r.apply (r.apply s) = if r.action = .toggle then s else r.apply s) ∧
    StateRequest.decode atoms data.swap = StateRequest.decode atoms data ∧
    (¬atoms.NamesState data.second →
      StateRequest.decode atoms { data with second := 0 } = StateRequest.decode atoms data) ∧
    (¬atoms.NamesState data.third →
      StateRequest.decode atoms { data with third := 0 } = StateRequest.decode atoms data) ∧
    (data.second = data.third →
      StateRequest.decode atoms { data with third := 0 } = StateRequest.decode atoms data) ∧
    (∀ fourth fifth,
      StateRequest.decode atoms { data with fourth, fifth } = StateRequest.decode atoms data) ∧
    ∀ (call : Call ω) w toplevel, m.windows[call.id]? = some w → w.toplevel = some toplevel →
      w.state.iconified = false → w.hostState = w.state →
      call.operation = m.setting.stateMessage data →
      let s := w.state.messaged atoms data
      let requests :=
        (if w.state.fullscreen = s.fullscreen then []
          else [WindowState.fullscreenRequest toplevel s.fullscreen]) ++
        (if w.state.maximized = s.maximized then []
          else [WindowState.maximizedRequest toplevel s.maximized])
      (m.offers call).map Offer.request? <+: requests.map some ∧
        (m.result call = .ok () ↔ ∀ o ∈ m.offers call, o.accepted = true) ∧
        (m.result call = .ok () →
          (m.offers call).map Offer.request? = requests.map some ∧
            (m.after call).windows[call.id]? = some (w.withStates s s)) := by
  intro atoms
  refine ⟨?_, ?_, StateRequest.decode_swap happart data, StateRequest.decode_of_unknown happart,
    ?_, StateRequest.decode_of_repeated happart, fun _ _ => rfl, ?_⟩
  · rw [StateRequest.decode_eq happart, Option.map_eq_none_iff, StateAction.ofWord?_eq_none_iff]
  · intro r hdecode
    obtain ⟨hfirst, hfor⟩ := (StateRequest.decode_eq_some_iff happart).1 hdecode
    refine ⟨hfirst, hfor, ?_⟩
    intro s
    refine ⟨?_, r.apply_apply s⟩
    intro axis
    rw [r.apply_get, hfor]
  · intro hunknown
    -- exchanged, the third word is the second
    have hswapped : StateRequest.decode atoms { data.swap with second := 0 } =
        StateRequest.decode atoms data.swap := StateRequest.decode_of_unknown happart hunknown
    rw [← StateRequest.decode_swap happart, StateRequest.decode_swap happart data] at hswapped
    exact hswapped
  · intro call w toplevel hw hrole hshown hhost hoperation s requests
    have hstill : s.iconified = false := (WindowState.messaged_iconified _ _ _).trans hshown
    have hneeded := WindowState.map_syncRequests_of_shown toplevel w.state hstill
    rw [show requests = _ from hneeded.symm]
    exact m.after_messaged_in_sync hw hrole hoperation hshown hhost

theorem statesApart_numbered : Atoms.numbered.StatesApart where
  ne_zero s := by cases s <;> decide
  injective s s' h := by cases s <;> cases s' <;> first | rfl | exact absurd h (by decide)

/-- A window with a role became fullscreen. -/
def fullscreenRun : List (Call (Surroundings Queue PropertyTable)) :=
  [.queued 7 (.guest (.created false .empty)),
   .queued 7 (.assignRole 30),
   .queued 7 ((Setting.plain true).stateMessage ⟨1, 0, Atoms.numbered.netWmStateFullscreen, 1, 0⟩)]

/-- The window is to toggle maximized, by both atoms in one of their orders. -/
theorem stateMessage_meaning_fullscreenRun :
    let m := (new (.plain true)).run fullscreenRun
    let data : MessageWords := ⟨2, Atoms.numbered.netWmStateMaximizedVert,
      Atoms.numbered.netWmStateMaximizedHorz, 1, 0⟩
    let call := Call.queued 7 ((Setting.plain true).stateMessage data)
    let w : Window := { Window.new 7 with
      toplevel := some 30, state := ⟨true, false, false⟩, hostState := ⟨true, false, false⟩ }
    m.setting.atoms.StatesApart ∧ m.windows[(7 : WindowId)]? = some w ∧
      StateRequest.decode m.setting.atoms data = some ⟨.toggle, false, true⟩ ∧
      StateRequest.decode m.setting.atoms data.swap = some ⟨.toggle, false, true⟩ ∧
      m.result call = .ok () ∧
      (m.offers call).map Offer.request? = [some (.setMaximized 30)] ∧
      (m.after call).windows[(7 : WindowId)]? =
        some (w.withStates ⟨true, true, false⟩ ⟨true, true, false⟩) := by
  intro m data call w
  have happart : m.setting.atoms.StatesApart := statesApart_numbered
  have hw : m.windows[(7 : WindowId)]? = some w := by
    rw [run_getElem?, getElem?_new]
    rfl
  obtain ⟨-, -, hswap, -, -, -, -, htold⟩ :=
    stateMessage_meaning (ω := Surroundings Queue PropertyTable) m happart data
  have hdecode : StateRequest.decode m.setting.atoms data = some ⟨.toggle, false, true⟩ := by
    decide
  obtain ⟨-, hiff, hok⟩ := htold call w 30 hw rfl rfl rfl rfl
  have hresult := hiff.2 (accepted_of_reliable reliable_queued m call)
  obtain ⟨hoffers, hafter⟩ := hok hresult
  exact ⟨happart, hw, hdecode, hswap.trans hdecode, hresult, hoffers, hafter⟩

end Manager

end GuestShell

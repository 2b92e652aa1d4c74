import GuestShell.Proofs.Manager.RecordStep
import GuestShell.Proofs.Manager.HostMirror

/-!
# The title that the host was told

The host knows of a title what it was told: the title that a window had when it got its role,
replaced by the title of every accepted request since.  A record keeps no such thing.  It has
the title that was read last, and a notification that reads this title again sends nothing,
whether the host was told it or not.

So the host keeps up with the record as long as every call about the window ends well and the
guest does not ask to map it again (`hostTitle_eq_title`).  A title that was refused, or that
was read when the window was taken over with its role, is NOT told later: an operation that
reads the title leaves the host with it exactly if the host had it before, or if a
notification read one that differs from the record.
-/

namespace GuestShell

namespace ShellRequest

/-- The title of a toplevel after a request, given the one before. -/
def retitle (toplevel : UInt32) (title : String) : ShellRequest → String
  | .setTitle target new => if target = toplevel then new else title
  | _ => title

/-- The request gives a toplevel a title. -/
def isTitle : ShellRequest → Bool
  | .setTitle .. => true
  | _ => false

theorem isTitle_of_not_isText {r : ShellRequest} (hr : r.isText = false) : r.isTitle = false := by
  cases r <;> first | rfl | cases hr

end ShellRequest

/-- The title of a toplevel after some requests, given the one at first. -/
def hostTitle (toplevel : UInt32) (start : String) (requests : List ShellRequest) : String :=
  requests.foldl (ShellRequest.retitle toplevel) start

theorem hostTitle_append (toplevel : UInt32) (start : String) (xs ys : List ShellRequest) :
    hostTitle toplevel start (xs ++ ys) = hostTitle toplevel (hostTitle toplevel start xs) ys :=
  List.foldl_append

/-- Requests that do not give the toplevel a title leave the one that it has. -/
theorem hostTitle_of_forall {toplevel : UInt32} {start : String} {requests : List ShellRequest}
    (hothers : ∀ request ∈ requests, ∀ title, request ≠ .setTitle toplevel title) :
    hostTitle toplevel start requests = start := by
  induction requests with
  | nil => rfl
  | cons request requests ih =>
      have hkept : ShellRequest.retitle toplevel start request = start := by
        have hother := hothers request List.mem_cons_self
        cases request with
        | setTitle target title =>
            have htarget : target ≠ toplevel := fun h => hother title (h ▸ rfl)
            rw [ShellRequest.retitle, if_neg htarget]
        | _ => rfl
      have hrest := ih fun other hmem => hothers other (List.mem_cons_of_mem _ hmem)
      rw [hostTitle, List.foldl_cons, hkept]
      exact hrest

theorem hostTitle_singleton (toplevel : UInt32) (start title : String) :
    hostTitle toplevel start [.setTitle toplevel title] = title := by
  simp [hostTitle, ShellRequest.retitle]

/-- The operations that read the title of their window. -/
def Operation.ReadsTitle (setting : Setting) (operation : Operation) : Prop :=
  operation = .guest .mapRequested ∨
    ∃ property, setting.atoms.Names property ∧ operation = .guest (.propertyChanged property)

theorem Operation.ReadsTitle.not_forgets {setting : Setting} {operation : Operation}
    (h : operation.ReadsTitle setting) : ¬ operation.Forgets setting := by
  rintro (hop | ⟨parent, -, hop⟩)
  · rcases h with h | ⟨property, -, h⟩ <;> rw [h] at hop <;> cases hop
  · rcases h with h | ⟨property, -, h⟩ <;> rw [h] at hop <;> cases hop

variable {ω : Type} [HostChannel ω]

/-- Nothing but a title is sent as a title. -/
theorem Sending.isTitle_of_perform {sending : Sending} (hother : sending ≠ .title)
    (identity : Identity) (w : Window) {r : Recorded ω} (hr : r.offers = []) :
    ∀ request ∈ Offer.requests (sending.perform identity w r).world.offers,
      request.isTitle = false := by
  intro request hrequest
  cases sending with
  | title => exact absurd rfl hother
  | nothing | refusal id =>
      simp only [perform, hr] at hrequest
      cases hrequest
  | state =>
      simp only [perform] at hrequest
      rcases w.forwardState_cases r with ⟨-, hnothing⟩ | ⟨toplevel, offers, -, hsends, hoffers⟩
      · simp only [hnothing, hr] at hrequest
        cases hrequest
      · rw [hoffers, hr, List.nil_append] at hrequest
        obtain ⟨p, hp, rfl⟩ := hsends.mem_of_mem_requests hrequest
        exact ShellRequest.isTitle_of_not_isText (WindowState.syncRequests_about hp).1
  | applicationId =>
      simp only [perform, Window.sendApplicationId] at hrequest
      split at hrequest
      · simp only [hr] at hrequest
        cases hrequest
      next auraSurface _ =>
        obtain ⟨offers, hoffer, hoffers⟩ :=
          (ShellRequest.setApplicationId auraSurface (identity.resolve w)).send_offered r
        rw [hoffers, hr, List.nil_append] at hrequest
        rw [hoffer.eq_of_mem_requests hrequest]
        rfl

theorem Window.sendTitle_offered {w : Window} {toplevel : UInt32}
    (hrole : w.toplevel = some toplevel) {r : Recorded ω} (hr : r.offers = []) :
    (ShellRequest.setTitle toplevel w.title).Offered (w.sendTitle r).result
      (w.sendTitle r).world.offers := by
  obtain ⟨offers, hoffer, hoffers⟩ := (ShellRequest.setTitle toplevel w.title).send_offered r
  simp only [Window.sendTitle, hrole]
  rwa [hoffers, hr, List.nil_append]

variable [PropertySource ω]

/-- Listening does not change the title that is read. -/
theorem readTitle_start (atoms : Atoms) (id : WindowId) (world : ω) :
    (readTitle atoms id (Recorded.start world)).1 = (readTitle atoms id world).1 :=
  (congrArg Prod.fst (WorldMap.recorded_world.readTitle_map atoms id (Recorded.start world))).symm

namespace Manager

/-- The requests that the calls of a run got accepted, oldest first. -/
def accepted : Manager → List (Call ω) → List ShellRequest
  | _, [] => []
  | m, call :: calls => Offer.acceptedRequests (m.offers call) ++ (m.after call).accepted calls

theorem accepted_concat (m : Manager) (calls : List (Call ω)) (call : Call ω) :
    m.accepted (calls ++ [call]) =
      m.accepted calls ++ Offer.acceptedRequests ((m.run calls).offers call) := by
  induction calls generalizing m with
  | nil => simp [accepted]
  | cons first calls ih =>
      simp only [List.cons_append, accepted, ih, run_cons, List.append_assoc]

end Manager

/-! ### One call -/

omit [HostChannel ω] in
/-- An operation that does not read the title writes the one there was, and sends none. -/
theorem Writes.title_eq {setting : Setting} {w w' : Window} {r r' : Recorded ω}
    {operation : Operation} {sending : Sending}
    (h : Writes setting w r operation w' r' sending) (hreads : ¬ operation.ReadsTitle setting) :
    w'.title = w.title ∧ sending ≠ .title := by
  cases h with
  | mapRequested => exact absurd (Or.inl rfl) hreads
  | sameTitle hname => exact absurd (Or.inr ⟨_, hname, rfl⟩) hreads
  | renamed hname => exact absurd (Or.inr ⟨_, hname, rfl⟩) hreads
  | configured change =>
      obtain ⟨scale, hconfigured⟩ := w.configured_eq setting change
      rw [hconfigured]
      exact ⟨rfl, nofun⟩
  | focused s hsending | messaged s hostSurface hsending | surfaced auraSurface hsending =>
      rcases hsending with rfl | rfl <;> exact ⟨rfl, nofun⟩
  | propertyChanged hother className appIdProperty clientLeader r' hread hsending =>
      rcases hsending with rfl | rfl <;> exact ⟨rfl, nofun⟩
  | created | adopted | reparented | unmapped | assigned | identified => exact ⟨rfl, nofun⟩

namespace Manager

theorem after_not_reading (m : Manager) (call : Call ω) {w w' : Window}
    (hw : m.windows[call.id]? = some w) (hw' : (m.after call).windows[call.id]? = some w')
    (hreads : ¬ call.operation.ReadsTitle m.setting) :
    w'.title = w.title ∧ ∀ request ∈ Offer.requests (m.offers call), request.isTitle = false := by
  rcases m.after_writes call hw with
    ⟨-, hforgotten, -⟩ | ⟨w₁, r₁, sending, hwrites, hvalue, -, hoffers⟩
  · rw [hw'] at hforgotten
    cases hforgotten
  · obtain ⟨htitle, hother⟩ := hwrites.title_eq hreads
    obtain ⟨hostState, hkept⟩ := sending.perform_value m.setting.identity w₁ r₁
    rw [hw', hkept] at hvalue
    cases hvalue
    refine ⟨htitle, ?_⟩
    rw [hoffers]
    exact Sending.isTitle_of_perform hother m.setting.identity w₁ hwrites.offers_eq

/-- A call that reads the title records it.  It sends the title if it is a notification and
the title differs from the one that was recorded; else it sends no title. -/
theorem after_reading (m : Manager) (call : Call ω) {w : Window}
    (hw : m.windows[call.id]? = some w) (hreads : call.operation.ReadsTitle m.setting) :
    let title := (readTitle m.setting.atoms w.id call.world).1
    let renames := call.operation ≠ .guest .mapRequested ∧ title ≠ w.title
    ∃ w', (m.after call).windows[call.id]? = some w' ∧ w'.title = title ∧
      w'.toplevel = w.toplevel ∧
      (¬ renames ∧ (∀ request ∈ Offer.requests (m.offers call), request.isTitle = false) ∨
        renames ∧ ∀ toplevel, w.toplevel = some toplevel →
          (ShellRequest.setTitle toplevel title).Offered (m.result call) (m.offers call)) := by
  have hread := readTitle_start m.setting.atoms w.id call.world
  intro title renames
  rcases m.after_writes call hw with
    ⟨hforgets, -, -⟩ | ⟨w₁, r₁, sending, hwrites, hvalue, hresult, hoffers⟩
  · exact absurd hforgets hreads.not_forgets
  · obtain ⟨hostState, hkept⟩ := sending.perform_value m.setting.identity w₁ r₁
    rw [hkept] at hvalue
    have hsilent : sending ≠ .title →
        ∀ request ∈ Offer.requests (m.offers call), request.isTitle = false := by
      intro hother
      rw [hoffers]
      exact Sending.isTitle_of_perform hother m.setting.identity w₁ hwrites.offers_eq
    refine ⟨_, hvalue, ?_⟩
    rcases hreads with hop | ⟨property, hname, hop⟩
    · -- the window is taken over, and its title is not sent
      have hkeeps : ¬ renames := fun h => h.1 hop
      rw [hop] at hwrites
      cases hwrites
      exact ⟨hread, rfl, Or.inl ⟨hkeeps, hsilent nofun⟩⟩
    · rw [hop] at hwrites
      cases hwrites with
      | sameTitle _ hsame =>
          have hrecorded : title = w.title := hread.symm.trans hsame
          exact ⟨hrecorded.symm, rfl, Or.inl ⟨fun h => h.2 hrecorded, hsilent nofun⟩⟩
      | renamed _ hnew =>
          have hrenames : renames := ⟨by rw [hop]; nofun, fun h => hnew (hread.trans h)⟩
          refine ⟨hread, rfl, Or.inr ⟨hrenames, ?_⟩⟩
          intro toplevel hrole
          have hstart := readTitle_offers m.setting.atoms w.id (Recorded.start call.world)
          have htold := Window.sendTitle_offered (w := { w with
            title := (readTitle m.setting.atoms w.id (Recorded.start call.world)).1 }) hrole hstart
          rw [hresult, hoffers]
          simp only [hread] at htold ⊢
          exact htold
      | propertyChanged hother => exact absurd hname hother

/-- Accepted requests that are no titles leave the host with the title that it has. -/
theorem hostTitle_of_no_title {toplevel : UInt32} {start : String} {offers : List Offer}
    (hnone : ∀ request ∈ Offer.requests offers, request.isTitle = false) :
    hostTitle toplevel start (Offer.acceptedRequests offers) = start := by
  refine hostTitle_of_forall ?_
  rintro request hrequest title rfl
  have hnot := hnone _ (Offer.mem_requests_of_accepted hrequest)
  cases hnot

/-- What a call that reads the title and ends well makes of a title that the host has. -/
theorem after_reading_told (m : Manager) (call : Call ω) {w : Window} {toplevel : UInt32}
    (hw : m.windows[call.id]? = some w) (hrole : w.toplevel = some toplevel)
    (hreads : call.operation.ReadsTitle m.setting) (hok : m.result call = .ok ())
    (told : String) :
    let title := (readTitle m.setting.atoms w.id call.world).1
    let renames := call.operation ≠ .guest .mapRequested ∧ title ≠ w.title
    (hostTitle toplevel told (Offer.acceptedRequests (m.offers call)) = title ↔
        told = title ∨ renames) ∧
      ((∃ request ∈ Offer.requests (m.offers call), request.isTitle = true) ↔ renames) := by
  obtain ⟨w', -, -, -, hcases⟩ := m.after_reading call hw hreads
  intro title renames
  rcases hcases with ⟨hkeeps, hnone⟩ | ⟨hrenames, hsent⟩
  · refine ⟨?_, ?_, fun h => absurd h hkeeps⟩
    · rw [hostTitle_of_no_title hnone]
      exact (or_iff_left hkeeps).symm
    · rintro ⟨request, hrequest, htitle⟩
      rw [hnone request hrequest] at htitle
      cases htitle
  · have hoffered := hsent toplevel hrole
    rw [hok] at hoffered
    have haccepted := hoffered.acceptedRequests_of_ok
    refine ⟨?_, ?_⟩
    · rw [haccepted, hostTitle_singleton]
      exact iff_of_true rfl (Or.inr hrenames)
    · refine iff_of_true ⟨.setTitle toplevel title, ?_, rfl⟩ hrenames
      refine Offer.mem_requests_of_accepted ?_
      rw [haccepted]
      exact List.mem_singleton_self _

/-! ### All calls -/

/-- No call of a run gets in the way of a title: the calls about the window end well and do
not ask to map it, and no other call gives its toplevel a title. -/
def KeepsTitle (id : WindowId) (toplevel : UInt32) : Manager → List (Call ω) → Prop
  | _, [] => True
  | m, call :: calls =>
      (call.id = id → m.result call = .ok () ∧ call.operation ≠ .guest .mapRequested) ∧
      (call.id ≠ id → ∀ request ∈ Offer.requests (m.offers call), ∀ title,
        request ≠ .setTitle toplevel title) ∧
      (m.after call).KeepsTitle id toplevel calls

theorem keepsTitle_concat (id : WindowId) (toplevel : UInt32) (m : Manager)
    (calls : List (Call ω)) (call : Call ω) :
    m.KeepsTitle id toplevel (calls ++ [call]) ↔
      m.KeepsTitle id toplevel calls ∧ (m.run calls).KeepsTitle id toplevel [call] := by
  induction calls generalizing m with
  | nil => simp [KeepsTitle]
  | cons first calls ih => simp only [List.cons_append, KeepsTitle, ih, run_cons, and_assoc]

/-- One such call about the window brings the host the title that it records. -/
theorem after_hostTitle (m : Manager) (call : Call ω) {w w' : Window} {toplevel : UInt32}
    (hw : m.windows[call.id]? = some w) (hw' : (m.after call).windows[call.id]? = some w')
    (hrole : w.toplevel = some toplevel) (hresult : m.result call = .ok ())
    (hmap : call.operation ≠ .guest .mapRequested) :
    hostTitle toplevel w.title (Offer.acceptedRequests (m.offers call)) = w'.title := by
  by_cases hreads : call.operation.ReadsTitle m.setting
  · obtain ⟨w₁, hw₁, htitle, -, -⟩ := m.after_reading call hw hreads
    obtain ⟨htold, -⟩ := m.after_reading_told call hw hrole hreads hresult w.title
    rw [hw'] at hw₁
    cases hw₁
    rw [htitle]
    -- the title reads as it is recorded, or it is sent
    refine htold.2 ?_
    by_cases hsame : w.title = (readTitle m.setting.atoms w.id call.world).1
    · exact Or.inl hsame
    · exact Or.inr ⟨hmap, fun h => hsame h.symm⟩
  · obtain ⟨htitle, hnone⟩ := m.after_not_reading call hw hw' hreads
    rw [hostTitle_of_no_title hnone, htitle]

/-- What the host was told of a title since the latest assignment of a role. -/
inductive TitledSince (setting : Setting) (calls : List (Call ω)) (id : WindowId)
    (toplevel : UInt32) (w : Window) : Prop
  | since {before : List (Call ω)} {call : Call ω} {after : List (Call ω)} {start : Window}
      (hlatest : LatestRole id toplevel calls before call after)
      (hstart : ((new setting).run before).windows[id]? = some start)
      (htitle : ((new setting).run (before ++ [call])).KeepsTitle id toplevel after →
        hostTitle toplevel start.title (((new setting).run (before ++ [call])).accepted after) =
          w.title) :
      TitledSince setting calls id toplevel w

theorem TitledSince.concat {setting : Setting} {calls : List (Call ω)} {id : WindowId}
    {toplevel : UInt32} {w w' : Window} (h : TitledSince setting calls id toplevel w)
    {next : Call ω} (hnext : next.id = id → ∀ other, next.operation ≠ .assignRole other)
    (htitle : ((new setting).run calls).KeepsTitle id toplevel [next] →
      hostTitle toplevel w.title
        (Offer.acceptedRequests (((new setting).run calls).offers next)) = w'.title) :
    TitledSince setting (calls ++ [next]) id toplevel w' := by
  cases h with
  | @since before call after start hlatest hstart hbefore =>
      have hrun : ((new setting).run (before ++ [call])).run after = (new setting).run calls := by
        rw [← run_append, List.append_assoc, List.singleton_append, ← hlatest.split]
      refine .since (hlatest.concat hnext) hstart ?_
      rw [keepsTitle_concat, accepted_concat, hostTitle_append, hrun]
      rintro ⟨hkeeps, hlast⟩
      rw [hbefore hkeeps]
      exact htitle hlast

theorem titledSince_of_toplevel (setting : Setting) (calls : List (Call ω)) {id : WindowId}
    {w : Window} (hw : ((new setting).run calls).windows[id]? = some w) :
    ∀ toplevel, w.toplevel = some toplevel → TitledSince setting calls id toplevel w := by
  refine run_tracked_induction (P := fun calls id w =>
    ∀ toplevel, w.toplevel = some toplevel → TitledSince setting calls id toplevel w)
    setting ?_ ?_ ?_ calls hw
  · intro calls call id w hne h toplevel htoplevel
    refine (h toplevel htoplevel).concat (fun heq => absurd heq hne) ?_
    rintro ⟨-, hothers, -⟩
    refine hostTitle_of_forall ?_
    intro request hrequest
    exact hothers hne request (Offer.mem_requests_of_accepted hrequest)
  · intro calls id w hnone _ _ toplevel htoplevel
    rw [hnone] at htoplevel
    cases htoplevel
  · intro calls call w w' hbefore hw' ih toplevel htoplevel
    by_cases hassigned : ∃ other, call.operation = .assignRole other
    · -- the host begins with the title that the record has
      obtain ⟨other, hop⟩ := hassigned
      have hvalue := (after_eq_recorded _ call hbefore).1
      rw [hw', hop] at hvalue
      cases hvalue
      cases htoplevel
      exact .since (LatestRole.last rfl hop) hbefore (fun _ => rfl)
    · have hother : ∀ other, call.operation ≠ .assignRole other :=
        fun other hop => hassigned ⟨other, hop⟩
      have hrole : w'.hasRole = true := Option.isSome_iff_exists.2 ⟨toplevel, htoplevel⟩
      obtain ⟨hheld, -⟩ := after_mirrors _ call hbefore hw' hrole hother
      have hheld' : w.toplevel = some toplevel := hheld.trans htoplevel
      refine (ih toplevel hheld').concat (fun _ => hother) ?_
      rintro ⟨hown, -, -⟩
      obtain ⟨hresult, hmap⟩ := hown rfl
      exact after_hostTitle _ call hbefore hw' hheld' hresult hmap

/-- The host has the title that is recorded, as long as no call since the latest assignment
of the role gets in its way. -/
theorem hostTitle_eq_title (setting : Setting) (calls : List (Call ω)) {id : WindowId}
    {w : Window} {toplevel : UInt32} (htracked : ((new setting).run calls).windows[id]? = some w)
    (hrole : w.toplevel = some toplevel) :
    ∃ before call after start, LatestRole id toplevel calls before call after ∧
      ((new setting).run before).windows[id]? = some start ∧
      let since := (new setting).run (before ++ [call])
      (since.KeepsTitle id toplevel after →
        hostTitle toplevel start.title (since.accepted after) = w.title) := by
  obtain ⟨hlatest, hstart, htitle⟩ :=
    titledSince_of_toplevel setting calls htracked toplevel hrole
  exact ⟨_, _, _, _, hlatest, hstart, htitle⟩

/-- A call that reads the title of a window with a role, and ends well, leaves the host with
the title that it records exactly if the host had that title before, or if the call is a
notification that read another title than the record had.  Only such a notification sends
the title.  So a title that the host was not told when it was recorded is not told by the
notifications that read it again, nor is one that was read when the guest asked to map a
window that had its role. -/
theorem hostTitle_after_reading_iff (setting : Setting) (calls : List (Call ω)) (next : Call ω)
    {w : Window} {toplevel : UInt32}
    (htracked : ((new setting).run calls).windows[next.id]? = some w)
    (hrole : w.toplevel = some toplevel) (hreads : next.operation.ReadsTitle setting)
    (hok : ((new setting).run calls).result next = .ok ()) :
    ∃ before call after start, LatestRole next.id toplevel calls before call after ∧
      ((new setting).run before).windows[next.id]? = some start ∧
      let since := (new setting).run (before ++ [call])
      let told := hostTitle toplevel start.title (since.accepted after)
      let toldThen := hostTitle toplevel start.title (since.accepted (after ++ [next]))
      let title := (readTitle setting.atoms next.id next.world).1
      let renames := next.operation ≠ .guest .mapRequested ∧ title ≠ w.title
      (∃ w', ((new setting).run (calls ++ [next])).windows[next.id]? = some w' ∧
        w'.toplevel = some toplevel ∧ w'.title = title ∧
        (toldThen = w'.title ↔ told = title ∨ renames)) ∧
      ((∃ request ∈ Offer.requests (((new setting).run calls).offers next),
        request.isTitle = true) ↔ renames) := by
  have hsetting : ((new setting).run calls).setting = setting := run_setting _ calls
  have hreads' : next.operation.ReadsTitle ((new setting).run calls).setting := by rwa [hsetting]
  obtain ⟨w', hw', htitle, hheld, -⟩ := after_reading _ next htracked hreads'
  have htold := after_reading_told _ next htracked hrole hreads' hok
  rw [hsetting, id_eq_of_run setting calls htracked] at htitle htold
  obtain @⟨before, call, after, start, hlatest, hstart, -⟩ :=
    titledSince_of_toplevel setting calls htracked toplevel hrole
  refine ⟨before, call, after, start, hlatest, hstart, ?_⟩
  intro since told toldThen title renames
  have hrun : since.run after = (new setting).run calls := by
    rw [← run_append, List.append_assoc, List.singleton_append, ← hlatest.split]
  have hthen : toldThen = hostTitle toplevel told
      (Offer.acceptedRequests (((new setting).run calls).offers next)) := by
    rw [← hrun, ← hostTitle_append, ← accepted_concat]
  obtain ⟨hiff, hoffers⟩ := htold told
  refine ⟨⟨w', ?_, hheld.trans hrole, htitle, ?_⟩, hoffers⟩
  · rw [run_concat]
    exact hw'
  · rw [hthen, htitle]
    exact hiff

/-- A notification that window 7 has another name, which reads as `title`, on a queue that
refuses the next messages. -/
def named (refusals : Nat) (title : String) : Call (Surroundings UnreliableQueue PropertyTable) :=
  let name := Atoms.numbered.wmName
  ⟨7, .guest (.propertyChanged name),
    ⟨⟨refusals, .empty⟩, PropertyTable.empty.setText 7 name (some title)⟩⟩

/-- A window gets its role, and the first title that is sent is refused. -/
def refusedTitle : List (Call (Surroundings UnreliableQueue PropertyTable)) :=
  [.refusing 0 7 (.guest (.created false .empty)),
   .refusing 0 7 (.assignRole 30),
   named 1 "inbox"]

/-- The refused title is read once more and recorded, and the host is not told. -/
theorem hostTitle_after_reading_refusedTitle :
    let fresh := new (.plain true)
    let since := fresh.run (refusedTitle.take 2)
    let next := named 0 "inbox"
    (fresh.run refusedTitle).result next = .ok () ∧
    (∃ w', (fresh.run (refusedTitle ++ [next])).windows[(7 : WindowId)]? = some w' ∧
      w'.toplevel = some 30 ∧ w'.title = "inbox" ∧
      hostTitle 30 "" (since.accepted (refusedTitle.drop 2 ++ [next])) ≠ w'.title) ∧
    ¬ ∃ request ∈ Offer.requests ((fresh.run refusedTitle).offers next),
      request.isTitle = true := by
  intro fresh since next
  have hw : (fresh.run refusedTitle).windows[next.id]? =
      some { Window.new 7 with toplevel := some 30, title := "inbox" } := by
    rw [run_getElem?, getElem?_new]
    rfl
  have hok : (fresh.run refusedTitle).result next = .ok () := by
    rw [(after_eq_recorded _ next hw).2.1]
    rfl
  have hsince : since.windows[(named 1 "inbox").id]? =
      some { Window.new 7 with toplevel := some 30 } := by
    rw [run_getElem?, getElem?_new]
    rfl
  have hnone : since.accepted (refusedTitle.drop 2) = [] := by
    rw [show refusedTitle.drop 2 = [named 1 "inbox"] from rfl, accepted, accepted,
      (after_eq_recorded _ (named 1 "inbox") hsince).2.2, run_setting]
    decide +kernel
  have hrole : LatestRole 7 30 refusedTitle (refusedTitle.take 1) (.refusing 0 7 (.assignRole 30))
      (refusedTitle.drop 2) := by
    refine ⟨rfl, rfl, rfl, ?_⟩
    intro later hlater _ other
    rw [List.mem_singleton.1 hlater]
    nofun
  obtain ⟨before, call, after, start, hlatest, hstart, ⟨w', hw', hheld, hread, htold⟩, hoffers⟩ :=
    hostTitle_after_reading_iff (.plain true) refusedTitle next hw rfl
      (Or.inr ⟨_, Or.inl rfl, rfl⟩) hok
  obtain ⟨rfl, rfl, rfl⟩ := hlatest.unique hrole
  have htitle : start.title = "" := by
    rw [run_getElem?, getElem?_new] at hstart
    cases hstart
    rfl
  have hinbox : (readTitle (Setting.plain true).atoms next.id next.world).1 = "inbox" := rfl
  have hkeeps : ¬ (next.operation ≠ .guest .mapRequested ∧ "inbox" ≠ "inbox") :=
    fun h => h.2 rfl
  simp only [hinbox] at hread htold hoffers
  refine ⟨hok, ⟨w', hw', hheld, hread, ?_⟩, fun h => hkeeps (hoffers.1 h)⟩
  rw [htitle] at htold
  intro hsame
  rcases htold.1 hsame with htold | hrenames
  · -- nothing was accepted before, so the host had no title
    have hempty : hostTitle 30 "" (since.accepted (refusedTitle.drop 2)) = "inbox" := htold
    rw [hnone] at hempty
    exact absurd hempty (by decide)
  · exact hkeeps hrenames

end Manager

end GuestShell

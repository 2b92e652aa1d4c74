import GuestShell.Proofs.Manager.HostObjects
import GuestShell.Proofs.Manager.PropertyStep

/-!
# The application id that the host was told

The application id of a window can be forced, or come from its application id property or
from its class.  Such an id is *settled*: whenever an operation may have changed it or the
window gets an aura surface, the id is sent, and so the aura surface was last told the one
that the record has now, as long as no send failed (`Manager.toldId_of_settles`).

An id that is made from the client leader is NOT kept up.  A new client leader is recorded
and nothing is sent, until something else makes the window send its id.
-/

namespace GuestShell

/-- The request gives an aura surface an application id. -/
def ShellRequest.isApplicationId : ShellRequest → Bool
  | .setApplicationId .. => true
  | _ => false

theorem Sending.ofRequest_of_isApplicationId {request : ShellRequest}
    (h : request.isApplicationId = true) : ofRequest request = .applicationId := by
  cases request <;> first | rfl | cases h

/-- The application id of a window is forced, or its property or its class gives one. -/
def Identity.Settles (identity : Identity) (w : Window) : Prop :=
  identity.applicationId.isSome ∨ w.appIdProperty.isSome ∨ w.className.isSome

section Settles

variable {identity : Identity} {w w' : Window}

theorem Identity.Settles.of_eq (h : identity.Settles w) (hclass : w'.className = w.className)
    (happId : w'.appIdProperty = w.appIdProperty) : identity.Settles w' := by
  unfold Settles
  rw [hclass, happId]
  exact h

/-- A settled id comes from the class and the application id property alone. -/
theorem Identity.Settles.resolve_eq (h : identity.Settles w)
    (hclass : w'.className = w.className) (happId : w'.appIdProperty = w.appIdProperty) :
    identity.resolve w' = identity.resolve w := by
  cases hforced : identity.applicationId with
  | some id => simp only [resolve, hforced]
  | none =>
      cases hproperty : w.appIdProperty with
      | some id => simp only [resolve, hforced, happId, hproperty]
      | none =>
          cases hname : w.className with
          | some name =>
              simp only [resolve, hforced, happId, hproperty, derivedId, hclass, hname]
          | none => simp [Settles, hforced, hproperty, hname] at h

end Settles

/-- An operation that does not send the application id of a managed window leaves what a
settled id comes from. -/
theorem Window.reread_of_not_identifies {ω : Type} [PropertySource ω] {setting : Setting}
    {w : Window} {operation : Operation} (hmanaged : w.managed = true)
    (hsilent : ¬ operation.Identifies setting w) (world : ω) :
    (w.reread setting world (operation.reading setting)).1.className = w.className ∧
      (w.reread setting world (operation.reading setting)).1.appIdProperty = w.appIdProperty := by
  cases operation with
  | guest change =>
      cases change with
      | mapRequested => exact absurd .mapRequested hsilent
      | propertyChanged property =>
          change (w.reread setting world (.ofProperty setting.atoms property)).1.className = _ ∧
            (w.reread setting world (.ofProperty setting.atoms property)).1.appIdProperty = _
          rcases Reading.ofProperty_cases setting.atoms property with
            ⟨-, hreads⟩ | ⟨-, hreads | hreads | hreads | hreads⟩
          · rw [hreads]
            exact ⟨rfl, rfl⟩
          · exact absurd (.className hmanaged hreads) hsilent
          · exact absurd (.appId hmanaged hreads) hsilent
          · rw [hreads]
            exact ⟨rfl, rfl⟩
          · rw [hreads]
            exact ⟨rfl, rfl⟩
      | _ => exact ⟨rfl, rfl⟩
  | _ => exact ⟨rfl, rfl⟩

variable {ω : Type} [HostChannel ω]

/-- Nothing but an application id is sent as an application id. -/
theorem Sending.isApplicationId_of_perform {sending : Sending} (hother : sending ≠ .applicationId)
    (identity : Identity) (w : Window) {r : Recorded ω} (hr : r.offers = []) :
    ∀ request ∈ Offer.requests (sending.perform identity w r).world.offers,
      request.isApplicationId = false := by
  intro request hrequest
  obtain ⟨o, ho, hdecode⟩ := List.mem_filterMap.1 hrequest
  obtain ⟨same, habout, hsending⟩ := sending.offers_about identity w hr o ho
  obtain rfl : same = request := Option.some.inj (habout.request?_eq.symm.trans hdecode)
  cases hkind : same.isApplicationId with
  | false => rfl
  | true => exact absurd (hsending.trans (ofRequest_of_isApplicationId hkind)) hother

/-- An aura surface is offered the application id of its record. -/
theorem Window.sendApplicationId_offered {w : Window} {auraSurface : UInt32}
    (haura : w.auraSurface = some auraSurface) (identity : Identity) {r : Recorded ω}
    (hr : r.offers = []) :
    let o := w.sendApplicationId identity r
    (ShellRequest.setApplicationId auraSurface (identity.resolve w)).Offered o.result
      o.world.offers := by
  obtain ⟨offers, hoffer, hoffers⟩ :=
    (ShellRequest.setApplicationId auraSurface (identity.resolve w)).send_offered r
  simp only [sendApplicationId, haura]
  rwa [hoffers, hr, List.nil_append]

variable [PropertySource ω]

namespace Manager

/-- No send of a call failed: it ended well, or was refused before it sent anything. -/
def Sent (m : Manager) (call : Call ω) : Prop :=
  m.result call = .ok () ∨ ∃ id, m.result call = .error (.duplicateWindow id)

/-- No send of a run failed. -/
def AllSent : Manager → List (Call ω) → Prop
  | _, [] => True
  | m, call :: calls => m.Sent call ∧ (m.after call).AllSent calls

theorem allSent_concat (m : Manager) (calls : List (Call ω)) (call : Call ω) :
    m.AllSent (calls ++ [call]) ↔ m.AllSent calls ∧ (m.run calls).Sent call := by
  induction calls generalizing m with
  | nil => simp [AllSent]
  | cons first calls ih => simp only [List.cons_append, AllSent, ih, run_cons, and_assoc]

/-! ### One call -/

/-- A call that identifies its window offers the id of the record it leaves. -/
theorem after_identifying (m : Manager) (call : Call ω) {w : Window}
    (hw : m.windows[call.id]? = some w) (hidentifies : call.operation.Identifies m.setting w) :
    ∃ w', (m.after call).windows[call.id]? = some w' ∧
      ∀ auraSurface, w'.auraSurface = some auraSurface →
        (ShellRequest.setApplicationId auraSurface (m.setting.identity.resolve w')).Offered
          (m.result call) (m.offers call) := by
  rcases m.after_propertyStep call hw with
    ⟨hforgets, -, -⟩ | ⟨w₁, r₁, sending, hwrites, hstep, hvalue, hresult, hoffers⟩
  · exact absurd hforgets hidentifies.not_forgets
  · obtain ⟨hostState, hkept⟩ := sending.perform_value m.setting.identity w₁ r₁
    rw [hkept] at hvalue
    refine ⟨_, hvalue, fun auraSurface haura => ?_⟩
    rw [hresult, hoffers, hstep.sends.2 hidentifies]
    exact w₁.sendApplicationId_offered haura m.setting.identity hwrites.offers_eq

/-- A call that does not identify its window offers no application id. -/
theorem offers_of_not_identifies (m : Manager) (call : Call ω)
    (hsilent : ∀ w, m.windows[call.id]? = some w → ¬ call.operation.Identifies m.setting w) :
    ∀ request ∈ Offer.requests (m.offers call), request.isApplicationId = false := by
  have hnothing : m.offers call = [] →
      ∀ request ∈ Offer.requests (m.offers call), request.isApplicationId = false := by
    intro hnone request hrequest
    rw [hnone] at hrequest
    cases hrequest
  cases hw : m.windows[call.id]? with
  | none => exact hnothing (m.after_untracked call hw).1
  | some w =>
      rcases m.after_propertyStep call hw with
        ⟨-, -, hnone⟩ | ⟨w₁, r₁, sending, hwrites, hstep, -, -, hoffers⟩
      · exact hnothing hnone
      · rw [hoffers]
        exact Sending.isApplicationId_of_perform (fun h => hsilent w hw (hstep.sends.1 h))
          m.setting.identity w₁ hwrites.offers_eq

/-- A call that does not identify a window and leaves it managed found it managed, and leaves
its aura surface and what a settled id comes from. -/
theorem after_not_identifying (m : Manager) (call : Call ω) {w w' : Window}
    (hw : m.windows[call.id]? = some w) (hw' : (m.after call).windows[call.id]? = some w')
    (hsilent : ¬ call.operation.Identifies m.setting w) (hmanaged : w'.managed = true) :
    w.managed = true ∧ w'.className = w.className ∧ w'.appIdProperty = w.appIdProperty ∧
      ∀ auraSurface, w'.auraSurface = some auraSurface → w.auraSurface = some auraSurface ∧
        call.operation ≠ .guest .unmapped ∧
        ∀ other, call.operation ≠ .assignAuraSurface other := by
  obtain ⟨w₁, r₁, sending, hostState, hwrites, hstep, rfl⟩ := m.after_record call hw hw'
  have hafter : call.operation.managedAfter w.managed = true :=
    hstep.managed.symm.trans hmanaged
  obtain ⟨hmanaged₀, hunmap⟩ := (Operation.managed_of_managedAfter hafter).resolve_left
    fun hmap => hsilent (hmap ▸ .mapRequested)
  obtain ⟨hclass, happId⟩ :=
    Window.reread_of_not_identifies hmanaged₀ hsilent (Recorded.start call.world)
  have hsurface : ∀ other, call.operation ≠ .assignAuraSurface other :=
    fun other hop => hsilent (hop ▸ .surfaced hmanaged₀ other)
  refine ⟨hmanaged₀, hstep.properties.className.trans hclass,
    hstep.properties.appIdProperty.trans happId, ?_⟩
  intro auraSurface haura
  have hobject : HostObject.of? w₁ .auraSurface = some auraSurface := haura
  rcases hwrites.of?_eq_some hobject with hassigns | ⟨hheld, -, -⟩
  · exact absurd hassigns (hsurface auraSurface)
  · exact ⟨hheld, hunmap, hsurface⟩

/-! ### All calls -/

/-- How a call ends follows from the calls about its window. -/
theorem run_result (setting : Setting) (calls : List (Call ω)) (call : Call ω) :
    ((new setting).run calls).result call =
      (call.operation.step setting call.id (calls.foldl (stepRecord setting call.id) none)
        call.world).result := by
  rw [result, perform, run_getElem?, run_setting, getElem?_new]
  rfl

/-- The application ids that a run got accepted for a window. -/
def applicationIds (id : WindowId) (m : Manager) (calls : List (Call ω)) : List ShellRequest :=
  (acceptedFor id m calls).filter (·.isApplicationId)

theorem applicationIds_concat (id : WindowId) (m : Manager) (calls : List (Call ω))
    (call : Call ω) :
    applicationIds id m (calls ++ [call]) =
      applicationIds id m calls ++
        if call.id = id then
          (Offer.acceptedRequests ((m.run calls).offers call)).filter (·.isApplicationId)
        else [] := by
  rw [applicationIds, acceptedFor_concat, List.filter_append, applicationIds]
  split <;> rfl

/-- A request that was offered by a call whose sends did not fail is all that it got accepted. -/
theorem acceptedRequests_of_sent {m : Manager} {call : Call ω} {request : ShellRequest}
    (hoffered : request.Offered (m.result call) (m.offers call)) (hsent : m.Sent call) :
    Offer.acceptedRequests (m.offers call) = [request] := by
  rcases hsent with hok | ⟨id, hrefused⟩
  · rw [hok] at hoffered
    exact hoffered.acceptedRequests_of_ok
  · rw [hrefused] at hoffered
    cases hoffered

theorem filter_acceptedRequests_eq_nil {offers : List Offer}
    (hnone : ∀ request ∈ Offer.requests offers, request.isApplicationId = false) :
    (Offer.acceptedRequests offers).filter (·.isApplicationId) = [] := by
  refine List.filter_eq_nil_iff.2 fun request hrequest => ?_
  rw [hnone request (Offer.mem_requests_of_accepted hrequest)]
  nofun

/-- The aura surface of a window was given to it by a call of the run, and the last
application id that was sent for the window since then is this one, to this aura surface. -/
def ToldId (setting : Setting) (calls : List (Call ω)) (id : WindowId) (auraSurface : UInt32)
    (appId : String) : Prop :=
  ∃ before assignment after,
    Attached setting .auraSurface auraSurface id calls before assignment after ∧
    (applicationIds id ((new setting).run before) (assignment :: after)).getLast? =
      some (.setApplicationId auraSurface appId)

/-- A call that sends the id of the record it leaves tells it to the aura surface. -/
theorem ToldId.sent {setting : Setting} {calls : List (Call ω)} {call : Call ω} {w : Window}
    {auraSurface : UInt32} {appId : String}
    (hw : ((new setting).run (calls ++ [call])).windows[call.id]? = some w)
    (haura : w.auraSurface = some auraSurface)
    (haccepted : Offer.acceptedRequests (((new setting).run calls).offers call) =
      [.setApplicationId auraSurface appId]) :
    ToldId setting (calls ++ [call]) call.id auraSurface appId := by
  obtain ⟨before, assignment, after, hattached⟩ :=
    attached_of_run setting .auraSurface (calls ++ [call]) hw haura
  refine ⟨before, assignment, after, hattached, ?_⟩
  -- the call is the last one since the assignment, if not the assignment itself
  obtain ⟨since, last, hsince⟩ : ∃ since last, assignment :: after = since ++ [last] :=
    ⟨_, _, (List.dropLast_append_getLast (List.cons_ne_nil assignment after)).symm⟩
  have hsplit := hattached.split
  rw [hsince, ← List.append_assoc] at hsplit
  obtain ⟨hcalls, hlast⟩ := List.append_inj' hsplit rfl
  cases hlast
  rw [hsince, applicationIds_concat, if_pos rfl, ← run_append, ← hcalls, haccepted]
  exact List.getLast?_concat

/-- A call that leaves the aura surface of a window and sends no id. -/
theorem ToldId.concat {setting : Setting} {calls : List (Call ω)} {id : WindowId}
    {auraSurface : UInt32} {appId : String} (h : ToldId setting calls id auraSurface appId)
    {call : Call ω}
    (htracked : ((new setting).run (calls ++ [call])).windows[id]?.isSome = true)
    (hkeeps : call.id = id → call.operation ≠ .guest .unmapped ∧
      ∀ other, call.operation ≠ .assignAuraSurface other)
    (hnone : call.id = id →
      ∀ request ∈ Offer.requests (((new setting).run calls).offers call),
        request.isApplicationId = false) :
    ToldId setting (calls ++ [call]) id auraSurface appId := by
  obtain ⟨before, assignment, after, hattached, hlast⟩ := h
  refine ⟨before, assignment, after ++ [call], hattached.concat htracked hkeeps, ?_⟩
  have hsplit := hattached.split
  rw [← List.cons_append, applicationIds_concat, ← run_append, ← hsplit]
  split
  next hid => rwa [filter_acceptedRequests_eq_nil (hnone hid), List.append_nil]
  next => rwa [List.append_nil]

/-- The aura surfaces of managed windows whose id is settled were told it. -/
theorem toldId_of_settles (setting : Setting) (calls : List (Call ω))
    (hsent : (new setting).AllSent calls) {id : WindowId} {w : Window} {auraSurface : UInt32}
    (hw : ((new setting).run calls).windows[id]? = some w) (hmanaged : w.managed = true)
    (haura : w.auraSurface = some auraSurface) (hsettles : setting.identity.Settles w) :
    ToldId setting calls id auraSurface (setting.identity.resolve w) := by
  induction calls using List.reverseRecOn generalizing w with
  | nil =>
      rw [run_nil, getElem?_new] at hw
      cases hw
  | append_singleton calls call ih =>
      obtain ⟨hearlier, hlast⟩ := (allSent_concat (new setting) calls call).1 hsent
      have htracked : ((new setting).run (calls ++ [call])).windows[id]?.isSome = true := by
        rw [hw]
        rfl
      by_cases hid : call.id = id
      · subst hid
        have hw' := hw
        rw [run_concat] at hw'
        cases hbefore : ((new setting).run calls).windows[call.id]? with
        | none =>
            -- a fresh record has no aura surface
            have hvalue := (after_eq_recorded _ call hbefore).1
            rw [hw'] at hvalue
            have hfresh := (step_fresh hvalue.symm).of?_eq_none .auraSurface
            exact absurd (haura.symm.trans hfresh) nofun
        | some w₀ =>
            by_cases hidentifies :
                call.operation.Identifies ((new setting).run calls).setting w₀
            · obtain ⟨w₁, hw₁, hoffered⟩ := after_identifying _ call hbefore hidentifies
              obtain rfl : w = w₁ := Option.some.inj (hw'.symm.trans hw₁)
              have hoffered := hoffered auraSurface haura
              rw [run_setting] at hoffered
              exact .sent hw haura (acceptedRequests_of_sent hoffered hlast)
            · obtain ⟨hmanaged₀, hclass, happId, hsurface⟩ :=
                after_not_identifying _ call hbefore hw' hidentifies hmanaged
              obtain ⟨haura₀, hunmap, hother⟩ := hsurface auraSurface haura
              have hsettles₀ : setting.identity.Settles w₀ :=
                hsettles.of_eq hclass.symm happId.symm
              have hnone := offers_of_not_identifies ((new setting).run calls) call
                fun other hsame => Option.some.inj (hbefore.symm.trans hsame) ▸ hidentifies
              rw [hsettles₀.resolve_eq hclass happId]
              exact (ih hearlier hbefore hmanaged₀ haura₀ hsettles₀).concat htracked
                (fun _ => ⟨hunmap, hother⟩) fun _ => hnone
      · have hw' := hw
        rw [run_concat, after_getElem?_of_ne _ hid] at hw'
        exact (ih hearlier hw' hmanaged haura hsettles).concat htracked
          (fun hsame => absurd hsame hid) fun hsame => absurd hsame hid

/-- The host is told application ids.  In a run in which no send failed, the aura surface of a
managed window whose id is settled was last told the id that the record has now.  A further
call sends one request for its aura surface, and nothing else, if it identifies the window;
if it does not, it sends no application id, not even one that fails. -/
theorem applicationId_mirrored (setting : Setting) (calls : List (Call ω))
    (hsent : (new setting).AllSent calls) :
    let m := (new setting).run calls
    (∀ (id : WindowId) (w : Window) (auraSurface : UInt32), m.windows[id]? = some w →
      w.managed = true → w.auraSurface = some auraSurface → setting.identity.Settles w →
      ToldId setting calls id auraSurface (setting.identity.resolve w)) ∧
    ∀ call : Call ω,
      (∀ w, m.windows[call.id]? = some w → call.operation.Identifies setting w →
        ∃ w', (m.after call).windows[call.id]? = some w' ∧
          ∀ auraSurface, w'.auraSurface = some auraSurface → m.Sent call →
            Offer.acceptedRequests (m.offers call) =
              [.setApplicationId auraSurface (setting.identity.resolve w')]) ∧
      ((∀ w, m.windows[call.id]? = some w → ¬ call.operation.Identifies setting w) →
        ∀ request ∈ Offer.requests (m.offers call), request.isApplicationId = false) := by
  intro m
  have hsetting : m.setting = setting := run_setting (new setting) calls
  refine ⟨fun id w auraSurface hw hmanaged haura hsettles =>
    toldId_of_settles setting calls hsent hw hmanaged haura hsettles, fun call => ⟨?_, ?_⟩⟩
  · intro w hw hidentifies
    obtain ⟨w', hw', hoffered⟩ := m.after_identifying call hw (hsetting.symm ▸ hidentifies)
    rw [hsetting] at hoffered
    exact ⟨w', hw', fun auraSurface haura hcall =>
      acceptedRequests_of_sent (hoffered auraSurface haura) hcall⟩
  · intro hsilent
    exact m.offers_of_not_identifies call (hsetting.symm ▸ hsilent)

/-- What is reported of window 7 while its class is `name`. -/
def classed (change : GuestChange) (name : String) : Call (Surroundings Queue PropertyTable) :=
  ⟨7, .guest change, ⟨.empty, PropertyTable.empty.setClassName 7 (some name)⟩⟩

/-- A window gets its aura surface before it is mapped, and then another class. -/
def reclassedRun : List (Call (Surroundings Queue PropertyTable)) :=
  [.queued 7 (.guest (.created false .empty)),
   .queued 7 (.assignAuraSurface 40),
   classed .mapRequested "Editor",
   classed (.propertyChanged Atoms.numbered.wmClass) "Viewer"]

/-- The aura surface was told the second class, and is told the third one. -/
theorem applicationId_mirrored_reclassedRun :
    let fresh := new (.plain true)
    let next := classed (.propertyChanged Atoms.numbered.wmClass) "Reader"
    fresh.AllSent reclassedRun ∧
    ToldId (.plain true) reclassedRun 7 40 "org.chromium.guest.wmclass.Viewer" ∧
    Offer.acceptedRequests ((fresh.run reclassedRun).offers next) =
      [.setApplicationId 40 "org.chromium.guest.wmclass.Reader"] := by
  intro fresh next
  have hsent : fresh.AllSent reclassedRun := by
    refine ⟨Or.inl ?_, Or.inl ?_, Or.inl ?_, Or.inl ?_, trivial⟩
    · exact (run_result (.plain true) [] _).trans (by decide +kernel)
    · exact (run_result (.plain true) (reclassedRun.take 1) _).trans (by decide +kernel)
    · exact (run_result (.plain true) (reclassedRun.take 2) _).trans (by decide +kernel)
    · exact (run_result (.plain true) (reclassedRun.take 3) _).trans (by decide +kernel)
  have hnext : (fresh.run reclassedRun).Sent next :=
    Or.inl ((run_result (.plain true) reclassedRun next).trans (by decide +kernel))
  have hw : (fresh.run reclassedRun).windows[(7 : WindowId)]? =
      some { Window.new 7 with
        managed := true, className := some "Viewer", auraSurface := some 40 } := by
    rw [run_getElem?, getElem?_new]
    decide +kernel
  obtain ⟨htold, hcall⟩ := applicationId_mirrored (.plain true) reclassedRun hsent
  refine ⟨hsent, htold 7 _ 40 hw rfl rfl (Or.inr (Or.inr rfl)), ?_⟩
  obtain ⟨w', hw', hone⟩ := (hcall next).1 _ hw (.className rfl rfl)
  have hafter : (fresh.run (reclassedRun ++ [next])).windows[(7 : WindowId)]? =
      some { Window.new 7 with
        managed := true, className := some "Reader", auraSurface := some 40 } := by
    rw [run_getElem?, getElem?_new]
    decide +kernel
  rw [run_concat] at hafter
  obtain rfl := Option.some.inj (hafter.symm.trans hw')
  exact hone 40 rfl hnext

end Manager

end GuestShell

import GuestShell.Display.Scripted
import GuestShell.Proofs.Display.Takeover

/-!
# Who may have the root window's events

What a window manager asks of the root window decides what all clients can do, so it is asked
for last: after the selection was taken and verified and the former owner has gone.  This is
read off the transcript of an attempt, for every display (`acquire_cautious`).

The one exception is a display that names the root window as the owner of the selection.  The
subscription to the former owner then goes to the root window
(`rootEvents_before_selection`).

Nothing is claimed of the time that an attempt takes.
-/

namespace GuestShell

namespace Ownership

/-- The mask has all of the bits. -/
def Covers (mask bits : UInt32) : Prop := mask &&& bits = bits

theorem covers_or_left (x y : UInt32) : Covers (x ||| y) x := by
  apply UInt32.toBitVec_inj.1
  ext i hi
  simp only [UInt32.toBitVec_and, UInt32.toBitVec_or, BitVec.getElem_and, BitVec.getElem_or]
  cases x.toBitVec[i] <;> simp

theorem covers_or_right (x y : UInt32) : Covers (x ||| y) y := by
  rw [UInt32.or_comm]
  exact covers_or_left y x

theorem Covers.trans {x y z : UInt32} (h : Covers x y) (h' : Covers y z) : Covers x z := by
  unfold Covers at *
  rw [← h', ← UInt32.and_assoc, h]

/-- The mask 0x780000 has the four bits that are needed. -/
theorem covers_required {bit : UInt32}
    (hbit : bit ∈ [0x80000, 0x100000, 0x200000, 0x400000]) : Covers 0x780000 bit := by
  simp only [List.mem_cons, List.not_mem_nil, or_false] at hbit
  rcases hbit with rfl | rfl | rfl | rfl <;> (unfold Covers; decide)

/-- The owner that the display named when it was asked first, zero if there was none. -/
def formerOwner : List Exchange → WindowId
  | _ :: ⟨.getSelectionOwner _, .ok owner⟩ :: _ => owner
  | _ => 0

/-- Looks at a window that were all answered. -/
def Answered (window : WindowId) (looks : List Exchange) : Prop :=
  ∀ look ∈ looks, ∃ attributes : WindowAttributes,
    look = ⟨.getWindowAttributes window, .ok attributes⟩

/-- The looks at a former owner that was waited for: it was found gone, or was looked at often
enough. -/
inductive Waits (former : WindowId) : List Exchange → Prop
  | exit {looks : List Exchange} (hanswered : Answered former looks)
      (hpatience : looks.length < patience) :
      Waits former (looks ++ [⟨.getWindowAttributes former, .error .refused⟩])
  | patience {looks : List Exchange} (hanswered : Answered former looks)
      (hpatience : looks.length = patience) : Waits former looks

/-- The selection was taken, and the display was asked and named another window. -/
def Overtaken (log : List Exchange) : Prop :=
  ∃ earlier owner selection actual, actual ≠ owner ∧
    log = earlier ++ [⟨.setSelectionOwner owner selection, .ok ()⟩,
      ⟨.getSelectionOwner selection, .ok actual⟩]

namespace Attempt

variable (a : Attempt)

/-- The display was asked for the selection of the screen and for its owner. -/
def Begins (selection : Atom) (former : WindowId) (log : List Exchange) : Prop :=
  ∃ later, log = ⟨.internAtom (selectionName a.number), .ok selection⟩ ::
    ⟨.getSelectionOwner selection, .ok former⟩ :: later

/-- The selection was taken with a new window, and the display was asked and named it. -/
def Claims (selection : Atom) (owner : WindowId) (log : List Exchange) : Prop :=
  ∃ opening creation,
    log = opening ++ [⟨.createWindow (selectionWindow a.screen owner), creation⟩,
      ⟨.setSelectionOwner owner selection, .ok ()⟩, ⟨.getSelectionOwner selection, .ok owner⟩]

/-- The former owner was to be replaced and was waited for, or there was none. -/
inductive GivesWay : WindowId → List Exchange → Prop
  | unowned : GivesWay 0 []
  | replaced {former : WindowId} {looks : List Exchange} (howned : former ≠ 0)
      (hreplace : a.replace = true) (hwaits : Waits former looks) : GivesWay former looks

/-- Everything is done that comes before the root window is asked to redirect, and the
attributes of the root window are known. -/
def Prepares (former owner : WindowId) (reported : WindowAttributes) (log : List Exchange) :
    Prop :=
  ∃ selection claimed looks, a.Begins selection former claimed ∧
    a.Claims selection owner claimed ∧ a.GivesWay former looks ∧
    log = claimed ++ looks ++ [⟨.getWindowAttributes a.screen.root, .ok reported⟩]

/-- Failures that need not be heeded, by what came before.  The creation of a window and the
subscription to the former owner have no answers, and a former owner that cannot be looked at
has gone. -/
inductive Excused (former : WindowId) (earlier : List Exchange) : Exchange → Prop
  | creation (owner : WindowId) :
      Excused former earlier ⟨.createWindow (selectionWindow a.screen owner), .error .refused⟩
  | subscription (howned : former ≠ 0) (fault : Fault) :
      Excused former earlier ⟨subscription former, .error fault⟩
  | exit (howned : former ≠ 0) {selection : Atom} {owner : WindowId}
      {claimed looks : List Exchange} (hclaims : a.Claims selection owner claimed)
      (hanswered : Answered former looks) (hpatience : looks.length < patience)
      (hearlier : earlier = claimed ++ looks) :
      Excused former earlier ⟨.getWindowAttributes former, .error .refused⟩

/-- An attempt that takes care of the root window and of what it is answered. -/
structure Cautious (result : Except OwnershipError Ownership) (log : List Exchange) : Prop where
  /-- A change of the root window's events is the subscription to the former owner, or it comes
  last, when everything else is done, keeps the events that were asked for already, and asks for
  word of its children, for their redirection, for the focus and for properties. -/
  ordered : ∀ earlier e later attributes, log = earlier ++ e :: later →
    e.request = .changeWindowAttributes a.screen.root attributes →
      (formerOwner log ≠ 0 ∧ a.replace = true ∧ e.request = subscription (formerOwner log)) ∨
      (later = [] ∧ ∃ owner reported mask, a.Prepares (formerOwner log) owner reported earlier ∧
        attributes = [(0x800, mask)] ∧ Covers mask reported.eventMask ∧
        ∀ bit ∈ [0x80000, 0x100000, 0x200000, 0x400000], Covers mask bit)
  /-- It succeeds only if that change did. -/
  succeeds : ∀ ownership, result = .ok ownership →
    ownership.root = a.screen.root ∧
    ∃ earlier reported, a.Prepares (formerOwner log) ownership.ownerWindow reported earlier ∧
      log = earlier ++ [⟨redirection a.screen.root reported, .ok ()⟩]
  /-- Nothing is done on a screen that has a window manager which is to be kept. -/
  keeps : formerOwner log ≠ 0 → a.replace = false →
    (∃ selection, log.map Exchange.request =
      [.internAtom (selectionName a.number), .getSelectionOwner selection]) ∧
    ∃ e, result = .error e
  /-- A failure that counts is the last exchange, and the attempt fails. -/
  heeds : ∀ earlier e later, log = earlier ++ e :: later → e.Failed →
    a.Excused (formerOwner log) earlier e ∨ later = [] ∧ ∃ error, result = .error error
  /-- It does not fail without a reason. -/
  fails : ∀ error, result = .error error → error = .connectionLost ∨
    (∃ fault, error = .ofIdFault fault) ∨ (formerOwner log ≠ 0 ∧ a.replace = false) ∨
      Overtaken log ∨ ∃ earlier e, log = earlier ++ [e] ∧ e.Failed

variable {a}

/-! ### What is known in a phase -/

theorem Begins.append {selection : Atom} {former : WindowId} {log : List Exchange}
    (h : a.Begins selection former log) (later : List Exchange) :
    a.Begins selection former (log ++ later) := by
  obtain ⟨rest, rfl⟩ := h
  exact ⟨rest ++ later, rfl⟩

/-- The first two exchanges tell the former owner. -/
theorem Begins.formerOwner_eq {selection : Atom} {former : WindowId} {log : List Exchange}
    (h : a.Begins selection former log) : formerOwner log = former := by
  obtain ⟨rest, rfl⟩ := h
  rfl

/-- The owner of the selection is known, and it may be replaced if there is one. -/
structure Permits (a : Attempt) (selection : Atom) (former : WindowId) (log : List Exchange) :
    Prop where
  begins : a.Begins selection former log
  replaces : former ≠ 0 → a.replace = true

theorem Permits.append {selection : Atom} {former : WindowId} {log : List Exchange}
    (h : a.Permits selection former log) (later : List Exchange) :
    a.Permits selection former (log ++ later) :=
  ⟨h.begins.append later, h.replaces⟩

/-- The selection was taken with leave, and some looks came after that. -/
def Holds (a : Attempt) (former owner : WindowId) (looks log : List Exchange) : Prop :=
  ∃ selection claimed, a.Permits selection former claimed ∧ a.Claims selection owner claimed ∧
    log = claimed ++ looks

theorem Holds.concat {former owner : WindowId} {looks log : List Exchange}
    (h : a.Holds former owner looks log) (e : Exchange) :
    a.Holds former owner (looks ++ [e]) (log ++ [e]) := by
  obtain ⟨selection, claimed, hpermits, hclaims, rfl⟩ := h
  exact ⟨selection, claimed, hpermits, hclaims, List.append_assoc ..⟩

theorem Holds.replaces {former owner : WindowId} {looks log : List Exchange}
    (h : a.Holds former owner looks log) (howned : former ≠ 0) : a.replace = true := by
  obtain ⟨selection, claimed, hpermits, -⟩ := h
  exact hpermits.replaces howned

theorem Prepares.formerOwner_append {former owner : WindowId} {reported : WindowAttributes}
    {log : List Exchange} (h : a.Prepares former owner reported log) (later : List Exchange) :
    formerOwner (log ++ later) = former := by
  obtain ⟨selection, claimed, looks, hbegins, -, -, rfl⟩ := h
  exact (((hbegins.append looks).append _).append later).formerOwner_eq

/-- What the exchanges that lead to a phase have in common. -/
def Known (a : Attempt) : Phase → List Exchange → Prop
  | .opening, log => log = []
  | .interned selection, log => log = [⟨.internAtom (selectionName a.number), .ok selection⟩]
  | .asked selection former, log => a.Begins selection former log
  | .challenged selection former, log => a.Permits selection former log
  | .created selection former owner, log => a.Permits selection former log ∧ ∃ opening creation,
      log = opening ++ [⟨.createWindow (selectionWindow a.screen owner), creation⟩]
  | .taken selection former owner, log => a.Permits selection former log ∧ ∃ opening creation,
      log = opening ++ [⟨.createWindow (selectionWindow a.screen owner), creation⟩,
        ⟨.setSelectionOwner owner selection, .ok ()⟩]
  | .waiting former owner count, log => ∃ looks, a.Holds former owner looks log ∧
      Answered former looks ∧ looks.length = count
  | .gone former owner, log => ∃ looks, a.Holds former owner looks log ∧ a.GivesWay former looks
  | .prepared former owner reported, log => a.Prepares former owner reported log
  | .redirected _, _ => True
  | .stopped, _ => True

theorem Known.permits_of_free {p : Phase} {selection : Atom} {former : WindowId}
    {log : List Exchange} (h : a.Known p log) (hfree : p.Free selection former) :
    a.Permits selection former log := by
  cases hfree with
  | unowned => exact ⟨h, fun howned => absurd rfl howned⟩
  | challenged => exact h

theorem Known.givesWay_of_waited {p : Phase} {former owner : WindowId} {log : List Exchange}
    (h : a.Known p log) (hwaited : p.Waited former owner) :
    ∃ looks, a.Holds former owner looks log ∧ a.GivesWay former looks := by
  cases hwaited with
  | unowned =>
      obtain ⟨looks, hholds, -, hcount⟩ := h
      obtain rfl := List.eq_nil_of_length_eq_zero hcount
      exact ⟨[], hholds, .unowned⟩
  | gone => exact h
  | patience howned =>
      obtain ⟨looks, hholds, hanswered, hcount⟩ := h
      exact ⟨looks, hholds,
        .replaced howned (hholds.replaces howned) (.patience hanswered hcount)⟩

/-- A step keeps what is known and adds what was answered. -/
theorem Known.step {p q : Phase} {log : List Exchange} {e : Exchange} (h : a.Known p log)
    (hstep : a.Step p e q) : a.Known q (log ++ [e]) := by
  cases hstep with
  | intern selection =>
      obtain rfl : log = [] := h
      rfl
  | ask selection former =>
      obtain rfl : log = [_] := h
      exact ⟨[], rfl⟩
  | challenge selection howned hreplace answer =>
      have hpermits : a.Permits selection _ log := ⟨h, fun _ => hreplace⟩
      exact hpermits.append _
  | create hfree owner hsent => exact ⟨(h.permits_of_free hfree).append _, log, _, rfl⟩
  | take selection former owner =>
      obtain ⟨hpermits, opening, creation, rfl⟩ := h
      exact ⟨hpermits.append _, opening, creation, by simp⟩
  | verify selection former owner =>
      -- the waiting begins without a look
      obtain ⟨hpermits, opening, creation, rfl⟩ := h
      refine ⟨[], ⟨selection, _, hpermits.append _, ⟨opening, creation, ?_⟩,
        (List.append_nil _).symm⟩, ?_, rfl⟩
      · simp only [List.append_assoc, List.cons_append, List.nil_append]
      · exact fun look hlook => absurd hlook List.not_mem_nil
  | overtaken => trivial
  | look howned owner hpatience attributes =>
      obtain ⟨looks, hholds, hanswered, hcount⟩ := h
      refine ⟨_, hholds.concat _, ?_, ?_⟩
      · intro look hlook
        rcases List.mem_append.1 hlook with hearlier | hlast
        · exact hanswered look hearlier
        · exact ⟨attributes, List.mem_singleton.1 hlast⟩
      · rw [List.length_append, hcount, List.length_singleton]
  | exit howned owner hpatience =>
      obtain ⟨looks, hholds, hanswered, rfl⟩ := h
      exact ⟨_, hholds.concat _,
        .replaced howned (hholds.replaces howned) (.exit hanswered hpatience)⟩
  | prepare hwaited reported =>
      obtain ⟨looks, ⟨selection, claimed, hpermits, hclaims, rfl⟩, hgives⟩ :=
        h.givesWay_of_waited hwaited
      exact ⟨selection, claimed, looks, hpermits.begins, hclaims, hgives, rfl⟩
  | redirect => trivial
  | fail => trivial

theorem At.known {p : Phase} {log : List Exchange} (h : a.At p log) : a.Known p log :=
  h.induction rfl fun _ _ _ _ hknown hstep => hknown.step hstep

/-! ### What transcripts show -/

/-- Only two steps change the events of the root window, and one of them only if the display
named it as the former owner. -/
theorem At.ordered {p : Phase} {earlier later : List Exchange} {e : Exchange}
    (h : a.At p (earlier ++ e :: later)) {attributes : ValueList}
    (hroot : e.request = .changeWindowAttributes a.screen.root attributes) :
    let former := formerOwner (earlier ++ e :: later)
    (former ≠ 0 ∧ a.replace = true ∧ e.request = subscription former) ∨
      (later = [] ∧ ∃ owner reported, a.Prepares former owner reported earlier ∧
        e.request = redirection a.screen.root reported) := by
  obtain ⟨p₁, p₂, hearlier, hstep, hlater⟩ := h.split
  have hknown := hearlier.known
  cases hstep with
  | challenge selection howned hreplace answer =>
      rw [(hknown.append _).formerOwner_eq]
      exact Or.inl ⟨howned, hreplace, rfl⟩
  | redirect former owner reported =>
      rw [hknown.formerOwner_append]
      exact Or.inr ⟨(path_of_final hlater trivial).1, owner, reported, hknown, rfl⟩
  | fail hfatal =>
      cases hfatal with
      | redirect former owner reported fault =>
          rw [hknown.formerOwner_append]
          exact Or.inr ⟨(path_of_final hlater trivial).1, owner, reported, hknown, rfl⟩
      | _ => cases hroot
  | _ => cases hroot

/-- A step after a fault is one of the three that are excused, or there is none. -/
theorem At.heeds {p : Phase} {earlier later : List Exchange} {e : Exchange}
    (h : a.At p (earlier ++ e :: later)) (hfailed : e.Failed) :
    a.Excused (formerOwner (earlier ++ e :: later)) earlier e ∨ later = [] ∧ p = .stopped := by
  obtain ⟨p₁, p₂, hearlier, hstep, hlater⟩ := h.split
  have hknown := hearlier.known
  obtain ⟨fault, hfault⟩ := hfailed
  cases hstep with
  | challenge selection howned hreplace answer =>
      obtain rfl : answer = .error fault := hfault
      rw [(hknown.append _).formerOwner_eq]
      exact Or.inl (.subscription howned fault)
  | @create _ _ _ hfree owner answer hsent =>
      obtain rfl : answer = .error fault := hfault
      -- a creation that could not be sent is fatal, so this one was refused
      cases fault with
      | lost => exact absurd rfl hsent
      | refused => exact Or.inl (.creation owner)
  | exit howned owner hpatience =>
      obtain ⟨looks, ⟨selection, claimed, hpermits, hclaims, rfl⟩, hanswered, rfl⟩ := hknown
      rw [((hpermits.begins.append looks).append _).formerOwner_eq]
      exact Or.inl (.exit howned hclaims hanswered hpatience rfl)
  | fail hfatal =>
      obtain ⟨hlast, hstopped⟩ := path_of_final hlater trivial
      exact Or.inr ⟨hlast, hstopped.symm⟩
  | _ => cases hfault

/-- Nothing follows the answer that names an owner which is to be kept. -/
theorem path_of_kept {p : Phase} {selection : Atom} {former : WindowId} {log : List Exchange}
    (h : a.Path (.asked selection former) log p) (howned : former ≠ 0)
    (hkeep : a.replace = false) : log = [] ∧ p = .asked selection former := by
  cases log with
  | nil => exact ⟨rfl, h.symm⟩
  | cons e log =>
      obtain ⟨p', hstep, -⟩ := h
      cases hstep with
      | challenge selection howned hreplace answer =>
          rw [hkeep] at hreplace
          cases hreplace
      | create hfree =>
          cases hfree
          exact absurd rfl howned
      | prepare hwaited => cases hwaited
      | fail hfatal =>
          cases hfatal with
          | create hfree =>
              cases hfree
              exact absurd rfl howned
          | prepare hwaited => cases hwaited

/-- The first two answers of an attempt that names a former owner are known, and without leave to
replace it there is no third step. -/
theorem At.keeps {p : Phase} {log : List Exchange} (h : a.At p log)
    (howned : formerOwner log ≠ 0) (hkeep : a.replace = false) :
    (∃ selection, log.map Exchange.request =
      [.internAtom (selectionName a.number), .getSelectionOwner selection]) ∧
    ∃ selection, p = .asked selection (formerOwner log) := by
  match log, h with
  | [], _ => exact absurd rfl howned
  | [_], _ => exact absurd rfl howned
  | _ :: _ :: later, ⟨p₁, hfirst, p₂, hsecond, hlater⟩ =>
      cases hfirst with
      | create hfree => cases hfree
      | prepare hwaited => cases hwaited
      | fail hfatal => exact absurd trivial hsecond.not_final
      | intern selection =>
          cases hsecond with
          | create hfree => cases hfree
          | prepare hwaited => cases hwaited
          | fail hfatal =>
              -- then no owner was named
              cases hfatal with
              | ask => exact absurd rfl howned
              | create hfree => cases hfree
              | prepare hwaited => cases hwaited
          | ask selection former =>
              obtain ⟨rfl, rfl⟩ := path_of_kept hlater howned hkeep
              exact ⟨⟨selection, rfl⟩, selection, rfl⟩

theorem At.succeeds {owner : WindowId} {log : List Exchange} (h : a.At (.redirected owner) log) :
    ∃ earlier reported, a.Prepares (formerOwner log) owner reported earlier ∧
      log = earlier ++ [⟨redirection a.screen.root reported, .ok ()⟩] := by
  cases log using List.reverseRecOn with
  | nil => cases h
  | append_singleton earlier e =>
      obtain ⟨p₁, p₂, hearlier, hstep, hlast⟩ := h.split
      cases hlast
      cases hstep with
      | redirect former owner reported =>
          have hprepares : a.Prepares former owner reported earlier := hearlier.known
          rw [hprepares.formerOwner_append]
          exact ⟨earlier, reported, hprepares, rfl⟩

theorem At.stops {log : List Exchange} (h : a.At .stopped log) :
    Overtaken log ∨ ∃ earlier e, log = earlier ++ [e] ∧ e.Failed := by
  cases log using List.reverseRecOn with
  | nil => cases h
  | append_singleton earlier e =>
      obtain ⟨p₁, p₂, hearlier, hstep, hlast⟩ := h.split
      cases hlast
      cases hstep with
      | @overtaken selection former owner actual hother =>
          obtain ⟨-, opening, creation, rfl⟩ := hearlier.known
          refine Or.inl ⟨opening ++ [⟨.createWindow (selectionWindow a.screen owner), creation⟩],
            owner, selection, actual, hother, ?_⟩
          simp only [List.append_assoc, List.cons_append, List.nil_append]
      | fail hfatal => exact Or.inr ⟨earlier, _, rfl, _, rfl⟩

variable {ω : Type} [Connection ω]

/-- How an attempt ends, and the phase that it has come to. -/
theorem acquireOn_at (a : Attempt) (world : ω) :
    let o := (a.acquireOn : Action (Transcribed ω) OwnershipError Ownership) (.start world)
    ∃ p, a.At p o.2.exchanges ∧
      ((∃ ownership, o.1 = .ok ownership ∧ ownership.root = a.screen.root ∧
          p = .redirected ownership.ownerWindow) ∨
        ∃ e, o.1 = .error e ∧ a.Ending p e) := by
  intro o
  have hfollows := a.acquireOn_follows (.start world) rfl
  cases ho : a.acquireOn (Transcribed.start world) with
  | mk result t =>
      simp only [o, ho]
      rw [ho] at hfollows
      cases result with
      | ok ownership =>
          obtain ⟨hroot, hat⟩ := hfollows
          exact ⟨_, hat, Or.inl ⟨ownership, rfl, hroot, rfl⟩⟩
      | error e =>
          obtain ⟨p, hat, hending⟩ := hfollows
          exact ⟨p, hat, Or.inr ⟨e, rfl, hending⟩⟩

theorem acquireOn_cautious (a : Attempt) (world : ω) :
    let o := (a.acquireOn : Action (Transcribed ω) OwnershipError Ownership) (.start world)
    a.Cautious o.1 o.2.exchanges := by
  intro o
  obtain ⟨p, hat, hend⟩ := a.acquireOn_at world
  constructor
  case ordered =>
    intro earlier e later attributes hlog hrequest
    rw [hlog] at hat ⊢
    rcases hat.ordered hrequest with
      hsubscribes | ⟨hlast, owner, reported, hprepares, hredirects⟩
    · exact Or.inl hsubscribes
    · rw [hrequest] at hredirects
      cases hredirects
      refine Or.inr ⟨hlast, owner, reported, _, hprepares, rfl, covers_or_left _ _, ?_⟩
      exact fun bit hbit => (covers_or_right _ _).trans (covers_required hbit)
  case succeeds =>
    intro ownership hok
    rcases hend with ⟨ownership', hok', hroot, rfl⟩ | ⟨e, herror, -⟩
    · obtain rfl : ownership' = ownership := Except.ok.inj (hok'.symm.trans hok)
      exact ⟨hroot, hat.succeeds⟩
    · exact nomatch herror.symm.trans hok
  case keeps =>
    intro howned hkeep
    obtain ⟨hrequests, selection, rfl⟩ := hat.keeps howned hkeep
    rcases hend with ⟨ownership, -, -, hphase⟩ | ⟨e, herror, -⟩
    · cases hphase
    · exact ⟨hrequests, e, herror⟩
  case heeds =>
    intro earlier e later hlog hfailed
    rw [hlog] at hat ⊢
    rcases hat.heeds hfailed with hexcused | ⟨hlast, rfl⟩
    · exact Or.inl hexcused
    · -- an attempt that was stopped has not succeeded
      rcases hend with ⟨ownership, -, -, hphase⟩ | ⟨error, herror, -⟩
      · cases hphase
      · exact Or.inr ⟨hlast, error, herror⟩
  case fails =>
    intro error hresult
    rcases hend with ⟨ownership, hok, -, -⟩ | ⟨error', herror, hending⟩
    · exact nomatch hok.symm.trans hresult
    · obtain rfl : error' = error := Except.error.inj (herror.symm.trans hresult)
      cases hending with
      | stopped => exact Or.inr (Or.inr (Or.inr hat.stops))
      | occupied selection howned hkeep =>
          have hbegins : a.Begins selection _ _ := hat.known
          rw [hbegins.formerOwner_eq]
          exact Or.inr (Or.inr (Or.inl ⟨howned, hkeep⟩))
      | unnumbered hfree fault => exact Or.inr (Or.inl ⟨fault, rfl⟩)
      | unflushed => exact Or.inl rfl

end Attempt

variable {ω : Type} [Connection ω]

/-- Taking over a screen is safe for every display, whatever it answers and however its answers
contradict each other.  Transcribing an attempt changes nothing about it; on a screen that does
not exist nothing is asked; and on any other the attempt is cautious. -/
theorem acquire_cautious (number : Nat) (replace : Bool) (world : ω) :
    let o := (acquire number replace : Action (Transcribed ω) OwnershipError Ownership)
      (.start world)
    acquire number replace world = (o.1, o.2.world) ∧
      match (Connection.screens world)[number]? with
      | none => o.1 = .error (.noScreen number) ∧ o.2.exchanges = []
      | some screen => (Attempt.mk number screen replace).Cautious o.1 o.2.exchanges := by
  intro o
  refine ⟨acquire_map Transcribed.connectionMap number replace (.start world), ?_⟩
  have heq : o = _ := acquire_eq number replace (Transcribed.start world)
  have hscreens : Connection.screens (Transcribed.start world) = Connection.screens world := rfl
  rw [hscreens] at heq
  rw [heq]
  cases (Connection.screens world)[number]? with
  | none => exact ⟨rfl, rfl⟩
  | some screen => exact (Attempt.mk number screen replace).acquireOn_cautious world

/-- Window 77 owns the selection and vanishes at the second look. -/
def replacedDisplay : ScriptedDisplay :=
  { ScriptedDisplay.new [⟨256, 24⟩] (.new []) with
    owner := 77, goneAfter := [(77, 1)], eventMask := 0x8000 }

/-- With leave to replace it the root window is redirected in the end, and without it nothing
is done. -/
theorem acquire_cautious_replaced :
    let log := fun replace =>
      ((acquire 0 replace : Action (Transcribed ScriptedDisplay) OwnershipError Ownership)
        (.start replacedDisplay)).2.exchanges
    (acquire 0 true replacedDisplay).1 = .ok ⟨256, 0xa00001⟩ ∧
      formerOwner (log true) = 77 ∧ (log true).length = 10 ∧
      (∃ earlier reported, (Attempt.mk 0 ⟨256, 24⟩ true).Prepares 77 0xa00001 reported earlier ∧
        log true = earlier ++ [⟨redirection 256 reported, .ok ()⟩]) ∧
      formerOwner (log false) = 77 ∧
      ∃ selection, (log false).map Exchange.request =
        [.internAtom (selectionName 0), .getSelectionOwner selection] := by
  intro log
  have hreplaced : (Attempt.mk 0 ⟨256, 24⟩ true).Cautious _ (log true) :=
    (acquire_cautious 0 true replacedDisplay).2
  have hkept : (Attempt.mk 0 ⟨256, 24⟩ false).Cautious _ (log false) :=
    (acquire_cautious 0 false replacedDisplay).2
  have hformer : formerOwner (log true) = 77 := rfl
  have hformer' : formerOwner (log false) = 77 := rfl
  obtain ⟨-, hredirected⟩ := hreplaced.succeeds ⟨256, 0xa00001⟩ rfl
  obtain ⟨hrequests, -⟩ := hkept.keeps (by rw [hformer']; decide) rfl
  exact ⟨rfl, hformer, rfl, hredirected, hformer', hrequests⟩

/-- The root window owns the selection, and the selection cannot be taken. -/
def rootOwnedDisplay : ScriptedDisplay :=
  { ScriptedDisplay.new [⟨256, 24⟩] (.new []) with
    owner := 256, refusals := [("SetSelectionOwner", 1)] }

/-- A root window that is named as the owner of the selection gets the subscription, which
changes its events, and here the selection was never taken. -/
theorem rootEvents_before_selection :
    let log := ((acquire 0 true : Action (Transcribed ScriptedDisplay) OwnershipError Ownership)
      (.start rootOwnedDisplay)).2.exchanges
    (∃ e ∈ log, ∃ attributes, e.request = .changeWindowAttributes 256 attributes) ∧
      ∀ e ∈ log, ∀ owner selection, e.request = .setSelectionOwner owner selection → e.Failed := by
  intro log
  have hlog : log =
      [⟨.internAtom "WM_S0", .ok (200 : UInt32)⟩, ⟨.getSelectionOwner 200, .ok (256 : UInt32)⟩,
        ⟨subscription 256, .ok ()⟩,
        ⟨.createWindow (selectionWindow ⟨256, 24⟩ 0xa00001), .ok ()⟩,
        ⟨.setSelectionOwner 0xa00001 200, .error .refused⟩] := rfl
  rw [hlog]
  constructor
  · exact ⟨⟨subscription 256, .ok ()⟩, by simp, _, rfl⟩
  · intro e he owner selection hrequest
    simp only [List.mem_cons, List.not_mem_nil, or_false] at he
    rcases he with rfl | rfl | rfl | rfl | rfl
    · cases hrequest
    · cases hrequest
    · cases hrequest
    · cases hrequest
    · exact ⟨.refused, rfl⟩

end Ownership

end GuestShell

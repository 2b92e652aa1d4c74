import GuestShell.Files.Access
import Mathlib.Data.List.Basic
import Mathlib.Data.List.Induction

/-!
# Changing a tree of files

A tree is changed in two ways: directories are made where nothing is, and a file is put at the end
of a path.  Making directories keeps whatever there is (`createDirectories_adds`).  A file that
was written is what its path leads to from then on (`Writes.find?_eq`), and nothing else has changed
(`Writes.node?_eq_of_ne`).  The way to it is still there, since ways go through directories and
over links, of which writing a file changes none (`KeepsWays.resolve_eq`).

A path that leads nowhere may lead somewhere as soon as directories are made, if it steps back over
one of them.  Such a path can reach a file that was there all the time.  A path that does not step
back leads into a new directory, where nothing is yet, or no directory was made at all
(`createDirectories_cases`); it does not matter where links lead on the way.  So no other path can
do that (`Writes.keeps`).
-/

namespace GuestShell

theorem exists_of_bind_eq_ok {α β ε : Type} {x : Except ε α} {f : α → Except ε β} {b : β}
    (h : x >>= f = .ok b) : ∃ a, x = .ok a ∧ f a = .ok b := by
  cases x with
  | error e => cases h
  | ok a => exact ⟨a, rfl, h⟩

/-- A fold that succeeds is the same with any function that succeeds in the same way. -/
theorem foldlM_eq_ok_of_imp {α β ε : Type} {f g : β → α → Except ε β}
    (hstep : ∀ {acc a next}, f acc a = .ok next → g acc a = .ok next) {as : List α}
    {acc final : β} (hfold : as.foldlM f acc = .ok final) : as.foldlM g acc = .ok final := by
  induction as generalizing acc with
  | nil => exact hfold
  | cons a as ih =>
      rw [List.foldlM_cons] at hfold ⊢
      obtain ⟨next, hnext, hrest⟩ := exists_of_bind_eq_ok hfold
      rw [hstep hnext]
      exact ih hrest

theorem Place.step_of_ordinary {name : String} (hstay : ¬(name = "" || name = ".") = true)
    (hback : name ≠ "..") (place : Place) : place.step name = place ++ [name] := by
  rw [step, if_neg hstay, if_neg hback]

namespace FileTree

variable {t t' : FileTree}

/-- Nothing lies below a place where nothing is. -/
theorem node?_append_eq_none {place : Place} (hplace : t.node? place = none) (more : List String) :
    t.node? (place ++ more) = none := by
  induction more using List.reverseRecOn with
  | nil => rwa [List.append_nil]
  | append_singleton more name ih =>
      by_contra hthere
      obtain ⟨node, hnode⟩ := Option.ne_none_iff_exists'.1 hthere
      have hinside := isDirectory_dropLast hnode
      rw [← List.append_assoc, List.dropLast_concat, isDirectory, ih] at hinside
      cases hinside

/-! ### Steps of a way -/

theorem goOn_eq_ok_iff {place : Place} {name : String} :
    t.goOn place name = .ok () ↔
      ∃ rights, t.node? place = some (.directory rights) ∧
        (name = "" ∨ rights.search = true) ∧ name.utf8ByteSize ≤ nameLimit := by
  unfold goOn
  split <;> grind

theorem enter_eq_of_not_link {depth : Nat} {trail : Trail} {name : String}
    (hgo : t.goOn trail.place name = .ok ())
    (hplain : ∀ path, t.node? (trail.place.step name) ≠ some (.link path)) :
    t.enter depth trail name = .ok { trail with place := trail.place.step name } := by
  rw [enter, hgo]
  dsimp only
  split
  next path hlink => exact absurd hlink (hplain path)
  · rfl

/-- A name may stay in its directory. -/
theorem enter_eq_self {depth : Nat} {trail : Trail} {name : String} {rights : Rights}
    (hgo : t.goOn trail.place name = .ok ()) (hstay : trail.place.step name = trail.place)
    (hplace : t.node? trail.place = some (.directory rights)) :
    t.enter depth trail name = .ok trail := by
  rw [enter_eq_of_not_link hgo, hstay]
  simp [hstay, hplace]

theorem walk_eq_self {names : List String} {place : Place} {rights : Rights}
    (hnames : ∀ name ∈ names, t.goOn place name = .ok () ∧ place.step name = place)
    (hplace : t.node? place = some (.directory rights)) :
    t.walk names place = .ok ⟨place, linkLimit⟩ := by
  induction names with
  | nil => rfl
  | cons name names ih =>
      obtain ⟨hname, hrest⟩ := List.forall_mem_cons.1 hnames
      have hstay : t.enter linkLimit ⟨place, linkLimit⟩ name = .ok ⟨place, linkLimit⟩ :=
        enter_eq_self hname.1 hname.2 hplace
      rw [walk, List.foldlM_cons, hstay]
      exact ih hrest

theorem enter_eq_of_link {depth links : Nat} {place : Place} {name path : String}
    (hgo : t.goOn place name = .ok ()) (hlink : t.node? (place.step name) = some (.link path))
    (hpath : isPath path = true) :
    t.enter (depth + 1) ⟨place, links + 1⟩ name =
      (Path.names path).foldlM (t.enter depth) ⟨place.start path, links⟩ := by
  rw [enter, hgo]
  simp only [hlink, hpath, if_true]

/-- A step leads to the place that is named, or follows the link there. -/
theorem enter_cases {depth : Nat} {trail reached : Trail} {name : String}
    (henter : t.enter depth trail name = .ok reached) :
    t.goOn trail.place name = .ok () ∧
      (((∀ path, t.node? (trail.place.step name) ≠ some (.link path)) ∧
          reached = { trail with place := trail.place.step name }) ∨
        ∃ lower links path, depth = lower + 1 ∧ trail.links = links + 1 ∧
          t.node? (trail.place.step name) = some (.link path) ∧ isPath path = true ∧
          (Path.names path).foldlM (t.enter lower) ⟨trail.place.start path, links⟩ =
            .ok reached) := by
  unfold enter at henter
  split at henter
  · cases henter
  next hgo =>
    refine ⟨hgo, ?_⟩
    split at henter
    next path hlink =>
      split at henter
      next lower links hlinks =>
        split at henter
        next hpath => exact .inr ⟨lower, links, path, rfl, hlinks, hlink, hpath, henter⟩
        · cases henter
      · cases henter
    next hplain => exact .inl ⟨hplain, (Except.ok.inj henter).symm⟩

theorem walk_concat (names : List String) (name : String) (place : Place) :
    t.walk (names ++ [name]) place =
      t.walk names place >>= fun trail => t.enter linkLimit trail name := by
  rw [walk, List.foldlM_append]
  simp only [List.foldlM_cons, List.foldlM_nil, bind_pure]
  rfl

theorem resolve_eq_ok_iff {path : String} {place : Place} :
    t.resolve path = .ok place ↔
      isPath path = true ∧ ∃ links, t.walk (Path.names path) (t.working.start path) =
        .ok ⟨place, links⟩ := by
  unfold resolve
  split
  next hpath =>
    cases t.walk (Path.names path) (t.working.start path) with
    | error e => simp [Except.map]
    | ok trail =>
        simp only [Except.map, Except.ok.injEq, hpath, true_and]
        constructor
        · rintro rfl
          exact ⟨trail.links, rfl⟩
        · rintro ⟨links, rfl⟩
          rfl
  next hpath => simp [hpath]

/-- A path that is too long leads nowhere. -/
theorem find?_eq_none {path : String} (hlong : pathLimit ≤ path.utf8ByteSize) :
    t.find? path = none := by
  have hpath : isPath path = false := by
    rw [isPath, decide_eq_false (Nat.not_lt.2 hlong), Bool.and_false]
  rw [find?, resolve, hpath]
  rfl

/-! ### Ways that stay -/

/-- The ways of a tree are ways of another tree: directories stay with their rights, and there are
the same links. -/
structure KeepsWays (t t' : FileTree) : Prop where
  working_eq : t'.working = t.working
  directory_eq : ∀ {place : Place} {rights : Rights}, t.node? place = some (.directory rights) →
    t'.node? place = some (.directory rights)
  link_iff : ∀ {place : Place} {path : String}, t'.node? place = some (.link path) ↔
    t.node? place = some (.link path)

namespace KeepsWays

theorem goOn_eq (h : t.KeepsWays t') {place : Place} {name : String}
    (hgo : t.goOn place name = .ok ()) : t'.goOn place name = .ok () := by
  obtain ⟨rights, hplace, hname⟩ := goOn_eq_ok_iff.1 hgo
  exact goOn_eq_ok_iff.2 ⟨rights, h.directory_eq hplace, hname⟩

/-- A step that is possible is the same afterwards.  The induction is on how often links may be
followed, of which the path of a link has less. -/
theorem enter_eq (h : t.KeepsWays t') {depth : Nat} {trail reached : Trail} {name : String}
    (henter : t.enter depth trail name = .ok reached) :
    t'.enter depth trail name = .ok reached := by
  induction depth using Nat.strongRecOn generalizing trail reached name with
  | ind depth ih =>
      obtain ⟨hgo, ⟨hplain, rfl⟩ | ⟨lower, links, path, rfl, hlinks, hlink, hpath, hfollow⟩⟩ :=
        enter_cases henter
      · exact enter_eq_of_not_link (h.goOn_eq hgo) fun path hlink =>
          hplain path (h.link_iff.1 hlink)
      · obtain ⟨place, _⟩ := trail
        obtain rfl := hlinks
        rw [enter_eq_of_link (h.goOn_eq hgo) (h.link_iff.2 hlink) hpath]
        exact foldlM_eq_ok_of_imp (ih lower lower.lt_succ_self) hfollow

theorem walk_eq (h : t.KeepsWays t') {names : List String} {place : Place} {reached : Trail}
    (hwalk : t.walk names place = .ok reached) : t'.walk names place = .ok reached :=
  foldlM_eq_ok_of_imp h.enter_eq hwalk

theorem resolve_eq (h : t.KeepsWays t') {path : String} {place : Place}
    (hresolve : t.resolve path = .ok place) : t'.resolve path = .ok place := by
  obtain ⟨hpath, links, hwalk⟩ := resolve_eq_ok_iff.1 hresolve
  rw [resolve_eq_ok_iff, h.working_eq]
  exact ⟨hpath, links, h.walk_eq hwalk⟩

end KeepsWays

/-! ### Keeping what is there -/

/-- Whatever is at a place of a tree is there in another tree too. -/
structure Keeps (t t' : FileTree) : Prop where
  working_eq : t'.working = t.working
  node?_eq : ∀ {place : Place} {node : FileNode}, t.node? place = some node →
    t'.node? place = some node

/-- Another tree is the same but for directories where nothing was. -/
structure AddsDirectories (t t' : FileTree) : Prop where
  working_eq : t'.working = t.working
  node?_cases : ∀ place, t'.node? place = t.node? place ∨
    t.node? place = none ∧ t'.node? place = some (.directory .all)

/-- Another tree has something at a place, and is the same elsewhere. -/
structure Puts (t : FileTree) (place : Place) (node : FileNode) (t' : FileTree) : Prop where
  working_eq : t'.working = t.working
  node?_eq : ∀ other, t'.node? other = if other = place then some node else t.node? other

theorem Keeps.node?_eq_none (h : t.Keeps t') {place : Place} (hplace : t'.node? place = none) :
    t.node? place = none := by
  by_contra hthere
  obtain ⟨node, hnode⟩ := Option.ne_none_iff_exists'.1 hthere
  rw [h.node?_eq hnode] at hplace
  cases hplace

theorem Keeps.trans {t'' : FileTree} (h : t.Keeps t') (h' : t'.Keeps t'') : t.Keeps t'' where
  working_eq := h'.working_eq.trans h.working_eq
  node?_eq := fun hnode => h'.node?_eq (h.node?_eq hnode)

namespace AddsDirectories

theorem refl (t : FileTree) : t.AddsDirectories t := ⟨rfl, fun _ => .inl rfl⟩

theorem trans {t'' : FileTree} (h : t.AddsDirectories t') (h' : t'.AddsDirectories t'') :
    t.AddsDirectories t'' where
  working_eq := h'.working_eq.trans h.working_eq
  node?_cases := by
    intro place
    rcases h'.node?_cases place with hsame | ⟨hvacant, hnew⟩
    · rw [hsame]
      exact h.node?_cases place
    · rcases h.node?_cases place with hsame | ⟨-, hthere⟩
      · rw [← hsame]
        exact .inr ⟨hvacant, hnew⟩
      · rw [hvacant] at hthere
        cases hthere

theorem keeps (h : t.AddsDirectories t') : t.Keeps t' where
  working_eq := h.working_eq
  node?_eq := by
    intro place node hnode
    rcases h.node?_cases place with hsame | ⟨hvacant, -⟩
    · rw [hsame, hnode]
    · rw [hvacant] at hnode
      cases hnode

end AddsDirectories

namespace Puts

variable {place : Place} {node : FileNode}

theorem self (h : t.Puts place node t') : t'.node? place = some node := by
  rw [h.node?_eq, if_pos rfl]

theorem of_ne (h : t.Puts place node t') {other : Place} (hother : other ≠ place) :
    t'.node? other = t.node? other := by
  rw [h.node?_eq, if_neg hother]

/-- What is there is no longer there at most at the place where something is put. -/
theorem of_node?_ne (h : t.Puts place node t') {other : Place} {found : FileNode}
    (hfound : t.node? other = some found) (hplace : t.node? place ≠ some found) :
    t'.node? other = some found := by
  rw [h.of_ne, hfound]
  rintro rfl
  exact hplace hfound

theorem keeps (h : t.Puts place node t') (hvacant : t.node? place = none) : t.Keeps t' where
  working_eq := h.working_eq
  node?_eq := fun hfound => h.of_node?_ne hfound (by rw [hvacant]; simp)

theorem addsDirectories (h : t.Puts place (.directory .all) t') (hvacant : t.node? place = none) :
    t.AddsDirectories t' where
  working_eq := h.working_eq
  node?_cases := by
    intro other
    by_cases hother : other = place
    · subst hother
      exact .inr ⟨hvacant, h.self⟩
    · exact .inl (h.of_ne hother)

/-- Ways stay if nothing or a file was at the place, and no link is there afterwards. -/
theorem keepsWays (h : t.Puts place node t')
    (hbefore : t.node? place = none ∨
      ∃ rights contents, t.node? place = some (.file rights contents))
    (hafter : ∀ path, node ≠ .link path) : t.KeepsWays t' where
  working_eq := h.working_eq
  directory_eq := fun hfound => h.of_node?_ne hfound (by
    rcases hbefore with hnone | ⟨rights, contents, hfile⟩
    · simp [hnone]
    · simp [hfile])
  link_iff := by
    intro other path
    constructor
    · intro hlink
      rw [h.node?_eq] at hlink
      split at hlink
      · exact absurd (Option.some.inj hlink) (hafter path)
      · exact hlink
    · intro hlink
      refine h.of_node?_ne hlink ?_
      rcases hbefore with hnone | ⟨rights, contents, hfile⟩
      · simp [hnone]
      · simp [hfile]

end Puts

theorem set_puts {place : Place} (node : FileNode) (hinside : t.isDirectory place.dropLast = true)
    (hplace : t.isDirectory place = false) : t.Puts place node (t.set place node hinside hplace) :=
  ⟨rfl, fun other => t.node?_set other node hinside hplace⟩

theorem create_puts {place : Place} {node : FileNode} (hcreate : t.create place node = some t') :
    t.node? place = none ∧ t.Puts place node t' := by
  unfold create at hcreate
  split at hcreate
  next h =>
    split at hcreate
    · obtain rfl := Option.some.inj hcreate
      exact ⟨h.1, set_puts node h.2 _⟩
    · cases hcreate
  · cases hcreate

/-! ### Making directories -/

theorem make_concat (names : List String) (name : String) (place : Place) (node : FileNode) :
    t.make (names ++ [name]) place node = (do
      let trail ← t.walk names place
      t.goOn trail.place name
      return t.create (trail.place.step name) node) := by
  simp only [make, List.dropLast_concat, List.getLast?_concat]

/-- Something new is made at the end of a way that was there. -/
theorem exists_puts_of_make {names : List String} {name : String} {place : Place}
    {node : FileNode} (hmake : t.make (names ++ [name]) place node = .ok (some t')) :
    ∃ trail, t.walk names place = .ok trail ∧ t.goOn trail.place name = .ok () ∧
      t.node? (trail.place.step name) = none ∧ t.Puts (trail.place.step name) node t' := by
  rw [make_concat] at hmake
  obtain ⟨trail, hwalk, hrest⟩ := exists_of_bind_eq_ok hmake
  obtain ⟨_, hgo, hcreate⟩ := exists_of_bind_eq_ok hrest
  exact ⟨trail, hwalk, hgo, create_puts (Except.ok.inj hcreate)⟩

/-- Names lead to a directory that was made, which is empty. -/
structure LeadsToNew (t t' : FileTree) (names : List String) (place : Place) (trail : Trail) :
    Prop where
  walk_eq : t'.walk names place = .ok trail
  vacant : t.node? trail.place = none
  node?_eq : t'.node? trail.place = some (.directory .all)
  empty : ∀ name, t'.node? (trail.place ++ [name]) = none

namespace LeadsToNew

variable {names : List String} {name : String} {place : Place} {trail : Trail}

theorem goOn_eq (h : LeadsToNew t t' names place trail) (hname : name.utf8ByteSize ≤ nameLimit) :
    t'.goOn trail.place name = .ok () :=
  goOn_eq_ok_iff.2 ⟨.all, h.node?_eq, .inr rfl, hname⟩

/-- A name in the new directory leads to where nothing is. -/
theorem walk_concat_eq (h : LeadsToNew t t' names place trail)
    (hstep : trail.place.step name = trail.place ++ [name]) {reached : Trail}
    (hwalk : t'.walk (names ++ [name]) place = .ok reached) : t'.node? reached.place = none := by
  rw [walk_concat, h.walk_eq] at hwalk
  obtain ⟨-, ⟨-, rfl⟩ | ⟨_, _, path, -, -, hlink, -⟩⟩ := enter_cases hwalk
  · rw [hstep]
    exact h.empty name
  · rw [hstep, h.empty] at hlink
    cases hlink

/-- In a new directory there is no other directory. -/
theorem leadsToDirectory_concat (h : LeadsToNew t t' names place trail)
    (hstep : trail.place.step name = trail.place ++ [name]) :
    t'.leadsToDirectory (names ++ [name]) place = false := by
  unfold leadsToDirectory
  split
  next reached hwalk => rw [isDirectory, h.walk_concat_eq hstep hwalk, Option.any_none]
  · rfl

/-- A name that stays in the directory changes nothing. -/
theorem concat_of_step_eq (h : LeadsToNew t t' names place trail)
    (hname : name.utf8ByteSize ≤ nameLimit) (hstep : trail.place.step name = trail.place) :
    LeadsToNew t t' (names ++ [name]) place trail where
  walk_eq := by
    rw [walk_concat, h.walk_eq]
    exact enter_eq_self (h.goOn_eq hname) hstep h.node?_eq
  vacant := h.vacant
  node?_eq := h.node?_eq
  empty := h.empty

theorem trans {before : FileTree} (hkept : before.Keeps t)
    (h : LeadsToNew t t' names place trail) : LeadsToNew before t' names place trail :=
  { h with vacant := hkept.node?_eq_none h.vacant }

/-- Names lead to the directory that was made at their end. -/
theorem of_make (hmake : t.make (names ++ [name]) place (.directory .all) = .ok (some t')) :
    ∃ trail, LeadsToNew t t' (names ++ [name]) place trail := by
  obtain ⟨trail, hwalk, hgo, hvacant, hputs⟩ := exists_puts_of_make hmake
  have hways : t.KeepsWays t' := hputs.keepsWays (.inl hvacant) (by simp)
  refine ⟨{ trail with place := trail.place.step name }, ?_, hvacant, hputs.self, ?_⟩
  · rw [walk_concat, hways.walk_eq hwalk]
    exact enter_eq_of_not_link (hways.goOn_eq hgo) (by simp [hputs.self])
  · intro below
    rw [hputs.of_ne (by simp)]
    exact node?_append_eq_none hvacant [below]

end LeadsToNew

theorem make_adds {names : List String} {name : String} {place : Place}
    (hmake : t.make (names ++ [name]) place (.directory .all) = .ok (some t')) :
    t.AddsDirectories t' := by
  obtain ⟨trail, -, -, hvacant, hputs⟩ := exists_puts_of_make hmake
  exact hputs.addsDirectories hvacant

/-- Making directories adds directories only, also when it fails. -/
theorem makeDirectories_adds (t : FileTree) (place : Place) (names : List String) :
    t.AddsDirectories (t.makeDirectories place names).2 := by
  induction names with
  | nil => exact .refl t
  | cons name front ih =>
      rw [makeDirectories]
      split
      · exact ih
      · rw [List.reverse_cons]
        split
        next made hmake => exact make_adds hmake
        · split
          next left hfront =>
            rw [hfront] at ih
            exact ih
          next left hfront =>
            rw [hfront] at ih
            split
            next made hmake => exact ih.trans (make_adds hmake)
            · exact ih
        · exact .refl t

theorem createDirectories_adds {path : String} {done : Bool}
    (hmade : t.createDirectories path = (done, t')) : t.AddsDirectories t' := by
  unfold createDirectories at hmade
  split at hmade
  · have hadds := makeDirectories_adds t (t.working.start path) (Path.names path).reverse
    rwa [hmade] at hadds
  · cases hmade
    exact .refl t

/-- Names that do not step back lead into a new directory once directories were made, unless the
directories were there already. -/
theorem makeDirectories_cases {place : Place} {names : List String} (hforward : ".." ∉ names)
    (hmade : t.makeDirectories place names = (true, t')) :
    t' = t ∨ ∃ trail, LeadsToNew t t' names.reverse place trail := by
  induction names generalizing t' with
  | nil =>
      cases hmade
      exact .inl rfl
  | cons name front ih =>
      rw [List.mem_cons, not_or] at hforward
      rw [makeDirectories] at hmade
      rw [List.reverse_cons] at hmade ⊢
      split at hmade
      next hstay =>
        rcases ih hforward.2 hmade with rfl | ⟨trail, hnew⟩
        · exact .inl rfl
        · exact .inr ⟨trail, hnew.concat_of_step_eq (by
            simp only [Bool.or_eq_true, decide_eq_true_eq] at hstay
            rcases hstay with rfl | rfl <;> decide +kernel) (if_pos hstay)⟩
      next hordinary =>
        have hstep := Place.step_of_ordinary hordinary (Ne.symm hforward.1)
        split at hmade
        next made hmake =>
          cases hmade
          exact .inr (LeadsToNew.of_make hmake)
        next hmissing =>
          split at hmade
          · cases hmade
          next left hfront =>
            rcases ih hforward.2 hfront with rfl | ⟨trail, hnew⟩
            · -- nothing was made, so the second attempt fails as the first one did
              rw [hmissing] at hmade
              exact .inl (Prod.ext_iff.1 hmade).2.symm
            · have hleft : t.Keeps left := by
                have hadds := makeDirectories_adds t place front
                rw [hfront] at hadds
                exact hadds.keeps
              split at hmade
              next made hmake =>
                cases hmade
                obtain ⟨_, hmade⟩ := LeadsToNew.of_make hmake
                exact .inr ⟨_, hmade.trans hleft⟩
              · rw [hnew.leadsToDirectory_concat (hstep _)] at hmade
                cases hmade
        · exact .inl (Prod.ext_iff.1 hmade).2.symm

theorem createDirectories_cases {path : String} (hforward : ".." ∉ Path.names path)
    (hmade : t.createDirectories path = (true, t')) :
    t' = t ∨ ∃ trail, LeadsToNew t t' (Path.names path) (t.working.start path) trail := by
  unfold createDirectories at hmade
  split at hmade
  · have hcases := makeDirectories_cases (by rwa [List.mem_reverse]) hmade
    rwa [List.reverse_reverse] at hcases
  · cases hmade

/-! ### Writing a file -/

/-- How a file is written: its path leads to a place that takes it, where a file may be already,
whose rights stay as they are. -/
structure Writes (t : FileTree) (path : String) (contents : List UInt8) (t' : FileTree)
    (place : Place) (rights : Rights) : Prop where
  resolves : t.resolve path = .ok place
  before : t.node? place = none ∧ rights = .all ∨ ∃ old, t.node? place = some (.file rights old)
  puts : t.Puts place (.file rights contents) t'

theorem exists_writes {path : String} {contents : List UInt8}
    (hwrite : t.write path contents = some t') :
    ∃ place rights, t.Writes path contents t' place rights := by
  unfold write at hwrite
  split at hwrite
  · cases hwrite
  next place hresolve =>
    split at hwrite
    · obtain ⟨hvacant, hputs⟩ := create_puts hwrite
      exact ⟨place, .all, hresolve, .inl ⟨hvacant, rfl⟩, hputs⟩
    next rights old hfile =>
      split at hwrite
      · obtain rfl := Option.some.inj hwrite
        exact ⟨place, rights, hresolve, .inr ⟨old, hfile⟩, set_puts _ _ _⟩
      · cases hwrite
    · cases hwrite

namespace Writes

variable {path : String} {contents : List UInt8} {place : Place} {rights : Rights}

theorem resolve_eq (h : t.Writes path contents t' place rights) :
    t'.resolve path = .ok place := by
  refine (h.puts.keepsWays ?_ (by simp)).resolve_eq h.resolves
  exact h.before.imp And.left fun ⟨old, hfile⟩ => ⟨rights, old, hfile⟩

/-- A file that was written is what its path leads to. -/
theorem find?_eq (h : t.Writes path contents t' place rights) :
    t'.find? path = some (.file rights contents) := by
  simp only [find?, h.resolve_eq, h.puts.self]

/-- Nothing but what the path leads to is changed. -/
theorem node?_eq_of_ne (h : t.Writes path contents t' place rights) {other : Place}
    (hother : t'.resolve path ≠ .ok other) : t'.node? other = t.node? other := by
  refine h.puts.of_ne ?_
  rintro rfl
  exact hother h.resolve_eq

/-- A new file may be used, and replaces nothing. -/
theorem keeps (h : t.Writes path contents t' place rights) (hvacant : t.node? place = none) :
    rights = .all ∧ t.Keeps t' := by
  refine ⟨?_, h.puts.keeps hvacant⟩
  rcases h.before with ⟨-, hrights⟩ | ⟨old, hfile⟩
  · exact hrights
  · rw [hvacant] at hfile
    cases hfile

end Writes

/-- A name in a directory leads to a new place, if it led nowhere before the directory was made and
its path does not step back. -/
theorem node?_eq_none_of_createDirectories {made : FileTree} {directory path name : String}
    {place : Place} (hmade : t.createDirectories directory = (true, made))
    (hforward : ".." ∉ Path.names directory)
    (hnames : Path.names path = Path.names directory ++ [name])
    (hstart : Path.isAbsolute path = Path.isAbsolute directory)
    (hstep : ∀ place : Place, place.step name = place ++ [name])
    (habsent : t.find? path = none) (hresolve : made.resolve path = .ok place) :
    made.node? place = none := by
  rcases createDirectories_cases hforward hmade with rfl | ⟨trail, hnew⟩
  · rwa [find?, hresolve] at habsent
  · obtain ⟨-, links, hwalk⟩ := resolve_eq_ok_iff.1 hresolve
    rw [(createDirectories_adds hmade).working_eq, Place.start, hstart, hnames] at hwalk
    exact hnew.walk_concat_eq (hstep _) hwalk

end FileTree

end GuestShell

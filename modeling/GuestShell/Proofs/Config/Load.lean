import GuestShell.Config.Load
import GuestShell.Proofs.Files.Tree

/-!
# Loading leaves files alone

Loading looks at one path.  What the path leads to decides the result and stays as it is.  If it
leads nowhere, a given path is an error; at the default path the default configuration is used, and
it is written as far as that goes.  A default configuration that was written is loaded from then on,
if it may be read.

Writing it makes directories and one file, and keeps everything else.  A configuration directory
whose path steps back over a name that is not there yet can come to name a file that it did not
reach before; of that one file it is NOT claimed that it is kept.

A path leads somewhere only if it may be followed, and on the way it follows links.  At the place
that it names there can be something else, or something that it does not lead to.
-/

namespace GuestShell

/-- The text of a file; none if it may not be read, has no text or is no file. -/
def FileNode.text? : FileNode → Option String
  | .file rights contents => if rights.read then Utf8.decode? contents else none
  | .directory _ | .socket _ _ | .link _ => none

namespace Config

/-- What loading makes of what a path leads to. -/
def ofNode (path : String) (node : FileNode) : Except ConfigError Config :=
  match node.text? with
  | some text => parse text
  | none => .error (.unreadable path)

/-- Loading on a tree of files, and the tree that is left. -/
def loadOn (configDirectory path : Option String) (t : FileTree) :
    Except ConfigError Config × FileTree :=
  ((load configDirectory path : StateM FileTree (Except ConfigError Config)).run t).run

/-- The tree that is left when the default configuration was written as far as that goes. -/
def withDefault (configDirectory : String) (t : FileTree) : FileTree :=
  match t.createDirectories (directory configDirectory) with
  | (false, left) => left
  | (true, made) =>
    (made.write (defaultPath configDirectory) (Utf8.encode defaultText)).getD made

/-- The default configuration can be written: its directories can be made, and its file in them. -/
def WritesDefault (configDirectory : String) (t t' : FileTree) : Prop :=
  ∃ made, t.createDirectories (directory configDirectory) = (true, made) ∧
    made.write (defaultPath configDirectory) (Utf8.encode defaultText) = some t'

/-- The default configuration is what its text says. -/
theorem parse_defaultText : parse defaultText = .ok default := by
  decide +kernel

variable {t t' : FileTree} {path configDirectory : String}

/-! ### Single actions -/

section Actions

theorem run_pathExists (path : String) (t : FileTree) :
    (FileAccess.pathExists path : StateM FileTree Bool).run t =
      pure ((t.find? path).isSome, t) := rfl

theorem run_readText (path : String) (t : FileTree) :
    (FileAccess.readText path : StateM FileTree (Option String)).run t =
      pure ((t.read? path).bind Utf8.decode?, t) := rfl

theorem run_createDirectories (path : String) (t : FileTree) :
    (FileAccess.createDirectories path : StateM FileTree Bool).run t =
      pure (t.createDirectories path) := rfl

theorem run_writeText (path text : String) (t : FileTree) :
    (FileAccess.writeText path text : StateM FileTree Bool).run t =
      pure (t.attempt (·.write path (Utf8.encode text))) := rfl

theorem read?_bind_decode? {node : FileNode} (hfound : t.find? path = some node) :
    (t.read? path).bind Utf8.decode? = node.text? := by
  rw [FileTree.read?, hfound]
  cases node with
  | file rights contents =>
      simp only [FileNode.text?]
      split <;> rfl
  | directory | socket | link => rfl

theorem run_readFrom {node : FileNode} (hfound : t.find? path = some node) :
    (readFrom path : StateM FileTree (Except ConfigError Config)).run t =
      pure (ofNode path node, t) := by
  simp only [readFrom, StateT.run_bind, run_readText, pure_bind, read?_bind_decode? hfound, ofNode]
  cases node.text? <;> rfl

theorem run_writeDefault (configDirectory : String) (t : FileTree) :
    (writeDefault configDirectory : StateM FileTree Unit).run t =
      pure ((), withDefault configDirectory t) := by
  simp only [writeDefault, StateT.run_bind, run_createDirectories, pure_bind, withDefault]
  rcases t.createDirectories (directory configDirectory) with ⟨_ | _, made⟩
  · rfl
  · simp only [if_true, discard, Functor.discard, map_const, Function.comp_apply,
      StateT.run_map, run_writeText, FileTree.attempt, map_pure]
    cases made.write (defaultPath configDirectory) (Utf8.encode defaultText) <;> rfl

end Actions

/-! ### What is loaded and what is left -/

theorem loadOn_given (anywhere : Option String) {node : FileNode}
    (hfound : t.find? path = some node) :
    loadOn anywhere (some path) t = (ofNode path node, t) := by
  simp only [loadOn, load, loadFrom, StateT.run_bind, run_pathExists, pure_bind, hfound,
    Option.isSome_some, if_true, run_readFrom hfound, Id.run_pure]

theorem loadOn_given_absent (anywhere : Option String) (habsent : t.find? path = none) :
    loadOn anywhere (some path) t = (.error (.noSuchFile path), t) := by
  simp only [loadOn, load, loadFrom, StateT.run_bind, run_pathExists, pure_bind, habsent]
  rfl

theorem loadOn_default {node : FileNode}
    (hfound : t.find? (defaultPath configDirectory) = some node) :
    loadOn (some configDirectory) none t = (ofNode (defaultPath configDirectory) node, t) := by
  simp only [loadOn, load, loadDefault, StateT.run_bind, run_pathExists, pure_bind, hfound,
    Option.isSome_some, if_true, run_readFrom hfound, Id.run_pure]

theorem loadOn_default_absent (habsent : t.find? (defaultPath configDirectory) = none) :
    loadOn (some configDirectory) none t = (.ok default, withDefault configDirectory t) := by
  simp only [loadOn, load, loadDefault, StateT.run_bind, run_pathExists, pure_bind, habsent,
    Option.isSome_none, Bool.false_eq_true, if_false, run_writeDefault, StateT.run_pure,
    Id.run_pure]

/-! ### The default path -/

theorem directory_eq (configDirectory : String) :
    directory configDirectory =
      configDirectory ++ (if configDirectory.toList.getLast?.all (· = '/') then "" else "/") ++
        "crosswl" := by
  unfold directory Path.join
  split
  next hempty => rw [hempty, Option.all_none, if_pos rfl, String.append_empty]
  next hslash =>
    rw [hslash, Option.all_some, if_pos (decide_eq_true rfl), String.append_empty]
  next last hother hlast =>
    rw [hlast, Option.all_some, if_neg (by rwa [decide_eq_true_iff])]

theorem defaultPath_eq (configDirectory : String) :
    defaultPath configDirectory = directory configDirectory ++ "/" ++ "config.toml" := by
  have hlast : (directory configDirectory).toList.getLast? = some 'l' := by
    rw [directory_eq, String.toList_append, List.getLast?_append]
    rfl
  rw [defaultPath, Path.join, hlast]
  rfl

theorem names_defaultPath (configDirectory : String) :
    Path.names (defaultPath configDirectory) =
      Path.names (directory configDirectory) ++ ["config.toml"] := by
  rw [defaultPath_eq, Path.names_append_slash]
  congr 1

theorem isAbsolute_defaultPath (configDirectory : String) :
    Path.isAbsolute (defaultPath configDirectory) =
      Path.isAbsolute (directory configDirectory) := by
  have hne : (directory configDirectory).toList ≠ [] := by
    rw [directory_eq, String.toList_append]
    exact List.append_ne_nil_of_right_ne_nil _ (by decide)
  rw [defaultPath_eq, Path.isAbsolute, Path.isAbsolute, String.append_assoc, String.toList_append,
    List.head?_append_of_ne_nil _ hne]

/-! ### Writing the default configuration -/

namespace WritesDefault

theorem withDefault_eq (h : WritesDefault configDirectory t t') :
    withDefault configDirectory t = t' := by
  obtain ⟨made, hmade, hwrite⟩ := h
  simp only [withDefault, hmade, hwrite, Option.getD_some]

theorem find?_eq (h : WritesDefault configDirectory t t') :
    ∃ rights, t'.find? (defaultPath configDirectory) =
      some (.file rights (Utf8.encode defaultText)) := by
  obtain ⟨made, hmade, hwrite⟩ := h
  obtain ⟨place, rights, hwrites⟩ := FileTree.exists_writes hwrite
  exact ⟨rights, hwrites.find?_eq⟩

/-- Only directories are new and only what is new has changed, but for what the default path leads
to. -/
theorem node?_cases (h : WritesDefault configDirectory t t') {place : Place}
    (hother : t'.resolve (defaultPath configDirectory) ≠ .ok place) :
    t'.node? place = t.node? place ∨
      t.node? place = none ∧ t'.node? place = some (.directory .all) := by
  obtain ⟨made, hmade, hwrite⟩ := h
  obtain ⟨_, rights, hwrites⟩ := FileTree.exists_writes hwrite
  rw [hwrites.node?_eq_of_ne hother]
  exact (FileTree.createDirectories_adds hmade).node?_cases place

/-- If the default path led nowhere and does not step back, the file is new. -/
theorem keeps (h : WritesDefault configDirectory t t')
    (hforward : ".." ∉ Path.names (defaultPath configDirectory))
    (habsent : t.find? (defaultPath configDirectory) = none) :
    t.Keeps t' ∧ t'.find? (defaultPath configDirectory) =
      some (.file .all (Utf8.encode defaultText)) := by
  obtain ⟨made, hmade, hwrite⟩ := h
  obtain ⟨place, rights, hwrites⟩ := FileTree.exists_writes hwrite
  rw [names_defaultPath, List.mem_append, not_or] at hforward
  have hvacant : made.node? place = none :=
    FileTree.node?_eq_none_of_createDirectories hmade hforward.1
      (names_defaultPath configDirectory) (isAbsolute_defaultPath configDirectory)
      (Place.step_of_ordinary (by decide) (by decide)) habsent hwrites.resolves
  obtain ⟨rfl, hkept⟩ := hwrites.keeps hvacant
  exact ⟨(FileTree.createDirectories_adds hmade).keeps.trans hkept, hwrites.find?_eq⟩

end WritesDefault

/-- A default configuration is loaded as what it is, if it may be read. -/
theorem loadOn_written {rights : Rights} (hfound : t.find? (defaultPath configDirectory) =
      some (.file rights (Utf8.encode defaultText))) (hread : rights.read = true) :
    loadOn (some configDirectory) none t = (.ok default, t) := by
  simp only [loadOn_default hfound, ofNode, FileNode.text?, hread, if_true, Utf8.decode?_encode,
    parse_defaultText]

/-- The default configuration was written, or at most directories were made. -/
theorem withDefault_cases (configDirectory : String) (t : FileTree) :
    WritesDefault configDirectory t (withDefault configDirectory t) ∨
      t.AddsDirectories (withDefault configDirectory t) := by
  rcases hmade : t.createDirectories (directory configDirectory) with ⟨_ | _, made⟩
  · simp only [withDefault, hmade]
    exact .inr (FileTree.createDirectories_adds hmade)
  · cases hwrite : made.write (defaultPath configDirectory) (Utf8.encode defaultText) with
    | none =>
        simp only [withDefault, hmade, hwrite, Option.getD_none]
        exact .inr (FileTree.createDirectories_adds hmade)
    | some written =>
        have h : WritesDefault configDirectory t written := ⟨made, hmade, hwrite⟩
        rw [h.withDefault_eq]
        exact .inl h

/-- Loading never damages what its path leads to.  The default path is that of one file in a
directory of its own among the configurations.

A given path that leads nowhere is an error, and no given path changes anything.  Whatever the
default path leads to, be it a valid or an invalid configuration or nothing that can be read, is
left with everything else as it is.  What a path leads to is parsed if it is a file with a text that
may be read, and is unreadable if not.  If the default path leads nowhere, the result is the default
configuration, whether it can be written or not.  If it can be, it is what the path leads to from
then on, and loading once more gives it again and changes nothing, if it may be read.  If it cannot
be, at most directories are new.

When the default configuration is written, everything stays and only directories are new, but for
what the default path then leads to.  If the path does not step back, this is a new file, which may
be read. -/
theorem load_keepsFiles (configDirectory : String) (t : FileTree) :
    (directory configDirectory =
        configDirectory ++ (if configDirectory.toList.getLast?.all (· = '/') then "" else "/") ++
          "crosswl" ∧
      defaultPath configDirectory = directory configDirectory ++ "/" ++ "config.toml") ∧
    (∀ anywhere path,
      (∀ node, t.find? path = some node →
        loadOn anywhere (some path) t = (ofNode path node, t)) ∧
      (t.find? path = none →
        loadOn anywhere (some path) t = (.error (.noSuchFile path), t))) ∧
    (∀ node, t.find? (defaultPath configDirectory) = some node →
      loadOn (some configDirectory) none t = (ofNode (defaultPath configDirectory) node, t)) ∧
    (t.find? (defaultPath configDirectory) = none →
      let loaded := loadOn (some configDirectory) none t
      loaded.1 = .ok default ∧
      (∀ t', WritesDefault configDirectory t t' →
        loaded.2 = t' ∧
        ∃ rights, t'.find? (defaultPath configDirectory) =
            some (.file rights (Utf8.encode defaultText)) ∧
          (rights.read = true → loadOn (some configDirectory) none t' = (.ok default, t'))) ∧
      ((¬ ∃ t', WritesDefault configDirectory t t') → t.AddsDirectories loaded.2) ∧
      (∀ place, loaded.2.resolve (defaultPath configDirectory) ≠ .ok place →
        loaded.2.node? place = t.node? place ∨
          t.node? place = none ∧ loaded.2.node? place = some (.directory .all)) ∧
      (".." ∉ Path.names (defaultPath configDirectory) →
        t.Keeps loaded.2 ∧
        ∀ t', WritesDefault configDirectory t t' →
          t'.find? (defaultPath configDirectory) =
            some (.file .all (Utf8.encode defaultText)))) := by
  refine ⟨⟨directory_eq configDirectory, defaultPath_eq configDirectory⟩,
    fun anywhere path => ⟨fun node => loadOn_given anywhere, loadOn_given_absent anywhere⟩,
    fun node => loadOn_default, ?_⟩
  intro habsent loaded
  have hloaded : loaded = (.ok default, withDefault configDirectory t) :=
    loadOn_default_absent habsent
  rw [hloaded]
  -- either the file was written as well, or at most directories were made
  have hcases := withDefault_cases configDirectory t
  refine ⟨rfl, ?_, ?_, ?_, ?_⟩
  · intro t' hwritten
    obtain ⟨rights, hfound⟩ := hwritten.find?_eq
    exact ⟨hwritten.withDefault_eq, rights, hfound, loadOn_written hfound⟩
  · intro hunwritten
    exact hcases.resolve_left fun hwritten => hunwritten ⟨_, hwritten⟩
  · intro place hother
    rcases hcases with hwritten | hadds
    · exact hwritten.node?_cases hother
    · exact hadds.node?_cases place
  · intro hforward
    refine ⟨?_, fun t' hwritten => (hwritten.keeps hforward habsent).2⟩
    rcases hcases with hwritten | hadds
    · exact (hwritten.keeps hforward habsent).1
    · exact hadds.keeps

/-- Some notes in the root directory. -/
def notes : FileTree where
  nodes := [(["notes"], .file .all (Utf8.encode "hello")), ([], .directory .all)]
  working := []
  root := rfl
  rooted := by decide

/-- The notes, and the default configuration in a new directory. -/
def configured : FileTree where
  nodes :=
    [(["xdg", "crosswl", "config.toml"], .file .all (Utf8.encode defaultText)),
      (["xdg", "crosswl"], .directory .all), (["xdg"], .directory .all),
      (["notes"], .file .all (Utf8.encode "hello")), ([], .directory .all)]
  working := []
  root := by decide
  rooted := by decide

theorem writesDefault_notes : WritesDefault "/xdg" notes configured :=
  ⟨⟨configured.nodes.tail, [], by decide, by decide⟩, by decide +kernel, by decide +kernel⟩

/-- The notes are no directory that anything can be written into. -/
theorem not_writesDefault_notes : ¬ ∃ t', WritesDefault "/notes" notes t' := by
  rintro ⟨t', made, hmade, -⟩
  have hfails : (notes.createDirectories (directory "/notes")).1 = false := by decide +kernel
  rw [hmade] at hfails
  cases hfails

/-- The default configuration is written beside some notes, and loaded the second time.  The notes
themselves are no configuration, and no directory that it can be written into. -/
theorem load_keepsFiles_notes :
    loadOn none (some "/notes") notes = (.error .malformed, notes) ∧
    loadOn none (some "/absent") notes = (.error (.noSuchFile "/absent"), notes) ∧
    (loadOn (some "/xdg") none notes = (.ok default, configured) ∧
      loadOn (some "/xdg") none configured = (.ok default, configured) ∧
      notes.Keeps configured) ∧
    (loadOn (some "/notes") none notes).1 = .ok default ∧
    notes.AddsDirectories (loadOn (some "/notes") none notes).2 := by
  obtain ⟨-, hgiven, -, habsent⟩ := load_keepsFiles "/xdg" notes
  obtain ⟨-, -, -, hblocked⟩ := load_keepsFiles "/notes" notes
  have hnotes : ofNode "/notes" (.file .all (Utf8.encode "hello")) = .error .malformed := by
    decide +kernel
  obtain ⟨hdefault, hwritten, -, -, hforward⟩ := habsent (by decide +kernel)
  obtain ⟨hleft, rights, hfound, hagain⟩ := hwritten configured writesDefault_notes
  obtain ⟨hkept, hnew⟩ := hforward (by decide +kernel)
  have hread : rights.read = true := by
    rw [hnew configured writesDefault_notes] at hfound
    cases hfound
    rfl
  obtain ⟨hused, -, hadds, -, -⟩ := hblocked (by decide +kernel)
  refine ⟨?_, (hgiven none "/absent").2 (by decide +kernel),
    ⟨Prod.ext hdefault hleft, hagain hread, ?_⟩, hused, hadds not_writesDefault_notes⟩
  · rw [← hnotes]
    exact (hgiven none "/notes").1 _ (by decide +kernel)
  · rw [← hleft]
    exact hkept

/-! ### What is named but not led to -/

/-- A path to a file in the working directory, with more slashes than it needs. -/
def slashed (count : Nat) : String :=
  "." ++ "/" ++ String.ofList (List.replicate count '/') ++ "guest.toml"

/-- The file that such paths name. -/
def guest : FileTree where
  nodes := [(["guest.toml"], .file .all (Utf8.encode defaultText)), ([], .directory .all)]
  working := []
  root := by decide
  rooted := by decide

theorem names_slashed (count : Nat) :
    Path.names (slashed count) = "." :: (List.replicate count "" ++ ["guest.toml"]) := by
  rw [slashed, String.append_assoc, Path.names_append_slash, Path.names, Path.names]
  simp only [String.toList_append, String.toList_ofList, Path.split_replicate_slash,
    List.map_append, List.map_replicate]
  rfl

theorem utf8ByteSize_slashed (count : Nat) : (slashed count).utf8ByteSize = count + 12 := by
  have hslashes : (String.ofList (List.replicate count '/')).utf8ByteSize = count := by
    induction count with
    | zero => rfl
    | succ count ih =>
        rw [List.replicate_succ, String.ofList_cons, String.utf8ByteSize_append, ih, Nat.add_comm]
        rfl
  have hnames : ("." ++ "/").utf8ByteSize = 2 ∧ "guest.toml".utf8ByteSize = 10 := by decide
  rw [slashed, String.utf8ByteSize_append, String.utf8ByteSize_append]
  omega

theorem walk_slashed (count : Nat) :
    guest.walk (Path.names (slashed count)) guest.working =
      .ok ⟨["guest.toml"], FileTree.linkLimit⟩ := by
  have hstay : guest.walk ("." :: List.replicate count "") [] = .ok ⟨[], FileTree.linkLimit⟩ := by
    have hroot : guest.node? [] = some (.directory .all) := rfl
    refine FileTree.walk_eq_self ?_ hroot
    intro name hname
    rcases List.mem_cons.1 hname with rfl | hblank
    · decide +kernel
    · obtain rfl := List.eq_of_mem_replicate hblank
      decide +kernel
  have hfile : guest.enter FileTree.linkLimit ⟨[], FileTree.linkLimit⟩ "guest.toml" =
      .ok ⟨["guest.toml"], FileTree.linkLimit⟩ := by decide +kernel
  rw [names_slashed, ← List.cons_append, FileTree.walk_concat]
  change guest.walk _ [] >>= _ = _
  rw [hstay]
  exact hfile

/-- A path with more slashes than a path may have bytes. -/
def longPath : String := slashed FileTree.pathLimit

theorem pathLimit_le_longPath : FileTree.pathLimit ≤ longPath.utf8ByteSize := by
  rw [longPath, utf8ByteSize_slashed]
  exact Nat.le_add_right _ 12

/-- A file that is no configuration, in a directory that may not be searched. -/
def closed : FileTree where
  nodes :=
    [(["xdg", "crosswl", "config.toml"], .file .all (Utf8.encode "hello")),
      (["xdg", "crosswl"], .directory { Rights.all with search := false }),
      (["xdg"], .directory .all), ([], .directory .all)]
  working := []
  root := by decide
  rooted := by decide

/-- A link where the configuration should be, to where nothing is. -/
def dangling : FileTree where
  nodes :=
    [(["xdg", "crosswl", "config.toml"], .link "/notes"), (["xdg", "crosswl"], .directory .all),
      (["xdg"], .directory .all), ([], .directory .all)]
  working := []
  root := by decide
  rooted := by decide

/-- A file that a path reaches only by stepping back from a new directory. -/
def detour : FileTree where
  nodes :=
    [(["home", "crosswl", "config.toml"], .file .all (Utf8.encode "hello")),
      (["home", "crosswl"], .directory .all), (["home"], .directory .all), ([], .directory .all)]
  working := []
  root := by decide
  rooted := by decide

/-- Something can be at the place that a path names, and is overlooked.

A file is reported as missing though its text can be parsed, since its path is too long.  What is at
the default location is no configuration, and no error is reported, since its directory may not be
searched.  A link is at the default location, and a file is made where it leads.  A file is written
over, which the default path reaches only once there is a directory to step back from. -/
theorem load_overlooks :
    (guest.walk (Path.names longPath) guest.working =
        .ok ⟨["guest.toml"], FileTree.linkLimit⟩ ∧
      guest.node? ["guest.toml"] = some (.file .all (Utf8.encode defaultText)) ∧
      parse defaultText = .ok default ∧
      loadOn none (some longPath) guest = (.error (.noSuchFile longPath), guest)) ∧
    (closed.node? ["xdg", "crosswl", "config.toml"] = some (.file .all (Utf8.encode "hello")) ∧
      parse "hello" = .error .malformed ∧
      loadOn (some "/xdg") none closed = (.ok default, closed)) ∧
    (dangling.node? ["xdg", "crosswl", "config.toml"] = some (.link "/notes") ∧
      dangling.node? ["notes"] = none ∧
      (loadOn (some "/xdg") none dangling).2.node? ["notes"] =
        some (.file .all (Utf8.encode defaultText))) ∧
    (detour.node? ["home", "crosswl", "config.toml"] =
        some (.file .all (Utf8.encode "hello")) ∧
      (loadOn (some "/new/../home") none detour).2.node? ["home", "crosswl", "config.toml"] =
        some (.file .all (Utf8.encode defaultText))) := by
  have habsent : guest.find? longPath = none := FileTree.find?_eq_none pathLimit_le_longPath
  refine ⟨⟨walk_slashed FileTree.pathLimit, rfl, parse_defaultText,
    loadOn_given_absent none habsent⟩, ⟨rfl, ?_, ?_⟩, ⟨rfl, rfl, ?_⟩, rfl, ?_⟩
  all_goals decide +kernel

end Config

end GuestShell

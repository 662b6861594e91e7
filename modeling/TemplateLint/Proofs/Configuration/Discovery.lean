import TemplateLint.Configuration.Load
import TemplateLint.Proofs.FileTree.Contents
import TemplateLint.Proofs.FileTree.HeldFiles

/-!
# Configuration files of a directory

The configuration file that is found in a directory is the first regular file
with one of the two names, if its path is short enough.  Relative commands in
it are read from that directory, however the path of the directory is spelled:
the directory is got back from the path of the file, and leads to the same
place.
-/

namespace TemplateLint.Configuration

/-! ## Finding the file -/

/-- A directory offers a configuration file of that name: it holds one, and
the path of it can be looked up. -/
structure Offers (tree : FileTree) (directory name : Path) : Prop where
  holds : tree.HoldsFile directory name
  short : (Path.join directory name).length ≤ longestPath

theorem isName_of_mem_fileNames : ∀ name ∈ fileNames, IsName name := by
  decide

variable {tree : FileTree} {directory path : Path}

theorem isFile_join_iff_offers {name : Path} (member : name ∈ fileNames) :
    tree.isFile (Path.join directory name) = true ↔
      Offers tree directory name := by
  rw [FileTree.isFile_join_iff (isName_of_mem_fileNames name member)]
  exact ⟨fun ⟨holds, short⟩ => ⟨holds, short⟩,
    fun ⟨holds, short⟩ => ⟨holds, short⟩⟩

/-- The file that is found is the first one that the directory offers. -/
theorem first_offer_of_discover (found : discover tree directory = some path) :
    ∃ before name after, fileNames = before ++ name :: after ∧
      path = Path.join directory name ∧ Offers tree directory name ∧
      ∀ other ∈ before, ¬Offers tree directory other := by
  rw [discover, List.find?_map, Option.map_eq_some_iff] at found
  obtain ⟨name, first, rfl⟩ := found
  rw [List.find?_eq_some_iff_append] at first
  obtain ⟨isFile, before, after, split, others⟩ := first
  have nameMember : name ∈ fileNames := by simp [split]
  refine ⟨before, name, after, split, rfl,
    (isFile_join_iff_offers nameMember).mp isFile, ?_⟩
  intro other member
  have otherMember : other ∈ fileNames := by simp [split, member]
  rw [← isFile_join_iff_offers otherMember]
  simpa using others other member

theorem discover_eq_none_iff :
    discover tree directory = none ↔
      ∀ name ∈ fileNames, ¬Offers tree directory name := by
  rw [discover, List.find?_eq_none, List.forall_mem_map]
  refine forall₂_congr fun name member => ?_
  rw [isFile_join_iff_offers member]

theorem lookup_of_discover (found : discover tree directory = some path) :
    ∃ content mode, tree.lookup path = .ok (.file content mode) ∧
      mode.regular = true :=
  (FileTree.isFile_eq_true_iff tree path).mp (List.find?_some found)

/-! ## Loading the file -/

/-- Only files are unreadable, texts are not. -/
theorem parse_ne_unreadable (text : String) (other : Path)
    (fault : ReadFault) :
    parse text ≠ .error (.unreadable other fault) := by
  intro unreadable
  rcases parse_cases text with ⟨_, refused⟩ | ⟨_, refused⟩ | ⟨value, isValue⟩
  · cases refused.symm.trans unreadable
  · cases refused.symm.trans unreadable
  · rcases ofValue_cases value with ⟨_, refused⟩ | ⟨_, isLoaded, _⟩
    · cases refused.symm.trans (isValue.symm.trans unreadable)
    · cases isLoaded.symm.trans (isValue.symm.trans unreadable)

/-- A file cannot be read exactly if it is kept from being read or is not
well-formed text. -/
theorem load_unreadable_iff {content : ByteArray} {mode : FileMode}
    (isFile : tree.lookup path = .ok (.file content mode)) :
    (∃ other fault, load tree path = .error (.unreadable other fault)) ↔
      mode.readable = false ∨ Text.decodeStrict content = none := by
  by_cases readable : mode.readable = true
  · cases decoded : Text.decodeStrict content with
    | none => simp [load, FileTree.readText, isFile, readable, decoded]
    | some text =>
        have read : tree.readText path = .ok text := by
          simp [FileTree.readText, isFile, readable, decoded]
        have isText := parse_ne_unreadable text
        cases parsed : parse text with
        | ok configuration =>
            simp [load, read, readable, parsed, Except.map]
        | error fault =>
            rw [parsed] at isText
            simpa [load, read, readable, parsed, Except.map] using isText
  · simp [load, FileTree.readText, isFile, readable]

/-- The base directory is the one that the file has been looked for in, without
the slashes and lone points at its end. -/
theorem baseDirectory_of_load {name : Path} (proper : IsName name)
    {configuration : Configuration}
    (loaded : load tree (Path.join directory name) = .ok configuration) :
    configuration.baseDirectory = some (Path.trimmed directory) := by
  unfold load at loaded
  rw [Path.parent?_join proper] at loaded
  split at loaded
  · cases loaded
  · next text read =>
      cases parsed : parse text with
      | error fault => simp [parsed, Except.map] at loaded
      | ok other =>
          rw [parsed] at loaded
          cases loaded
          rfl

/-! ## The directory of a configuration file -/

/-- Where the command of a configuration that is loaded from a directory leads
to: to the place that the directory and then the command lead to. -/
theorem program_of_load {name : Path} {command : String} (proper : IsName name)
    {configuration : Configuration}
    (loaded : load tree (Path.join directory name) = .ok configuration)
    (relative : Path.isAbsolute command = false)
    (several : 1 < Path.componentCount command) :
    ({ configuration with command := command } : Configuration).program =
      Path.join (Path.trimmed directory) command := by
  simp [program, baseDirectory_of_load proper loaded, relative, several]

/-- A command of several components is not empty. -/
theorem filled_of_several {command : String}
    (several : 1 < Path.componentCount command) :
    Path.ofText command ≠ [] := by
  intro empty
  rw [empty] at several
  exact absurd several (by decide)

/-- The configuration file of a directory is the first one that it offers, and
it can be read if nothing keeps it from being read and it is well-formed text.
A relative command of several components in it leads to the same place as the
directory with the command joined to it, and is looked up like that, unless
this is too long. -/
theorem discovered_in_directory (tree : FileTree) (directory : Path) :
    (∀ path, discover tree directory = some path →
      (∃ before name after, fileNames = before ++ name :: after ∧
        path = Path.join directory name ∧ Offers tree directory name ∧
        ∀ other ∈ before, ¬Offers tree directory other) ∧
      (∃ content mode,
        tree.lookup path = .ok (.file content mode) ∧
        ((∃ other fault,
            load tree path = .error (.unreadable other fault)) ↔
          mode.readable = false ∨ Text.decodeStrict content = none)) ∧
      ∀ configuration, load tree path = .ok configuration →
        ∀ command : String, Path.isAbsolute command = false →
          1 < Path.componentCount command →
          let program :=
            ({ configuration with command := command } : Configuration).program
          let joined := Path.join directory command
          (∀ links (position : Position),
            position.follow links (Path.parts program) =
              position.follow links (Path.parts joined)) ∧
          (joined.length ≤ longestPath →
            ∀ other : FileTree, other.lookup program = other.lookup joined)) ∧
    (discover tree directory = none →
      ∀ name ∈ fileNames, ¬Offers tree directory name) := by
  refine ⟨fun path found => ?_, discover_eq_none_iff.mp⟩
  obtain ⟨content, mode, isFile, _⟩ := lookup_of_discover found
  obtain ⟨before, name, after, split, rfl, offers, others⟩ :=
    first_offer_of_discover found
  have proper : IsName name := isName_of_mem_fileNames name (by simp [split])
  refine ⟨⟨before, name, after, split, rfl, offers, others⟩,
    ⟨content, mode, isFile, load_unreadable_iff isFile⟩, ?_⟩
  intro configuration loaded command relative several program joined
  have isProgram : program = Path.join (Path.trimmed directory) command :=
    program_of_load proper loaded relative several
  have filled := filled_of_several several
  have noNul := ((FileTree.holdsFile_iff proper).mp offers.holds).1
  rw [isProgram]
  exact ⟨fun links position =>
      position.follow_join_trimmed filled relative links directory,
    fun short => FileTree.lookup_join_trimmed noNul filled relative short⟩

/-- A link to a directory, spelled from the root and with slashes and points
behind it, with a directory in the place of the preferred file and a link in
the other's. -/
theorem discovered_in_directory_over_links :
    let content := "\x7b\"engine\": \x7b\"command\": \"./lint\"\x7d\x7d".toUTF8
    let tree := ((((FileTree.empty.putDirectory
      "site/.liquidlint.jsonc").putFile "shared/all.json" content).putLink
        "site/.liquidlint.json" "/work/shared/all.json").putFile
          "site/lint" ByteArray.empty { runnable := true }).putLink
            "theme" "site"
    ∃ configuration,
      discover tree "/../work/theme//./" =
        some "/../work/theme//./.liquidlint.json" ∧
      load tree "/../work/theme//./.liquidlint.json" = .ok configuration ∧
      configuration.program = "/../work/theme/./lint" ∧
      tree.lookup configuration.program =
        tree.lookup "/../work/theme//././lint" := by
  intro content tree
  have found : discover tree "/../work/theme//./" =
      some "/../work/theme//./.liquidlint.json" := by
    decide +kernel
  have loads : (load tree "/../work/theme//./.liquidlint.json").toOption =
      some { command := "./lint", baseDirectory := some "/../work/theme" } := by
    decide +kernel
  cases loaded : load tree "/../work/theme//./.liquidlint.json" with
  | error fault => simp [loaded, Except.toOption] at loads
  | ok configuration =>
      have isConfiguration : configuration =
          { command := "./lint", baseDirectory := some "/../work/theme" } := by
        simpa [loaded, Except.toOption] using loads
      subst isConfiguration
      obtain ⟨_, _, leads⟩ :=
        (discovered_in_directory tree "/../work/theme//./").1 _ found
      have sameFile := (leads _ loaded "./lint" (by decide) (by decide)).2
        (by decide) tree
      exact ⟨_, found, rfl, by decide, sameFile⟩

/-! ## Paths that are too long -/

/-- A directory with a configuration file. -/
def configured : FileTree :=
  FileTree.empty.putFile ("d" ++ Path.slash :: Path.ofText ".liquidlint.json")
    "\x7b\x7d".toUTF8

/-- With enough slashes behind the path of its directory, a configuration file
is not found. -/
theorem discover_misses_long_path :
    let directory := FileTree.slashed 4090
    ∃ access entries,
      configured.lookup directory = .ok (.directory access entries) ∧
      NameMap.get? (Path.ofText ".liquidlint.json") entries =
        some (.file "\x7b\x7d".toUTF8 {}) ∧
      configured.HoldsFile directory ".liquidlint.json" ∧
      discover configured directory = none := by
  intro directory
  have isDirectory : configured.lookup "d" =
      .ok (.directory {} [(".liquidlint.json",
        .file "\x7b\x7d".toUTF8 {})]) := by
    rw [configured, FileTree.putFile]
    exact FileTree.lookup_place (by decide) (by decide) _
  have resolved : configured.lookup directory = _ :=
    FileTree.lookup_append_slashes isDirectory 4090 (by decide)
  have entry : NameMap.get? (Path.ofText ".liquidlint.json")
      [(Path.ofText ".liquidlint.json",
        Node.file "\x7b\x7d".toUTF8 {})] =
          some (.file "\x7b\x7d".toUTF8 {}) := by
    simp [NameMap.get?_cons]
  refine ⟨_, _, resolved, entry,
    .file (FileTree.leadsToDirectory_of_lookup resolved) rfl entry rfl, ?_⟩
  rw [discover_eq_none_iff]
  intro name member offers
  have nameLengths : ∀ name ∈ fileNames, 5 ≤ name.length := by decide
  have nameLength := nameLengths name member
  have length := Path.le_length_join directory
    (Path.isAbsolute_of_isName (isName_of_mem_fileNames name member))
  have directoryLength : directory.length = 4091 :=
    FileTree.length_slashed 4090
  have short := offers.short
  unfold longestPath at short
  omega

end TemplateLint.Configuration

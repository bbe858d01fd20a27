import Listfile.CommandLine
import Listfile.Proofs.Descriptor.Resolution
import Listfile.Proofs.Generation.Repetition
import Listfile.Proofs.Project.Document

set_option autoImplicit false

/-! The modes of the command line over one tree and one root. All of them resolve the root first and fail alike if it
does not resolve. Printing the project comes before printing the listfile, which comes before writing it, and only
writing changes the tree: the file then holds what would have been printed. -/

namespace Listfile

theorem path_of_readInfo {root : Path} {top : Fields} {info : ProjectInfo} (read : readInfo root top = .ok info) :
    info.path = root := by
  simp only [readInfo, bind_eq_ok_iff] at read
  obtain ⟨version, _versionRead, name, _nameRead, same⟩ := read
  cases same
  rfl

theorem checkRoot_eq_ok_iff (tree : FileTree) (root : Path) :
    checkRoot tree root = .ok () ↔ root.isText = true ∧ tree.isDirectory root = true := by
  unfold checkRoot
  cases root.isText with
  | false => simp
  | true => cases tree.isDirectory root <;> simp

/-- A root that is no text is refused before anything is read, so a resolved project can always be written down. -/
theorem isText_of_resolve {tree : FileTree} {root : Path} {project : Project}
    (resolved : (resolve tree root).outcome = .ok project) : project.info.path.isText = true := by
  obtain ⟨isRoot, descriptor, _loaded, described⟩ := (resolve_eq_ok_iff tree root project).1 resolved
  obtain ⟨members, units, _isObject, read⟩ := (resolveDescriptor_eq_ok_iff tree root descriptor project).1 described
  rw [path_of_readInfo read.info]
  exact ((checkRoot_eq_ok_iff tree root).1 isRoot).1

theorem parse_document_of_resolve {tree : FileTree} {root : Path} {project : Project}
    (resolved : (resolve tree root).outcome = .ok project)
    (sizes : ∀ library ∈ project.importedLibraries, library.files.length ≤ Json.greatestWord) :
    Json.parse (project.toJson.indented 0 ++ "\n") = .ok project.toJson := by
  obtain ⟨_isRoot, descriptor, _loaded, described⟩ := (resolve_eq_ok_iff tree root project).1 resolved
  obtain ⟨_members, _units, _isObject, read⟩ := (resolveDescriptor_eq_ok_iff tree root descriptor project).1 described
  exact Project.parse_document (read.countsFit sizes)

theorem FileTree.openFile_succeeds_iff (tree : FileTree) (path : Path) :
    (∃ opened, tree.openFile path = .ok opened) ↔ ∃ place, tree.writingPlaceOf path = .ok place := by
  unfold FileTree.openFile
  cases tree.writingPlaceOf path <;> simp

namespace CommandLine

theorem runArguments_of_parse {arguments : List Path} {options : Options} (accepted : parse arguments = .run options)
    (tree : FileTree) : runArguments tree arguments = runOptions tree options := by
  rw [runArguments, accepted]

section

variable (tree : FileTree) (options : Options)

theorem runOptions_of_unresolved {reason : Problem}
    (unresolved : (resolve tree options.rootPath).outcome = .error reason) :
    runOptions tree options = ⟨1, explain options.rootPath (.unresolved reason), tree⟩ := by
  have asText := generateText_outcome tree options.rootPath
  rw [unresolved] at asText
  rw [runOptions, unresolved, asText, Generation.run_of_error unresolved]
  dsimp only
  split
  · rfl
  · split <;> rfl

variable {project : Project}

theorem runOptions_dump (resolved : (resolve tree options.rootPath).outcome = .ok project)
    (asked : options.dumpModel = true) : runOptions tree options = ⟨0, project.toJson.indented 0 ++ "\n", tree⟩ := by
  rw [runOptions, if_pos asked, resolved]
  dsimp only
  rw [Project.document, if_pos (isText_of_resolve resolved)]

theorem runOptions_print (resolved : (resolve tree options.rootPath).outcome = .ok project)
    (noDump : options.dumpModel = false) (asked : options.toStdout = true) :
    runOptions tree options = ⟨0, project.script, tree⟩ := by
  have asText := generateText_outcome tree options.rootPath
  rw [resolved] at asText
  rw [runOptions, if_neg (Bool.not_eq_true _ ▸ noDump), if_pos asked, asText]
  rfl

theorem runOptions_plain (noDump : options.dumpModel = false) (noPrint : options.toStdout = false) :
    (runOptions tree options).tree = (Generation.run tree options.rootPath).tree ∧
      (runOptions tree options).exitCode =
        if (Generation.run tree options.rootPath).attempt.outcome.toBool then 0 else 1 := by
  rw [runOptions, if_neg (Bool.not_eq_true _ ▸ noDump), if_neg (Bool.not_eq_true _ ▸ noPrint)]
  dsimp only
  cases (Generation.run tree options.rootPath).attempt.outcome <;> exact ⟨rfl, rfl⟩

theorem runOptions_refused (resolved : (resolve tree options.rootPath).outcome = .ok project) {fault : FileFault}
    (refused : tree.writingPlaceOf (listfilePath options.rootPath) = .error fault)
    (noDump : options.dumpModel = false) (noPrint : options.toStdout = false) :
    (runOptions tree options).exitCode = 1 ∧ (runOptions tree options).tree = tree := by
  obtain ⟨sameTree, sameExit⟩ := runOptions_plain tree options noDump noPrint
  rw [sameTree, sameExit, Generation.run_of_refused resolved refused]
  exact ⟨rfl, rfl⟩

theorem runOptions_written (resolved : (resolve tree options.rootPath).outcome = .ok project) {place : Location}
    (creatable : tree.writingPlaceOf (listfilePath options.rootPath) = .ok place)
    (noDump : options.dumpModel = false) (noPrint : options.toStdout = false) :
    (runOptions tree options).exitCode = 0 ∧
      (runOptions tree options).tree = tree.set place (.file (.text project.script)) := by
  obtain ⟨sameTree, sameExit⟩ := runOptions_plain tree options noDump noPrint
  rw [sameTree, sameExit, Generation.run_of_creatable resolved creatable]
  exact ⟨rfl, rfl⟩

end

/-- What the runs with one root do if it resolves. A run is known by its flags: whether it prints the listfile, and
whether it prints the project. -/
structure Performs (tree : FileTree) (root : Path) (project : Project) (runs : Bool → Bool → Result) : Prop where
  /-- The path of the project is text, so that the project can be written down. -/
  isText : project.info.path.isText = true
  dumps : ∀ toStdout, runs toStdout true = ⟨0, project.toJson.indented 0 ++ "\n", tree⟩
  /-- Every field of the project is found in the document. -/
  determined : Project.ofJson? project.toJson = some project
  /-- What is printed is read as the document, as long as the numbers in it are machine words. -/
  parsed : (∀ library ∈ project.importedLibraries, library.files.length ≤ Json.greatestWord) →
    ∀ toStdout, Json.parse (runs toStdout true).output = .ok project.toJson
  prints : runs true false = ⟨0, project.script, tree⟩
  writes_iff : (runs false false).exitCode = 0 ↔ ∃ opened, tree.openFile (listfilePath root) = .ok opened
  /-- The file that was written holds what the listfile printed. -/
  writes : (runs false false).exitCode = 0 →
    ∃ place, tree.Wrote (runs false false).tree (listfilePath root) place (runs true false).output
  fails : (runs false false).exitCode ≠ 0 → (runs false false).exitCode = 1 ∧ (runs false false).tree = tree

def ModesAgree (tree : FileTree) (root : Path) (runs : Bool → Bool → Result) : Prop :=
  match (resolve tree root).outcome with
  | .error reason => ∀ toStdout dumpModel, runs toStdout dumpModel = ⟨1, explain root (.unresolved reason), tree⟩
  | .ok project => Performs tree root project runs

theorem performs_runOptions {tree : FileTree} {root : Option Path} {project : Project}
    (resolved : (resolve tree (root.getD (Path.ofString "."))).outcome = .ok project) :
    Performs tree (root.getD (Path.ofString ".")) project
      fun toStdout dumpModel => runOptions tree ⟨root, toStdout, dumpModel⟩ := by
  have dumped : ∀ toStdout, runOptions tree ⟨root, toStdout, true⟩ = ⟨0, project.toJson.indented 0 ++ "\n", tree⟩ :=
    fun toStdout => runOptions_dump tree ⟨root, toStdout, true⟩ resolved rfl
  have parsed : (∀ library ∈ project.importedLibraries, library.files.length ≤ Json.greatestWord) → ∀ toStdout,
      Json.parse (runOptions tree ⟨root, toStdout, true⟩).output = .ok project.toJson := by
    intro sizes toStdout
    rw [dumped]
    exact parse_document_of_resolve resolved sizes
  have isText := isText_of_resolve resolved
  have printed := runOptions_print tree ⟨root, true, false⟩ resolved rfl rfl
  have openable := FileTree.openFile_succeeds_iff tree (listfilePath (root.getD (Path.ofString ".")))
  cases creatable : tree.writingPlaceOf (listfilePath (root.getD (Path.ofString "."))) with
  | error fault =>
      obtain ⟨exit, unchanged⟩ := runOptions_refused tree ⟨root, false, false⟩ resolved creatable rfl rfl
      exact
        { isText := isText
          dumps := dumped
          determined := Project.ofJson?_toJson isText
          parsed := parsed
          prints := printed
          writes_iff := by
            rw [exit, openable, creatable]
            simp
          writes := fun succeeded => absurd (exit.symm.trans succeeded) Nat.one_ne_zero
          fails := fun _failed => ⟨exit, unchanged⟩ }
  | ok place =>
      obtain ⟨exit, after⟩ := runOptions_written tree ⟨root, false, false⟩ resolved creatable rfl rfl
      exact
        { isText := isText
          dumps := dumped
          determined := Project.ofJson?_toJson isText
          parsed := parsed
          prints := printed
          writes_iff := by
            rw [exit, openable, creatable]
            simp
          writes := fun _succeeded => by
            rw [after, printed]
            exact ⟨place, FileTree.wrote_set creatable project.script⟩
          fails := fun failed => absurd exit failed }

/-- Whatever the tree, the root and the spelling of the four command lines. -/
theorem modes_agree (tree : FileTree) (root : Option Path) (commands : Bool → Bool → List Path)
    (accepted : ∀ toStdout dumpModel, parse (commands toStdout dumpModel) = .run ⟨root, toStdout, dumpModel⟩) :
    ModesAgree tree (root.getD (Path.ofString "."))
      fun toStdout dumpModel => runArguments tree (commands toStdout dumpModel) := by
  have performed : ∀ toStdout dumpModel,
      runArguments tree (commands toStdout dumpModel) = runOptions tree ⟨root, toStdout, dumpModel⟩ :=
    fun toStdout dumpModel => runArguments_of_parse (accepted toStdout dumpModel) tree
  simp only [performed]
  rw [ModesAgree]
  cases resolution : (resolve tree (root.getD (Path.ofString "."))).outcome with
  | error reason =>
      intro toStdout dumpModel
      exact runOptions_of_unresolved tree ⟨root, toStdout, dumpModel⟩ resolution
  | ok project => exact performs_runOptions resolution

def command (root : Path) (toStdout dumpModel : Bool) : List Path :=
  (if toStdout then [Path.ofString "--stdout"] else []) ++ (if dumpModel then [Path.ofString "--dump-model"] else []) ++
    [Path.ofString "--", root]

theorem parse_command {root : Path} (filled : root.units ≠ []) (toStdout dumpModel : Bool) :
    parse (command root toStdout dumpModel) = .run ⟨some root, toStdout, dumpModel⟩ := by
  have behind : ∀ options : Options, options.root = none →
      parseFrom options [Path.ofString "--", root] = .run { options with root := some root } := by
    intro options free
    rw [parseFrom, if_pos rfl]
    simp [parseRoots, Options.withRoot?, free, filled]
  rw [parse]
  cases toStdout <;> cases dumpModel
  · exact behind .none rfl
  · exact behind ⟨none, false, true⟩ rfl
  · exact behind ⟨none, true, false⟩ rfl
  · exact behind ⟨none, true, true⟩ rfl

/-- A run that writes the listfile among the files that it searches, with the other runs beside it. -/
theorem modes_agree_selfSearchTree :
    (∀ toStdout dumpModel, parse (command hereRoot toStdout dumpModel) = .run ⟨some hereRoot, toStdout, dumpModel⟩) ∧
      (∃ project, (resolve (selfSearchTree (String.join selfSearchLines)) hereRoot).outcome = .ok project) ∧
      ModesAgree (selfSearchTree (String.join selfSearchLines)) hereRoot fun toStdout dumpModel =>
        runArguments (selfSearchTree (String.join selfSearchLines)) (command hereRoot toStdout dumpModel) := by
  have filled : hereRoot.units ≠ [] := by decide
  have accepted := parse_command filled
  exact ⟨accepted, exists_resolve_selfSearchTree parse_selfSearchLines,
    modes_agree _ (some hereRoot) (command hereRoot) accepted⟩

end CommandLine

end Listfile

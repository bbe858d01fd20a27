import Listfile.Descriptor.Libraries
import Listfile.Proofs.Descriptor.Discovery
import Listfile.Proofs.Descriptor.Fields

set_option autoImplicit false

/-! What the reader of an imported library reads, and when it succeeds. As with outputs, the parts of a library
are read from its fields alone, and the library is computed from the parts. -/

namespace Listfile

open Schema

theorem readLinkage_eq_ok_iff (fields : Fields) (linkage : Linkage) :
    readLinkage fields = .ok linkage ↔
      ∃ word, fields.get? Tag.kind = some (.string word) ∧ Text.lowercase word = linkage.word := by
  simp only [readLinkage, bind_eq_ok_iff, Fields.requireText_eq_ok_iff]
  refine exists_congr fun word => and_congr_right fun _present => ?_
  constructor
  · intro read
    split at read
    · rename_i isStatic
      cases read
      exact isStatic
    · split at read
      · rename_i isShared
        cases read
        exact isShared
      · cases read
  · intro same
    rw [same]
    cases linkage <;> rfl

theorem readLinkage_succeeds_iff (fields : Fields) :
    (∃ linkage, readLinkage fields = .ok linkage) ↔
      Required fields.members Tag.kind (IsWordOf ["static", "shared"]) := by
  have all : ∀ linkage : Linkage, linkage ∈ [Linkage.static, Linkage.shared] := by
    intro linkage
    cases linkage <;> decide
  exact Fields.kind_succeeds_iff (readLinkage_eq_ok_iff fields) all

structure LibraryParts where
  linkage : Linkage
  rootDirectory : String
  files : List String
  searchedDirectories : List String
  literalDirectories : List String
  literalHeaders : List String

namespace LibraryParts

structure ReadFrom (fields : Fields) (parts : LibraryParts) : Prop where
  linkage : readLinkage fields = .ok parts.linkage
  rootDirectory : fields.requireText Tag.rootDirectory (some Reason.rootDirectory) = .ok parts.rootDirectory
  files : fields.requireTexts Tag.libraryFiles (some Reason.libraryFiles) = .ok parts.files
  searchedDirectories : fields.requireTexts Tag.searchedIncludeDirectories (some Reason.importedIncludeDirectories) =
    .ok parts.searchedDirectories
  literalDirectories : fields.optionalTexts Tag.includeDirectories = .ok parts.literalDirectories
  literalHeaders : fields.optionalTexts Tag.headerFiles = .ok parts.literalHeaders

def base (root : Path) (parts : LibraryParts) : Path := root.join (Path.ofString parts.rootDirectory)

def library (tree : FileTree) (root : Path) (name : String) (parts : LibraryParts) : ImportedLibrary where
  name := name
  linkage := parts.linkage
  rootDirectory := scriptPath (parts.base root) root
  files := orderedUnion [] (libraryPaths root (parts.base root) parts.files)
  includeDirectories := orderedUnion (tree.findDirectories root (parts.base root) parts.searchedDirectories)
    (libraryPaths root (parts.base root) parts.literalDirectories)
  headerFiles := orderedUnion (tree.findFiles root (parts.base root) parts.searchedDirectories headerSuffixes)
    (libraryPaths root (parts.base root) parts.literalHeaders)

end LibraryParts

theorem readLibraryFields_eq_ok_iff (tree : FileTree) (root : Path) (name : String) (fields : Fields)
    (library : ImportedLibrary) :
    (readLibraryFields tree root name fields).outcome = .ok library ↔
      ∃ parts : LibraryParts, parts.ReadFrom fields ∧ parts.files ≠ [] ∧ library = parts.library tree root name := by
  simp only [readLibraryFields, Attempt.outcome_bind, Attempt.outcome_lift, bind_eq_ok_iff]
  constructor
  · intro premise
    obtain ⟨linkage, linkageRead, rootDirectory, rootRead, files, filesRead, rest⟩ := premise
    split at rest
    · cases rest
    · rename_i filled
      simp only [Attempt.outcome_bind, Attempt.outcome_lift, Attempt.outcome_note, bind_eq_ok_iff] at rest
      obtain ⟨searched, searchedRead, _, _, _, _, directories, directoriesRead, headers, headersRead, _, _,
        same⟩ := rest
      exact ⟨⟨linkage, rootDirectory, files, searched, directories, headers⟩,
        ⟨linkageRead, rootRead, filesRead, searchedRead, directoriesRead, headersRead⟩, by simpa using filled,
        (Except.ok.inj same).symm⟩
  · intro premise
    obtain ⟨parts, read, filled, same⟩ := premise
    refine ⟨parts.linkage, read.linkage, parts.rootDirectory, read.rootDirectory, parts.files, read.files, ?_⟩
    rw [if_neg (by simpa using filled)]
    simp only [Attempt.outcome_bind, Attempt.outcome_lift, Attempt.outcome_note, bind_eq_ok_iff]
    exact ⟨parts.searchedDirectories, read.searchedDirectories, (), trivial, (), trivial, parts.literalDirectories,
      read.literalDirectories, parts.literalHeaders, read.literalHeaders, (), trivial, congrArg Except.ok same.symm⟩

theorem readLibrary_eq_ok_iff (tree : FileTree) (root : Path) (name : String) (value : Json)
    (library : ImportedLibrary) :
    (readLibrary tree root name value).outcome = .ok library ↔
      ∃ members, value = .object members ∧ ∃ parts : LibraryParts, parts.ReadFrom ⟨members, some name⟩ ∧
        parts.files ≠ [] ∧ library = parts.library tree root name := by
  simp only [readLibrary, Attempt.outcome_bind, Attempt.outcome_lift, Fields.ofEntry_bind_eq_ok_iff,
    readLibraryFields_eq_ok_iff]

theorem readLibraries_eq_ok_iff (tree : FileTree) (root : Path) (top : Fields) (libraries : List ImportedLibrary) :
    (readLibraries tree root top).outcome = .ok libraries ↔
      ∃ members, top.optionalObject Tag.importedLibraries = .ok members ∧
        List.Forall₂ (fun member library => (readLibrary tree root member.1 member.2).outcome = .ok library)
          members libraries := by
  simp only [readLibraries, Attempt.outcome_bind, Attempt.outcome_lift, bind_eq_ok_iff, Attempt.outcome_mapM,
    mapM_eq_ok_iff]

theorem readLibraries_names {tree : FileTree} {root : Path} {top : Fields} {libraries : List ImportedLibrary}
    (read : (readLibraries tree root top).outcome = .ok libraries) :
    libraries.map ImportedLibrary.name = names top.members Tag.importedLibraries := by
  obtain ⟨members, present, related⟩ := (readLibraries_eq_ok_iff tree root top libraries).1 read
  rw [names, membersUnder_of_optional present]
  refine forall₂_map_eq Prod.fst ImportedLibrary.name related ?_
  intro member library each
  obtain ⟨_, _, parts, _, _, same⟩ := (readLibrary_eq_ok_iff _ _ _ _ _).1 each
  rw [same]
  rfl

theorem readLibrary_succeeds_iff (tree : FileTree) (root : Path) (name : String) (value : Json) :
    (∃ library, (readLibrary tree root name value).outcome = .ok library) ↔ IsObjectOf IsLibrary value := by
  simp only [readLibrary_eq_ok_iff]
  constructor
  · intro premise
    obtain ⟨library, members, isObject, parts, read, filled, _same⟩ := premise
    refine ⟨members, isObject, ?_⟩
    exact
      { kind := (readLinkage_succeeds_iff _).1 ⟨_, read.linkage⟩
        rootDirectory := (Fields.requireText_succeeds_iff _ _ _).1 ⟨_, read.rootDirectory⟩
        files := (Fields.requireTexts_filled_iff _ _ _).1 ⟨_, read.files, filled⟩
        searchedIncludeDirectories := (Fields.requireTexts_succeeds_iff _ _ _).1 ⟨_, read.searchedDirectories⟩
        includeDirectories := (Fields.optionalTexts_succeeds_iff _ _).1 ⟨_, read.literalDirectories⟩
        headerFiles := (Fields.optionalTexts_succeeds_iff _ _).1 ⟨_, read.literalHeaders⟩ }
  · intro premise
    obtain ⟨members, isObject, shape⟩ := premise
    let fields : Fields := ⟨members, some name⟩
    obtain ⟨linkage, linkageRead⟩ := (readLinkage_succeeds_iff fields).2 shape.kind
    obtain ⟨rootDirectory, rootRead⟩ := (fields.requireText_succeeds_iff Tag.rootDirectory
      (some Reason.rootDirectory)).2 shape.rootDirectory
    obtain ⟨files, filesRead, filled⟩ := (fields.requireTexts_filled_iff Tag.libraryFiles
      (some Reason.libraryFiles)).2 shape.files
    obtain ⟨searched, searchedRead⟩ := (fields.requireTexts_succeeds_iff Tag.searchedIncludeDirectories
      (some Reason.importedIncludeDirectories)).2 shape.searchedIncludeDirectories
    obtain ⟨directories, directoriesRead⟩ := (fields.optionalTexts_succeeds_iff Tag.includeDirectories).2
      shape.includeDirectories
    obtain ⟨headers, headersRead⟩ := (fields.optionalTexts_succeeds_iff Tag.headerFiles).2 shape.headerFiles
    let parts : LibraryParts := ⟨linkage, rootDirectory, files, searched, directories, headers⟩
    exact ⟨parts.library tree root name, members, isObject, parts,
      ⟨linkageRead, rootRead, filesRead, searchedRead, directoriesRead, headersRead⟩, filled, rfl⟩

theorem readLibraries_succeeds_iff (tree : FileTree) (root : Path) (top : Fields) :
    (∃ libraries, (readLibraries tree root top).outcome = .ok libraries) ↔
      Optional top.members Tag.importedLibraries (IsMapOf (IsObjectOf IsLibrary)) := by
  simp only [readLibraries_eq_ok_iff]
  exact top.optionalEntries_succeeds_iff Tag.importedLibraries (fun member => IsObjectOf IsLibrary member.2)
    (fun _members member => (readLibrary tree root member.1 member.2).outcome)
    fun _members member => readLibrary_succeeds_iff tree root member.1 member.2

end Listfile

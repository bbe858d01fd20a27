import Listfile.Proofs.Descriptor.Agreement
import Listfile.Proofs.Descriptor.Libraries
import Listfile.Proofs.Descriptor.Outputs
import Listfile.Proofs.FileTree.Backslashes
import Listfile.Proofs.Path.Separators

set_option autoImplicit false

/-! Descriptors with turned separators: every relative path in their outputs and libraries is written with slashes only,
or with backslashes only. Their entries are read with turned paths and with no other difference, and what is computed
from the paths does not differ where no search goes astray. -/

namespace Listfile

open Schema

namespace Schema

def outputPathTags : List String :=
  [Tag.baseFile, Tag.sourceDirectories, Tag.headerDirectories, Tag.searchedIncludeDirectories, Tag.includeDirectories,
    Tag.executableDirectory, Tag.archiveDirectory, Tag.libraryDirectory]

def libraryPathTags : List String :=
  [Tag.rootDirectory, Tag.libraryFiles, Tag.searchedIncludeDirectories, Tag.includeDirectories, Tag.headerFiles]

end Schema

def mapMembers (change : String → Json → Json) (members : List (String × Json)) : List (String × Json) :=
  members.map fun member => (member.1, change member.1 member.2)

def turnItem (separator : Char) : Json → Json
  | .string text => .string (turnSeparators separator text)
  | value => value

def turnPaths (separator : Char) : Json → Json
  | .array items => .array (items.map (turnItem separator))
  | value => turnItem separator value

def turnMembers (separator : Char) (tags : List String) : List (String × Json) → List (String × Json) :=
  mapMembers fun tag value => if tag ∈ tags then turnPaths separator value else value

def turnEntry (separator : Char) (tags : List String) : Json → Json
  | .object members => .object (turnMembers separator tags members)
  | value => value

def turnEntries (separator : Char) (tags : List String) : Json → Json
  | .object entries => .object (mapMembers (fun _name value => turnEntry separator tags value) entries)
  | value => value

def turnField (separator : Char) (tag : String) (value : Json) : Json :=
  if tag = Tag.output then turnEntries separator outputPathTags value
  else if tag = Tag.importedLibraries then turnEntries separator libraryPathTags value
  else value

/-- The descriptor with the separators of all its relative paths turned. -/
def turnDescriptor (separator : Char) : Json → Json
  | .object members => .object (mapMembers (turnField separator) members)
  | value => value

theorem member?_mapMembers (change : String → Json → Json) (members : List (String × Json)) (tag : String) :
    Json.member? (mapMembers change members) tag = (Json.member? members tag).map (change tag) := by
  unfold Json.member? mapMembers
  induction members with
  | nil => rfl
  | cons member members ih =>
      obtain ⟨key, value⟩ := member
      rw [List.map_cons, List.lookup_cons, List.lookup_cons, ih]
      by_cases same : tag = key
      · simp [same]
      · have different : (tag == key) = false := beq_eq_false_iff_ne.2 same
        simp [different]

namespace Fields

variable {separator : Char} {tags : List String} {members : List (String × Json)} {parent : Option String}
  {tag : String} {reason : Option String}

theorem get?_turned (known : tag ∈ tags) :
    get? ⟨turnMembers separator tags members, parent⟩ tag = (get? ⟨members, parent⟩ tag).map (turnPaths separator) := by
  rw [get?, turnMembers, member?_mapMembers]
  simp only [if_pos known]
  rfl

theorem get?_unturned (foreign : tag ∉ tags) :
    get? ⟨turnMembers separator tags members, parent⟩ tag = get? ⟨members, parent⟩ tag := by
  rw [get?, turnMembers, member?_mapMembers]
  simp only [if_neg foreign]
  exact Option.map_id'

theorem optional_turned (known : tag ∈ tags) :
    optional ⟨turnMembers separator tags members, parent⟩ tag =
      (optional ⟨members, parent⟩ tag).map (turnPaths separator) := by
  unfold optional
  rw [get?_turned known]
  cases get? ⟨members, parent⟩ tag with
  | none => rfl
  | some value => cases value <;> rfl

theorem turnPaths_texts (separator : Char) (texts : List String) :
    turnPaths separator (.array (texts.map .string)) =
      .array ((texts.map (turnSeparators separator)).map .string) := by
  simp [turnPaths, turnItem, Function.comp_def]

theorem requireText_turned (known : tag ∈ tags) {text : String}
    (read : requireText ⟨members, parent⟩ tag reason = .ok text) :
    requireText ⟨turnMembers separator tags members, parent⟩ tag reason = .ok (turnSeparators separator text) := by
  rw [requireText_eq_ok_iff] at read ⊢
  rw [get?_turned known, read]
  rfl

theorem requireTexts_turned (known : tag ∈ tags) {texts : List String}
    (read : requireTexts ⟨members, parent⟩ tag reason = .ok texts) :
    requireTexts ⟨turnMembers separator tags members, parent⟩ tag reason =
      .ok (texts.map (turnSeparators separator)) := by
  rw [requireTexts_eq_ok_iff] at read ⊢
  rw [get?_turned known, read, Option.map_some, turnPaths_texts]

theorem optionalText_turned (known : tag ∈ tags) {text : Option String}
    (read : optionalText ⟨members, parent⟩ tag = .ok text) :
    optionalText ⟨turnMembers separator tags members, parent⟩ tag = .ok (text.map (turnSeparators separator)) := by
  rw [optionalText_eq_ok_iff] at read ⊢
  rw [optional_turned known, read, Option.map_map, Option.map_map]
  rfl

theorem optionalTexts_turned (known : tag ∈ tags) {texts : List String}
    (read : optionalTexts ⟨members, parent⟩ tag = .ok texts) :
    optionalTexts ⟨turnMembers separator tags members, parent⟩ tag = .ok (texts.map (turnSeparators separator)) := by
  rw [optionalTexts_eq_ok_iff] at read ⊢
  rw [optional_turned known]
  rcases read with ⟨absent, empty⟩ | present
  · exact Or.inl ⟨by rw [absent]; rfl, by rw [empty]; rfl⟩
  · exact Or.inr (by rw [present, Option.map_some, turnPaths_texts])

end Fields

/-! ### Searches -/

/-- Two places from which searches find the same: they are the same place, or nothing is at either of them. -/
def SearchedSame (tree : FileTree) (before after : Path) : Prop :=
  after = before ∨ tree.walk before = [] ∧ tree.walk after = []

/-- A place that stays, or at which nothing is when it is written with slashes only. -/
def SearchKept (tree : FileTree) (before after plain : Path) : Prop := after = before ∨ tree.walk plain = []

section

variable {tree : FileTree} {root before after plain : Path}

/-- Where a place is written with backslashes, nothing is found in any case. -/
theorem SearchKept.searchedSame (kept : SearchKept tree before after plain) (noBackslash : tree.NoBackslash)
    (beforeForm : before = plain ∨ .backslash ∈ before.units)
    (afterForm : after = plain ∨ .backslash ∈ after.units) : SearchedSame tree before after := by
  refine kept.imp_right fun nothing => ?_
  have leadsNowhere : ∀ path : Path, path = plain ∨ .backslash ∈ path.units → tree.walk path = [] := by
    intro path form
    rcases form with same | slanted
    · rw [same]
      exact nothing
    · exact noBackslash.walk_eq_nil slanted
  exact ⟨leadsNowhere before beforeForm, leadsNowhere after afterForm⟩

namespace SearchedSame

theorem filesFrom_eq (same : SearchedSame tree before after) (root : Path) (suffixes : List String) :
    tree.filesFrom root after suffixes = tree.filesFrom root before suffixes := by
  rcases same with same | ⟨nothing, nothingToo⟩
  · rw [same]
  · rw [FileTree.filesFrom, FileTree.filesFrom, nothing, nothingToo]

theorem directoriesFrom_eq (same : SearchedSame tree before after) (root : Path) :
    tree.directoriesFrom root after = tree.directoriesFrom root before := by
  rcases same with same | ⟨nothing, nothingToo⟩
  · rw [same]
  · rw [FileTree.directoriesFrom, FileTree.directoriesFrom, nothing, nothingToo]

variable {separator : Char} {base turnedBase : Path} {directories : List String}

theorem findFiles_eq
    (same : ∀ directory ∈ directories,
      SearchedSame tree (searchStart base directory) (searchStart turnedBase (turnSeparators separator directory)))
    (root : Path) (suffixes : List String) :
    tree.findFiles root turnedBase (directories.map (turnSeparators separator)) suffixes =
      tree.findFiles root base directories suffixes := by
  rw [FileTree.findFiles, FileTree.findFiles, List.flatMap_map]
  exact congrArg (orderedUnion []) (List.flatMap_congr fun directory member =>
    (same directory member).filesFrom_eq root suffixes)

theorem findDirectories_eq
    (same : ∀ directory ∈ directories,
      SearchedSame tree (searchStart base directory) (searchStart turnedBase (turnSeparators separator directory)))
    (root : Path) :
    tree.findDirectories root turnedBase (directories.map (turnSeparators separator)) =
      tree.findDirectories root base directories := by
  rw [FileTree.findDirectories, FileTree.findDirectories, List.flatMap_map]
  exact congrArg (orderedUnion []) (List.flatMap_congr fun directory member =>
    (same directory member).directoriesFrom_eq root)

end SearchedSame

end

theorem normalizeSeparators_eq_or_slanted (text : String) :
    normalizeSeparators text = text ∨ .backslash ∈ (Path.ofString text).units := by
  by_cases slanted : '\\' ∈ text.toList
  · exact Or.inr (List.mem_map_of_mem slanted)
  · have unchanged : text.toList.map normalizeSeparator = text.toList := by
      refine (List.map_congr_left fun character member => ?_).trans (List.map_id _)
      have notBackslash : character ≠ '\\' := fun same => slanted (same ▸ member)
      exact if_neg notBackslash
    exact Or.inl (by rw [normalizeSeparators, unchanged, String.ofList_toList])

theorem mem_units_join {unit : PathUnit} (base : Path) {path : Path} (member : unit ∈ path.units) :
    unit ∈ (base.join path).units := by
  unfold Path.join
  split
  · exact member
  · split
    · exact List.mem_append_right _ member
    · exact List.mem_append_right _ (List.mem_cons_of_mem _ member)

theorem mem_units_join_left {unit : PathUnit} {base path : Path} (relative : path.isAbsolute = false)
    (member : unit ∈ base.units) : unit ∈ (base.join path).units := by
  obtain ⟨rest, joined⟩ := Path.exists_units_join base relative
  rw [joined]
  exact List.mem_append_left _ member

theorem searchStart_form (base : Path) (directory : String) :
    searchStart base directory = searchStart base (normalizeSeparators directory) ∨
      .backslash ∈ (searchStart base directory).units := by
  rcases normalizeSeparators_eq_or_slanted directory with normal | slanted
  · exact Or.inl (by rw [normal])
  · exact Or.inr (mem_units_join base slanted)

theorem searchStart_join_form (root : Path) (libraryDirectory directory : String) :
    searchStart (root.join (Path.ofString libraryDirectory)) directory =
        searchStart (root.join (Path.ofString (normalizeSeparators libraryDirectory)))
          (normalizeSeparators directory) ∨
      .backslash ∈ (searchStart (root.join (Path.ofString libraryDirectory)) directory).units := by
  rcases searchStart_form (root.join (Path.ofString libraryDirectory)) directory with same | slanted
  · rcases normalizeSeparators_eq_or_slanted libraryDirectory with normal | slanted
    · exact Or.inl (by rw [normal, ← same])
    · cases kind : (Path.ofString (normalizeSeparators directory)).isAbsolute with
      | true =>
          refine Or.inl (same.trans ?_)
          rw [searchStart, searchStart, Path.join, if_pos kind, Path.join, if_pos kind]
      | false =>
          refine Or.inr ?_
          rw [same]
          exact mem_units_join_left kind (mem_units_join root slanted)
  · exact Or.inr slanted

def OutputKind.turned (separator : Char) : OutputKind → OutputKind
  | .executable directory => .executable (turnSeparators separator directory)
  | .library linkage archiveDirectory libraryDirectory =>
    .library linkage (turnSeparators separator archiveDirectory) (turnSeparators separator libraryDirectory)

def OutputUnit.turned (separator : Char) (unit : OutputUnit) : OutputUnit :=
  { unit with kind := unit.kind.turned separator }

theorem readOutputDirectories_turned {separator : Char} {members : List (String × Json)} {parent : Option String}
    {linkage : Option Linkage} {kind : OutputKind}
    (read : readOutputDirectories ⟨members, parent⟩ linkage = .ok kind) :
    readOutputDirectories ⟨turnMembers separator outputPathTags members, parent⟩ linkage =
      .ok (kind.turned separator) := by
  rw [readOutputDirectories_eq_ok_iff] at read ⊢
  cases linkage with
  | none =>
      obtain ⟨directory, present, same⟩ := read
      refine ⟨turnSeparators separator directory, ?_, by rw [same]; rfl⟩
      rw [Fields.get?_turned (by decide), present]
      rfl
  | some linkage =>
      obtain ⟨archive, library, archivePresent, libraryPresent, same⟩ := read
      refine ⟨turnSeparators separator archive, turnSeparators separator library, ?_, ?_, by rw [same]; rfl⟩
      · rw [Fields.get?_turned (by decide), archivePresent]
        rfl
      · rw [Fields.get?_turned (by decide), libraryPresent]
        rfl

namespace OutputParts

def turned (separator : Char) (parts : OutputParts) : OutputParts where
  linkage := parts.linkage
  baseFile := parts.baseFile.map (turnSeparators separator)
  sourceDirectories := parts.sourceDirectories.map (turnSeparators separator)
  headerDirectories := parts.headerDirectories.map (turnSeparators separator)
  searchedDirectories := parts.searchedDirectories.map (turnSeparators separator)
  literalDirectories := parts.literalDirectories.map (turnSeparators separator)
  kind := parts.kind.turned separator

theorem ReadFrom.turned {separator : Char} {members : List (String × Json)} {parent : Option String}
    {parts : OutputParts} (read : parts.ReadFrom ⟨members, parent⟩) :
    (parts.turned separator).ReadFrom ⟨turnMembers separator outputPathTags members, parent⟩ where
  linkage := by
    have linkageRead := read.linkage
    rw [readOutputKindWord_eq_ok_iff] at linkageRead ⊢
    rw [Fields.get?_unturned (by decide)]
    exact linkageRead
  baseFile := Fields.optionalText_turned (by decide) read.baseFile
  sourceDirectories := Fields.requireTexts_turned (by decide) read.sourceDirectories
  headerDirectories := Fields.requireTexts_turned (by decide) read.headerDirectories
  searchedDirectories := Fields.requireTexts_turned (by decide) read.searchedDirectories
  literalDirectories := Fields.optionalTexts_turned (by decide) read.literalDirectories
  kind := readOutputDirectories_turned read.kind

def SearchesKept (tree : FileTree) (root : Path) (separator : Char) (parts : OutputParts) : Prop :=
  ∀ directory ∈ parts.sourceDirectories ++ parts.headerDirectories ++ parts.searchedDirectories,
    SearchKept tree (searchStart root directory) (searchStart root (turnSeparators separator directory))
      (searchStart root (normalizeSeparators directory))

theorem unit_turned {tree : FileTree} {root : Path} {separator : Char} {parts : OutputParts}
    (separates : separator = '/' ∨ separator = '\\') (noBackslash : tree.NoBackslash)
    (kept : parts.SearchesKept tree root separator) (name : String) :
    (parts.turned separator).unit tree root name = (parts.unit tree root name).turned separator := by
  have same : ∀ directory ∈ parts.sourceDirectories ++ parts.headerDirectories ++ parts.searchedDirectories,
      SearchedSame tree (searchStart root directory) (searchStart root (turnSeparators separator directory)) := by
    intro directory member
    have afterForm := searchStart_form root (turnSeparators separator directory)
    rw [normalizeSeparators_turnSeparators separates] at afterForm
    exact (kept directory member).searchedSame noBackslash (searchStart_form root directory) afterForm
  simp only [List.mem_append] at same
  have sameBase : baseSource root (parts.baseFile.map (turnSeparators separator)) = baseSource root parts.baseFile := by
    simp only [baseSource, Option.map_map, Function.comp_def, normalizeSeparators_turnSeparators separates]
  have sameLiteral : (parts.literalDirectories.map (turnSeparators separator)).map normalizeSeparators =
      parts.literalDirectories.map normalizeSeparators := by
    simp only [List.map_map, Function.comp_def, normalizeSeparators_turnSeparators separates]
  simp only [unit, turned, OutputUnit.turned, sources, includeDirectories, sameBase, sameLiteral,
    SearchedSame.findFiles_eq fun directory member => same directory (Or.inl (Or.inl member)),
    SearchedSame.findFiles_eq fun directory member => same directory (Or.inl (Or.inr member)),
    SearchedSame.findDirectories_eq fun directory member => same directory (Or.inr member)]

end OutputParts

namespace LibraryParts

def turned (separator : Char) (parts : LibraryParts) : LibraryParts where
  linkage := parts.linkage
  rootDirectory := turnSeparators separator parts.rootDirectory
  files := parts.files.map (turnSeparators separator)
  searchedDirectories := parts.searchedDirectories.map (turnSeparators separator)
  literalDirectories := parts.literalDirectories.map (turnSeparators separator)
  literalHeaders := parts.literalHeaders.map (turnSeparators separator)

theorem ReadFrom.turned {separator : Char} {members : List (String × Json)} {parent : Option String}
    {parts : LibraryParts} (read : parts.ReadFrom ⟨members, parent⟩) :
    (parts.turned separator).ReadFrom ⟨turnMembers separator libraryPathTags members, parent⟩ where
  linkage := by
    have linkageRead := read.linkage
    rw [readLinkage_eq_ok_iff] at linkageRead ⊢
    rw [Fields.get?_unturned (by decide)]
    exact linkageRead
  rootDirectory := Fields.requireText_turned (by decide) read.rootDirectory
  files := Fields.requireTexts_turned (by decide) read.files
  searchedDirectories := Fields.requireTexts_turned (by decide) read.searchedDirectories
  literalDirectories := Fields.optionalTexts_turned (by decide) read.literalDirectories
  literalHeaders := Fields.optionalTexts_turned (by decide) read.literalHeaders

/-- Where the paths of a library can be turned: they are tidy, its searches are kept, and its own directory does not
lead back to an absolute root. -/
structure Turnable (tree : FileTree) (root : Path) (separator : Char) (parts : LibraryParts) : Prop where
  usable : isAbsoluteEntry parts.rootDirectory = false ∨ root.isAbsolute = false
  rootDirectory : IsTurnable separator parts.rootDirectory
  paths : ∀ path ∈ parts.files ++ parts.literalDirectories ++ parts.literalHeaders, IsTurnable separator path
  searches : ∀ directory ∈ parts.searchedDirectories,
    SearchKept tree (searchStart (root.join (Path.ofString parts.rootDirectory)) directory)
      (searchStart (root.join (Path.ofString (turnSeparators separator parts.rootDirectory)))
        (turnSeparators separator directory))
      (searchStart (root.join (Path.ofString (normalizeSeparators parts.rootDirectory)))
        (normalizeSeparators directory))

theorem library_turned {tree : FileTree} {root : Path} {separator : Char} {parts : LibraryParts}
    (separates : separator = '/' ∨ separator = '\\') (noBackslash : tree.NoBackslash)
    (turnable : parts.Turnable tree root separator) (name : String) :
    (parts.turned separator).library tree root name = parts.library tree root name := by
  have same : ∀ directory ∈ parts.searchedDirectories,
      SearchedSame tree (searchStart (parts.base root) directory)
        (searchStart ((parts.turned separator).base root) (turnSeparators separator directory)) := by
    intro directory member
    have afterForm := searchStart_join_form root (turnSeparators separator parts.rootDirectory)
      (turnSeparators separator directory)
    rw [normalizeSeparators_turnSeparators separates, normalizeSeparators_turnSeparators separates] at afterForm
    exact (turnable.searches directory member).searchedSame noBackslash (searchStart_join_form root _ directory)
      afterForm
  have samePaths : ∀ paths : List String, (∀ path ∈ paths, IsTurnable separator path) →
      libraryPaths root ((parts.turned separator).base root) (paths.map (turnSeparators separator)) =
        libraryPaths root (parts.base root) paths := by
    intro paths each
    rw [libraryPaths, libraryPaths, List.map_map]
    exact List.map_congr_left fun path member =>
      scriptPath_join_turnSeparators separates turnable.usable turnable.rootDirectory (each path member)
  have paths := turnable.paths
  simp only [List.forall_mem_append] at paths
  obtain ⟨⟨files, directories⟩, headers⟩ := paths
  have sameRoot : scriptPath ((parts.turned separator).base root) root = scriptPath (parts.base root) root :=
    scriptPath_turnSeparators separates turnable.rootDirectory root
  show ImportedLibrary.mk name parts.linkage (scriptPath ((parts.turned separator).base root) root)
    (orderedUnion [] (libraryPaths root ((parts.turned separator).base root)
      (parts.files.map (turnSeparators separator))))
    (orderedUnion (tree.findDirectories root ((parts.turned separator).base root)
        (parts.searchedDirectories.map (turnSeparators separator)))
      (libraryPaths root ((parts.turned separator).base root)
        (parts.literalDirectories.map (turnSeparators separator))))
    (orderedUnion (tree.findFiles root ((parts.turned separator).base root)
        (parts.searchedDirectories.map (turnSeparators separator)) headerSuffixes)
      (libraryPaths root ((parts.turned separator).base root)
        (parts.literalHeaders.map (turnSeparators separator)))) = parts.library tree root name
  rw [sameRoot, samePaths _ files, samePaths _ directories, samePaths _ headers,
    SearchedSame.findDirectories_eq same, SearchedSame.findFiles_eq same]
  rfl

end LibraryParts

theorem stringsUnder_of_present {members : List (String × Json)} {tag : String} {texts : List String}
    (present : Json.member? members tag = some (.array (texts.map .string))) :
    (Json.object members).stringsUnder tag = texts := by
  rw [Json.stringsUnder, present]
  dsimp only
  rw [List.filterMap_map]
  exact (List.filterMap_congr fun _text _member => rfl).trans List.filterMap_some

def OutputSearchesKept (tree : FileTree) (root : Path) (separator : Char) (output : Json) : Prop :=
  ∀ tag ∈ outputSearchTags, ∀ directory ∈ output.stringsUnder tag,
    SearchKept tree (searchStart root directory) (searchStart root (turnSeparators separator directory))
      (searchStart root (normalizeSeparators directory))

structure LibraryTurnable (tree : FileTree) (root : Path) (separator : Char) (library : Json) : Prop where
  paths : ∀ tag ∈ [Tag.libraryFiles, Tag.includeDirectories, Tag.headerFiles],
    ∀ path ∈ library.stringsUnder tag, IsTurnable separator path
  directory : ∀ members directory, library = .object members →
    Json.member? members Tag.rootDirectory = some (.string directory) →
      (isAbsoluteEntry directory = false ∨ root.isAbsolute = false) ∧ IsTurnable separator directory ∧
        ∀ searched ∈ library.stringsUnder Tag.searchedIncludeDirectories,
          SearchKept tree (searchStart (root.join (Path.ofString directory)) searched)
            (searchStart (root.join (Path.ofString (turnSeparators separator directory)))
              (turnSeparators separator searched))
            (searchStart (root.join (Path.ofString (normalizeSeparators directory))) (normalizeSeparators searched))

section

variable {tree : FileTree} {root : Path} {separator : Char} {name : String} {value : Json}
  (separates : separator = '/' ∨ separator = '\\') (noBackslash : tree.NoBackslash)

include separates noBackslash

theorem readOutput_turned {unit : OutputUnit} (kept : OutputSearchesKept tree root separator value)
    (read : (readOutput tree root name value).outcome = .ok unit) :
    (readOutput tree root name (turnEntry separator outputPathTags value)).outcome = .ok (unit.turned separator) := by
  obtain ⟨members, isObject, parts, readParts, filled, same⟩ := (readOutput_eq_ok_iff _ _ _ _ _).1 read
  have texts : ∀ {tag reason directories},
      Fields.requireTexts ⟨members, some name⟩ tag reason = .ok directories → value.stringsUnder tag = directories := by
    intro tag reason directories readTexts
    rw [isObject]
    exact stringsUnder_of_present ((Fields.requireTexts_eq_ok_iff _ _ _ _).1 readTexts)
  have partsKept : parts.SearchesKept tree root separator := by
    intro directory member
    rcases List.mem_append.1 member with inFiles | inDirectories
    · rcases List.mem_append.1 inFiles with inSources | inHeaders
      · exact kept Tag.sourceDirectories (by decide) directory (texts readParts.sourceDirectories ▸ inSources)
      · exact kept Tag.headerDirectories (by decide) directory (texts readParts.headerDirectories ▸ inHeaders)
    · exact kept Tag.searchedIncludeDirectories (by decide) directory
        (texts readParts.searchedDirectories ▸ inDirectories)
  have sameUnit := OutputParts.unit_turned separates noBackslash partsKept name
  refine (readOutput_eq_ok_iff _ _ _ _ _).2
    ⟨turnMembers separator outputPathTags members, by rw [isObject]; rfl, parts.turned separator, readParts.turned, ?_,
      by rw [same, sameUnit]⟩
  have sameSources : (parts.turned separator).sources tree root = parts.sources tree root :=
    congrArg OutputUnit.sources sameUnit
  rw [sameSources]
  exact filled

theorem readLibrary_turned {library : ImportedLibrary} (turnable : LibraryTurnable tree root separator value)
    (read : (readLibrary tree root name value).outcome = .ok library) :
    (readLibrary tree root name (turnEntry separator libraryPathTags value)).outcome = .ok library := by
  obtain ⟨members, isObject, parts, readParts, filled, same⟩ := (readLibrary_eq_ok_iff _ _ _ _ _).1 read
  have texts : ∀ {tag directories}, Json.member? members tag = some (.array (directories.map .string)) →
      value.stringsUnder tag = directories := by
    intro tag directories present
    rw [isObject]
    exact stringsUnder_of_present present
  have optionalTexts : ∀ {tag directories}, Fields.optionalTexts ⟨members, some name⟩ tag = .ok directories →
      ∀ path ∈ directories, path ∈ value.stringsUnder tag := by
    intro tag directories readTexts path member
    rcases (Fields.optionalTexts_eq_ok_iff _ _ _).1 readTexts with ⟨_absent, empty⟩ | present
    · rw [empty] at member
      cases member
    · rw [texts ((Fields.optional_eq_some_iff _ _ _).1 present).1]
      exact member
  obtain ⟨usable, directoryTurnable, searches⟩ := turnable.directory members parts.rootDirectory isObject
    ((Fields.requireText_eq_ok_iff _ _ _ _).1 readParts.rootDirectory)
  have partsTurnable : parts.Turnable tree root separator :=
    { usable := usable
      rootDirectory := directoryTurnable
      paths := by
        intro path member
        rcases List.mem_append.1 member with inLiteral | inHeaders
        · rcases List.mem_append.1 inLiteral with inFiles | inDirectories
          · have files := texts ((Fields.requireTexts_eq_ok_iff _ _ _ _).1 readParts.files)
            exact turnable.paths Tag.libraryFiles (by decide) path (files ▸ inFiles)
          · exact turnable.paths Tag.includeDirectories (by decide) path
              (optionalTexts readParts.literalDirectories path inDirectories)
        · exact turnable.paths Tag.headerFiles (by decide) path
            (optionalTexts readParts.literalHeaders path inHeaders)
      searches := by
        intro directory member
        have searched := texts ((Fields.requireTexts_eq_ok_iff _ _ _ _).1 readParts.searchedDirectories)
        exact searches directory (searched ▸ member) }
  refine (readLibrary_eq_ok_iff _ _ _ _ _).2
    ⟨turnMembers separator libraryPathTags members, by rw [isObject]; rfl, parts.turned separator, readParts.turned, ?_,
      by rw [same, LibraryParts.library_turned separates noBackslash partsTurnable]⟩
  exact fun empty => filled (List.map_eq_nil_iff.1 empty)

end

end Listfile

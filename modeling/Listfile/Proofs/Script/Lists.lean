import Listfile.Proofs.Project.Soundness
import Listfile.Proofs.Script.Declarations
import Mathlib.Computability.Primrec.List
import Mathlib.Data.List.Permutation

-- The Mathlib files state the equations of `List.lookup` and `Prod.snd` that `cbv` evaluates with.
set_option autoImplicit false

/-! The lists of a listfile read back. Entries of a list are written without quotes, one to a line, and white space
separates arguments. A list is read back as it is exactly when there is no white space in its variable and its
entries. -/

namespace Listfile.Script

def IsBare (text : String) : Prop := ∀ letter ∈ text.toList, letter.isWhitespace = false

instance (text : String) : Decidable (IsBare text) :=
  List.decidableBAll (fun letter : Char => letter.isWhitespace = false) text.toList

def closeWord (word : List Char) : List String := if word = [] then [] else [String.ofList word]

def wordsFrom (word : List Char) : List Char → List String
  | [] => closeWord word
  | letter :: letters =>
    if letter.isWhitespace then closeWord word ++ wordsFrom [] letters else wordsFrom (word ++ [letter]) letters

def words (text : String) : List String := wordsFrom [] text.toList

theorem wordsFrom_append_cons {blank : Char} (isBlank : blank.isWhitespace = true) (word before behind : List Char) :
    wordsFrom word (before ++ blank :: behind) = wordsFrom word before ++ wordsFrom [] behind := by
  induction before generalizing word with
  | nil => rw [List.nil_append, wordsFrom, wordsFrom, if_pos isBlank]
  | cons letter before ih =>
      rw [List.cons_append, wordsFrom, wordsFrom]
      split
      · rw [ih, List.append_assoc]
      · exact ih _

theorem wordsFrom_of_bare {letters : List Char} (bare : ∀ letter ∈ letters, letter.isWhitespace = false)
    (word : List Char) : wordsFrom word letters = closeWord (word ++ letters) := by
  induction letters generalizing word with
  | nil => rw [List.append_nil, wordsFrom]
  | cons letter letters ih =>
      rw [List.forall_mem_cons] at bare
      rw [wordsFrom, bare.1, if_neg Bool.false_ne_true, ih bare.2, List.append_assoc, List.singleton_append]

theorem isBare_of_mem_closeWord {word : List Char} (bare : ∀ letter ∈ word, letter.isWhitespace = false)
    {closed : String} (member : closed ∈ closeWord word) : IsBare closed := by
  rw [closeWord] at member
  split at member
  · cases member
  · rw [List.mem_singleton.1 member, IsBare, String.toList_ofList]
    exact bare

theorem isBare_of_mem_wordsFrom {word letters : List Char} (bare : ∀ letter ∈ word, letter.isWhitespace = false)
    {found : String} (member : found ∈ wordsFrom word letters) : IsBare found := by
  induction letters generalizing word with
  | nil => exact isBare_of_mem_closeWord bare member
  | cons letter letters ih =>
      rw [wordsFrom] at member
      split at member
      · rcases List.mem_append.1 member with closed | later
        · exact isBare_of_mem_closeWord bare closed
        · exact ih (List.forall_mem_nil _) later
      · rename_i isLetter
        exact ih (List.forall_mem_append.2 ⟨bare, List.forall_mem_singleton.2 (Bool.eq_false_iff.2 isLetter)⟩) member

theorem isBare_of_mem_words {text found : String} (member : found ∈ words text) : IsBare found :=
  isBare_of_mem_wordsFrom (List.forall_mem_nil _) member

theorem words_eq_singleton {text : String} (bare : IsBare text) (filled : text ≠ "") : words text = [text] := by
  rw [words, wordsFrom_of_bare bare, List.nil_append, closeWord, if_neg fun empty => filled (String.toList_eq_nil_iff.1 empty),
    String.ofList_toList]

theorem wordsFrom_enclosed {opening closing : Char} (opens : opening.isWhitespace = true)
    (closes : closing.isWhitespace = true) (text : String) (behind : List Char) :
    wordsFrom [] (opening :: (text.toList ++ closing :: behind)) = words text ++ wordsFrom [] behind := by
  rw [← List.nil_append (opening :: _), wordsFrom_append_cons opens, wordsFrom_append_cons closes]
  rfl

theorem qualify_ne_empty (entry : String) : qualify entry ≠ "" := by
  rw [qualify]
  split
  · rename_i kept
    intro empty
    rw [empty] at kept
    exact absurd kept (by decide)
  · intro empty
    have letters := congrArg String.toList empty
    rw [String.append_assoc, String.toList_append, String.toList_empty, List.append_eq_nil_iff] at letters
    exact absurd letters.1 (by decide)

theorem isBare_qualify_iff (entry : String) : IsBare (qualify entry) ↔ IsBare entry := by
  rw [qualify]
  split
  · exact Iff.rfl
  · have front : IsBare (variableReference "PROJECT_SOURCE_DIR" ++ "/") := by decide
    rw [IsBare, String.toList_append, List.forall_mem_append]
    exact ⟨fun premise => premise.2, fun bare => ⟨front, bare⟩⟩

def betweenParentheses (letters : List Char) : List Char :=
  ((((letters.dropWhile (· ≠ '(')).drop 1).reverse.dropWhile (· ≠ ')')).drop 1).reverse

def unquotedArguments (statement : String) : List String := wordsFrom [] (betweenParentheses statement.toList)

theorem betweenParentheses_eq {front back : List Char} (opens : front.all (· ≠ '(') = true)
    (closes : back.all (· ≠ ')') = true) (inner : List Char) :
    betweenParentheses (front ++ '(' :: (inner ++ ')' :: back)) = inner := by
  rw [List.all_eq_true] at opens closes
  have closesBackwards : ∀ letter ∈ back.reverse, decide (letter ≠ ')') = true :=
    fun letter member => closes letter (List.mem_reverse.1 member)
  rw [betweenParentheses, List.dropWhile_append_of_pos opens,
    List.dropWhile_cons_of_neg (by decide), List.drop_succ_cons, List.drop_zero, List.reverse_append,
    List.reverse_cons, List.append_assoc, List.dropWhile_append_of_pos closesBackwards, List.singleton_append,
    List.dropWhile_cons_of_neg (by decide), List.drop_succ_cons, List.drop_zero, List.reverse_reverse]

theorem toList_text (lines : List String) : (text lines).toList = lines.flatMap fun line => line.toList ++ ['\n'] := by
  rw [text, String.toList_join, List.flatMap_map]
  simp only [String.toList_append]
  rfl

theorem wordsFrom_entryLines (entries : List String) :
    wordsFrom [] ((entries.map fun entry => "\t" ++ qualify entry).flatMap fun line => line.toList ++ ['\n']) =
      entries.flatMap fun entry => words (qualify entry) := by
  induction entries with
  | nil => rfl
  | cons entry entries ih =>
      have parted : ("\t" ++ qualify entry).toList ++ ['\n'] = '\t' :: ((qualify entry).toList ++ ['\n']) := by
        rw [String.toList_append]
        rfl
      rw [List.map_cons, List.flatMap_cons, List.flatMap_cons, parted, List.cons_append, List.append_assoc,
        List.singleton_append, wordsFrom_enclosed (by decide) (by decide), ih]

/-- A list is read as the words of its variable and of its entries. -/
theorem unquotedArguments_listLines (variableName : String) (entries : List String) :
    unquotedArguments (text (listLines variableName entries)) =
      words variableName ++ entries.flatMap fun entry => words (qualify entry) := by
  have letters : (text (listLines variableName entries)).toList = "\nset".toList ++ '(' ::
      ((' ' :: (variableName.toList ++ '\n' :: (entries.map fun entry => "\t" ++ qualify entry).flatMap
        fun line => line.toList ++ ['\n'])) ++ ')' :: ['\n']) := by
    rw [toList_text, listLines]
    simp
  rw [unquotedArguments, letters, betweenParentheses_eq (by decide) (by decide),
    wordsFrom_enclosed (by decide) (by decide), wordsFrom_entryLines]

/-- A list as it is written: the variable that it sets, and its entries. -/
structure WrittenList where
  variableName : String
  entries : List String

namespace WrittenList

def lines (list : WrittenList) : List String := listLines list.variableName list.entries

def IsBare (list : WrittenList) : Prop := Script.IsBare list.variableName ∧ ∀ entry ∈ list.entries, Script.IsBare entry

/-- Whether the list is read back as its variable and one argument for each entry. -/
def Survives (list : WrittenList) : Prop :=
  unquotedArguments (text list.lines) = list.variableName :: list.entries.map qualify

instance (list : WrittenList) : Decidable list.Survives := inferInstanceAs (Decidable (_ = _))

/-- A text without white space is one word; a text with white space is not a word of any text. -/
theorem survives_iff_isBare {list : WrittenList} (named : list.variableName ≠ "") :
    list.Survives ↔ list.IsBare := by
  rw [Survives, lines, unquotedArguments_listLines]
  constructor
  · intro same
    -- Whatever is read is a word, and the variable and the entries are among what is read.
    have bareWords : ∀ word ∈ words list.variableName ++ list.entries.flatMap fun entry => words (qualify entry),
        Script.IsBare word := by
      intro word member
      rcases List.mem_append.1 member with ofVariable | ofEntries
      · exact isBare_of_mem_words ofVariable
      · obtain ⟨entry, _inEntries, ofEntry⟩ := List.mem_flatMap.1 ofEntries
        exact isBare_of_mem_words ofEntry
    rw [same, List.forall_mem_cons, List.forall_mem_map] at bareWords
    exact ⟨bareWords.1, fun entry member => (isBare_qualify_iff entry).1 (bareWords.2 entry member)⟩
  · intro bare
    have each : ∀ entry ∈ list.entries, words (qualify entry) = [qualify entry] := fun entry member =>
      words_eq_singleton ((isBare_qualify_iff entry).2 (bare.2 entry member)) (qualify_ne_empty entry)
    rw [words_eq_singleton bare.1 named, List.flatMap_congr each, ← List.map_eq_flatMap, List.singleton_append]

end WrittenList

/-- Whether a line begins a list: the other lines that set a variable end with the statement. -/
def startsList (line : String) : Bool := opensWith "set( " line && !endsWith " )" line

end Listfile.Script

namespace Listfile

open Script

/-! ### Projects -/

def ImportedLibrary.lists (library : ImportedLibrary) : List WrittenList :=
  [⟨library.includeVariable, library.includeDirectories⟩, ⟨library.headerVariable, library.headerFiles⟩]

def OutputUnit.lists (unit : OutputUnit) : List WrittenList :=
  ⟨unit.sourcesVariable, unit.sources⟩ ::
    (if unit.isExecutable && unit.includeDirectories.isEmpty then []
      else [⟨includeVariable unit.name, unit.includeDirectories⟩])

namespace Project

def lists (project : Project) : List WrittenList :=
  project.importedLibraries.flatMap ImportedLibrary.lists ++ project.outputs.flatMap OutputUnit.lists

end Project

theorem startsList_eq_false {openings lines : List String} (opens : OpenWith openings lines)
    (apart : openings.all (areApart "set( ") = true) : lines.filter startsList = [] := by
  refine filter_eq_nil_of_clear fun line member => ?_
  rw [startsList, opens.notOpen "set( " apart line member, Bool.false_and]

def IsListVariable (variableName : String) : Prop :=
  ∃ front, ∃ ending ∈ ["_SOURCES", "_INCLUDE_DIRS", "_HEADER_FILES"], variableName = front ++ ending

theorem ImportedLibrary.isListVariable (library : ImportedLibrary) :
    IsListVariable library.includeVariable ∧ IsListVariable library.headerVariable :=
  ⟨⟨Text.uppercase library.name, "_INCLUDE_DIRS", by decide, rfl⟩,
    ⟨Text.uppercase library.name, "_HEADER_FILES", by decide, rfl⟩⟩

theorem OutputUnit.isListVariable (unit : OutputUnit) :
    IsListVariable unit.sourcesVariable ∧ IsListVariable (includeVariable unit.name) :=
  ⟨⟨Text.uppercase unit.name, "_SOURCES", by decide, rfl⟩, ⟨Text.uppercase unit.name, "_INCLUDE_DIRS", by decide, rfl⟩⟩

theorem IsListVariable.ne_empty {variableName : String} (role : IsListVariable variableName) : variableName ≠ "" := by
  obtain ⟨front, ending, inRoles, same⟩ := role
  rw [same, Ne, String.append_eq_empty_iff]
  intro empty
  rw [empty.2] at inRoles
  exact absurd inRoles (by decide)

theorem IsListVariable.startsList {variableName : String} (role : IsListVariable variableName) :
    startsList ("set( " ++ variableName) = true := by
  obtain ⟨front, ending, inRoles, same⟩ := role
  have apart : ∀ role ∈ ["_SOURCES", "_INCLUDE_DIRS", "_HEADER_FILES"], endApart " )" role = true := by decide
  rw [Script.startsList, opensWith_append, same, ← String.append_assoc,
    endsWith_eq_false_of_apart (apart ending inRoles)]
  rfl

theorem filter_listLines {variableName : String} (role : IsListVariable variableName) (entries : List String) :
    (listLines variableName entries).filter startsList = ["set( " ++ variableName] := by
  have opens : OpenWith ["\t", ")"] (entries.map (fun entry => "\t" ++ qualify entry) ++ [")"]) := by
    simp +decide [hasOpening_append]
  rw [listLines, List.append_assoc, List.filter_append, startsList_eq_false opens (by decide), List.append_nil,
    List.filter_cons_of_neg (by decide), List.filter_cons_of_pos role.startsList]
  rfl

theorem filter_importedLibraryLines_startsList (library : ImportedLibrary) :
    (importedLibraryLines library).filter startsList =
      library.lists.map fun list => "set( " ++ list.variableName := by
  have units : OpenWith ["add_library( ", "if( ", "elseif( ", "\t", "endif()"]
      ((library.identifiers.zip library.files).flatMap
        fun unit => importedUnitLines library.linkage unit.1 unit.2) :=
    (OpenWith.flatMap_iff _ _).2 fun unit _member => openWith_importedUnitLines library.linkage unit.1 unit.2
  rw [importedLibraryLines, List.filter_append, List.filter_append,
    filter_listLines library.isListVariable.1, filter_listLines library.isListVariable.2, startsList_eq_false units (by decide)]
  rfl

theorem filter_includeLines_startsList (unit : OutputUnit) :
    (includeLines unit).filter startsList = (if unit.isExecutable && unit.includeDirectories.isEmpty then []
      else ["set( " ++ includeVariable unit.name]) := by
  have target : OpenWith ["target_include_directories( "] ["", "target_include_directories( " ++ unit.identifier ++
      " PRIVATE " ++ variableReference (includeVariable unit.name) ++ " )"] := by
    simp +decide [hasOpening_append, String.append_assoc]
  rw [includeLines]
  split
  · rfl
  · rw [List.filter_append, filter_listLines unit.isListVariable.2,
      startsList_eq_false target (by decide)]
    rfl

theorem filter_outputLines_startsList (unit : OutputUnit) :
    (outputLines unit).filter startsList = unit.lists.map fun list => "set( " ++ list.variableName := by
  have properties : OpenWith ["set_target_properties( ", "\t", ")"]
      ("" :: ("set_target_properties( " ++ unit.identifier) :: propertyEntries unit) := by
    have entries : OpenWith ["set_target_properties( ", "\t", ")"] (propertyEntries unit) :=
      (openWith_propertyEntries unit).mono (by decide)
    simp +decide [entries, hasOpening_append]
  have declaration : startsList (declarationLine unit) = false := by
    rw [startsList, (openWith_declarationLine unit).notOpen "set( " (by decide) _ List.mem_cons_self, Bool.false_and]
  rw [outputLines_eq, linesBehindDeclaration, List.filter_append, List.filter_append,
    List.filter_cons_of_neg (Bool.eq_false_iff.1 declaration), List.filter_append,
    filter_listLines unit.isListVariable.1, filter_includeLines_startsList,
    startsList_eq_false properties (by decide), OutputUnit.lists]
  split <;> rfl

theorem filter_standardLines_startsList (language : Language) (standards : LanguageStandards)
    (outputs : List OutputUnit) : (standardLines language standards outputs).filter startsList = [] := by
  have closed : startsList ("set( " ++ language.standardVariable ++ " " ++ quote standards.active ++ " CACHE STRING " ++
      quote language.description ++ " )") = false := by
    rw [startsList, endsWith_append, Bool.not_true, Bool.and_false]
  have others : OpenWith ["set_property( ", "set_target_properties( ", "message( "]
      ((standardLines language standards outputs).drop 2) := by
    simp +decide [standardLines, messageLine, hasOpening_append, String.append_assoc]
  have parted : standardLines language standards outputs = "" :: ("set( " ++ language.standardVariable ++ " " ++
      quote standards.active ++ " CACHE STRING " ++ quote language.description ++ " )") ::
        (standardLines language standards outputs).drop 2 := rfl
  rw [parted, List.filter_cons_of_neg (by decide), List.filter_cons_of_neg (Bool.eq_false_iff.1 closed),
    startsList_eq_false others (by decide)]

namespace Project

theorem filter_scriptLines_startsList (project : Project) :
    project.scriptLines.filter startsList = project.lists.map fun list => "set( " ++ list.variableName := by
  rw [scriptLines_eq, lists]
  simp only [List.filter_append, librarySection, outputSection, standardSection, List.filter_flatMap,
    filter_importedLibraryLines_startsList, filter_outputLines_startsList, filter_standardLines_startsList,
    startsList_eq_false project.openWith_introduction (by decide),
    startsList_eq_false project.openWith_linkSection (by decide),
    startsList_eq_false project.openWith_targetSection (by decide), List.map_append, List.map_flatMap,
    List.nil_append, List.append_nil]

theorem isListVariable_of_mem_lists {project : Project} {list : WrittenList} (member : list ∈ project.lists) :
    IsListVariable list.variableName := by
  rcases List.mem_append.1 member with ofLibrary | ofOutput
  · obtain ⟨library, _inLibraries, among⟩ := List.mem_flatMap.1 ofLibrary
    rcases List.mem_cons.1 among with same | later
    · rw [same]
      exact library.isListVariable.1
    · rw [List.mem_singleton.1 later]
      exact library.isListVariable.2
  · obtain ⟨unit, _inOutputs, among⟩ := List.mem_flatMap.1 ofOutput
    rcases List.mem_cons.1 among with same | later
    · rw [same]
      exact unit.isListVariable.1
    · split at later
      · cases later
      · rw [List.mem_singleton.1 later]
        exact unit.isListVariable.2

end Project

theorem ImportedLibrary.infix_of_mem_lists {library : ImportedLibrary} {list : WrittenList}
    (member : list ∈ library.lists) : list.lines <:+: importedLibraryLines library := by
  rw [importedLibraryLines]
  rcases List.mem_cons.1 member with same | later
  · rw [same, List.append_assoc]
    exact (List.prefix_append _ _).isInfix
  · rw [List.mem_singleton.1 later]
    exact List.infix_append _ _ _

theorem OutputUnit.infix_of_mem_lists {unit : OutputUnit} {list : WrittenList} (member : list ∈ unit.lists) :
    list.lines <:+: outputLines unit := by
  rcases List.mem_cons.1 member with same | later
  · rw [same, outputLines_eq, List.append_assoc]
    exact (List.prefix_append _ _).isInfix
  · have inIncludes : list.lines <:+: includeLines unit := by
      rw [includeLines]
      split at later
      · cases later
      · rename_i listed
        rw [if_neg listed, List.mem_singleton.1 later]
        exact (List.prefix_append _ _).isInfix
    have inBehind : list.lines <:+: linesBehindDeclaration unit :=
      inIncludes.trans (List.prefix_append (includeLines unit) _).isInfix
    rw [outputLines_eq]
    exact inBehind.trans ((List.suffix_cons _ _).trans (List.suffix_append _ _)).isInfix

namespace Project

theorem infix_of_mem_lists {project : Project} {list : WrittenList} (member : list ∈ project.lists) :
    list.lines <:+: project.scriptLines := by
  rw [scriptLines_eq]
  rcases List.mem_append.1 member with ofLibrary | ofOutput
  · obtain ⟨library, inLibraries, among⟩ := List.mem_flatMap.1 ofLibrary
    refine (library.infix_of_mem_lists among).trans ((infix_flatMap_of_mem inLibraries importedLibraryLines).trans ?_)
    exact (List.prefix_append _ _).isInfix.trans (List.suffix_append _ _).isInfix
  · obtain ⟨unit, inOutputs, among⟩ := List.mem_flatMap.1 ofOutput
    refine (unit.infix_of_mem_lists among).trans ((infix_flatMap_of_mem inOutputs outputLines).trans ?_)
    exact (List.prefix_append _ _).isInfix.trans
      ((List.suffix_append _ _).isInfix.trans (List.suffix_append _ _).isInfix)

/-- The lists of a listfile, and which of them are read back as they were. -/
theorem lists_survive_iff (project : Project) :
    project.scriptLines.filter startsList = project.lists.map (fun list => "set( " ++ list.variableName) ∧
      ∀ list ∈ project.lists, list.lines <:+: project.scriptLines ∧ (list.Survives ↔ list.IsBare) :=
  ⟨project.filter_scriptLines_startsList, fun _list member =>
    ⟨infix_of_mem_lists member, WrittenList.survives_iff_isBare (isListVariable_of_mem_lists member).ne_empty⟩⟩

end Project

def spacedTree : FileTree :=
  ⟨[([Name.ofString "proj"], .directory), ([Name.ofString "proj", Name.ofString "src"], .directory),
    ([Name.ofString "proj", Name.ofString "src", Name.ofString "my file.c"], .file (.text ""))], []⟩

def spacedSample : Json :=
  Schema.descriptorOf [("debug", Schema.targetEntry [] [])]
    [("app", .object [(Tag.kind, .string "executable"), (Tag.sourceDirectories, .texts ["src"]),
        (Tag.headerDirectories, .texts []), (Tag.searchedIncludeDirectories, .texts []),
        (Tag.executableDirectory, .string "bin")])]
    [] []

/-- The discovered file is read back as two arguments. -/
theorem not_survives_spacedSample :
    ∃ project, (resolveDescriptor spacedTree (Path.ofString "proj") spacedSample).outcome = .ok project ∧
      ⟨"APP_SOURCES", ["src/my file.c"]⟩ ∈ project.lists ∧
      unquotedArguments (text (listLines "APP_SOURCES" ["src/my file.c"])) =
        ["APP_SOURCES", "${PROJECT_SOURCE_DIR}/src/my", "file.c"] ∧
      ¬∀ list ∈ project.lists, list.Survives := by
  obtain ⟨project, resolved, outputs⟩ := (map_eq_ok_iff Project.outputs _ _).1
    (show (resolveDescriptor spacedTree (Path.ofString "proj") spacedSample).outcome.map Project.outputs =
      .ok [⟨"app", .executable "bin", ["src/my file.c"], []⟩] by cbv)
  have listed : ⟨"APP_SOURCES", ["src/my file.c"]⟩ ∈ project.lists := by
    rw [Project.lists, outputs]
    exact List.mem_append_right _ List.mem_cons_self
  refine ⟨project, resolved, listed, by decide, fun survives => ?_⟩
  exact absurd (survives _ listed) (by decide)

end Listfile

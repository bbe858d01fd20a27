import Listfile.Proofs.Outcomes
import Listfile.Proofs.Script.Lines

set_option autoImplicit false

/-! What a listfile declares: one unit for each file of an imported library, then one target for each output, behind
the list of its sources. -/

namespace Listfile

open Script

def isDeclaration : String → Bool := opensWithAny ["add_library( ", "add_executable( "]

def importedDeclarations (library : ImportedLibrary) : List String :=
  (List.range library.files.length).map fun index =>
    "add_library( " ++ Text.lowercase library.name ++ "_" ++ Nat.repr index ++ " " ++ library.linkage.keyword ++
      " IMPORTED )"

/-- How an output is declared, and what stands before its declaration from the last list on. -/
structure DeclaresOutput (unit : OutputUnit) (found : Occurrence) : Prop where
  line : found.line = (match unit.kind with
      | .executable _ => "add_executable( " ++ unit.identifier
      | .library linkage _ _ => "add_library( " ++ unit.identifier ++ " " ++ linkage.keyword) ++
    " " ++ variableReference unit.sourcesVariable ++ " )"
  sources : fromLast (opensWith "set( ") found.before =
    ["set( " ++ unit.sourcesVariable] ++ unit.sources.map (fun entry => "\t" ++ qualify entry) ++ [")", ""]

theorem declaresNothing {openings lines : List String} (opens : OpenWith openings lines)
    (apart : (["add_library( ", "add_executable( "].all fun other =>
      decide (other ≠ "") && openings.all (areApart other)) = true) : ∀ line ∈ lines, isDeclaration line = false :=
  opens.clear _ apart

theorem filter_importedUnitLines (linkage : Linkage) (identifier file : String) :
    (importedUnitLines linkage identifier file).filter isDeclaration =
      ["add_library( " ++ identifier ++ " " ++ linkage.keyword ++ " IMPORTED )"] := by
  have declares : isDeclaration ("add_library( " ++ identifier ++ " " ++ linkage.keyword ++ " IMPORTED )") = true := by
    simp only [isDeclaration, opensWithAny, List.any_cons, String.append_assoc, opensWith_append, Bool.true_or]
  rw [importedUnitLines, List.filter_append, List.filter_append,
    filter_eq_nil_of_clear (declaresNothing (openWith_platformLines linkage identifier file) (by decide)), List.append_nil,
    List.filter_cons_of_neg (by decide), List.filter_cons_of_pos declares]
  rfl

/-- Every file has its identifier: the two lists are equally long, so none is left out. -/
theorem filter_importedLibraryLines (library : ImportedLibrary) :
    (importedLibraryLines library).filter isDeclaration = library.identifiers.map fun identifier =>
      "add_library( " ++ identifier ++ " " ++ library.linkage.keyword ++ " IMPORTED )" := by
  have listClear : ∀ variableName entries, (listLines variableName entries).filter isDeclaration = [] :=
    fun variableName entries =>
      filter_eq_nil_of_clear (declaresNothing (openWith_listLines variableName entries) (by decide))
  have equallyLong : library.identifiers.length = library.files.length := by
    rw [ImportedLibrary.identifiers, importedIdentifiers, List.length_map, List.length_range]
  rw [importedLibraryLines, List.filter_append, List.filter_append, listClear, listClear, List.filter_flatMap]
  simp only [filter_importedUnitLines, List.nil_append]
  rw [← List.map_eq_flatMap]
  conv_rhs => rw [← List.map_fst_zip (Nat.le_of_eq equallyLong), List.map_map]
  rfl

theorem map_identifiers_eq_importedDeclarations (library : ImportedLibrary) :
    (library.identifiers.map fun identifier =>
      "add_library( " ++ identifier ++ " " ++ library.linkage.keyword ++ " IMPORTED )") =
      importedDeclarations library := by
  rw [ImportedLibrary.identifiers, importedIdentifiers, List.map_map, importedDeclarations]
  refine List.map_congr_left fun index _member => ?_
  simp only [Function.comp_apply, withIndex, importedIdentifier, String.append_assoc]

theorem isDeclaration_declarationLine (unit : OutputUnit) : isDeclaration (declarationLine unit) = true := by
  cases kind : unit.kind <;> simp [isDeclaration, opensWithAny, declarationLine, kind, String.append_assoc]

theorem declaresOutput_declarationLine (before after : List String) (unit : OutputUnit) :
    DeclaresOutput unit ⟨before ++ listLines unit.sourcesVariable unit.sources ++ [""], declarationLine unit, after⟩ where
  line := by
    cases kind : unit.kind <;> simp only [declarationLine, kind, String.append_assoc]
  sources := by
    have entries : OpenWith ["\t", ")"] (unit.sources.map (fun entry => "\t" ++ qualify entry) ++ [")", ""]) := by
      simp +decide [hasOpening_append]
    have none : ∀ line ∈ unit.sources.map (fun entry => "\t" ++ qualify entry) ++ [")", ""],
        opensWith "set( " line = false := entries.notOpen _ (by decide)
    have parted : before ++ listLines unit.sourcesVariable unit.sources ++ [""] = (before ++ [""]) ++
        ("set( " ++ unit.sourcesVariable) :: (unit.sources.map (fun entry => "\t" ++ qualify entry) ++ [")", ""]) := by
      simp only [listLines, List.append_assoc, List.cons_append, List.nil_append]
    dsimp only
    rw [parted, fromLast_append_cons (opensWith_append _ _) none]
    rfl

def propertyEntries (unit : OutputUnit) : List String :=
  ["\tPROPERTIES", "\tOUTPUT_NAME " ++ unit.name] ++ outputDirectoryLines unit.kind ++ [")"]

def linesBehindDeclaration (unit : OutputUnit) : List String :=
  includeLines unit ++ "" :: ("set_target_properties( " ++ unit.identifier) :: propertyEntries unit

theorem outputLines_eq (unit : OutputUnit) :
    outputLines unit = (listLines unit.sourcesVariable unit.sources ++ [""]) ++
      declarationLine unit :: linesBehindDeclaration unit := by
  simp only [outputLines, linesBehindDeclaration, propertyEntries, List.append_assoc, List.cons_append,
    List.nil_append]

theorem openWith_declarationLine (unit : OutputUnit) :
    OpenWith ["add_executable( ", "add_library( "] [declarationLine unit] := by
  unfold declarationLine
  cases unit.kind <;> simp +decide [hasOpening_append, String.append_assoc]

theorem openWith_propertyEntries (unit : OutputUnit) : OpenWith ["\t", ")"] (propertyEntries unit) := by
  have directories : OpenWith ["\t", ")"] (outputDirectoryLines unit.kind) :=
    (openWith_outputDirectoryLines unit.kind).mono (by decide)
  simp +decide [propertyEntries, directories, hasOpening_append]

theorem openWith_linesBehindDeclaration (unit : OutputUnit) :
    OpenWith ["set( ", "\t", ")", "target_include_directories( ", "set_target_properties( "]
      (linesBehindDeclaration unit) := by
  have includes : OpenWith ["set( ", "\t", ")", "target_include_directories( ", "set_target_properties( "]
      (includeLines unit) := (openWith_includeLines unit).mono (by decide)
  have entries : OpenWith ["set( ", "\t", ")", "target_include_directories( ", "set_target_properties( "]
      (propertyEntries unit) := (openWith_propertyEntries unit).mono (by decide)
  simp +decide [linesBehindDeclaration, includes, entries, hasOpening_append]

theorem Project.openWith_outputSection (project : Project) :
    OpenWith ["set( ", "\t", ")", "add_executable( ", "add_library( ", "target_include_directories( ",
      "set_target_properties( "] project.outputSection := by
  refine (OpenWith.flatMap_iff _ _).2 fun unit _member => ?_
  rw [outputLines_eq, OpenWith.append_iff, OpenWith.append_iff]
  exact ⟨⟨(openWith_listLines _ _).mono (by decide), by simp +decide⟩,
    (OpenWith.cons_iff _ _).2 ⟨(openWith_declarationLine unit).mono (by decide) _ List.mem_cons_self,
      (openWith_linesBehindDeclaration unit).mono (by decide)⟩⟩

theorem occurrences_outputLines (unit : OutputUnit) (before rest : List String) :
    ∃ found, DeclaresOutput unit found ∧ before <+: found.before ∧
      occurrences isDeclaration before (outputLines unit ++ rest) =
        found :: occurrences isDeclaration (before ++ outputLines unit) rest := by
  have opens : OpenWith ["set( ", "\t", ")"] (listLines unit.sourcesVariable unit.sources ++ [""]) := by
    simp +decide [openWith_listLines]
  refine ⟨_, declaresOutput_declarationLine before (linesBehindDeclaration unit ++ rest) unit, ?_, ?_⟩
  · exact (List.prefix_append _ _).trans (List.prefix_append _ _)
  · rw [outputLines_eq, List.append_assoc, occurrences_clear_append (declaresNothing opens (by decide)),
      List.cons_append, occurrences_cons_of_test (isDeclaration_declarationLine unit),
      occurrences_clear_append (declaresNothing (openWith_linesBehindDeclaration unit) (by decide))]
    simp only [List.append_assoc, List.cons_append, List.nil_append]

namespace Project

/-- The listfile declares the files of the libraries, then the outputs, and nothing else. -/
theorem scriptLines_declarations (project : Project) :
    ∃ ofLibraries ofOutputs, occurrences isDeclaration [] project.scriptLines = ofLibraries ++ ofOutputs ∧
      ofLibraries.map Occurrence.line = project.importedLibraries.flatMap importedDeclarations ∧
      List.Forall₂ DeclaresOutput project.outputs ofOutputs := by
  have introduced := declaresNothing project.openWith_introduction (by decide)
  have closing : ∀ line ∈ project.linkSection ++ (project.standardSection ++ project.targetSection),
      isDeclaration line = false := by
    rw [List.forall_mem_append, List.forall_mem_append]
    exact ⟨declaresNothing project.openWith_linkSection (by decide),
      declaresNothing project.openWith_standardSection (by decide),
      declaresNothing project.openWith_targetSection (by decide)⟩
  -- The outputs start with whatever the libraries have declared before them.
  obtain ⟨ofLibraries, same, lines⟩ := exists_occurrences_append isDeclaration
    ([] ++ project.introduction) project.librarySection
    (project.outputSection ++ (project.linkSection ++ (project.standardSection ++ project.targetSection)))
  refine ⟨ofLibraries, _, Eq.trans ?_ same, ?_,
    (forall₂_occurrences occurrences_outputLines closing project.outputs _).imp fun _unit _found premise => premise.1⟩
  · rw [scriptLines_eq, occurrences_clear_append introduced]
  · rw [lines, librarySection, List.filter_flatMap]
    exact congrArg (project.importedLibraries.flatMap ·)
      (funext fun library => (filter_importedLibraryLines library).trans
        (map_identifiers_eq_importedDeclarations library))

end Project

end Listfile

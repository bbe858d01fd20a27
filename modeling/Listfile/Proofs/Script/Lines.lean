import Listfile.Script.Listing
import Mathlib.Data.List.Forall2

set_option autoImplicit false

/-! Listfiles line by line. Every line that is not empty is written with a fixed opening, so a line is known by its
opening whatever names and paths stand behind it. A search through the lines keeps what stands before and behind
each line that it finds. -/

namespace Listfile.Script

def opensWith (opening line : String) : Bool := opening.toList.isPrefixOf line.toList

def opensWithAny (openings : List String) (line : String) : Bool := openings.any (opensWith · line)

def areApart (first second : String) : Bool :=
  !first.toList.isPrefixOf second.toList && !second.toList.isPrefixOf first.toList

theorem opensWith_iff (opening line : String) : opensWith opening line = true ↔ opening.toList <+: line.toList :=
  List.isPrefixOf_iff_prefix

@[simp] theorem opensWith_append (opening rest : String) : opensWith opening (opening ++ rest) = true := by
  rw [opensWith_iff, String.toList_append]
  exact List.prefix_append _ _

theorem opensWith_eq_false_of_apart {first second line : String} (apart : areApart first second = true)
    (opens : opensWith second line = true) : opensWith first line = false := by
  rw [areApart, Bool.and_eq_true, Bool.not_eq_true', Bool.not_eq_true', Bool.eq_false_iff, Bool.eq_false_iff, Ne, Ne,
    List.isPrefixOf_iff_prefix, List.isPrefixOf_iff_prefix] at apart
  rw [opensWith_iff] at opens
  rw [Bool.eq_false_iff, Ne, opensWith_iff]
  intro both
  exact (List.prefix_or_prefix_of_prefix both opens).elim apart.1 apart.2

def HasOpening (openings : List String) (line : String) : Prop := line = "" ∨ opensWithAny openings line = true

instance (openings : List String) (line : String) : Decidable (HasOpening openings line) :=
  inferInstanceAs (Decidable (_ ∨ _))

theorem hasOpening_append {openings : List String} {text : String} (opens : opensWithAny openings text = true)
    (rest : String) : HasOpening openings (text ++ rest) := by
  obtain ⟨opening, member, opensText⟩ := List.any_eq_true.1 opens
  refine Or.inr (List.any_eq_true.2 ⟨opening, member, ?_⟩)
  rw [opensWith_iff] at opensText ⊢
  rw [String.toList_append]
  exact opensText.trans (List.prefix_append _ _)

def OpenWith (openings lines : List String) : Prop := ∀ line ∈ lines, HasOpening openings line

namespace OpenWith

variable {openings : List String}

@[simp] theorem nil : OpenWith openings [] := fun _line absent => absurd absent List.not_mem_nil

@[simp] theorem cons_iff (line : String) (lines : List String) :
    OpenWith openings (line :: lines) ↔ HasOpening openings line ∧ OpenWith openings lines :=
  List.forall_mem_cons

@[simp] theorem append_iff (first second : List String) :
    OpenWith openings (first ++ second) ↔ OpenWith openings first ∧ OpenWith openings second :=
  List.forall_mem_append

@[simp] theorem map_iff {α : Type} (items : List α) (line : α → String) :
    OpenWith openings (items.map line) ↔ ∀ item ∈ items, HasOpening openings (line item) :=
  List.forall_mem_map

@[simp] theorem flatMap_iff {α : Type} (items : List α) (lines : α → List String) :
    OpenWith openings (items.flatMap lines) ↔ ∀ item ∈ items, OpenWith openings (lines item) :=
  List.forall_mem_flatMap

theorem mono {fewer lines : List String} (opens : OpenWith fewer lines)
    (within : ∀ opening ∈ fewer, opening ∈ openings) : OpenWith openings lines := by
  intro line member
  refine (opens line member).imp_right fun opened => ?_
  obtain ⟨opening, inFewer, hasOpening⟩ := List.any_eq_true.1 opened
  exact List.any_eq_true.2 ⟨opening, within opening inFewer, hasOpening⟩

theorem notOpen {lines : List String} (opens : OpenWith openings lines) (other : String)
    (apart : (decide (other ≠ "") && openings.all (areApart other)) = true) :
    ∀ line ∈ lines, opensWith other line = false := by
  rw [Bool.and_eq_true, decide_eq_true_eq, List.all_eq_true] at apart
  obtain ⟨filled, apartFromAll⟩ := apart
  intro line member
  rcases opens line member with empty | opened
  · rw [empty, Bool.eq_false_iff, Ne, opensWith_iff, String.toList_empty, List.prefix_nil]
    exact fun noLetters => filled (String.toList_eq_nil_iff.1 noLetters)
  · obtain ⟨opening, inOpenings, hasOpening⟩ := List.any_eq_true.1 opened
    exact opensWith_eq_false_of_apart (apartFromAll opening inOpenings) hasOpening

theorem clear {lines : List String} (opens : OpenWith openings lines) (others : List String)
    (apart : (others.all fun other => decide (other ≠ "") && openings.all (areApart other)) = true) :
    ∀ line ∈ lines, opensWithAny others line = false := by
  intro line member
  rw [opensWithAny, List.any_eq_false]
  intro other inOthers
  rw [opens.notOpen other (List.all_eq_true.1 apart other inOthers) line member]
  exact Bool.false_ne_true

end OpenWith

def endsWith (ending line : String) : Bool := ending.toList.isSuffixOf line.toList

def endApart (first second : String) : Bool :=
  !first.toList.isSuffixOf second.toList && !second.toList.isSuffixOf first.toList

theorem endsWith_iff (ending line : String) : endsWith ending line = true ↔ ending.toList <:+ line.toList :=
  List.isSuffixOf_iff_suffix

theorem endsWith_append (rest ending : String) : endsWith ending (rest ++ ending) = true := by
  rw [endsWith_iff, String.toList_append]
  exact List.suffix_append _ _

theorem endsWith_eq_false_of_apart {first second : String} (apart : endApart first second = true) (rest : String) :
    endsWith first (rest ++ second) = false := by
  rw [endApart, Bool.and_eq_true, Bool.not_eq_true', Bool.not_eq_true', Bool.eq_false_iff, Bool.eq_false_iff, Ne, Ne,
    List.isSuffixOf_iff_suffix, List.isSuffixOf_iff_suffix] at apart
  have ends := endsWith_append rest second
  rw [endsWith_iff] at ends
  rw [Bool.eq_false_iff, Ne, endsWith_iff]
  intro both
  exact (List.suffix_or_suffix_of_suffix both ends).elim apart.1 apart.2

theorem openWith_listLines (variableName : String) (entries : List String) :
    OpenWith ["set( ", "\t", ")"] (listLines variableName entries) := by
  simp +decide [listLines, hasOpening_append]

theorem openWith_platformLines (linkage : Linkage) (identifier file : String) :
    OpenWith ["if( ", "elseif( ", "\t"] ((platformProperties linkage file).flatMap
      fun platform => platform.1 :: locationLines identifier platform.2) := by
  cases linkage <;> simp +decide [platformProperties, locationLines, hasOpening_append, String.append_assoc]

theorem openWith_importedUnitLines (linkage : Linkage) (identifier file : String) :
    OpenWith ["add_library( ", "if( ", "elseif( ", "\t", "endif()"] (importedUnitLines linkage identifier file) := by
  have platforms : OpenWith ["add_library( ", "if( ", "elseif( ", "\t", "endif()"] _ :=
    (openWith_platformLines linkage identifier file).mono (by decide)
  simp +decide [importedUnitLines, platforms, hasOpening_append, String.append_assoc]

theorem openWith_importedLibraryLines (library : ImportedLibrary) :
    OpenWith ["set( ", "\t", ")", "add_library( ", "if( ", "elseif( ", "endif()"] (importedLibraryLines library) := by
  simp only [importedLibraryLines, OpenWith.append_iff, OpenWith.flatMap_iff]
  exact ⟨⟨(openWith_listLines _ _).mono (by decide), (openWith_listLines _ _).mono (by decide)⟩,
    fun unit _member => (openWith_importedUnitLines library.linkage unit.1 unit.2).mono (by decide)⟩

theorem openWith_includeLines (unit : OutputUnit) :
    OpenWith ["set( ", "\t", ")", "target_include_directories( "] (includeLines unit) := by
  unfold includeLines
  split
  · exact OpenWith.nil
  · simp +decide [listLines, hasOpening_append, String.append_assoc]

theorem openWith_outputDirectoryLines (kind : OutputKind) : OpenWith ["\t"] (outputDirectoryLines kind) := by
  cases kind with
  | executable directory => simp +decide [outputDirectoryLines, hasOpening_append]
  | library linkage archiveDirectory libraryDirectory =>
      cases linkage <;> simp +decide [outputDirectoryLines, hasOpening_append]

theorem openWith_linkLines (edge : LinkEdge) :
    OpenWith ["target_link_libraries( ", "\t", ")"] (linkLines edge) := by
  simp +decide [linkLines, hasOpening_append]

theorem openWith_standardLines (language : Language) (standards : LanguageStandards) (outputs : List OutputUnit) :
    OpenWith ["set( ", "set_property( ", "set_target_properties( ", "message( "]
      (standardLines language standards outputs) := by
  simp +decide [standardLines, messageLine, hasOpening_append, String.append_assoc]

theorem openWith_defaultTargetLines (name : String) : OpenWith ["if( ", "endif()", "\t"] (defaultTargetLines name) := by
  simp +decide [defaultTargetLines, hasOpening_append, String.append_assoc]

theorem openWith_targetListLines (targets : List BuildTarget) :
    OpenWith ["set_property( "] (targetListLines targets) := by
  simp +decide [targetListLines, hasOpening_append, String.append_assoc]

theorem openWith_targetLines (target : BuildTarget) : OpenWith ["if( ", "endif()", "\t"] (targetLines target) := by
  simp +decide [targetLines, messageLine, hasOpening_append, String.append_assoc]

/-- A line of some lines, with the lines before it and behind it. -/
structure Occurrence where
  before : List String
  line : String
  after : List String

/-- The lines that pass a test, in order; `before` stands before all of them. -/
def occurrences (test : String → Bool) (before : List String) : List String → List Occurrence
  | [] => []
  | line :: lines =>
    if test line then ⟨before, line, lines⟩ :: occurrences test (before ++ [line]) lines
    else occurrences test (before ++ [line]) lines

/-- The lines from the last one that passes a test on. -/
def fromLast (test : String → Bool) : List String → List String
  | [] => []
  | line :: lines =>
    if lines.any test then fromLast test lines
    else if test line then line :: lines
    else []

section

variable {test : String → Bool}

theorem occurrences_cons_of_test {line : String} (found : test line = true) (before lines : List String) :
    occurrences test before (line :: lines) = ⟨before, line, lines⟩ :: occurrences test (before ++ [line]) lines :=
  if_pos found

theorem occurrences_clear_append {clear : List String} (none : ∀ line ∈ clear, test line = false)
    (before lines : List String) :
    occurrences test before (clear ++ lines) = occurrences test (before ++ clear) lines := by
  induction clear generalizing before with
  | nil => rw [List.nil_append, List.append_nil]
  | cons line clear ih =>
      rw [List.forall_mem_cons] at none
      rw [List.cons_append, occurrences, none.1, if_neg Bool.false_ne_true, ih none.2, List.append_assoc]
      rfl

theorem occurrences_eq_nil {lines : List String} (none : ∀ line ∈ lines, test line = false) (before : List String) :
    occurrences test before lines = [] := by
  rw [← List.append_nil lines, occurrences_clear_append none]
  rfl

theorem exists_occurrences_append (test : String → Bool) (before first second : List String) :
    ∃ found, occurrences test before (first ++ second) = found ++ occurrences test (before ++ first) second ∧
      found.map Occurrence.line = first.filter test := by
  induction first generalizing before with
  | nil => exact ⟨[], by rw [List.append_nil]; rfl, rfl⟩
  | cons line first ih =>
      obtain ⟨found, same, lines⟩ := ih (before ++ [line])
      rw [List.append_assoc, List.singleton_append] at same
      rw [List.cons_append, occurrences, List.filter_cons, same]
      cases test line with
      | false => exact ⟨found, rfl, lines⟩
      | true => exact ⟨⟨before, line, first ++ second⟩ :: found, rfl, by rw [List.map_cons, lines, if_pos rfl]⟩

theorem filter_eq_nil_of_clear {lines : List String} (clear : ∀ line ∈ lines, test line = false) :
    lines.filter test = [] :=
  List.filter_eq_nil_iff.2 fun line member => Bool.eq_false_iff.1 (clear line member)

/-- Where every item writes one line that passes the test, the occurrences follow the items. -/
theorem forall₂_occurrences {α : Type} {relation : α → Occurrence → Prop} {lines : α → List String}
    (step : ∀ item before rest, ∃ found, relation item found ∧ before <+: found.before ∧
      occurrences test before (lines item ++ rest) = found :: occurrences test (before ++ lines item) rest)
    {rest : List String} (clear : ∀ line ∈ rest, test line = false) (items : List α) (before : List String) :
    List.Forall₂ (fun item found => relation item found ∧ before <+: found.before) items
      (occurrences test before (items.flatMap lines ++ rest)) := by
  induction items generalizing before with
  | nil =>
      rw [List.flatMap_nil, List.nil_append, occurrences_eq_nil clear]
      exact .nil
  | cons item items ih =>
      obtain ⟨found, related, behind, same⟩ := step item before (items.flatMap lines ++ rest)
      rw [List.flatMap_cons, List.append_assoc, same]
      refine .cons ⟨related, behind⟩ ((ih (before ++ lines item)).imp fun _item later premise => ?_)
      exact ⟨premise.1, (List.prefix_append before (lines item)).trans premise.2⟩

theorem fromLast_append_cons {line : String} (found : test line = true) {lines : List String}
    (none : ∀ other ∈ lines, test other = false) (before : List String) :
    fromLast test (before ++ line :: lines) = line :: lines := by
  induction before with
  | nil =>
      have nothing : lines.any test = false := by
        rw [List.any_eq_false]
        intro other member
        rw [none other member]
        exact Bool.false_ne_true
      rw [List.nil_append, fromLast, nothing, if_neg Bool.false_ne_true, if_pos found]
  | cons first before ih =>
      have some : (before ++ line :: lines).any test = true :=
        List.any_eq_true.2 ⟨line, List.mem_append_right _ List.mem_cons_self, found⟩
      rw [List.cons_append, fromLast, if_pos some, ih]

end

end Listfile.Script

namespace Listfile.Project

open Script

def introduction (project : Project) : List String :=
  versionLines project.info.minimumVersion ++ projectNameLines project.info.name

def librarySection (project : Project) : List String := project.importedLibraries.flatMap importedLibraryLines

def outputSection (project : Project) : List String := project.outputs.flatMap outputLines

def linkingEdges (project : Project) : List LinkEdge := project.linkEdges.filter fun edge => !edge.targets.isEmpty

def linkSection (project : Project) : List String := project.linkingEdges.flatMap linkLines

def standardSection (project : Project) : List String :=
  standardLines .cpp project.cppStandards project.outputs ++ standardLines .c project.cStandards project.outputs

def targetSection (project : Project) : List String := project.targetParts.flatMap Part.lines

theorem scriptLines_eq (project : Project) :
    project.scriptLines = project.introduction ++ (project.librarySection ++ (project.outputSection ++
      (project.linkSection ++ (project.standardSection ++ project.targetSection)))) := by
  simp only [scriptLines, parts, linkParts, introduction, librarySection, outputSection, linkingEdges, linkSection,
    standardSection, targetSection, List.flatMap_append, List.flatMap_map, List.flatMap_cons, List.flatMap_nil,
    List.append_nil, List.append_assoc, Part.lines]

theorem openWith_introduction (project : Project) :
    OpenWith ["# ", "cmake_minimum_required( ", "project( "] project.introduction := by
  simp +decide [introduction, versionLines, projectNameLines, hasOpening_append, String.append_assoc]

theorem openWith_librarySection (project : Project) :
    OpenWith ["set( ", "\t", ")", "add_library( ", "if( ", "elseif( ", "endif()"] project.librarySection :=
  (OpenWith.flatMap_iff _ _).2 fun library _member => openWith_importedLibraryLines library

theorem openWith_linkSection (project : Project) :
    OpenWith ["target_link_libraries( ", "\t", ")"] project.linkSection :=
  (OpenWith.flatMap_iff _ _).2 fun edge _member => openWith_linkLines edge

theorem openWith_standardSection (project : Project) :
    OpenWith ["set( ", "set_property( ", "set_target_properties( ", "message( "] project.standardSection :=
  (OpenWith.append_iff _ _).2 ⟨openWith_standardLines _ _ _, openWith_standardLines _ _ _⟩

theorem openWith_targetSection (project : Project) :
    OpenWith ["if( ", "endif()", "\t", "set_property( "] project.targetSection := by
  rw [targetSection, targetParts, List.flatMap_append, List.flatMap_append, List.flatMap_map, List.flatMap_map]
  simp only [OpenWith.append_iff, OpenWith.flatMap_iff, List.mem_singleton, forall_eq]
  exact ⟨⟨fun name _member => (openWith_defaultTargetLines name).mono (by decide),
    (openWith_targetListLines project.targets).mono (by decide)⟩,
    fun target _member => (openWith_targetLines target).mono (by decide)⟩

end Listfile.Project

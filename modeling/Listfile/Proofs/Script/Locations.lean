import Listfile.Proofs.Project.LibraryFile
import Listfile.Proofs.Script.Lines
import Mathlib.Data.List.Nodup

set_option autoImplicit false

/-! Where the units of imported libraries are found. Every platform names the file of a unit in its own way, and all of
these names are written into the listfile. No two files of a library are found at the same place on any platform. -/

namespace Listfile

open Script

theorem isVariableReference_append (text : String) {ending : String} (filled : ending.toList ≠ [])
    (apart : ending.toList.getLast? ≠ some '\x7d') : isVariableReference (text ++ ending) = false := by
  have atEnd : (text ++ ending).toList.getLast? = ending.toList.getLast? := by
    rw [String.toList_append, List.getLast?_append_of_ne_nil _ filled]
  rw [isVariableReference, atEnd, beq_false_of_ne apart, Bool.and_false]

theorem head?_qualify (entry : String) :
    (qualify entry).toList.head? = some '$' ∨ (qualify entry).toList.head? = some '/' := by
  rw [qualify]
  split
  · rename_i stands
    rcases Bool.or_eq_true_iff.1 stands with isReference | isAbsolute
    · left
      rw [isVariableReference, Bool.and_eq_true, Bool.and_eq_true, List.isPrefixOf_iff_prefix] at isReference
      obtain ⟨rest, whole⟩ := isReference.1.2
      rw [← whole]
      rfl
    · exact Or.inr (eq_of_beq isAbsolute)
  · left
    simp [variableReference]

theorem qualify_inj {left right : String} (leftPath : isVariableReference left = false)
    (rightPath : isVariableReference right = false) (same : qualify left = qualify right) : left = right := by
  have relative : ∀ text, isAbsoluteEntry (variableReference "PROJECT_SOURCE_DIR" ++ "/" ++ text) = false := by
    intro text
    simp [isAbsoluteEntry, variableReference]
  rw [qualify, qualify, leftPath, rightPath, Bool.false_or, Bool.false_or] at same
  split at same
  · rename_i leftAbsolute
    split at same
    · exact same
    · rw [same, relative] at leftAbsolute
      cases leftAbsolute
  · split at same
    · rename_i rightAbsolute
      rw [← same, relative] at rightAbsolute
      cases rightAbsolute
    · exact (String.append_right_inj _).1 same

namespace LibraryFile

/-- What the listfile sets for the unit of a file: the condition on the platform, the property, and the path as it is
written. -/
def settings (linkage : Linkage) (file : String) : List ((String × String) × String) :=
  (platformProperties linkage file).flatMap fun platform =>
    platform.2.map fun property => ((platform.1, property.1), qualify property.2)

def namings : Linkage → List ((String × String) × (String → String))
  | .static =>
    [(("if( WIN32 )", "IMPORTED_LOCATION"), windowsLibrary), (("elseif( UNIX )", "IMPORTED_LOCATION"), (unix · "a"))]
  | .shared =>
    [(("if( WIN32 )", "IMPORTED_LOCATION"), windowsDll), (("if( WIN32 )", "IMPORTED_IMPLIB"), windowsLibrary),
      (("elseif( APPLE )", "IMPORTED_LOCATION"), (unix · "dylib")),
      (("elseif( UNIX AND NOT APPLE )", "IMPORTED_LOCATION"), (unix · "so"))]

theorem settings_eq (linkage : Linkage) (file : String) :
    settings linkage file = (namings linkage).map fun naming => (naming.1, qualify (naming.2 file)) := by
  cases linkage <;> rfl

theorem namings_nodup (linkage : Linkage) : ((namings linkage).map Prod.fst).Nodup := by
  cases linkage <;> decide

theorem naming_injective {linkage : Linkage} : ∀ naming ∈ namings linkage, Function.Injective naming.2 := by
  cases linkage with
  | static =>
      simp only [namings, List.forall_mem_cons]
      exact ⟨windowsLibrary_injective, unix_injective "a", nofun⟩
  | shared =>
      simp only [namings, List.forall_mem_cons]
      exact ⟨windowsDll_injective, windowsLibrary_injective, unix_injective "dylib", unix_injective "so", nofun⟩

theorem isVariableReference_naming {linkage : Linkage} : ∀ naming ∈ namings linkage, ∀ file,
    isVariableReference (naming.2 file) = false := by
  have library : ∀ file, isVariableReference (windowsLibrary file) = false := fun file =>
    isVariableReference_append file (by decide) (by decide)
  have dll : ∀ file, isVariableReference (windowsDll file) = false := fun file =>
    isVariableReference_append file (by decide) (by decide)
  have suffixed : ∀ {suffix : String}, suffix.toList ≠ [] → suffix.toList.getLast? ≠ some '\x7d' →
      ∀ file, isVariableReference (unix file suffix) = false := fun filled apart _file =>
    isVariableReference_append _ filled apart
  cases linkage with
  | static =>
      simp only [namings, List.forall_mem_cons]
      exact ⟨library, suffixed (by decide) (by decide), nofun⟩
  | shared =>
      simp only [namings, List.forall_mem_cons]
      exact ⟨dll, library, suffixed (by decide) (by decide), suffixed (by decide) (by decide), nofun⟩

theorem settings_disjoint_iff (linkage : Linkage) (file other : String) :
    (settings linkage file).Disjoint (settings linkage other) ↔ file ≠ other := by
  constructor
  · intro disjoint same
    rw [same] at disjoint
    cases linkage with
    | static => exact disjoint List.mem_cons_self List.mem_cons_self
    | shared => exact disjoint List.mem_cons_self List.mem_cons_self
  · intro apart setting inFile inOther
    rw [settings_eq] at inFile inOther
    obtain ⟨naming, member, same⟩ := List.mem_map.1 inFile
    obtain ⟨otherNaming, otherMember, otherSame⟩ := List.mem_map.1 inOther
    obtain ⟨samePlace, samePath⟩ := Prod.mk.inj (same.trans otherSame.symm)
    have sameNaming := List.inj_on_of_nodup_map (namings_nodup linkage) member otherMember samePlace
    rw [← sameNaming] at samePath
    apply apart
    apply naming_injective naming member
    exact qualify_inj (isVariableReference_naming naming member file) (isVariableReference_naming naming member other)
      samePath

theorem settings_nodup (linkage : Linkage) (file : String) : (settings linkage file).Nodup := by
  apply List.Nodup.of_map Prod.fst
  rw [settings_eq, List.map_map]
  exact namings_nodup linkage

def settingLine (setting : (String × String) × String) : String := "\t\t" ++ setting.1.2 ++ " " ++ setting.2

theorem filter_locationLines (identifier : String) (properties : List (String × String)) :
    (locationLines identifier properties).filter (opensWith "\t\t") =
      properties.map fun property => "\t\t" ++ property.1 ++ " " ++ qualify property.2 := by
  have first : OpenWith ["\tset_target_properties( "] ["\tset_target_properties( " ++ identifier ++ " PROPERTIES"] := by
    simp +decide [hasOpening_append, String.append_assoc]
  have each : ∀ property ∈ properties, opensWith "\t\t" ("\t\t" ++ property.1 ++ " " ++ qualify property.2) = true := by
    intro property _member
    rw [String.append_assoc, String.append_assoc]
    exact opensWith_append _ _
  rw [locationLines, List.filter_append, List.filter_append,
    filter_eq_nil_of_clear (first.notOpen "\t\t" (by decide)), List.nil_append,
    List.filter_eq_self.2 (List.forall_mem_map.2 each)]
  exact List.append_nil _

theorem filter_importedUnitLines_settings (linkage : Linkage) (identifier file : String) :
    (importedUnitLines linkage identifier file).filter (opensWith "\t\t") = (settings linkage file).map settingLine := by
  have first : OpenWith ["add_library( "]
      ["", "add_library( " ++ identifier ++ " " ++ linkage.keyword ++ " IMPORTED )"] := by
    simp +decide [hasOpening_append, String.append_assoc]
  have conditions : ∀ platform ∈ platformProperties linkage file, ¬opensWith "\t\t" platform.1 = true := by
    cases linkage <;> simp +decide [platformProperties]
  rw [importedUnitLines, List.filter_append, List.filter_append,
    filter_eq_nil_of_clear (first.notOpen "\t\t" (by decide)), List.nil_append, List.filter_flatMap, settings,
    List.map_flatMap]
  refine (List.append_nil _).trans (List.flatMap_congr fun platform member => ?_)
  rw [List.filter_cons_of_neg (conditions platform member), filter_locationLines, List.map_map]
  rfl

theorem opensWith_tabs_entry (entry : String) : opensWith "\t\t" ("\t" ++ qualify entry) = false := by
  have letters : ("\t" ++ qualify entry).toList = '\t' :: (qualify entry).toList := String.toList_append
  have first := head?_qualify entry
  rw [opensWith, letters]
  cases rest : (qualify entry).toList with
  | nil => rfl
  | cons letter others =>
      rw [rest, List.head?_cons, Option.some_inj, Option.some_inj] at first
      rcases first with isDollar | isSlash
      · rw [isDollar]
        rfl
      · rw [isSlash]
        rfl

theorem filter_listLines_settings (variableName : String) (entries : List String) :
    (listLines variableName entries).filter (opensWith "\t\t") = [] := by
  have first : OpenWith ["set( "] ["", "set( " ++ variableName] := by
    simp +decide [hasOpening_append]
  rw [listLines, List.filter_append, List.filter_append, filter_eq_nil_of_clear (first.notOpen "\t\t" (by decide)),
    filter_eq_nil_of_clear (List.forall_mem_map.2 fun entry _member => opensWith_tabs_entry entry)]
  rfl

theorem filter_importedLibraryLines_settings (library : ImportedLibrary) :
    (importedLibraryLines library).filter (opensWith "\t\t") =
      (library.files.flatMap (settings library.linkage)).map settingLine := by
  have equallyLong : library.identifiers.length = library.files.length := by
    rw [ImportedLibrary.identifiers, importedIdentifiers, List.length_map, List.length_range]
  rw [importedLibraryLines, List.filter_append, List.filter_append, filter_listLines_settings,
    filter_listLines_settings, List.nil_append, List.nil_append, List.filter_flatMap, List.map_flatMap]
  simp only [filter_importedUnitLines_settings]
  conv_rhs => rw [← List.map_snd_zip (Nat.le_of_eq equallyLong.symm), List.flatMap_map]

end LibraryFile

def ImportedLibrary.settings (library : ImportedLibrary) : List ((String × String) × String) :=
  library.files.flatMap (LibraryFile.settings library.linkage)

theorem ImportedLibrary.settings_nodup_iff (library : ImportedLibrary) :
    library.settings.Nodup ↔ library.files.Nodup := by
  rw [settings, List.nodup_flatMap, List.nodup_iff_pairwise_ne]
  constructor
  · intro premise
    exact premise.2.imp fun disjoint => (LibraryFile.settings_disjoint_iff _ _ _).1 disjoint
  · intro distinct
    refine ⟨fun file _member => LibraryFile.settings_nodup _ file, ?_⟩
    exact distinct.imp fun apart => (LibraryFile.settings_disjoint_iff _ _ _).2 apart

/-- The file of a library is cut behind its last slash and named by each platform without losing anything. On every
platform different files are found at different places, and these are the places that are written. -/
theorem libraryFiles_apart :
    (∀ file : String, ∃ directory segment, LibraryFile.IsCut file directory segment) ∧
    (∀ suffix, Function.Injective (LibraryFile.unix · suffix)) ∧
    Function.Injective LibraryFile.windowsLibrary ∧ Function.Injective LibraryFile.windowsDll ∧
    (∀ (linkage : Linkage) (file other : String),
      (LibraryFile.settings linkage file).Disjoint (LibraryFile.settings linkage other) ↔ file ≠ other) ∧
    ∀ library : ImportedLibrary, (library.settings.Nodup ↔ library.files.Nodup) ∧
      (importedLibraryLines library).filter (opensWith "\t\t") = library.settings.map LibraryFile.settingLine := by
  refine ⟨LibraryFile.exists_isCut, LibraryFile.unix_injective, LibraryFile.windowsLibrary_injective,
    LibraryFile.windowsDll_injective, LibraryFile.settings_disjoint_iff, fun library => ⟨?_, ?_⟩⟩
  · exact library.settings_nodup_iff
  · exact LibraryFile.filter_importedLibraryLines_settings library

end Listfile

import Listfile.Proofs.Project.Names

set_option autoImplicit false

/-! The identifiers that can be linked. The units of a library are its name in lower case with a number behind it. A
number has no underscore, so the last underscore tells where the name ends, and names that look numbered
themselves do no harm. -/

namespace Listfile

open Text (lowercase)

def behindUnderscore (text : String) : List Char := (text.toList.reverse.takeWhile (· ≠ '_')).reverse

theorem toList_withIndex (name : String) (index : Nat) :
    (withIndex name index).toList = name.toList ++ '_' :: Nat.toDigits 10 index := by
  simp [withIndex]

theorem behindUnderscore_withIndex (name : String) (index : Nat) :
    behindUnderscore (withIndex name index) = Nat.toDigits 10 index := by
  have noUnderscore : ∀ digit ∈ (Nat.toDigits 10 index).reverse, decide (digit ≠ '_') = true := by
    intro digit member
    rw [decide_eq_true_iff]
    intro same
    rw [same, List.mem_reverse] at member
    exact Nat.underscore_not_in_toDigits member
  rw [behindUnderscore, toList_withIndex, List.reverse_append, List.reverse_cons, List.append_assoc,
    List.takeWhile_append_of_pos noUnderscore, List.singleton_append, List.takeWhile_cons_of_neg (by decide),
    List.append_nil, List.reverse_reverse]

theorem withIndex_inj {left right : String} {first second : Nat} :
    withIndex left first = withIndex right second ↔ left = right ∧ first = second := by
  constructor
  · intro same
    have digits := congrArg behindUnderscore same
    rw [behindUnderscore_withIndex, behindUnderscore_withIndex] at digits
    have numbers : first = second := by
      rw [← Nat.ofDigitChars_ten_toDigits (n := first), digits, Nat.ofDigitChars_ten_toDigits]
    rw [numbers, withIndex, withIndex, String.append_assoc, String.append_assoc] at same
    exact ⟨append_left_injective _ same, numbers⟩
  · intro premise
    obtain ⟨sameName, sameNumber⟩ := premise
    rw [sameName, sameNumber]

/-- A number ends in a digit, and the name of a role does not. -/
theorem outputIdentifier_ne_withIndex (output name : String) (index : Nat) :
    outputIdentifier output ≠ withIndex name index := by
  intro same
  have digits := congrArg behindUnderscore same
  rw [behindUnderscore_withIndex] at digits
  have word : behindUnderscore (outputIdentifier output) = ['O', 'U', 'T', 'P', 'U', 'T'] := by
    simp [behindUnderscore, outputIdentifier]
  rw [word] at digits
  have isDigit : ('O').isDigit = true :=
    Nat.isDigit_of_mem_toDigits (b := 10) (n := index) (by decide) (by decide) (by rw [← digits]; decide)
  exact absurd isDigit (by decide)

theorem mem_importedIdentifiers (name : String) (fileCount : Nat) (identifier : String) :
    identifier ∈ importedIdentifiers name fileCount ↔ ∃ index < fileCount, withIndex (lowercase name) index = identifier := by
  simp [importedIdentifiers, importedIdentifier]

theorem importedIdentifiers_nodup (name : String) (fileCount : Nat) : (importedIdentifiers name fileCount).Nodup :=
  List.Nodup.map (fun _first _second same => (withIndex_inj.1 same).2) List.nodup_range

theorem importedIdentifiers_disjoint {left right : String} (apart : lowercase left ≠ lowercase right)
    (leftCount rightCount : Nat) :
    (importedIdentifiers left leftCount).Disjoint (importedIdentifiers right rightCount) := by
  intro identifier inLeft inRight
  obtain ⟨first, _firstBound, ofLeft⟩ := (mem_importedIdentifiers _ _ _).1 inLeft
  obtain ⟨second, _secondBound, ofRight⟩ := (mem_importedIdentifiers _ _ _).1 inRight
  exact apart (withIndex_inj.1 (ofLeft.trans ofRight.symm)).1

namespace Project

/-- The identifiers of all units of a project, library by library and file by file. -/
def unitIdentifiers (project : Project) : List String :=
  project.importedLibraries.flatMap fun library =>
    (List.range library.files.length).map fun index => withIndex (lowercase library.name) index

theorem unitIdentifiers_eq (project : Project) :
    project.unitIdentifiers = project.importedLibraries.flatMap ImportedLibrary.identifiers := rfl

theorem unitIdentifiers_nodup {project : Project}
    (folded : ((project.importedLibraries.map ImportedLibrary.name).map lowercase).Nodup) :
    project.unitIdentifiers.Nodup := by
  rw [unitIdentifiers_eq, List.nodup_flatMap]
  refine ⟨fun library _member => importedIdentifiers_nodup library.name library.files.length, ?_⟩
  rw [List.map_map, List.nodup_iff_pairwise_ne, List.pairwise_map] at folded
  exact folded.imp fun apart => importedIdentifiers_disjoint apart _ _

theorem identifier_notMem_unitIdentifiers (project : Project) (unit : OutputUnit) :
    unit.identifier ∉ project.unitIdentifiers := by
  intro member
  obtain ⟨library, _inLibraries, ofLibrary⟩ := List.mem_flatMap.1 member
  obtain ⟨index, _inRange, same⟩ := List.mem_map.1 ofLibrary
  exact outputIdentifier_ne_withIndex unit.name _ index same.symm

end Project

/-- Every unit of an accepted descriptor has an identifier of its own, which is not that of an output either. -/
theorem resolveDescriptor_unitIdentifiers (tree : FileTree) (root : Path) (descriptor : Json) (project : Project)
    (resolved : (resolveDescriptor tree root descriptor).outcome = .ok project) :
    project.importedLibraries.flatMap ImportedLibrary.identifiers = project.unitIdentifiers ∧
      project.unitIdentifiers.Nodup ∧ ∀ unit ∈ project.outputs, unit.identifier ∉ project.unitIdentifiers := by
  obtain ⟨members, units, _isObject, read⟩ := (resolveDescriptor_eq_ok_iff _ _ _ _).1 resolved
  have folded := read.entryNames_folded
  rw [Project.entryNames, List.map_append] at folded
  exact ⟨rfl, Project.unitIdentifiers_nodup (List.nodup_append'.1 folded).2.1,
    fun unit _member => project.identifier_notMem_unitIdentifiers unit⟩

def numberedSample : Json :=
  Schema.descriptorOf [("debug", Schema.targetEntry [] [])] [("app", Schema.executableEntry "main.c")]
    [("a", Schema.libraryEntry "a" ["x", "y"] []), ("A_1", Schema.libraryEntry "b" ["x", "y"] [])] []

theorem resolveDescriptor_unitIdentifiers_numberedSample :
    ∃ project, (resolveDescriptor ⟨[], []⟩ ⟨[]⟩ numberedSample).outcome = .ok project ∧
      project.unitIdentifiers = ["a_0", "a_1", "a_1_0", "a_1_1"] ∧
      project.outputs.map OutputUnit.identifier = ["APP_CMAKE_OUTPUT"] ∧ project.unitIdentifiers.Nodup := by
  obtain ⟨project, resolved, names⟩ := (map_eq_ok_iff
    (fun project : Project => (project.unitIdentifiers, project.outputs.map OutputUnit.identifier)) _ _).1
    (show (resolveDescriptor ⟨[], []⟩ ⟨[]⟩ numberedSample).outcome.map _ =
      .ok (["a_0", "a_1", "a_1_0", "a_1_1"], ["APP_CMAKE_OUTPUT"]) from rfl)
  rw [Prod.mk.injEq] at names
  exact ⟨project, resolved, names.1, names.2, (resolveDescriptor_unitIdentifiers _ _ _ _ resolved).2.1⟩

end Listfile

import Listfile.Descriptor.Links
import Listfile.Proofs.Descriptor.Fields
import Listfile.Proofs.Lists
import Listfile.Proofs.OrderedUnion

set_option autoImplicit false

/-! When names clash, what link names refer to, and when links can be read. A reference keeps the name it was
found by, so that names that are listed twice are linked once. -/

namespace Listfile

open Schema

/-! ### Clashes -/

theorem firstClash_eq_none_iff (earlier names : List (String × String)) :
    firstClash earlier names = none ↔
      (names.map fun entry => Text.lowercase entry.1).Nodup ∧
        ∀ entry ∈ names, Text.lowercase entry.1 ∉ earlier.map Prod.fst := by
  induction names generalizing earlier with
  | nil => simp [firstClash]
  | cons entry names ih =>
      obtain ⟨name, field⟩ := entry
      rw [firstClash, List.map_cons, List.nodup_cons, List.forall_mem_cons, ← lookup_eq_none_iff_not_key]
      cases earlier.lookup (Text.lowercase name) with
      | some previous => simp
      | none =>
          dsimp only
          rw [ih]
          simp only [List.map_cons, List.mem_cons, List.mem_map, not_or, not_exists, not_and]
          constructor
          · intro premise
            obtain ⟨distinct, apart⟩ := premise
            exact ⟨⟨fun other member same => (apart other member).1 same, distinct⟩, trivial,
              fun other member => (apart other member).2⟩
          · intro premise
            obtain ⟨⟨apart, distinct⟩, _fresh, freshAll⟩ := premise
            exact ⟨distinct, fun other member => ⟨fun same => apart other member same, freshAll other member⟩⟩

theorem firstClash_nil_eq_none_iff (entries : List (String × String)) :
    firstClash [] entries = none ↔ ((entries.map Prod.fst).map Text.lowercase).Nodup := by
  rw [firstClash_eq_none_iff, List.map_map]
  simp only [List.map_nil, List.not_mem_nil, not_false_eq_true, implies_true, and_true]
  rfl

/-- Names without a clash as the check remembers them: under their lower case, the latest first. -/
def remembered (entries : List (String × String)) : List (String × String) :=
  (entries.map fun entry => (Text.lowercase entry.1, entry.1)).reverse

theorem remembered_cons (entry : String × String) (entries earlier : List (String × String)) :
    remembered (entry :: entries) ++ earlier = remembered entries ++ (Text.lowercase entry.1, entry.1) :: earlier := by
  rw [remembered, List.map_cons, List.reverse_cons, List.append_assoc, List.singleton_append, remembered]

theorem mem_remembered_iff (entries : List (String × String)) (folded name : String) :
    (folded, name) ∈ remembered entries ↔ name ∈ entries.map Prod.fst ∧ Text.lowercase name = folded := by
  rw [remembered, List.mem_reverse, List.mem_map, List.mem_map]
  constructor
  · intro premise
    obtain ⟨entry, member, same⟩ := premise
    obtain ⟨sameFolded, sameName⟩ := Prod.mk.inj same
    rw [← sameFolded, ← sameName]
    exact ⟨⟨entry, member, rfl⟩, rfl⟩
  · intro premise
    obtain ⟨⟨entry, member, sameName⟩, sameFolded⟩ := premise
    rw [← sameFolded, ← sameName]
    exact ⟨entry, member, rfl⟩

/-- Behind names without a clash the check goes on with these names remembered. -/
theorem firstClash_append {earlier before : List (String × String)} (clear : firstClash earlier before = none)
    (rest : List (String × String)) :
    firstClash earlier (before ++ rest) = firstClash (remembered before ++ earlier) rest := by
  induction before generalizing earlier with
  | nil => rfl
  | cons entry before ih =>
      obtain ⟨name, field⟩ := entry
      rw [firstClash] at clear
      rw [List.cons_append, firstClash, remembered_cons]
      cases known : earlier.lookup (Text.lowercase name) with
      | some previous =>
          rw [known] at clear
          cases clear
      | none =>
          rw [known] at clear
          exact ih clear

theorem firstClash_eq_some_iff (earlier names : List (String × String)) (problem : Problem) :
    firstClash earlier names = some problem ↔
      ∃ before name field after previous, names = before ++ (name, field) :: after ∧
        firstClash earlier before = none ∧
        (remembered before ++ earlier).lookup (Text.lowercase name) = some previous ∧
        problem = .duplicateName name previous field := by
  constructor
  · intro found
    induction names generalizing earlier with
    | nil => cases found
    | cons entry names ih =>
        obtain ⟨name, field⟩ := entry
        rw [firstClash] at found
        cases known : earlier.lookup (Text.lowercase name) with
        | some previous =>
            rw [known] at found
            cases found
            exact ⟨[], name, field, names, previous, rfl, rfl, known, rfl⟩
        | none =>
            rw [known] at found
            obtain ⟨before, later, laterField, after, previous, whole, clear, isFound, same⟩ := ih _ found
            refine ⟨(name, field) :: before, later, laterField, after, previous, ?_, ?_, ?_, same⟩
            · rw [whole, List.cons_append]
            · rw [firstClash, known]
              exact clear
            · rw [remembered_cons]
              exact isFound
  · intro premise
    obtain ⟨before, name, field, after, previous, whole, clear, isFound, same⟩ := premise
    rw [whole, firstClash_append clear, firstClash, isFound, same]

theorem firstClash_eq_some {earlier names : List (String × String)} {problem : Problem}
    (found : firstClash earlier names = some problem) :
    ∃ before name field after previous, names = before ++ (name, field) :: after ∧
      ((Text.lowercase name, previous) ∈ earlier ∨
        previous ∈ before.map Prod.fst ∧ Text.lowercase previous = Text.lowercase name) ∧
      problem = .duplicateName name previous field := by
  obtain ⟨before, name, field, after, previous, whole, _clear, known, same⟩ := (firstClash_eq_some_iff _ _ _).1 found
  have member := mem_of_lookup_eq_some known
  rw [List.mem_append, mem_remembered_iff, or_comm] at member
  exact ⟨before, name, field, after, previous, whole, member, same⟩

theorem entryNames_names (outputs : List OutputUnit) (libraries : List ImportedLibrary) :
    (entryNames outputs libraries).map Prod.fst =
      outputs.map OutputUnit.name ++ libraries.map ImportedLibrary.name := by
  simp [entryNames, Function.comp_def]

theorem checkNames_eq_ok_iff (outputs : List OutputUnit) (libraries : List ImportedLibrary) :
    checkNames outputs libraries = .ok () ↔
      ((outputs.map OutputUnit.name ++ libraries.map ImportedLibrary.name).map Text.lowercase).Nodup := by
  rw [← entryNames_names, ← firstClash_nil_eq_none_iff, checkNames]
  cases firstClash [] (entryNames outputs libraries) <;> simp

theorem checkNames_eq_error_iff (outputs : List OutputUnit) (libraries : List ImportedLibrary) (problem : Problem) :
    checkNames outputs libraries = .error problem ↔
      firstClash [] (entryNames outputs libraries) = some problem := by
  rw [checkNames]
  cases firstClash [] (entryNames outputs libraries) <;> simp

theorem checkNames_outputs {outputs : List OutputUnit} {libraries : List ImportedLibrary}
    (checked : checkNames outputs libraries = .ok ()) : (outputs.map OutputUnit.name).Nodup := by
  have folded := (checkNames_eq_ok_iff outputs libraries).1 checked
  exact (List.nodup_append'.1 (List.Nodup.of_map Text.lowercase folded)).1

theorem resolveLink_eq_ok_iff (outputs : List OutputUnit) (libraries : List ImportedLibrary) (name : String)
    (reference : LinkReference) :
    resolveLink outputs libraries name = .ok reference ↔
      (∃ unit, outputs.find? (·.name = name) = some unit ∧ reference = .ofOutput unit) ∨
        (outputs.find? (·.name = name) = none ∧
          ∃ library, libraries.find? (·.name = name) = some library ∧ reference = .ofImported library) := by
  unfold resolveLink
  cases outputs.find? (·.name = name) with
  | some unit => simp [eq_comm]
  | none => cases libraries.find? (·.name = name) <;> simp [eq_comm]

theorem resolveLink_name {outputs : List OutputUnit} {libraries : List ImportedLibrary} {name : String}
    {reference : LinkReference} (found : resolveLink outputs libraries name = .ok reference) :
    reference.name = name := by
  rcases (resolveLink_eq_ok_iff _ _ _ _).1 found with ⟨unit, isUnit, same⟩ | ⟨_, library, isLibrary, same⟩
  · rw [same]
    simpa using List.find?_some isUnit
  · rw [same]
    simpa using List.find?_some isLibrary

theorem resolveLink_origin {outputs : List OutputUnit} {libraries : List ImportedLibrary} {name : String}
    {reference : LinkReference} (found : resolveLink outputs libraries name = .ok reference) :
    (∃ unit ∈ outputs, reference = .ofOutput unit) ∨ ∃ library ∈ libraries, reference = .ofImported library := by
  rcases (resolveLink_eq_ok_iff _ _ _ _).1 found with ⟨unit, isUnit, same⟩ | ⟨_, library, isLibrary, same⟩
  · exact Or.inl ⟨unit, List.mem_of_find?_eq_some isUnit, same⟩
  · exact Or.inr ⟨library, List.mem_of_find?_eq_some isLibrary, same⟩

theorem resolveLink_succeeds_iff (outputs : List OutputUnit) (libraries : List ImportedLibrary) (name : String) :
    (∃ reference, resolveLink outputs libraries name = .ok reference) ↔
      name ∈ outputs.map OutputUnit.name ∨ name ∈ libraries.map ImportedLibrary.name := by
  have ofOutputs : (∃ unit, outputs.find? (·.name = name) = some unit) ↔ name ∈ outputs.map OutputUnit.name := by
    rw [← Option.isSome_iff_exists, List.find?_isSome]
    simp
  have ofLibraries : (∃ library, libraries.find? (·.name = name) = some library) ↔
      name ∈ libraries.map ImportedLibrary.name := by
    rw [← Option.isSome_iff_exists, List.find?_isSome]
    simp
  rw [← ofOutputs, ← ofLibraries]
  simp only [resolveLink_eq_ok_iff]
  cases outputs.find? (·.name = name) <;> simp

theorem resolveLink_eq_error_iff (outputs : List OutputUnit) (libraries : List ImportedLibrary) (name : String)
    (problem : Problem) :
    resolveLink outputs libraries name = .error problem ↔
      name ∉ outputs.map OutputUnit.name ∧ name ∉ libraries.map ImportedLibrary.name ∧
        problem = .unknownReference name Tag.linkLibraries "\"output\" nor \"imported_libs\"" := by
  rw [← and_assoc, ← not_or, ← resolveLink_succeeds_iff]
  unfold resolveLink
  cases outputs.find? (·.name = name) with
  | some unit => simp
  | none => cases libraries.find? (·.name = name) <;> simp [eq_comm]

theorem readLinkEdge_eq_ok_iff (outputs : List OutputUnit) (libraries : List ImportedLibrary)
    (members : List (String × Json)) (source : String) (value : Json) (edge : LinkEdge) :
    readLinkEdge outputs libraries members source value = .ok edge ↔
      source ∈ outputs.map OutputUnit.name ∧ edge.source = source ∧ ∃ listed targets,
        value = .array (listed.map .string) ∧
        List.Forall₂ (fun name target => resolveLink outputs libraries name = .ok target) listed targets ∧
        edge.targets = orderedUnion [] targets := by
  obtain ⟨written, linked⟩ := edge
  have known : (outputs.any fun unit => decide (unit.name = source)) = true ↔
      source ∈ outputs.map OutputUnit.name := by simp
  unfold readLinkEdge
  split
  · rename_i isOutput
    simp only [known.1 isOutput, true_and, bind_eq_ok_iff, Fields.asTexts_eq_ok_iff, mapM_eq_ok_iff]
    constructor
    · intro premise
      obtain ⟨listed, isList, targets, related, same⟩ := premise
      cases same
      exact ⟨rfl, listed, targets, isList, related, rfl⟩
    · intro premise
      obtain ⟨sameSource, listed, targets, isList, related, sameTargets⟩ := premise
      rw [sameSource, sameTargets]
      exact ⟨listed, isList, targets, related, rfl⟩
  · rename_i noOutput
    constructor
    · intro impossible
      cases impossible
    · intro premise
      obtain ⟨member, _⟩ := premise
      exact absurd (known.2 member) noOutput

theorem readLinkEdges_eq_ok_iff (top : Fields) (outputs : List OutputUnit) (libraries : List ImportedLibrary)
    (edges : List LinkEdge) :
    readLinkEdges top outputs libraries = .ok edges ↔
      ∃ members, top.optionalObject Tag.linkLibraries = .ok members ∧
        List.Forall₂ (fun member edge => readLinkEdge outputs libraries members member.1 member.2 = .ok edge)
          members edges := by
  simp only [readLinkEdges, bind_eq_ok_iff, mapM_eq_ok_iff]

/-- The targets of an edge are named by the listed names, each where it is listed first. -/
theorem map_name_orderedUnion_targets {outputs : List OutputUnit} {libraries : List ImportedLibrary}
    {listed : List String} {targets : List LinkReference}
    (related : List.Forall₂ (fun name target => resolveLink outputs libraries name = .ok target) listed targets) :
    (orderedUnion [] targets).map LinkReference.name = listed.eraseDups := by
  have names : targets.map LinkReference.name = listed :=
    (forall₂_map_eq id LinkReference.name related
      fun _name _target found => resolveLink_name found).trans (List.map_id listed)
  have faithful : Faithful LinkReference.name ([] ++ targets) := by
    intro left inLeft right inRight same
    obtain ⟨leftName, _, leftFound⟩ := forall₂_exists_left related inLeft
    obtain ⟨rightName, _, rightFound⟩ := forall₂_exists_left related inRight
    have equalNames : leftName = rightName :=
      (resolveLink_name leftFound).symm.trans (same.trans (resolveLink_name rightFound))
    rw [equalNames] at leftFound
    exact Except.ok.inj (leftFound.symm.trans rightFound)
  rw [map_orderedUnion LinkReference.name [] targets faithful, names, List.map_nil, orderedUnion_nil_left]

def addedLibraries (libraries : List ImportedLibrary) (edges : List LinkEdge) (source : String) :
    List ImportedLibrary :=
  (edges.filter (·.source = source)).flatMap fun edge => edge.targets.filterMap (addedLibrary? libraries)

def OutputUnit.augment (libraries : List ImportedLibrary) (edges : List LinkEdge) (unit : OutputUnit) : OutputUnit :=
  let added := addedLibraries libraries edges unit.name
  { unit with
    sources := orderedUnion unit.sources (added.map fun library => variableReference library.headerVariable)
    includeDirectories :=
      orderedUnion unit.includeDirectories (added.map fun library => variableReference library.includeVariable) }

theorem addedLibraries_cons (libraries : List ImportedLibrary) (edge : LinkEdge) (edges : List LinkEdge)
    (source : String) :
    addedLibraries libraries (edge :: edges) source =
      (if edge.source = source then edge.targets.filterMap (addedLibrary? libraries) else []) ++
        addedLibraries libraries edges source := by
  by_cases fromSource : edge.source = source
  · rw [addedLibraries, List.filter_cons_of_pos (by simpa using fromSource), List.flatMap_cons, if_pos fromSource]
    rfl
  · rw [addedLibraries, List.filter_cons_of_neg (by simpa using fromSource), if_neg fromSource]
    rfl

theorem foldl_pickUp (added : List ImportedLibrary) (unit : OutputUnit) :
    added.foldl OutputUnit.pickUp unit =
      { unit with
        sources := orderedUnion unit.sources (added.map fun library => variableReference library.headerVariable)
        includeDirectories :=
          orderedUnion unit.includeDirectories
            (added.map fun library => variableReference library.includeVariable) } := by
  induction added generalizing unit with
  | nil => rfl
  | cons library added ih =>
      rw [List.foldl_cons, ih]
      rfl

theorem foldl_pickUp_name (added : List ImportedLibrary) (unit : OutputUnit) :
    (added.foldl OutputUnit.pickUp unit).name = unit.name := by
  rw [foldl_pickUp]

theorem changeOutput_names (name : String) {change : OutputUnit → OutputUnit}
    (keepsName : ∀ unit, (change unit).name = unit.name) (units : List OutputUnit) :
    (changeOutput name change units).map OutputUnit.name = units.map OutputUnit.name := by
  induction units with
  | nil => rfl
  | cons unit units ih =>
      rw [changeOutput]
      split
      · rw [List.map_cons, List.map_cons, keepsName]
      · rw [List.map_cons, List.map_cons, ih]

theorem changeOutput_eq_map (name : String) (change : OutputUnit → OutputUnit) {units : List OutputUnit}
    (distinct : (units.map OutputUnit.name).Nodup) :
    changeOutput name change units = units.map fun unit => if unit.name = name then change unit else unit := by
  induction units with
  | nil => rfl
  | cons unit units ih =>
      rw [List.map_cons, List.nodup_cons] at distinct
      obtain ⟨absent, distinctLater⟩ := distinct
      rw [changeOutput, List.map_cons]
      by_cases named : unit.name = name
      · have kept : ∀ other ∈ units, (if other.name = name then change other else other) = other := by
          intro other member
          have apart : other.name ≠ name := by
            intro same
            rw [named, ← same] at absent
            exact absent (List.mem_map_of_mem member)
          exact if_neg apart
        rw [if_pos named, if_pos named, List.map_congr_left kept, List.map_id']
      · rw [if_neg named, if_neg named, ih distinctLater]

theorem augmentAlong_names (libraries : List ImportedLibrary) (units : List OutputUnit) (edge : LinkEdge) :
    (augmentAlong libraries units edge).map OutputUnit.name = units.map OutputUnit.name :=
  changeOutput_names edge.source (foldl_pickUp_name _) units

theorem augment_cons (libraries : List ImportedLibrary) (edge : LinkEdge) (edges : List LinkEdge)
    (unit : OutputUnit) :
    (if unit.name = edge.source then (edge.targets.filterMap (addedLibrary? libraries)).foldl OutputUnit.pickUp unit
      else unit).augment libraries edges = unit.augment libraries (edge :: edges) := by
  have folded : ∀ (all : List LinkEdge) (other : OutputUnit),
      other.augment libraries all = (addedLibraries libraries all other.name).foldl OutputUnit.pickUp other :=
    fun all other => (foldl_pickUp (addedLibraries libraries all other.name) other).symm
  rw [folded, folded, addedLibraries_cons, List.foldl_append]
  by_cases fromSource : unit.name = edge.source
  · rw [if_pos fromSource, if_pos fromSource.symm, foldl_pickUp_name]
  · rw [if_neg fromSource, if_neg (Ne.symm fromSource), List.foldl_nil]

/-- The loop over the edges augments every output with what all edges from it add. -/
theorem augmentOutputs_eq_map (libraries : List ImportedLibrary) (edges : List LinkEdge) {units : List OutputUnit}
    (distinct : (units.map OutputUnit.name).Nodup) :
    augmentOutputs libraries edges units = units.map (OutputUnit.augment libraries edges) := by
  induction edges generalizing units with
  | nil =>
      have unchanged : ∀ unit : OutputUnit, unit.augment libraries [] = unit := fun _unit => rfl
      rw [List.map_congr_left fun unit _member => unchanged unit, List.map_id']
      rfl
  | cons edge edges ih =>
      have stepDistinct : ((augmentAlong libraries units edge).map OutputUnit.name).Nodup := by
        rw [augmentAlong_names]
        exact distinct
      rw [augmentOutputs, List.foldl_cons, ← augmentOutputs, ih stepDistinct, augmentAlong,
        changeOutput_eq_map _ _ distinct, List.map_map]
      exact List.map_congr_left fun unit _member => augment_cons libraries edge edges unit

section

variable {change : OutputUnit → OutputUnit} (keepsName : ∀ unit, (change unit).name = unit.name)
  (units : List OutputUnit) (libraries : List ImportedLibrary)

include keepsName

theorem checkNames_map : checkNames (units.map change) libraries = checkNames units libraries := by
  have sameNames : entryNames (units.map change) libraries = entryNames units libraries := by
    rw [entryNames, entryNames, List.map_map]
    exact congrArg (· ++ _) (List.map_congr_left fun unit _member => congrArg (·, Tag.output) (keepsName unit))
  rw [checkNames, checkNames, sameNames]

theorem resolveLink_map (target : String) :
    resolveLink (units.map change) libraries target = resolveLink units libraries target := by
  have sameNames : (fun unit : OutputUnit => decide (unit.name = target)) ∘ change =
      fun unit : OutputUnit => decide (unit.name = target) :=
    funext fun unit => by rw [Function.comp_apply, keepsName]
  rw [resolveLink, resolveLink, List.find?_map, sameNames]
  cases units.find? fun unit => unit.name = target with
  | none => rfl
  | some unit => exact congrArg (fun found => Except.ok (LinkReference.output found)) (keepsName unit)

theorem readLinkEdges_map (top : Fields) :
    readLinkEdges top (units.map change) libraries = readLinkEdges top units libraries := by
  have sameOutputs : ∀ source, (units.map change).any (fun unit => decide (unit.name = source)) =
      units.any fun unit => decide (unit.name = source) := by
    intro source
    rw [List.any_map]
    simp only [Function.comp_def, keepsName]
  have sameEdges : ∀ links source value, readLinkEdge (units.map change) libraries links source value =
      readLinkEdge units libraries links source value := by
    intro links source value
    simp only [readLinkEdge, sameOutputs, funext (resolveLink_map keepsName units libraries)]
  simp only [readLinkEdges, sameEdges]

theorem changeOutput_map (source : String) {pick : OutputUnit → OutputUnit}
    (commutes : ∀ unit, pick (change unit) = change (pick unit)) :
    changeOutput source pick (units.map change) = (changeOutput source pick units).map change := by
  induction units with
  | nil => rfl
  | cons unit units ih =>
      rw [List.map_cons, changeOutput, changeOutput, keepsName, commutes, ih]
      split <;> rfl

theorem augmentOutputs_map (commutes : ∀ unit library, (change unit).pickUp library = change (unit.pickUp library))
    (edges : List LinkEdge) :
    augmentOutputs libraries edges (units.map change) = (augmentOutputs libraries edges units).map change := by
  have pickAll : ∀ (added : List ImportedLibrary) (unit : OutputUnit),
      added.foldl OutputUnit.pickUp (change unit) = change (added.foldl OutputUnit.pickUp unit) :=
    fun _added _unit => List.foldl_hom change commutes
  have along : ∀ (units : List OutputUnit) (edge : LinkEdge),
      augmentAlong libraries (units.map change) edge = (augmentAlong libraries units edge).map change :=
    fun units _edge => changeOutput_map keepsName units _ (pickAll _)
  exact List.foldl_hom (List.map change) along

end

theorem readLinkEdge_succeeds_iff (outputs : List OutputUnit) (libraries : List ImportedLibrary)
    (members : List (String × Json)) (link : String × Json) :
    (∃ edge, readLinkEdge outputs libraries members link.1 link.2 = .ok edge) ↔
      IsLink (outputs.map OutputUnit.name) (libraries.map ImportedLibrary.name) link := by
  simp only [readLinkEdge_eq_ok_iff]
  constructor
  · intro premise
    obtain ⟨edge, isOutput, _sameSource, listed, targets, isList, related, _sameTargets⟩ := premise
    have all := (mapM_succeeds_iff (resolveLink outputs libraries) listed).1 ⟨targets, (mapM_eq_ok_iff _ _ _).2 related⟩
    exact ⟨isOutput, (isListOf_texts_iff _ _).2
      ⟨listed, isList, fun name member => (resolveLink_succeeds_iff _ _ _).1 (all name member)⟩⟩
  · intro premise
    obtain ⟨isOutput, targetNames⟩ := premise
    obtain ⟨listed, isList, known⟩ := (isListOf_texts_iff _ _).1 targetNames
    obtain ⟨targets, read⟩ := (mapM_succeeds_iff (resolveLink outputs libraries) listed).2
      fun name member => (resolveLink_succeeds_iff outputs libraries name).2 (known name member)
    exact ⟨⟨link.1, orderedUnion [] targets⟩, isOutput, rfl, listed, targets, isList, (mapM_eq_ok_iff _ _ _).1 read,
      rfl⟩

theorem readLinkEdges_succeeds_iff (top : Fields) (outputs : List OutputUnit) (libraries : List ImportedLibrary) :
    (∃ edges, readLinkEdges top outputs libraries = .ok edges) ↔
      Optional top.members Tag.linkLibraries (IsObjectOf fun links =>
        ∀ link ∈ links, IsLink (outputs.map OutputUnit.name) (libraries.map ImportedLibrary.name) link) := by
  simp only [readLinkEdges_eq_ok_iff]
  exact top.optionalEntries_succeeds_iff Tag.linkLibraries _
    (fun members link => readLinkEdge outputs libraries members link.1 link.2)
    fun members link => readLinkEdge_succeeds_iff outputs libraries members link

end Listfile

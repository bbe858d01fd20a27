import Listfile.Proofs.Descriptor.Links

set_option autoImplicit false

/-! Which clash of names is reported. The check goes through the names of the outputs and then of the libraries, and
remembers each of them under its lower case. As long as it finds no clash, every lower case was remembered once. So what
is found for the first name that clashes is the only earlier name with the same lower case. -/

namespace Listfile

open Text (lowercase)

theorem lookup_remembered_eq_some_iff {entries : List (String × String)}
    (distinct : ((entries.map Prod.fst).map lowercase).Nodup) (folded name : String) :
    (remembered entries).lookup folded = some name ↔ name ∈ entries.map Prod.fst ∧ lowercase name = folded := by
  have found : ∀ other, (remembered entries).lookup folded = some other →
      other ∈ entries.map Prod.fst ∧ lowercase other = folded := by
    intro other isFound
    exact (mem_remembered_iff entries folded other).1 (mem_of_lookup_eq_some isFound)
  refine ⟨found name, fun premise => ?_⟩
  cases isFound : (remembered entries).lookup folded with
  | none =>
      have absent := (lookup_eq_none_iff_not_key _ _).1 isFound
      exact absurd (List.mem_map_of_mem ((mem_remembered_iff entries folded name).2 premise)) absent
  | some other =>
      have same : lowercase other = lowercase name := (found other isFound).2.trans premise.2.symm
      rw [List.inj_on_of_nodup_map distinct (found other isFound).1 premise.1 same]

/-- Two places of a list of names with the same lower case, the later one as early as can be. -/
structure IsFirstClash (names : List String) (earlier later : Fin names.length) : Prop where
  before : earlier < later
  clash : lowercase names[earlier] = lowercase names[later]
  least : ∀ left right : Fin names.length, left < right → lowercase names[left] = lowercase names[right] →
    later ≤ right
  only : ∀ other : Fin names.length, other < later → lowercase names[other] = lowercase names[later] →
    other = earlier

theorem take_nodup_iff (names : List String) (count : Nat) :
    ((names.take count).map lowercase).Nodup ↔ ∀ left right : Fin names.length, left < right →
      lowercase names[left] = lowercase names[right] → count ≤ right.val := by
  rw [List.nodup_iff_pairwise_ne, List.pairwise_map, List.pairwise_iff_getElem]
  simp only [List.length_take, List.getElem_take]
  constructor
  · intro apart left right ordered same
    apply Nat.le_of_not_lt
    intro within
    have leftBound := left.isLt
    have rightBound := right.isLt
    exact apart left right (by omega) (by omega) ordered same
  · intro least left right leftBound rightBound ordered same
    have reached := least ⟨left, by omega⟩ ⟨right, by omega⟩ ordered same
    dsimp only at reached
    omega

theorem IsFirstClash.of_least {names : List String} {earlier later : Fin names.length} (before : earlier < later)
    (clash : lowercase names[earlier] = lowercase names[later])
    (least : ∀ left right : Fin names.length, left < right → lowercase names[left] = lowercase names[right] →
      later ≤ right) : IsFirstClash names earlier later where
  before := before
  clash := clash
  least := least
  only := by
    -- Of two names in front of the later one with its lower case, the second would end an earlier clash.
    intro other otherBefore same
    have sameAsEarlier : lowercase names[other] = lowercase names[earlier] := same.trans clash.symm
    rcases Nat.lt_trichotomy other earlier with below | equal | above
    · exact absurd (least other earlier below sameAsEarlier) (Nat.not_le_of_gt before)
    · exact Fin.ext equal
    · exact absurd (least earlier other above sameAsEarlier.symm) (Nat.not_le_of_gt otherBefore)

/-- A name behind names without a clash, with the lower case of one of them, is the later one of the first clash. -/
theorem exists_isFirstClash {before : List String} (distinct : (before.map lowercase).Nodup) {previous name : String}
    (member : previous ∈ before) (folded : lowercase previous = lowercase name) (after : List String) :
    ∃ earlier later : Fin (before ++ name :: after).length, IsFirstClash (before ++ name :: after) earlier later ∧
      (before ++ name :: after)[earlier] = previous ∧ (before ++ name :: after)[later] = name ∧
      later.val = before.length := by
  obtain ⟨index, inBefore, atIndex⟩ := List.getElem_of_mem member
  have bound : before.length < (before ++ name :: after).length := by
    rw [List.length_append, List.length_cons]
    omega
  have atEarlier : (before ++ name :: after)[index] = previous := by
    rw [List.getElem_append_left inBefore, atIndex]
  have atLater : (before ++ name :: after)[before.length] = name := List.getElem_of_append rfl rfl
  have passed : (before ++ name :: after).take before.length = before := List.take_left
  rw [← passed, take_nodup_iff] at distinct
  refine ⟨⟨index, by omega⟩, ⟨before.length, bound⟩, .of_least inBefore ?_ distinct, atEarlier, atLater, rfl⟩
  show lowercase (before ++ name :: after)[index] = lowercase (before ++ name :: after)[before.length]
  rw [atEarlier, atLater, folded]

theorem IsFirstClash.take_nodup {names : List String} {earlier later : Fin names.length}
    (first : IsFirstClash names earlier later) : ((names.take later).map lowercase).Nodup :=
  (take_nodup_iff names later).2 first.least

theorem IsFirstClash.mem_take {names : List String} {earlier later : Fin names.length}
    (first : IsFirstClash names earlier later) : names[earlier] ∈ names.take later :=
  List.mem_take_iff_getElem.2 ⟨earlier, Nat.lt_min.2 ⟨first.before, earlier.isLt⟩, rfl⟩

theorem firstClash_nil_eq_some_iff {entries : List (String × String)} {names : List String} {tag : Nat → String}
    (named : entries.map Prod.fst = names)
    (tagged : ∀ place entry, entries[place]? = some entry → entry.2 = tag place) (problem : Problem) :
    firstClash [] entries = some problem ↔
      ∃ earlier later : Fin names.length, IsFirstClash names earlier later ∧
        problem = .duplicateName names[later] names[earlier] (tag later) := by
  rw [firstClash_eq_some_iff]
  simp only [List.append_nil, firstClash_nil_eq_none_iff]
  constructor
  · intro premise
    obtain ⟨before, name, field, after, previous, whole, distinct, isFound, same⟩ := premise
    obtain ⟨member, folded⟩ := (lookup_remembered_eq_some_iff distinct _ _).1 isFound
    have isTag : field = tag before.length := by
      apply tagged before.length (name, field)
      rw [whole, List.getElem?_append_right (Nat.le_refl _), Nat.sub_self, List.getElem?_cons_zero]
    rw [whole, List.map_append, List.map_cons] at named
    subst named
    obtain ⟨earlier, later, first, atEarlier, atLater, place⟩ := exists_isFirstClash distinct member folded _
    rw [List.length_map] at place
    exact ⟨earlier, later, first, by rw [atEarlier, atLater, place, same, isTag]⟩
  · intro premise
    obtain ⟨earlier, later, first, same⟩ := premise
    subst named
    have bound : later.val < entries.length := by
      rw [← List.length_map (f := Prod.fst)]
      exact later.isLt
    have atLater : entries[later.val] = ((entries.map Prod.fst)[later], tag later) := by
      apply Prod.ext
      · exact (List.getElem_map Prod.fst).symm
      · exact tagged later _ (List.getElem?_eq_getElem bound)
    have whole : entries = entries.take later ++ entries[later.val] :: entries.drop (later + 1) := by
      rw [List.getElem_cons_drop, List.take_append_drop]
    rw [atLater] at whole
    have distinct := first.take_nodup
    have member := first.mem_take
    rw [← List.map_take] at distinct member
    exact ⟨entries.take later, _, _, entries.drop (later + 1), _, whole, distinct,
      (lookup_remembered_eq_some_iff distinct _ _).2 ⟨member, first.clash⟩, same⟩

theorem entryNames_tag (outputs : List OutputUnit) (libraries : List ImportedLibrary) (place : Nat)
    (entry : String × String) (found : (entryNames outputs libraries)[place]? = some entry) :
    entry.2 = if place < outputs.length then Tag.output else Tag.importedLibraries := by
  rw [entryNames, List.getElem?_append, List.length_map] at found
  split at found
  · rename_i within
    rw [List.getElem?_map, Option.map_eq_some_iff] at found
    obtain ⟨unit, _atPlace, same⟩ := found
    rw [if_pos within, ← same]
  · rename_i behind
    rw [List.getElem?_map, Option.map_eq_some_iff] at found
    obtain ⟨library, _atPlace, same⟩ := found
    rw [if_neg behind, ← same]

/-- The check passes if the names of all outputs and libraries differ in lower case. Otherwise it reports the first name
that clashes, with the only earlier name it clashes with and the tag of the map that it is in. -/
theorem checkNames_reports_firstClash (outputs : List OutputUnit) (libraries : List ImportedLibrary) :
    let names := outputs.map OutputUnit.name ++ libraries.map ImportedLibrary.name
    (checkNames outputs libraries = .ok () ↔ (names.map lowercase).Nodup) ∧
    ∀ problem, checkNames outputs libraries = .error problem ↔
      ∃ earlier later : Fin names.length, IsFirstClash names earlier later ∧
        problem = .duplicateName names[later] names[earlier]
          (if later.val < outputs.length then Tag.output else Tag.importedLibraries) := by
  intro names
  refine ⟨checkNames_eq_ok_iff outputs libraries, fun problem => ?_⟩
  rw [checkNames_eq_error_iff]
  exact firstClash_nil_eq_some_iff (entryNames_names outputs libraries) (entryNames_tag outputs libraries) problem

end Listfile

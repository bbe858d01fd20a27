import Listfile.Proofs.Descriptor.Discovery
import Listfile.Proofs.Descriptor.Searches
import Listfile.Proofs.FileTree.Descent
import Mathlib.Computability.Primrec.List

-- The Mathlib file states the equations of `List.lookup` that `cbv` evaluates with.
set_option autoImplicit false

/-! Searches in a tree without links are exact. A search finds what its walks come to: files with one of the suffixes,
or directories, to which names lead that are not hidden. One search directory gives its findings in the
order of their names, and several give theirs one after the other. -/

namespace Listfile

namespace FileTree

def isFileAt (tree : FileTree) (location : Location) : Bool :=
  match tree.entryAt location with
  | some (.file _) => true
  | _ => false

theorem isFileAt_iff (tree : FileTree) (location : Location) :
    tree.isFileAt location = true ↔ ∃ content, tree.entryAt location = some (.file content) := by
  rw [isFileAt]
  split <;> simp_all

variable {tree : FileTree} {start : Path} {place : Location}

theorem filterMap_complaintsAt {β : Type} (view : Visit → Option β)
    (blind : ∀ path fault, view (.unreadable path fault) = none) (path : Path) :
    (complaintsAt path).filterMap view = [] := by
  rw [complaintsAt]
  split
  · rw [List.filterMap_cons, blind, List.filterMap_nil]
  · rfl

theorem filterMap_file?_visitsAt (tree : FileTree) (start : Path) (place : Location) (names : List Name) :
    (tree.visitsAt start place names).filterMap Visit.file? =
      if tree.isFileAt (place ++ names) then [start.descend names] else [] := by
  rw [visitsAt, isFileAt]
  cases tree.entryAt (place ++ names) with
  | none => rfl
  | some entry =>
      cases entry with
      | file content => rfl
      | directory => exact filterMap_complaintsAt Visit.file? (fun _path _fault => rfl) _
      | link target => rfl

theorem filterMap_directory?_visitsAt (tree : FileTree) (start : Path) (place : Location) (names : List Name) :
    (tree.visitsAt start place names).filterMap Visit.directory? =
      if decide (tree.entryAt (place ++ names) = some .directory) then [start.descend names] else [] := by
  rw [visitsAt]
  cases tree.entryAt (place ++ names) with
  | none => rfl
  | some entry =>
      cases entry with
      | file content => rfl
      | directory =>
          exact congrArg (start.descend names :: ·)
            (filterMap_complaintsAt Visit.directory? (fun _path _fault => rfl) _)
      | link target => rfl

theorem filesFrom_eq {below : List (List Name)} (visits : tree.walk start = below.flatMap (tree.visitsAt start place))
    (root : Path) (suffixes : List String) :
    tree.filesFrom root start suffixes =
      (below.filter fun names => tree.isFileAt (place ++ names) && hasSuffix (start.descend names) suffixes).map
        fun names => scriptPath (start.descend names) root := by
  rw [filesFrom, visits, List.filterMap_flatMap,
    flatMap_eq_map_filter (tree.filterMap_file?_visitsAt start place), List.filter_map, List.filter_filter,
    List.map_map]
  refine congrArg _ (List.filter_congr fun names _member => ?_)
  rw [Bool.and_comm]
  rfl

theorem directoriesFrom_eq {below : List (List Name)}
    (visits : tree.walk start = below.flatMap (tree.visitsAt start place)) (root : Path) :
    tree.directoriesFrom root start =
      (below.filter fun names => tree.entryAt (place ++ names) = some .directory).map
        fun names => scriptPath (start.descend names) root := by
  rw [directoriesFrom, visits, List.filterMap_flatMap,
    flatMap_eq_map_filter (tree.filterMap_directory?_visitsAt start place), List.map_map]
  rfl

/-- From where `start` leads, `names` lead down to an entry. None of them is hidden, and the directory around the entry
can be read by its path. -/
structure Holds (tree : FileTree) (start : Path) (names : List Name) (entry : Entry) : Prop where
  found : ∃ arrival, tree.lookup start = .ok arrival ∧ tree.entryAt (arrival.location ++ names) = some entry
  shown : ∀ name ∈ names, name.isHidden = false
  readable : names ≠ [] → (start.descend names.dropLast).byteCount ≤ greatestPathLength

theorem holds_iff {arrival : Arrival} (arrived : tree.lookup start = .ok arrival) (names : List Name) (entry : Entry) :
    tree.Holds start names entry ↔
      tree.Visible start arrival.location names ∧ tree.entryAt (arrival.location ++ names) = some entry := by
  constructor
  · intro holds
    obtain ⟨other, again, found⟩ := holds.found
    rw [Except.ok.inj (arrived.symm.trans again)]
    exact ⟨⟨Option.ne_none_iff_exists'.2 ⟨entry, found⟩, holds.shown, holds.readable⟩, found⟩
  · intro premise
    obtain ⟨visible, found⟩ := premise
    exact ⟨⟨arrival, arrived, found⟩, visible.shown, visible.readable⟩

theorem Holds.not_error {names : List Name} {entry : Entry} (holds : tree.Holds start names entry) {fault : FileFault}
    (failed : tree.lookup start = .error fault) : False := by
  obtain ⟨arrival, arrived, _found⟩ := holds.found
  rw [failed] at arrived
  cases arrived

theorem Holds.proper (wellFormed : tree.WellFormed) {names : List Name} {entry : Entry}
    (holds : tree.Holds start names entry) : ∀ name ∈ names, name.IsProper := by
  obtain ⟨arrival, _arrived, found⟩ := holds.found
  exact wellFormed.names_isProper (Option.ne_none_iff_exists'.2 ⟨entry, found⟩)

/-- There is a file with one of some suffixes where `names` lead. -/
def HoldsFile (tree : FileTree) (suffixes : List String) (start : Path) (names : List Name) : Prop :=
  (∃ content, tree.Holds start names (.file content)) ∧ hasSuffix (start.descend names) suffixes = true

theorem hasSuffix_descend_iff (start : Path) (names : List Name) {name : Name} (proper : name.IsProper)
    (suffixes : List String) :
    hasSuffix (start.descend (names ++ [name])) suffixes = true ↔
      ∃ suffix, name.suffix? = some suffix ∧ suffix ∈ suffixes := by
  obtain ⟨front, segments⟩ := (start.descend names).segments_join_ofName proper.noSeparator
  have last : start.descend (names ++ [name]) = (start.descend names).join (Path.ofName name) :=
    start.descend_append names [name]
  rw [hasSuffix_iff, last, Path.fileName?_of_segments proper.plain segments]
  simp only [Option.some.injEq, exists_and_left, exists_eq_left']

def HoldsDirectory (tree : FileTree) (start : Path) (names : List Name) : Prop := tree.Holds start names .directory

/-- What one search gives: the texts of all wanted names, in the order of the names. -/
def ListsInOrder (wanted : List Name → Prop) (text : List Name → String) (texts : List String) : Prop :=
  ∃ below : List (List Name), below.Pairwise NamesBefore ∧ (∀ names, names ∈ below ↔ wanted names) ∧
    texts = below.map text

theorem ListsInOrder.mem_iff {wanted : List Name → Prop} {text : List Name → String} {texts : List String}
    (lists : ListsInOrder wanted text texts) (found : String) :
    found ∈ texts ↔ ∃ names, wanted names ∧ text names = found := by
  obtain ⟨below, _ordered, exact, same⟩ := lists
  simp only [same, List.mem_map, exact]

section

variable (linkFree : tree.LinkFree) (wellFormed : tree.WellFormed)

include linkFree wellFormed

theorem filesFrom_listsInOrder (root start : Path) (suffixes : List String) :
    ListsInOrder (tree.HoldsFile suffixes start) (fun names => scriptPath (start.descend names) root)
      (tree.filesFrom root start suffixes) := by
  cases arrived : tree.lookup start with
  | error fault =>
      refine ⟨[], .nil, fun names => iff_of_false List.not_mem_nil fun premise => ?_, ?_⟩
      · obtain ⟨⟨content, holds⟩, _suffixed⟩ := premise
        exact holds.not_error arrived
      · rw [filesFrom, walk, arrived]
        rfl
  | ok arrival =>
      obtain ⟨below, covers, visits⟩ := exists_covers_walk linkFree wellFormed arrived
      refine ⟨_, covers.ordered.filter _, fun names => ?_, filesFrom_eq visits root suffixes⟩
      rw [List.mem_filter, covers.exact, true_and, Bool.and_eq_true, isFileAt_iff, HoldsFile]
      simp only [holds_iff arrived, exists_and_left, and_assoc]

theorem directoriesFrom_listsInOrder (root start : Path) :
    ListsInOrder (tree.HoldsDirectory start) (fun names => scriptPath (start.descend names) root)
      (tree.directoriesFrom root start) := by
  cases arrived : tree.lookup start with
  | error fault =>
      refine ⟨[], .nil, fun names => iff_of_false List.not_mem_nil fun holds => holds.not_error arrived, ?_⟩
      rw [directoriesFrom, walk, arrived]
      rfl
  | ok arrival =>
      obtain ⟨below, covers, visits⟩ := exists_covers_walk linkFree wellFormed arrived
      refine ⟨_, covers.ordered.filter _, fun names => ?_, directoriesFrom_eq visits root⟩
      rw [List.mem_filter, covers.exact, true_and, decide_eq_true_eq, HoldsDirectory, holds_iff arrived]

end

end FileTree

open FileTree (ListsInOrder)

/-- A search that finds what is wanted below each of its directories and nothing else. One directory gives the texts
of what is found there, in order and each once, and several give what each of them gives alone. -/
structure IsExactSearch (search : List String → List String) (searched : List String)
    (wanted : String → List Name → Prop) (text : String → List Name → String) : Prop where
  nodup : (search searched).Nodup
  mem_iff : ∀ found, found ∈ search searched ↔
    ∃ directory ∈ searched, ∃ names, wanted directory names ∧ text directory names = found
  single : ∀ directory ∈ searched, ∃ texts,
    ListsInOrder (wanted directory) (text directory) texts ∧ search [directory] = texts.eraseDups
  several : search searched = (searched.flatMap fun directory => search [directory]).eraseDups

theorem IsExactSearch.of_listsInOrder {single : String → List String} {searched : List String}
    {wanted : String → List Name → Prop} {text : String → List Name → String}
    (lists : ∀ directory ∈ searched, ListsInOrder (wanted directory) (text directory) (single directory)) :
    IsExactSearch (fun directories => orderedUnion [] (directories.flatMap single)) searched wanted text where
  nodup := orderedUnion_nodup List.nodup_nil _
  mem_iff := by
    intro found
    simp only [mem_orderedUnion, List.not_mem_nil, false_or, List.mem_flatMap]
    exact exists_congr fun directory => and_congr_right fun inSearched => (lists directory inSearched).mem_iff found
  single := by
    intro directory inSearched
    refine ⟨single directory, lists directory inSearched, ?_⟩
    rw [orderedUnion_nil_left, List.flatMap_singleton]
  several := by
    simp only [List.flatMap_singleton]
    rw [← orderedUnion_nil_left, orderedUnion_flatMap_orderedUnion]

open FileTree in
/-- Searches for files and for directories are exact, below directories of which the paths can be read. -/
theorem searches_exact {tree : FileTree} (linkFree : tree.LinkFree) (wellFormed : tree.WellFormed) (root base : Path)
    (suffixes searched : List String) :
    IsExactSearch (fun directories => tree.findFiles root base directories suffixes) searched
        (fun directory => tree.HoldsFile suffixes (searchStart base directory))
        (fun directory names => scriptPath ((searchStart base directory).descend names) root) ∧
      IsExactSearch (fun directories => tree.findDirectories root base directories) searched
        (fun directory => tree.HoldsDirectory (searchStart base directory))
        (fun directory names => scriptPath ((searchStart base directory).descend names) root) :=
  ⟨.of_listsInOrder fun directory _inSearched =>
      filesFrom_listsInOrder linkFree wellFormed root (searchStart base directory) suffixes,
    .of_listsInOrder fun directory _inSearched =>
      directoriesFrom_listsInOrder linkFree wellFormed root (searchStart base directory)⟩

open FileTree

def deepRoot : Path := Path.ofString "proj"

def deepDirectory : Location := ["proj", "a"].map Name.ofString

def deepTree : FileTree :=
  ⟨[(["proj"].map Name.ofString, .directory), (deepDirectory, .directory),
    (deepDirectory ++ ["sub"].map Name.ofString, .directory),
    (deepDirectory ++ ["sub", "f.c"].map Name.ofString, .file (.text ""))], []⟩

theorem linkFree_deepTree : deepTree.LinkFree := linkFree_of_entries (by simp [deepTree])

theorem wellFormed_deepTree : deepTree.WellFormed where
  names := by decide +kernel
  parents := by decide +kernel

/-- The file is found from both directories, and listed once. -/
theorem searches_exact_deepTree :
    (deepTree.isDirectory (searchStart deepRoot "a") = true ∧
        deepTree.isDirectory (searchStart deepRoot "a/sub") = true) ∧
      deepTree.findFiles deepRoot deepRoot ["a", "a/sub"] ["c"] = ["a/sub/f.c"] ∧
      IsExactSearch (fun directories => deepTree.findFiles deepRoot deepRoot directories ["c"]) ["a", "a/sub"]
        (fun directory => deepTree.HoldsFile ["c"] (searchStart deepRoot directory))
        (fun directory names => scriptPath ((searchStart deepRoot directory).descend names) deepRoot) := by
  refine ⟨by cbv, by cbv, ?_⟩
  exact (searches_exact linkFree_deepTree wellFormed_deepTree deepRoot deepRoot ["c"] ["a", "a/sub"]).1

/-! ### A path that is too long below -/

def dots (count : Nat) : List Char := (List.replicate count ['/', '.']).flatten

theorem mem_dots {count : Nat} {letter : Char} (member : letter ∈ dots count) : letter = '/' ∨ letter = '.' := by
  obtain ⟨pair, inPairs, inPair⟩ := List.mem_flatten.1 member
  rw [List.eq_of_mem_replicate inPairs] at inPair
  simpa using inPair

theorem length_bytes_dots (count : Nat) :
    (((dots count).map PathUnit.char).flatMap PathUnit.bytes).length = 2 * count := by
  induction count with
  | zero => rfl
  | succ count ih =>
      have more : (dots (count + 1)).map PathUnit.char = [.separator, .dot] ++ (dots count).map PathUnit.char := rfl
      have two : ([PathUnit.separator, .dot].flatMap PathUnit.bytes).length = 2 := by decide
      rw [more, List.flatMap_append, List.length_append, ih, two]
      omega

theorem splitSegments_dots (front : List PathUnit) (count : Nat) :
    splitSegments (front ++ (dots count).map PathUnit.char) =
      splitSegments front ++ List.replicate count Name.current := by
  induction count generalizing front with
  | zero => exact (congrArg splitSegments (List.append_nil front)).trans (List.append_nil _).symm
  | succ count ih =>
      have more : front ++ (dots (count + 1)).map PathUnit.char =
          front ++ .separator :: ([.dot] ++ (dots count).map PathUnit.char) := rfl
      rw [more, splitSegments_append_separator, ih, List.replicate_succ]
      rfl

theorem leads_replicate_current {tree : FileTree} {here : Location} (isDirectory : tree.entryAt here = some .directory)
    (budget count : Nat) : tree.Leads budget here (List.replicate count Name.current) ⟨here, budget⟩ := by
  induction count with
  | zero => exact .done budget here
  | succ count ih => exact .through ((step_eq_ok_iff _ _ _ _).2 ⟨isDirectory, rfl⟩) ih

/-- A spelling of the directory `a`. Below the project, its path is just short enough to be read. -/
def longSpelling : String := String.ofList ('a' :: dots 2044)

theorem units_longSpelling : (searchStart deepRoot longSpelling).units =
    (Path.ofString "proj/a").units ++ (dots 2044).map PathUnit.char := by
  rw [searchStart, longSpelling, Path.ofString, String.toList_ofList]
  rfl

theorem byteCount_longSpelling : (searchStart deepRoot longSpelling).byteCount = 4094 := by
  have front : ((Path.ofString "proj/a").units.flatMap PathUnit.bytes).length = 6 := by decide
  rw [Path.byteCount, units_longSpelling, List.flatMap_append, List.length_append, front, length_bytes_dots]

theorem lookup_longSpelling : deepTree.lookup (searchStart deepRoot longSpelling) =
    .ok ⟨deepDirectory, linkBudget⟩ := by
  have noNul : PathUnit.char '\x00' ∉ (searchStart deepRoot longSpelling).units := by
    rw [units_longSpelling, List.mem_append, List.mem_map]
    intro premise
    rcases premise with inFront | ⟨letter, inDots, isNul⟩
    · exact absurd inFront (by decide)
    · rcases mem_dots inDots with slash | dot
      · rw [slash] at isNul
        exact absurd isNul (by decide)
      · rw [dot] at isNul
        exact absurd isNul (by decide)
  have filled : (searchStart deepRoot longSpelling).units ≠ [] := by
    rw [units_longSpelling]
    exact List.append_ne_nil_of_left_ne_nil (by decide) _
  have segments : (searchStart deepRoot longSpelling).segments =
      ["proj", "a"].map Name.ofString ++ List.replicate 2044 Name.current := by
    rw [Path.segments, units_longSpelling, splitSegments_dots]
    rfl
  have fromHere : origin deepTree.workingDirectory (searchStart deepRoot longSpelling) = [] := ite_self []
  have short : (searchStart deepRoot longSpelling).byteCount ≤ greatestPathLength := by
    rw [byteCount_longSpelling]
    decide
  refine (lookup_eq_ok_iff _ _ _).2 ⟨(checkPath_eq_ok_iff _).2 ⟨⟨filled, noNul⟩, short⟩, ?_⟩
  have first : deepTree.step [] (Name.ofString "proj") = .ok (.place (["proj"].map Name.ofString)) := rfl
  have second : deepTree.step (["proj"].map Name.ofString) (Name.ofString "a") = .ok (.place deepDirectory) := rfl
  rw [segments, fromHere]
  exact .through first (.through second (leads_replicate_current rfl _ _))

theorem isDirectory_longSpelling : deepTree.isDirectory (searchStart deepRoot longSpelling) = true :=
  (isDirectory_iff _ _).2 ⟨_, lookup_longSpelling, rfl⟩

/-- There is only one file, and from this spelling its directory cannot be read. -/
theorem not_holdsFile_longSpelling (suffixes : List String) (names : List Name) :
    ¬ deepTree.HoldsFile suffixes (searchStart deepRoot longSpelling) names := by
  intro premise
  obtain ⟨⟨content, holds⟩, _suffixed⟩ := premise
  have found := ((holds_iff lookup_longSpelling names _).1 holds).2
  have isOnly : names = ["sub", "f.c"].map Name.ofString := by
    have member := mem_entries_of_entryAt (List.append_ne_nil_of_left_ne_nil (by decide) _) found
    simp only [deepTree, List.mem_cons, Prod.mk.injEq, reduceCtorEq, and_false, false_or, List.not_mem_nil,
      or_false] at member
    exact List.append_cancel_left member.1
  have readable := holds.readable (by rw [isOnly]; decide)
  have proper : ∀ name ∈ (["sub", "f.c"].map Name.ofString).dropLast, name.IsProper := by decide +kernel
  have three : ((⟨[]⟩ : Path).descend (["sub", "f.c"].map Name.ofString).dropLast).byteCount = 3 := by decide
  have longer := (searchStart deepRoot longSpelling).byteCount_le_slashed
  rw [isOnly, Path.byteCount_descend _ (by decide) proper, three] at readable
  rw [byteCount_longSpelling] at longer
  exact absurd (Nat.le_trans (Nat.add_le_add_right longer 3) readable) (by decide)

theorem findFiles_longSpelling (suffixes : List String) :
    deepTree.findFiles deepRoot deepRoot [longSpelling] suffixes = [] := by
  have lists := filesFrom_listsInOrder linkFree_deepTree wellFormed_deepTree deepRoot
    (searchStart deepRoot longSpelling) suffixes
  have nothing : deepTree.filesFrom deepRoot (searchStart deepRoot longSpelling) suffixes = [] := by
    refine List.eq_nil_iff_forall_not_mem.2 fun found member => ?_
    obtain ⟨names, holds, _written⟩ := (lists.mem_iff found).1 member
    exact not_holdsFile_longSpelling suffixes names holds
  rw [findFiles, List.flatMap_singleton, nothing, orderedUnion_nil]

/-- From this spelling, the directory `sub` is found but not read, so its file is missed. -/
theorem not_exact_longSpelling :
    deepTree.LinkFree ∧ deepTree.isDirectory (searchStart deepRoot longSpelling) = true ∧
      ¬ IsExactSearch (fun directories => deepTree.findFiles deepRoot deepRoot directories ["c"]) [longSpelling]
        (fun directory names =>
          (∃ arrival content, deepTree.lookup (searchStart deepRoot directory) = .ok arrival ∧
            deepTree.entryAt (arrival.location ++ names) = some (.file content)) ∧
          (∀ name ∈ names, name.isHidden = false) ∧
          hasSuffix ((searchStart deepRoot directory).descend names) ["c"] = true)
        (fun directory names => scriptPath ((searchStart deepRoot directory).descend names) deepRoot) := by
  refine ⟨linkFree_deepTree, isDirectory_longSpelling, fun exact => ?_⟩
  have suffixed : hasSuffix ((searchStart deepRoot longSpelling).descend (["sub", "f.c"].map Name.ofString)) ["c"] =
      true :=
    (hasSuffix_descend_iff _ (["sub"].map Name.ofString) (by decide +kernel) _).2
      ⟨"c", by decide, List.mem_singleton_self _⟩
  have listed := (exact.mem_iff _).2 ⟨longSpelling, List.mem_singleton_self _, ["sub", "f.c"].map Name.ofString,
    ⟨⟨_, .text "", lookup_longSpelling, rfl⟩, by decide, suffixed⟩, rfl⟩
  rw [findFiles_longSpelling] at listed
  exact List.not_mem_nil listed

end Listfile

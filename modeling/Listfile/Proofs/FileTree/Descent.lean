import Listfile.Proofs.FileTree.LinkFree
import Listfile.Proofs.FileTree.WellFormed

set_option autoImplicit false

/-! What a walk meets below a directory of a tree without links, and in which order. Each visit belongs to the names
that lead down to it from the start. A walk comes to all names that are not hidden, below directories of which
the paths are short enough to be read, and it comes to them in the order of their bytes, name by name. -/

namespace Listfile

namespace Path

theorem mem_units_child {start : Path} {name : Name} (noSeparator : .separator ∉ name) {unit : PathUnit}
    (member : unit ∈ (start.child name).units) : unit ∈ start.units ∨ unit = .separator ∨ unit ∈ name := by
  rw [child, join, if_neg (Bool.eq_false_iff.1 (isAbsolute_ofName noSeparator))] at member
  split at member
  · rcases List.mem_append.1 member with before | inName
    · exact Or.inl before
    · exact Or.inr (Or.inr inName)
  · rcases List.mem_append.1 member with before | after
    · exact Or.inl before
    · exact Or.inr (List.mem_cons.1 after)

theorem byteCount_join (start : Path) {path : Path} (relative : path.isAbsolute = false) :
    (start.join path).byteCount = start.slashed.byteCount + path.byteCount := by
  rw [byteCount, units_join start relative, List.flatMap_append, List.length_append]
  rfl

theorem byteCount_le_slashed (start : Path) : start.byteCount ≤ start.slashed.byteCount := by
  rw [slashed]
  split
  · exact Nat.le_refl _
  · rw [byteCount, byteCount, List.flatMap_append, List.length_append]
    exact Nat.le_add_right _ _

theorem byteCount_descend (start : Path) {names : List Name} (filled : names ≠ [])
    (proper : ∀ name ∈ names, name.IsProper) :
    (start.descend names).byteCount = start.slashed.byteCount + ((⟨[]⟩ : Path).descend names).byteCount := by
  obtain ⟨name, others, same⟩ := List.exists_cons_of_ne_nil filled
  rw [same, List.forall_mem_cons] at proper
  have relative := isAbsolute_ofName proper.1.noSeparator
  rw [same, descend_cons, child, join_descend start _ proper.2,
    byteCount_join start ((isAbsolute_descend _ proper.2).trans relative), descend_cons, child,
    join_of_units_eq_nil rfl]

theorem byteCount_le_descend (start : Path) {names : List Name} (proper : ∀ name ∈ names, name.IsProper) :
    start.byteCount ≤ (start.descend names).byteCount := by
  by_cases filled : names = []
  · rw [filled]
    exact Nat.le_refl _
  · rw [start.byteCount_descend filled proper]
    exact Nat.le_trans start.byteCount_le_slashed (Nat.le_add_right _ _)

theorem byteCount_dropLast_le (start : Path) {names : List Name} (filled : names ≠ [])
    (proper : ∀ name ∈ names, name.IsProper) :
    (start.descend names.dropLast).byteCount ≤ (start.descend names).byteCount := by
  have last : ∀ name ∈ [names.getLast filled], name.IsProper :=
    List.forall_mem_singleton.2 (proper _ (List.getLast_mem filled))
  have longer := (start.descend names.dropLast).byteCount_le_descend last
  rw [← descend_append, List.dropLast_append_getLast filled] at longer
  exact longer

/-- A path that can be looked up, unless it is too long. -/
structure IsAddress (path : Path) : Prop where
  filled : path.units ≠ []
  noNul : .char '\x00' ∉ path.units

theorem IsAddress.child {start : Path} (address : start.IsAddress) {name : Name} (proper : name.IsProper) :
    (start.child name).IsAddress where
  filled := units_join_ne_nil address.filled (isAbsolute_ofName proper.noSeparator)
  noNul := by
    intro member
    rcases mem_units_child proper.noSeparator member with before | isSeparator | inName
    · exact address.noNul before
    · cases isSeparator
    · exact proper.noNul inName

end Path

namespace FileTree

theorem checkPath_eq_ok_iff (path : Path) :
    checkPath path = .ok () ↔ path.IsAddress ∧ path.byteCount ≤ greatestPathLength := by
  rw [checkPath]
  split
  · rename_i hasNul
    exact ⟨nofun, fun premise => absurd (List.contains_iff_mem.1 hasNul) premise.1.noNul⟩
  · rename_i noNul
    split
    · rename_i empty
      exact ⟨nofun, fun premise => absurd (List.isEmpty_iff.1 empty) premise.1.filled⟩
    · rename_i filled
      split
      · rename_i long
        exact ⟨nofun, fun premise => absurd premise.2 (Nat.not_le.2 long)⟩
      · rename_i short
        exact ⟨fun _same => ⟨⟨fun empty => filled (List.isEmpty_iff.2 empty),
          fun member => noNul (List.contains_iff_mem.2 member)⟩, Nat.le_of_not_lt short⟩, fun _premise => rfl⟩

/-- Whether a walk from `start`, which leads to `place`, comes to what some names lead to: nothing on the way down is
hidden, and the path of the directory around it can be read. -/
structure Visible (tree : FileTree) (start : Path) (place : Location) (names : List Name) : Prop where
  present : tree.entryAt (place ++ names) ≠ none
  shown : ∀ name ∈ names, name.isHidden = false
  readable : names ≠ [] → (start.descend names.dropLast).byteCount ≤ greatestPathLength

/-- Names in the order of their bytes; what lies in a directory comes behind the directory. -/
def NamesBefore : List Name → List Name → Prop := List.Lex fun left right => left.bytes < right.bytes

variable {tree : FileTree} {start : Path} {place : Location}

theorem visible_cons_iff (short : start.byteCount ≤ greatestPathLength) (name : Name) (names : List Name) :
    tree.Visible start place (name :: names) ↔
      name.isHidden = false ∧ tree.Visible (start.child name) (place ++ [name]) names := by
  have sameEntry : tree.entryAt (place ++ name :: names) = tree.entryAt (place ++ [name] ++ names) := by
    rw [List.append_assoc, List.singleton_append]
  constructor
  · intro visible
    refine ⟨visible.shown name List.mem_cons_self, sameEntry ▸ visible.present,
      fun other member => visible.shown other (List.mem_cons_of_mem name member), fun filled => ?_⟩
    have readable := visible.readable (List.cons_ne_nil _ _)
    rw [List.dropLast_cons_of_ne_nil filled] at readable
    exact readable
  · intro premise
    obtain ⟨shown, visible⟩ := premise
    refine ⟨sameEntry ▸ visible.present, List.forall_mem_cons.2 ⟨shown, visible.shown⟩, fun _filled => ?_⟩
    cases names with
    | nil => exact short
    | cons next names => exact visible.readable (List.cons_ne_nil _ _)

theorem Visible.short (wellFormed : tree.WellFormed) {names : List Name} (filled : names ≠ [])
    (visible : tree.Visible start place names) : start.byteCount ≤ greatestPathLength := by
  have proper : ∀ name ∈ names.dropLast, name.IsProper :=
    fun name member => wellFormed.names_isProper visible.present name (List.dropLast_subset names member)
  exact Nat.le_trans (start.byteCount_le_descend proper) (visible.readable filled)

/-! ### Visits -/

def complaintsAt (path : Path) : List Visit :=
  match checkPath path with
  | .error fault => [.unreadable path fault]
  | .ok () => []

def visitsAt (tree : FileTree) (start : Path) (place : Location) (names : List Name) : List Visit :=
  match tree.entryAt (place ++ names) with
  | some (.file _) => [.file (start.descend names)]
  | some .directory => .directory (start.descend names) :: complaintsAt (start.descend names)
  | _ => []

theorem visitsAt_cons (tree : FileTree) (start : Path) (place : Location) (name : Name) (names : List Name) :
    tree.visitsAt start place (name :: names) = tree.visitsAt (start.child name) (place ++ [name]) names := by
  rw [visitsAt, visitsAt, Path.descend_cons, List.append_assoc, List.singleton_append]

/-- Some lists of names in their order: those that are `wanted` and visible, and no others. -/
structure Covers (tree : FileTree) (start : Path) (place : Location) (wanted : List Name → Prop)
    (below : List (List Name)) : Prop where
  ordered : below.Pairwise NamesBefore
  exact : ∀ names, names ∈ below ↔ wanted names ∧ tree.Visible start place names

theorem Covers.of_invisible {wanted : List Name → Prop}
    (invisible : ∀ names, wanted names → ¬ tree.Visible start place names) : tree.Covers start place wanted [] where
  ordered := .nil
  exact := fun names => iff_of_false List.not_mem_nil fun premise => invisible names premise.1 premise.2

/-- What is covered below an entry is covered, behind the entry itself, from the directory around it. -/
theorem Covers.cons {name : Name} (short : start.byteCount ≤ greatestPathLength) (shown : name.isHidden = false)
    (present : tree.entryAt (place ++ [name]) ≠ none) {below : List (List Name)}
    (covers : tree.Covers (start.child name) (place ++ [name]) (· ≠ []) below) :
    tree.Covers start place (fun names => names.head? = some name) ([name] :: below.map (name :: ·)) where
  ordered := by
    refine List.pairwise_cons.2 ⟨?_, covers.ordered.map _ fun _left _right before => .cons before⟩
    intro names member
    obtain ⟨rest, inBelow, same⟩ := List.mem_map.1 member
    obtain ⟨next, others, filled⟩ := List.exists_cons_of_ne_nil ((covers.exact rest).1 inBelow).1
    rw [← same, filled]
    exact .cons .nil
  exact := by
    intro names
    cases names with
    | nil => simp
    | cons first rest =>
        rw [List.head?_cons, Option.some.injEq, visible_cons_iff short, List.mem_cons, List.mem_map]
        constructor
        · intro premise
          rcases premise with alone | ⟨other, member, same⟩
          · obtain ⟨sameName, noRest⟩ := List.cons.inj alone
            rw [sameName, noRest]
            exact ⟨rfl, shown, by rw [List.append_nil]; exact present, nofun, fun filled => absurd rfl filled⟩
          · obtain ⟨sameName, sameRest⟩ := List.cons.inj same
            rw [← sameName, ← sameRest]
            exact ⟨rfl, shown, ((covers.exact other).1 member).2⟩
        · intro premise
          obtain ⟨sameName, _shown, visible⟩ := premise
          rw [sameName] at visible ⊢
          by_cases alone : rest = []
          · exact Or.inl (by rw [alone])
          · exact Or.inr ⟨rest, (covers.exact rest).2 ⟨alone, visible⟩, rfl⟩

theorem flatMap_visitsAt_cons (tree : FileTree) (start : Path) (place : Location) (name : Name)
    (below : List (List Name)) :
    ([name] :: below.map (name :: ·)).flatMap (tree.visitsAt start place) = tree.visitsAt start place [name] ++
      below.flatMap (tree.visitsAt (start.child name) (place ++ [name])) := by
  rw [List.flatMap_cons, List.flatMap_map]
  exact congrArg _ (List.flatMap_congr fun rest _member => tree.visitsAt_cons start place name rest)

section

variable (linkFree : tree.LinkFree) (wellFormed : tree.WellFormed)

include wellFormed

theorem not_visible_of_absent {name : Name} (absent : tree.entryAt (place ++ [name]) = none) {names : List Name}
    (begins : names.head? = some name) : ¬ tree.Visible start place names := by
  intro visible
  obtain ⟨rest, split⟩ := List.head?_eq_some_iff.1 begins
  have present := visible.present
  rw [split] at present
  by_cases alone : rest = []
  · rw [alone] at present
    exact present absent
  · have isDirectory := wellFormed.directory_above [name] alone present
    rw [isDirectory] at absent
    cases absent

theorem not_visible_below_file {content : Content} (isFile : tree.entryAt place = some (.file content))
    {names : List Name} (filled : names ≠ []) : ¬ tree.Visible start place names := by
  intro visible
  have isDirectory := wellFormed.directory_above [] filled visible.present
  rw [List.append_nil, isFile] at isDirectory
  cases isDirectory

include linkFree

/-- What one entry of a directory adds to a walk, if the walks below deeper directories are covered. -/
theorem exists_covers_plainVisits {here : Stop} (budget : Nat) (above : List Stop) (address : here.path.IsAddress)
    (short : here.path.byteCount ≤ greatestPathLength) (name : Name)
    (deeper : tree.entryAt (here.location ++ [name]) = some .directory → (here.path.child name).IsAddress →
      ∃ below, tree.Covers (here.path.child name) (here.location ++ [name]) (· ≠ []) below ∧
        tree.walkBelow budget ⟨here.path.child name, here.location ++ [name]⟩ (here :: above) =
          complaintsAt (here.path.child name) ++
            below.flatMap (tree.visitsAt (here.path.child name) (here.location ++ [name]))) :
    ∃ part, tree.Covers here.path here.location (fun names => names.head? = some name) part ∧
      tree.plainVisits budget here above name = part.flatMap (tree.visitsAt here.path here.location) := by
  cases hidden : name.isHidden with
  | true =>
      refine ⟨[], .of_invisible fun names begins visible => ?_, ?_⟩
      · have shown := visible.shown name (List.mem_of_mem_head? begins)
        rw [hidden] at shown
        cases shown
      · rw [plainVisits, hidden]
        split <;> rfl
  | false =>
      cases found : tree.entryAt (here.location ++ [name]) with
      | none =>
          refine ⟨[], .of_invisible fun names begins => not_visible_of_absent wellFormed found begins, ?_⟩
          rw [plainVisits, found]
          rfl
      | some entry =>
          have present : tree.entryAt (here.location ++ [name]) ≠ none := Option.ne_none_iff_exists'.2 ⟨entry, found⟩
          cases entry with
          | file content =>
              refine ⟨_, Covers.cons short hidden present
                (.of_invisible fun names filled => not_visible_below_file wellFormed found filled), ?_⟩
              rw [flatMap_visitsAt_cons, plainVisits, visitsAt, found, hidden]
              rfl
          | directory =>
              have proper := (wellFormed.of_entryAt present).2
              obtain ⟨below, covers, visits⟩ := deeper found (address.child proper)
              refine ⟨_, Covers.cons short hidden present covers, ?_⟩
              rw [flatMap_visitsAt_cons, plainVisits, visitsAt, found, hidden]
              exact congrArg _ visits
          | link target => exact absurd found (linkFree _ target)

/-- By induction on how much deeper directories lie: a walk below a directory comes to all names that are visible from
it, and to no others. -/
theorem exists_covers_walkBelow (budget : Nat) (here : Stop) (above : List Stop) (address : here.path.IsAddress) :
    ∃ below, tree.Covers here.path here.location (· ≠ []) below ∧
      tree.walkBelow budget here above =
        complaintsAt here.path ++ below.flatMap (tree.visitsAt here.path here.location) := by
  induction size : tree.depth - here.location.length using Nat.strongRecOn generalizing here above with
  | ind size ih =>
      rw [linkFree.walkBelow_eq, complaintsAt]
      cases valid : checkPath here.path with
      | error fault =>
          refine ⟨[], .of_invisible fun names filled visible => ?_, rfl⟩
          rw [(checkPath_eq_ok_iff _).2 ⟨address, visible.short wellFormed filled⟩] at valid
          cases valid
      | ok done =>
          have short := ((checkPath_eq_ok_iff _).1 valid).2
          have parts : ∀ name, ∃ part,
              tree.Covers here.path here.location (fun names => names.head? = some name) part ∧
                tree.plainVisits budget here above name =
                  part.flatMap (tree.visitsAt here.path here.location) := by
            intro name
            refine exists_covers_plainVisits linkFree wellFormed budget above address short name
              fun isDirectory childAddress =>
                ih _ ?_ ⟨here.path.child name, here.location ++ [name]⟩ (here :: above) childAddress rfl
            have deeper := length_le_depth (mem_directories isDirectory)
            rw [List.length_append, List.length_singleton] at deeper ⊢
            omega
          choose part covers visits using parts
          refine ⟨(tree.names here.location).flatMap part, ⟨?_, fun names => ?_⟩, ?_⟩
          · refine List.pairwise_flatMap.2 ⟨fun name _member => (covers name).ordered, ?_⟩
            refine (wellFormed.names_pairwise here.location).imp fun before left inLeft right inRight => ?_
            obtain ⟨_rest, splitLeft⟩ := List.head?_eq_some_iff.1 (((covers _).exact left).1 inLeft).1
            obtain ⟨_others, splitRight⟩ := List.head?_eq_some_iff.1 (((covers _).exact right).1 inRight).1
            rw [splitLeft, splitRight]
            exact .rel before
          · simp only [List.mem_flatMap, (covers _).exact]
            constructor
            · intro premise
              obtain ⟨name, _member, begins, visible⟩ := premise
              exact ⟨List.ne_nil_of_mem (List.mem_of_mem_head? begins), visible⟩
            · intro premise
              obtain ⟨filled, visible⟩ := premise
              obtain ⟨name, rest, split⟩ := List.exists_cons_of_ne_nil filled
              have begins : names.head? = some name := by rw [split, List.head?_cons]
              refine ⟨name, (mem_names_iff _ _ _).2 fun absent => ?_, begins, visible⟩
              exact not_visible_of_absent wellFormed absent begins visible
          · rw [List.flatMap_assoc]
            exact List.flatMap_congr fun name _member => visits name

theorem exists_covers_walk {arrival : Arrival} (arrived : tree.lookup start = .ok arrival) :
    ∃ below, tree.Covers start arrival.location (fun _names => True) below ∧
      tree.walk start = below.flatMap (tree.visitsAt start arrival.location) := by
  cases found : tree.entryAt arrival.location with
  | none =>
      refine ⟨[], .of_invisible fun names _wanted visible => ?_, ?_⟩
      · by_cases atStart : names = []
        · have present := visible.present
          rw [atStart, List.append_nil] at present
          exact present found
        · have isDirectory := wellFormed.directory_above [] atStart visible.present
          rw [List.append_nil, found] at isDirectory
          cases isDirectory
      · rw [walk, arrived]
        dsimp only
        rw [found]
        rfl
  | some entry =>
      have startVisible : tree.Visible start arrival.location [] :=
        ⟨by rw [List.append_nil, found]; exact nofun, nofun, fun filled => absurd rfl filled⟩
      have atStart : tree.visitsAt start arrival.location [] = match some entry with
          | some (.file _) => [.file start]
          | some .directory => .directory start :: complaintsAt start
          | _ => [] := by
        rw [visitsAt, List.append_nil, found]
        rfl
      cases entry with
      | file content =>
          refine ⟨[[]], ⟨List.pairwise_singleton _ _, fun names => ?_⟩, ?_⟩
          · rw [List.mem_singleton, true_and]
            refine ⟨fun same => same ▸ startVisible, fun visible => by_contra fun filled => ?_⟩
            exact not_visible_below_file wellFormed found filled visible
          · rw [walk, arrived, List.flatMap_singleton, atStart]
            dsimp only
            rw [found]
      | directory =>
          have address := ((checkPath_eq_ok_iff _).1 ((lookup_eq_ok_iff _ _ _).1 arrived).1).1
          obtain ⟨below, covers, visits⟩ :=
            exists_covers_walkBelow linkFree wellFormed arrival.budget ⟨start, arrival.location⟩ [] address
          refine ⟨[] :: below, ⟨List.pairwise_cons.2 ⟨fun names member => ?_, covers.ordered⟩, fun names => ?_⟩, ?_⟩
          · obtain ⟨name, rest, split⟩ := List.exists_cons_of_ne_nil ((covers.exact names).1 member).1
            rw [split]
            exact .nil
          · rw [List.mem_cons, covers.exact, true_and]
            constructor
            · intro premise
              rcases premise with atStart | ⟨_filled, visible⟩
              · exact atStart ▸ startVisible
              · exact visible
            · intro visible
              by_cases atStart : names = []
              · exact Or.inl atStart
              · exact Or.inr ⟨atStart, visible⟩
          · rw [walk, arrived, List.flatMap_cons, atStart]
            dsimp only
            rw [found]
            exact congrArg (Visit.directory start :: ·) visits
      | link target => exact absurd found (linkFree _ target)

end

end FileTree

end Listfile

import Listfile.Proofs.FileTree.Lookup

set_option autoImplicit false

/-! Where the file of a path is written. Nothing stands there, or a file; with a file there the path leads to it, and
opening the path once more opens the same file. -/

namespace Listfile.FileTree

variable {tree : FileTree} {place : Location} {content : Content}

/-- The ways to a place where a file can be written. A slash at the end, even behind a link, leads to none. -/
inductive Opens (tree : FileTree) : Nat → Location → List Name → Location → Prop
  | existing {budget : Nat} {here place : Location} {segment : Name} {content : Content}
    (stepped : tree.step here segment = .ok (.place place)) (isFile : tree.entryAt place = some (.file content)) :
    Opens tree budget here [segment] place
  | fresh {budget : Nat} {here place : Location} {segment : Name}
    (stepped : tree.step here segment = .ok (.absent place)) : Opens tree budget here [segment] place
  | through {budget : Nat} {here next place : Location} {segment : Name} {rest : List Name} (more : rest ≠ [])
    (noSlash : ¬(rest ≠ [] ∧ rest.all (·.isEmpty) = true)) (stepped : tree.step here segment = .ok (.place next))
    (later : Opens tree budget next rest place) : Opens tree budget here (segment :: rest) place
  | around {budget : Nat} {here place : Location} {target : Path} {segment : Name} {rest : List Name}
    (noSlash : ¬(rest ≠ [] ∧ rest.all (·.isEmpty) = true)) (stepped : tree.step here segment = .ok (.detour target))
    (later : Opens tree budget (origin here target) (target.segments ++ rest) place) :
    Opens tree (budget + 1) here (segment :: rest) place

theorem writingPlace_eq_ok_iff (tree : FileTree) (budget : Nat) (here : Location) (segments : List Name)
    (place : Location) : tree.writingPlace budget here segments = .ok place ↔ tree.Opens budget here segments place := by
  constructor
  · intro opened
    induction budget, here, segments using writingPlace.induct tree with
    | case5 budget here segment isDirectory next stepped content isFile noSlash =>
        rw [writingPlace, isDirectory] at opened
        simp only [if_neg noSlash, stepped, if_true, isFile, Except.ok.injEq] at opened
        rw [← opened]
        exact .existing ((step_eq_ok_iff _ _ _ _).2 ⟨(checkDirectory_eq_ok_iff _ _).1 isDirectory, stepped⟩) isFile
    | case7 budget here segment rest isDirectory noSlash next stepped more ih =>
        rw [writingPlace, isDirectory] at opened
        simp only [if_neg noSlash, stepped, if_neg more] at opened
        exact .through more noSlash
          ((step_eq_ok_iff _ _ _ _).2 ⟨(checkDirectory_eq_ok_iff _ _).1 isDirectory, stepped⟩) (ih opened)
    | case8 budget here segment isDirectory next stepped noSlash =>
        rw [writingPlace, isDirectory] at opened
        simp only [if_neg noSlash, stepped, if_true, Except.ok.injEq] at opened
        rw [← opened]
        exact .fresh ((step_eq_ok_iff _ _ _ _).2 ⟨(checkDirectory_eq_ok_iff _ _).1 isDirectory, stepped⟩)
    | case11 here segment rest isDirectory noSlash target stepped left ih =>
        rw [writingPlace, isDirectory] at opened
        simp only [if_neg noSlash, stepped] at opened
        exact .around noSlash
          ((step_eq_ok_iff _ _ _ _).2 ⟨(checkDirectory_eq_ok_iff _ _).1 isDirectory, stepped⟩) (ih opened)
    | case4 budget here segment rest isDirectory noSlash fault failed =>
        rw [writingPlace, isDirectory] at opened
        simp only [if_neg noSlash, failed, reduceCtorEq] at opened
    | case9 budget here segment rest isDirectory noSlash next stepped more =>
        rw [writingPlace, isDirectory] at opened
        simp only [if_neg noSlash, stepped, if_neg more, reduceCtorEq] at opened
    | case10 here segment rest isDirectory noSlash target stepped =>
        rw [writingPlace, isDirectory] at opened
        simp only [if_neg noSlash, stepped, reduceCtorEq] at opened
    | _ => simp [writingPlace, *] at opened
  · intro opens
    induction opens with
    | existing stepped isFile =>
        obtain ⟨isDirectory, stepped⟩ := (step_eq_ok_iff _ _ _ _).1 stepped
        rw [writingPlace, (checkDirectory_eq_ok_iff _ _).2 isDirectory]
        simp [stepped, isFile]
    | fresh stepped =>
        obtain ⟨isDirectory, stepped⟩ := (step_eq_ok_iff _ _ _ _).1 stepped
        rw [writingPlace, (checkDirectory_eq_ok_iff _ _).2 isDirectory]
        simp [stepped]
    | through more noSlash stepped later ih =>
        obtain ⟨isDirectory, stepped⟩ := (step_eq_ok_iff _ _ _ _).1 stepped
        rw [writingPlace, (checkDirectory_eq_ok_iff _ _).2 isDirectory]
        simp only [if_neg noSlash, stepped, if_neg more]
        exact ih
    | around noSlash stepped later ih =>
        obtain ⟨isDirectory, stepped⟩ := (step_eq_ok_iff _ _ _ _).1 stepped
        rw [writingPlace, (checkDirectory_eq_ok_iff _ _).2 isDirectory]
        simp only [if_neg noSlash, stepped]
        exact ih

namespace Opens

variable {budget : Nat} {here : Location} {segments : List Name}

theorem free (opens : tree.Opens budget here segments place) : tree.FreeForFile place := by
  induction opens with
  | existing _stepped isFile => exact Or.inr ⟨_, isFile⟩
  | fresh stepped => exact Or.inl (entryAt_of_absent ((step_eq_ok_iff _ _ _ _).1 stepped).2)
  | through _more _noSlash _stepped _later ih => exact ih
  | around _noSlash _stepped _later ih => exact ih

theorem parent (opens : tree.Opens budget here segments place) (absent : tree.entryAt place = none) :
    tree.entryAt place.dropLast = some .directory := by
  induction opens with
  | existing _stepped isFile =>
      rw [isFile] at absent
      cases absent
  | @fresh budget here place segment stepped =>
      obtain ⟨isDirectory, stepped⟩ := (step_eq_ok_iff _ _ _ _).1 stepped
      rcases stepFrom_cases stepped with stays | ⟨_isParent, goesUp⟩ | ⟨_plain, goesDown⟩
      · cases stays
      · cases goesUp
      · have inside : place = here ++ [segment] := by
          cases found : tree.entryAt (here ++ [segment]) with
          | none =>
              rw [found] at goesDown
              exact Step.absent.inj goesDown
          | some entry =>
              rw [found] at goesDown
              cases entry <;> cases goesDown
        rw [inside, List.dropLast_concat]
        exact isDirectory
  | through _more _noSlash _stepped _later ih => exact ih absent
  | around _noSlash _stepped _later ih => exact ih absent

theorem leads (content : Content) (opens : tree.Opens budget here segments place) :
    ∃ left, (tree.set place (.file content)).Leads budget here segments ⟨place, left⟩ := by
  have free := opens.free
  induction opens with
  | @existing budget here place segment other stepped isFile =>
      exact ⟨budget, .through ((step_set_iff free _ _ _).2 ⟨_, stepped, rfl⟩) (.done budget place)⟩
  | @fresh budget here place segment stepped =>
      exact ⟨budget, .through ((step_set_iff free _ _ _).2 ⟨_, stepped, if_pos rfl⟩) (.done budget place)⟩
  | through _more _noSlash stepped _later ih =>
      obtain ⟨left, leads⟩ := ih free
      exact ⟨left, .through ((step_set_iff free _ _ _).2 ⟨_, stepped, rfl⟩) leads⟩
  | around _noSlash stepped _later ih =>
      obtain ⟨left, leads⟩ := ih free
      exact ⟨left, .around ((step_set_iff free _ _ _).2 ⟨_, stepped, rfl⟩) leads⟩

theorem again (content : Content) (opens : tree.Opens budget here segments place) :
    (tree.set place (.file content)).Opens budget here segments place := by
  have free := opens.free
  induction opens with
  | existing stepped _isFile =>
      exact .existing ((step_set_iff free _ _ _).2 ⟨_, stepped, rfl⟩) (free.entryAt_set _)
  | fresh stepped =>
      exact .existing ((step_set_iff free _ _ _).2 ⟨_, stepped, if_pos rfl⟩) (free.entryAt_set _)
  | through more noSlash stepped _later ih =>
      exact .through more noSlash ((step_set_iff free _ _ _).2 ⟨_, stepped, rfl⟩) (ih free)
  | around noSlash stepped _later ih =>
      exact .around noSlash ((step_set_iff free _ _ _).2 ⟨_, stepped, rfl⟩) (ih free)

end Opens

theorem writingPlaceOf_eq_ok_iff (tree : FileTree) (path : Path) (place : Location) :
    tree.writingPlaceOf path = .ok place ↔ checkPath path = .ok () ∧
      tree.Opens linkBudget (origin tree.workingDirectory path) path.segments place := by
  rw [writingPlaceOf, ← writingPlace_eq_ok_iff]
  split <;> simp_all

theorem free_of_writingPlaceOf {path : Path} (creatable : tree.writingPlaceOf path = .ok place) :
    tree.FreeForFile place :=
  ((writingPlaceOf_eq_ok_iff _ _ _).1 creatable).2.free

/-- Where the file of a path is written is where the path leads to from then on. -/
theorem lookup_of_writingPlaceOf {path : Path} (content : Content)
    (creatable : tree.writingPlaceOf path = .ok place) :
    ∃ left, (tree.set place (.file content)).lookup path = .ok ⟨place, left⟩ := by
  obtain ⟨valid, opens⟩ := (writingPlaceOf_eq_ok_iff _ _ _).1 creatable
  obtain ⟨left, leads⟩ := opens.leads content
  exact ⟨left, (lookup_eq_ok_iff _ _ _).2 ⟨valid, leads⟩⟩

theorem lookup_of_writingPlaceOf_file {path : Path} (creatable : tree.writingPlaceOf path = .ok place)
    (isFile : tree.entryAt place = some (.file content)) : ∃ left, tree.lookup path = .ok ⟨place, left⟩ := by
  obtain ⟨left, arrived⟩ := lookup_of_writingPlaceOf content creatable
  rw [set_eq_self (free_of_writingPlaceOf creatable).ne_nil isFile] at arrived
  exact ⟨left, arrived⟩

theorem writingPlaceOf_set {path : Path} (content : Content) (creatable : tree.writingPlaceOf path = .ok place) :
    (tree.set place (.file content)).writingPlaceOf path = .ok place := by
  obtain ⟨valid, opens⟩ := (writingPlaceOf_eq_ok_iff _ _ _).1 creatable
  exact (writingPlaceOf_eq_ok_iff _ _ _).2 ⟨valid, opens.again content⟩

end Listfile.FileTree

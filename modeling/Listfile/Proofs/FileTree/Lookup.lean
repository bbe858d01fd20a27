import Listfile.Proofs.FileTree.Entries
import Listfile.Proofs.Outcomes
import Listfile.Proofs.Path.Segments

set_option autoImplicit false

/-! Where paths lead, before and after a file was put at a free place. No path leads through the file, so a path that
led somewhere still leads there, and one that leads elsewhere than to the file did so before. The place
where the file of a path is written is the one to which the path leads from then on. -/

namespace Listfile.FileTree

variable {tree : FileTree} {place : Location} {content : Content}

theorem checkDirectory_eq_ok_iff (tree : FileTree) (here : Location) :
    tree.checkDirectory here = .ok () ↔ tree.entryAt here = some .directory := by
  rw [checkDirectory]
  split <;> simp_all

theorem step_eq_ok_iff (tree : FileTree) (here : Location) (segment : Name) (result : Step) :
    tree.step here segment = .ok result ↔
      tree.entryAt here = some .directory ∧ tree.stepFrom here segment = .ok result := by
  rw [← checkDirectory_eq_ok_iff, step]
  split <;> simp_all

/-- Where a name leads in a directory, by what stands there. -/
def Step.into (location : Location) : Option Entry → Step
  | some (.link target) => .detour target
  | some _ => .place location
  | none => .absent location

theorem stepFrom_cases {here : Location} {segment : Name} {result : Step}
    (stepped : tree.stepFrom here segment = .ok result) :
    result = .place here ∨ segment = Name.parent ∧ result = .place here.dropLast ∨
      segment.IsPlain ∧ result = .into (here ++ [segment]) (tree.entryAt (here ++ [segment])) := by
  rw [stepFrom] at stepped
  split at stepped
  · exact Or.inl (Except.ok.inj stepped).symm
  · rename_i moves
    rw [not_or] at moves
    split at stepped
    · rename_i isParent
      exact Or.inr (Or.inl ⟨isParent, (Except.ok.inj stepped).symm⟩)
    · rename_i notParent
      refine Or.inr (Or.inr ⟨⟨moves.1, moves.2, notParent⟩, ?_⟩)
      split at stepped
      · cases stepped
      · cases found : tree.entryAt (here ++ [segment]) with
        | none => rw [found] at stepped; exact (Except.ok.inj stepped).symm
        | some entry => rw [found] at stepped; cases entry <;> exact (Except.ok.inj stepped).symm

theorem entryAt_of_absent {here next : Location} {segment : Name}
    (stepped : tree.stepFrom here segment = .ok (.absent next)) : tree.entryAt next = none := by
  rcases stepFrom_cases stepped with stays | ⟨_isParent, goesUp⟩ | ⟨_plain, goesDown⟩
  · cases stays
  · cases goesUp
  · cases found : tree.entryAt (here ++ [segment]) with
    | none =>
        rw [found] at goesDown
        cases goesDown
        exact found
    | some entry =>
        rw [found] at goesDown
        cases entry <;> cases goesDown

/-- The lookups that arrive: step by step, and around every link. -/
inductive Leads (tree : FileTree) : Nat → Location → List Name → Arrival → Prop
  | done (budget : Nat) (here : Location) : Leads tree budget here [] ⟨here, budget⟩
  | through {budget : Nat} {here next : Location} {segment : Name} {rest : List Name} {arrival : Arrival}
    (stepped : tree.step here segment = .ok (.place next)) (later : Leads tree budget next rest arrival) :
    Leads tree budget here (segment :: rest) arrival
  | around {budget : Nat} {here : Location} {target : Path} {segment : Name} {rest : List Name} {arrival : Arrival}
    (stepped : tree.step here segment = .ok (.detour target))
    (later : Leads tree budget (origin here target) (target.segments ++ rest) arrival) :
    Leads tree (budget + 1) here (segment :: rest) arrival

theorem follow_eq_ok_iff (tree : FileTree) (budget : Nat) (here : Location) (segments : List Name) (arrival : Arrival) :
    tree.follow budget here segments = .ok arrival ↔ tree.Leads budget here segments arrival := by
  constructor
  · intro arrived
    induction budget, here, segments using follow.induct tree with
    | case1 budget here =>
        rw [follow, Except.ok.injEq] at arrived
        exact arrived ▸ .done budget here
    | case2 budget here segment rest fault failed =>
        rw [follow, failed] at arrived
        cases arrived
    | case3 budget here segment rest next stepped ih =>
        rw [follow, stepped] at arrived
        exact .through stepped (ih arrived)
    | case4 budget here segment rest next stepped =>
        rw [follow, stepped] at arrived
        cases arrived
    | case5 here segment rest target stepped =>
        rw [follow, stepped] at arrived
        cases arrived
    | case6 here segment rest target stepped left ih =>
        rw [follow, stepped] at arrived
        exact .around stepped (ih arrived)
  · intro leads
    induction leads with
    | done budget here => rw [follow]
    | through stepped _later ih => rw [follow, stepped]; exact ih
    | around stepped _later ih => rw [follow, stepped]; exact ih

namespace Leads

variable {budget : Nat} {here : Location} {segments first second : List Name} {arrival : Arrival}

/-- A lookup can be interrupted anywhere: what is left of the path and of the budget goes on from there. -/
theorem split (leads : tree.Leads budget here (first ++ second) arrival) :
    ∃ middle : Arrival, tree.Leads budget here first middle ∧
      tree.Leads middle.budget middle.location second arrival := by
  generalize written : first ++ second = segments at leads
  induction leads generalizing first with
  | done budget here =>
      obtain ⟨noFirst, noSecond⟩ := List.append_eq_nil_iff.1 written
      rw [noFirst, noSecond]
      exact ⟨⟨here, budget⟩, .done budget here, .done budget here⟩
  | @through budget here next segment rest arrival stepped later ih =>
      cases first with
      | nil =>
          rw [List.nil_append] at written
          exact ⟨⟨here, budget⟩, .done budget here, written ▸ .through stepped later⟩
      | cons head first =>
          obtain ⟨sameHead, sameRest⟩ := List.cons.inj written
          obtain ⟨middle, before, after⟩ := ih sameRest
          exact ⟨middle, .through (sameHead ▸ stepped) before, after⟩
  | @around budget here target segment rest arrival stepped later ih =>
      cases first with
      | nil =>
          rw [List.nil_append] at written
          exact ⟨⟨here, budget + 1⟩, .done _ here, written ▸ .around stepped later⟩
      | cons head first =>
          obtain ⟨sameHead, sameRest⟩ := List.cons.inj written
          have detour : (target.segments ++ first) ++ second = target.segments ++ rest := by
            rw [List.append_assoc]
            exact congrArg (target.segments ++ ·) sameRest
          obtain ⟨middle, before, after⟩ := ih detour
          exact ⟨middle, .around (sameHead ▸ stepped) before, after⟩

theorem done_of_not_directory (blocked : tree.entryAt here ≠ some .directory)
    (leads : tree.Leads budget here segments arrival) : segments = [] ∧ arrival.location = here := by
  cases leads with
  | done => exact ⟨rfl, rfl⟩
  | through stepped _later => exact absurd ((step_eq_ok_iff _ _ _ _).1 stepped).1 blocked
  | around stepped _later => exact absurd ((step_eq_ok_iff _ _ _ _).1 stepped).1 blocked

end Leads

/-- A step that found nothing at `place` finds something there now. -/
def Step.filled (place : Location) : Step → Step
  | .absent next => if next = place then .place next else .absent next
  | other => other

theorem stepFrom_set (free : tree.FreeForFile place) (here : Location) (segment : Name) :
    (tree.set place (.file content)).stepFrom here segment =
      (tree.stepFrom here segment).map (Step.filled place) := by
  rw [stepFrom, stepFrom]
  split
  · rfl
  · split
    · rfl
    · split
      · rfl
      · by_cases same : here ++ [segment] = place
        · rw [same, free.entryAt_set]
          rcases free with absent | ⟨other, isFile⟩
          · simp [absent, Except.map, Step.filled]
          · simp [isFile, Except.map, Step.filled]
        · rw [entryAt_set_of_ne same]
          cases tree.entryAt (here ++ [segment]) with
          | none => simp [Except.map, Step.filled, same]
          | some entry => cases entry <;> rfl

theorem step_set_iff (free : tree.FreeForFile place) (here : Location) (segment : Name) (result : Step) :
    (tree.set place (.file content)).step here segment = .ok result ↔
      ∃ before, tree.step here segment = .ok before ∧ before.filled place = result := by
  simp only [step_eq_ok_iff, entryAt_set_directory_iff free, stepFrom_set free, map_eq_ok_iff, and_assoc,
    exists_and_left]

namespace Leads

variable {budget : Nat} {here : Location} {segments : List Name} {arrival : Arrival}

theorem set (free : tree.FreeForFile place) (leads : tree.Leads budget here segments arrival) :
    (tree.set place (.file content)).Leads budget here segments arrival := by
  induction leads with
  | done budget here => exact .done budget here
  | through stepped _later ih => exact .through ((step_set_iff free _ _ _).2 ⟨_, stepped, rfl⟩) ih
  | around stepped _later ih => exact .around ((step_set_iff free _ _ _).2 ⟨_, stepped, rfl⟩) ih

theorem of_set (free : tree.FreeForFile place)
    (leads : (tree.set place (.file content)).Leads budget here segments arrival)
    (elsewhere : arrival.location ≠ place) : tree.Leads budget here segments arrival := by
  induction leads with
  | done budget here => exact .done budget here
  | @through budget here next segment rest arrival stepped later ih =>
      obtain ⟨before, steppedBefore, filled⟩ := (step_set_iff free _ _ _).1 stepped
      cases before with
      | place location =>
          cases filled
          exact .through steppedBefore (ih elsewhere)
      | detour target => cases filled
      | absent location =>
          rw [Step.filled] at filled
          split at filled
          · -- The step enters the new file, where the lookup ends.
            rename_i atPlace
            cases filled
            have stopped := later.done_of_not_directory (by rw [atPlace, free.entryAt_set]; exact nofun)
            exact absurd (stopped.2.trans atPlace) elsewhere
          · cases filled
  | @around budget here target segment rest arrival stepped later ih =>
      obtain ⟨before, steppedBefore, filled⟩ := (step_set_iff free _ _ _).1 stepped
      cases before with
      | place location => cases filled
      | detour other =>
          cases filled
          exact .around steppedBefore (ih elsewhere)
      | absent location =>
          rw [Step.filled] at filled
          split at filled <;> cases filled

end Leads

theorem lookup_eq_ok_iff (tree : FileTree) (path : Path) (arrival : Arrival) :
    tree.lookup path = .ok arrival ↔ checkPath path = .ok () ∧
      tree.Leads linkBudget (origin tree.workingDirectory path) path.segments arrival := by
  rw [lookup, ← follow_eq_ok_iff]
  split <;> simp_all

theorem lookup_set {path : Path} {arrival : Arrival} (free : tree.FreeForFile place)
    (arrived : tree.lookup path = .ok arrival) :
    (tree.set place (.file content)).lookup path = .ok arrival := by
  obtain ⟨valid, leads⟩ := (lookup_eq_ok_iff _ _ _).1 arrived
  exact (lookup_eq_ok_iff _ _ _).2 ⟨valid, leads.set free⟩

theorem lookup_of_set {path : Path} {arrival : Arrival} (free : tree.FreeForFile place)
    (arrived : (tree.set place (.file content)).lookup path = .ok arrival) (elsewhere : arrival.location ≠ place) :
    tree.lookup path = .ok arrival := by
  obtain ⟨valid, leads⟩ := (lookup_eq_ok_iff _ _ _).1 arrived
  exact (lookup_eq_ok_iff _ _ _).2 ⟨valid, leads.of_set free elsewhere⟩

end Listfile.FileTree

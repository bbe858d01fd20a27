import Listfile.Proofs.FileTree.Creation

set_option autoImplicit false

/-! Trees built entry by entry. Directories are only made where nothing stands, so everything that stood in the tree is
still there, and the path leads to where the directories end. A file that was put somewhere is read back from there,
and what is removed is gone with all below it and nothing else. -/

namespace Listfile.FileTree

variable {tree grown after : FileTree} {budget : Nat} {here last : Location} {segments : List Name} {path : Path}

/-- Whether all entries of a tree stand in another one too. -/
structure GrowsTo (before after : FileTree) : Prop where
  keeps : ∀ location entry, before.entryAt location = some entry → after.entryAt location = some entry
  workingDirectory : after.workingDirectory = before.workingDirectory

namespace GrowsTo

theorem refl (tree : FileTree) : tree.GrowsTo tree := ⟨fun _location _entry stands => stands, rfl⟩

theorem trans (first : tree.GrowsTo grown) (second : grown.GrowsTo after) : tree.GrowsTo after where
  keeps := fun location entry stands => second.keeps location entry (first.keeps location entry stands)
  workingDirectory := second.workingDirectory.trans first.workingDirectory

theorem set {place : Location} (absent : tree.entryAt place = none) (entry : Entry) :
    tree.GrowsTo (tree.set place entry) where
  keeps := by
    intro location other stands
    have apart : location ≠ place := by
      intro same
      rw [same, absent] at stands
      cases stands
    rw [entryAt_set_of_ne apart]
    exact stands
  workingDirectory := rfl

theorem step (grows : tree.GrowsTo grown) {segment : Name} {result : Step}
    (stepped : tree.step here segment = .ok result) (found : ∀ next, result ≠ .absent next) :
    grown.step here segment = .ok result := by
  obtain ⟨isDirectory, stepped⟩ := (step_eq_ok_iff _ _ _ _).1 stepped
  apply (step_eq_ok_iff _ _ _ _).2
  constructor
  · exact grows.keeps _ _ isDirectory
  · rw [stepFrom] at stepped ⊢
    split at stepped
    · rename_i stays
      rw [if_pos stays]
      exact stepped
    · rename_i moves
      rw [if_neg moves]
      split at stepped
      · rename_i goesUp
        rw [if_pos goesUp]
        exact stepped
      · rename_i goesDown
        rw [if_neg goesDown]
        split at stepped
        · cases stepped
        · rename_i short
          rw [if_neg short]
          cases stands : tree.entryAt (here ++ [segment]) with
          | none =>
              rw [stands] at stepped
              exact absurd (Except.ok.inj stepped).symm (found _)
          | some entry =>
              rw [stands] at stepped
              rw [grows.keeps _ _ stands]
              exact stepped

end GrowsTo

theorem step_set_directory {segment : Name} {next : Location} (stepped : tree.step here segment = .ok (.absent next)) :
    (tree.set next .directory).step here segment = .ok (.place next) := by
  obtain ⟨isDirectory, stepped⟩ := (step_eq_ok_iff _ _ _ _).1 stepped
  have grows : tree.GrowsTo (tree.set next .directory) := .set (entryAt_of_absent stepped) .directory
  apply (step_eq_ok_iff _ _ _ _).2
  constructor
  · exact grows.keeps _ _ isDirectory
  · rw [stepFrom] at stepped ⊢
    split at stepped
    · cases stepped
    · rename_i moves
      split at stepped
      · cases stepped
      · rename_i goesDown
        split at stepped
        · cases stepped
        · rename_i short
          rw [if_neg moves, if_neg goesDown, if_neg short]
          cases stands : tree.entryAt (here ++ [segment]) with
          | none =>
              rw [stands] at stepped
              have isNext := Step.absent.inj (Except.ok.inj stepped)
              rw [← isNext, entryAt_set_self (List.append_ne_nil_of_right_ne_nil here (List.cons_ne_nil segment []))]
          | some entry =>
              rw [stands] at stepped
              cases entry <;> cases stepped

theorem makeDirectoriesAt_growsTo (made : tree.makeDirectoriesAt budget here segments = .ok (grown, last)) :
    tree.GrowsTo grown := by
  induction tree, budget, here, segments using makeDirectoriesAt.induct with
  | case1 tree budget here =>
      rw [makeDirectoriesAt] at made
      cases made
      exact .refl grown
  | case2 tree budget here segment rest fault failed =>
      rw [makeDirectoriesAt, failed] at made
      cases made
  | case3 tree budget here segment rest next stepped ih =>
      rw [makeDirectoriesAt, stepped] at made
      exact ih made
  | case4 tree budget here segment rest next stepped ih =>
      rw [makeDirectoriesAt, stepped] at made
      have absent := entryAt_of_absent ((step_eq_ok_iff _ _ _ _).1 stepped).2
      exact (GrowsTo.set absent .directory).trans (ih made)
  | case5 tree here segment rest target stepped =>
      rw [makeDirectoriesAt, stepped] at made
      cases made
  | case6 tree here segment rest target stepped left ih =>
      rw [makeDirectoriesAt, stepped] at made
      exact ih made

theorem makeDirectoriesAt_leads (made : tree.makeDirectoriesAt budget here segments = .ok (grown, last)) :
    ∃ left, grown.Leads budget here segments ⟨last, left⟩ := by
  induction tree, budget, here, segments using makeDirectoriesAt.induct with
  | case1 tree budget here =>
      rw [makeDirectoriesAt] at made
      cases made
      exact ⟨budget, .done budget last⟩
  | case2 tree budget here segment rest fault failed =>
      rw [makeDirectoriesAt, failed] at made
      cases made
  | case3 tree budget here segment rest next stepped ih =>
      rw [makeDirectoriesAt, stepped] at made
      obtain ⟨left, leads⟩ := ih made
      exact ⟨left, .through ((makeDirectoriesAt_growsTo made).step stepped (fun _next => nofun)) leads⟩
  | case4 tree budget here segment rest next stepped ih =>
      rw [makeDirectoriesAt, stepped] at made
      obtain ⟨left, leads⟩ := ih made
      have enters := step_set_directory stepped
      exact ⟨left, .through ((makeDirectoriesAt_growsTo made).step enters (fun _next => nofun)) leads⟩
  | case5 tree here segment rest target stepped =>
      rw [makeDirectoriesAt, stepped] at made
      cases made
  | case6 tree here segment rest target stepped left ih =>
      rw [makeDirectoriesAt, stepped] at made
      obtain ⟨spare, leads⟩ := ih made
      exact ⟨spare, .around ((makeDirectoriesAt_growsTo made).step stepped (fun _next => nofun)) leads⟩

theorem putDirectory_growsTo (put : tree.putDirectory path = .ok after) :
    tree.GrowsTo after ∧ (checkPath path = .ok () → ∃ arrival, after.lookup path = .ok arrival) := by
  rw [putDirectory, makeDirectories] at put
  cases made : tree.makeDirectoriesAt linkBudget (origin tree.workingDirectory path) path.segments with
  | error fault =>
      rw [made] at put
      cases put
  | ok result =>
      obtain ⟨grown, last⟩ := result
      rw [made] at put
      cases put
      have grows := makeDirectoriesAt_growsTo made
      obtain ⟨left, leads⟩ := makeDirectoriesAt_leads made
      rw [← grows.workingDirectory] at leads
      exact ⟨grows, fun valid => ⟨_, (lookup_eq_ok_iff _ _ _).2 ⟨valid, leads⟩⟩⟩

theorem makeParents_growsTo {parent : Location} {name : Name}
    (made : tree.makeParents path = .ok (grown, parent, name)) : tree.GrowsTo grown := by
  rw [makeParents] at made
  cases directories : tree.makeDirectoriesAt linkBudget (origin tree.workingDirectory path) path.segments.dropLast with
  | error fault =>
      rw [directories] at made
      cases made
  | ok result =>
      obtain ⟨_grown, _last⟩ := result
      rw [directories] at made
      cases made
      exact makeDirectoriesAt_growsTo directories

/-- A file that was put somewhere is read back from there, and all other entries stand as before. -/
theorem putFile_written {text : String} (put : tree.putFile path (.text text) = .ok after) :
    after.readText path = .ok text ∧ ∃ place, ∀ location entry,
      location ≠ place → tree.entryAt location = some entry → after.entryAt location = some entry := by
  rw [putFile] at put
  cases made : tree.makeParents path with
  | error fault =>
      rw [made] at put
      cases put
  | ok result =>
      obtain ⟨grown, parent, name⟩ := result
      rw [made] at put
      dsimp only at put
      rw [write] at put
      cases creatable : grown.writingPlaceOf path with
      | error fault =>
          rw [creatable] at put
          cases put
      | ok place =>
          rw [creatable] at put
          cases put
          obtain ⟨left, arrived⟩ := lookup_of_writingPlaceOf (.text text) creatable
          constructor
          · rw [readText, arrived]
            dsimp only
            rw [(free_of_writingPlaceOf creatable).entryAt_set]
          · refine ⟨place, fun location entry apart stands => ?_⟩
            rw [entryAt_set_of_ne apart]
            exact (makeParents_growsTo made).keeps location entry stands

theorem putLink_written {target : Path} (put : tree.putLink path target = .ok after) :
    ∃ place, after.entryAt place = some (.link target) ∧ ∀ location entry,
      location ≠ place → tree.entryAt location = some entry → after.entryAt location = some entry := by
  rw [putLink] at put
  cases made : tree.makeParents path with
  | error fault =>
      rw [made] at put
      cases put
  | ok result =>
      obtain ⟨grown, parent, name⟩ := result
      rw [made] at put
      cases put
      have inner : parent ++ [name] ≠ [] := List.append_ne_nil_of_right_ne_nil parent (List.cons_ne_nil name [])
      refine ⟨parent ++ [name], entryAt_set_self inner _, fun location entry apart stands => ?_⟩
      rw [entryAt_set_of_ne apart]
      exact (makeParents_growsTo made).keeps location entry stands

theorem entryAt_erase {place : Location} (inner : place ≠ []) (tree : FileTree) (other : Location) :
    (tree.erase place).entryAt other = if place.isPrefixOf other then none else tree.entryAt other := by
  by_cases atRoot : other = []
  · have outside : place.isPrefixOf other = false := by
      rw [atRoot]
      cases place with
      | nil => exact absurd rfl inner
      | cons segment place => rfl
    rw [entryAt, entryAt, if_pos atRoot, if_pos atRoot, outside, if_neg Bool.false_ne_true]
  · rw [entryAt, entryAt, if_neg atRoot, if_neg atRoot, erase]
    dsimp only
    induction tree.entries with
    | nil => simp
    | cons entry entries ih =>
        obtain ⟨location, stands⟩ := entry
        by_cases same : other = location
        · rw [same, List.filter_cons]
          cases inside : place.isPrefixOf location with
          | false => simp
          | true =>
              rw [same, inside] at ih
              simpa [inside] using ih
        · have apart : (other == location) = false := beq_eq_false_iff_ne.2 same
          rw [List.lookup_cons, apart, List.filter_cons]
          split
          · rw [List.lookup_cons, apart]
            exact ih
          · exact ih

/-- Removing takes away one place with all below it, or nothing. -/
theorem remove_cases (tree : FileTree) (path : Path) :
    tree.remove path = tree ∨ ∃ place : Location, ∀ location,
      (tree.remove path).entryAt location = if place.isPrefixOf location then none else tree.entryAt location := by
  rw [remove]
  split
  · exact Or.inl rfl
  · split
    · rename_i arrival _arrived
      apply Or.inr
      refine ⟨arrival.location ++ [path.segments.getLastD []], fun location => ?_⟩
      exact entryAt_erase (List.append_ne_nil_of_right_ne_nil _ (List.cons_ne_nil _ [])) tree location
    · exact Or.inl rfl

end Listfile.FileTree

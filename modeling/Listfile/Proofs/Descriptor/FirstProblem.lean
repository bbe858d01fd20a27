import Listfile.Proofs.Descriptor.Agreement
import Listfile.Proofs.Descriptor.Resolution

set_option autoImplicit false

/-! The first problem ends a resolution, and nothing that is read later can change it. The entries of a descriptor are
read map by map: targets, outputs, libraries, links. What is read before an entry depends on the fields before its map
and on the entries before it, so descriptors that agree in those fail at the entry alike. -/

namespace Listfile

def problem? {ε α : Type} : Except ε α → Option ε
  | .ok _ => none
  | .error problem => some problem

theorem problem?_eq_none_iff {ε α : Type} (outcome : Except ε α) :
    problem? outcome = none ↔ ∃ value, outcome = .ok value := by
  cases outcome <;> simp [problem?]

theorem problem?_eq_some_iff {ε α : Type} (outcome : Except ε α) (problem : ε) :
    problem? outcome = some problem ↔ outcome = .error problem := by
  cases outcome <;> simp [problem?]

theorem mapM_eq_error {ε α β : Type} {step : α → Except ε β} {items : List α} {index : Nat}
    (earlier : ∀ item ∈ items.take index, problem? (step item) = none) {item : α} (reached : items[index]? = some item)
    {problem : ε} (failed : problem? (step item) = some problem) : items.mapM step = .error problem := by
  induction items generalizing index with
  | nil => cases reached
  | cons first others ih =>
      rw [List.mapM_cons]
      cases index with
      | zero =>
          cases reached
          rw [(problem?_eq_some_iff _ _).1 failed]
          rfl
      | succ index =>
          rw [List.take_succ_cons, List.forall_mem_cons] at earlier
          obtain ⟨result, stepped⟩ := (problem?_eq_none_iff _).1 earlier.1
          rw [stepped, ok_bind, ih earlier.2 reached]
          rfl

theorem Fields.optional_congr {left right : List (String × Json)} {tag : String}
    (same : Json.member? left tag = Json.member? right tag) :
    Fields.optional ⟨left, none⟩ tag = Fields.optional ⟨right, none⟩ tag := by
  simp only [Fields.optional, Fields.get?, same]

/-- Whether a reader sees nothing of a descriptor but the values of some fields. -/
def SeesOnly {α : Type} (tags : List String) (read : Fields → Except Problem α) : Prop :=
  ∀ left right : List (String × Json), (∀ tag ∈ tags, Json.member? left tag = Json.member? right tag) →
    read ⟨left, none⟩ = read ⟨right, none⟩

namespace SeesOnly

variable {α β : Type} {tags : List String}

theorem const (outcome : Except Problem α) : SeesOnly tags fun _top => outcome := fun _left _right _agree => rfl

theorem bind {first : Fields → Except Problem α} {next : α → Fields → Except Problem β}
    (firstSees : SeesOnly tags first) (nextSees : ∀ value, SeesOnly tags (next value)) :
    SeesOnly tags fun top => first top >>= fun value => next value top := by
  intro left right agree
  have sameNext : ∀ value, next value ⟨left, none⟩ = next value ⟨right, none⟩ :=
    fun value => nextSees value left right agree
  change first ⟨left, none⟩ >>= (fun value => next value ⟨left, none⟩) = _
  rw [firstSees left right agree, funext sameNext]

theorem of_field {read : Fields → Except Problem α} {tag : String} (member : tag ∈ tags)
    (congruent : ∀ left right : List (String × Json), Json.member? left tag = Json.member? right tag →
      read ⟨left, none⟩ = read ⟨right, none⟩) : SeesOnly tags read :=
  fun left right agree => congruent left right (agree tag member)

theorem readInfo (root : Path) (version : Tag.minimumVersion ∈ tags) (name : Tag.projectName ∈ tags) :
    SeesOnly tags (Listfile.readInfo root) :=
  .bind (.of_field version fun _left _right => Fields.requireText_congr) fun _version =>
    .bind (.of_field name fun _left _right => Fields.requireText_congr) fun _name => .const _

theorem optionalScalar {tag : String} (member : tag ∈ tags) : SeesOnly tags fun top => top.optionalScalar tag :=
  .of_field member fun _left _right same => Fields.optionalScalar_congr (Fields.optional_congr same)

theorem readStandards {tag : String} (member : tag ∈ tags) (declared : String) :
    SeesOnly tags fun top => (Listfile.readStandards top tag declared).outcome :=
  .of_field member fun _left _right same => congrArg Attempt.outcome (readStandards_congr same declared)

theorem readTargets (member : Tag.targets ∈ tags) : SeesOnly tags Listfile.readTargets :=
  .of_field member fun _left _right same => readTargets_congr (same ▸ .same _)

theorem readDefaultTarget (member : Tag.defaultTarget ∈ tags) (targets : List BuildTarget) :
    SeesOnly tags fun top => Listfile.readDefaultTarget top targets := by
  refine .of_field member fun left right same => ?_
  unfold Listfile.readDefaultTarget
  rw [Fields.optionalText_congr (Fields.optional_congr same)]

theorem readOutputs (tree : FileTree) (root : Path) (member : Tag.output ∈ tags) :
    SeesOnly tags fun top => (Listfile.readOutputs tree root top).outcome :=
  .of_field member fun _left _right same => congrArg Attempt.outcome (readOutputs_eq_of_member? tree root same)

theorem readLibraries (tree : FileTree) (root : Path) (member : Tag.importedLibraries ∈ tags) :
    SeesOnly tags fun top => (Listfile.readLibraries tree root top).outcome := by
  refine .of_field member fun left right same => congrArg Attempt.outcome ?_
  exact readLibraries_eq_of_optionalObject tree root (Fields.optionalObject_congr (Fields.optional_congr same))

end SeesOnly

/-- The maps of a descriptor whose entries are read one after the other, in the order in which they are read. -/
inductive Stage where
  | targets
  | outputs
  | libraries
  | links

def headTags : List String :=
  [Tag.minimumVersion, Tag.projectName, Tag.defaultCppStandard, Tag.defaultCStandard, Tag.allowedCppStandards,
    Tag.allowedCStandards]

def settingTags : List String := headTags ++ [Tag.targets, Tag.defaultTarget]

namespace Stage

def tag : Stage → String
  | .targets => Tag.targets
  | .outputs => Tag.output
  | .libraries => Tag.importedLibraries
  | .links => Tag.linkLibraries

def earlierTags : Stage → List String
  | .targets => headTags
  | .outputs => settingTags
  | .libraries => settingTags ++ [Tag.output]
  | .links => settingTags ++ [Tag.output, Tag.importedLibraries]

def entries (stage : Stage) (members : List (String × Json)) : List (String × Json) :=
  (Json.object members).membersUnder stage.tag

/-- Reads everything before the entries of a map, and gives the problem of an entry from then on. -/
def entryProblem (tree : FileTree) (root : Path) (stage : Stage) (top : Fields) :
    Except Problem (String × Json → Option Problem) :=
  match stage with
  | .targets => do
    let _ ← readHead root top
    return fun entry => problem? (readTarget entry.1 entry.2)
  | .outputs => do
    let _ ← readSettings root top
    return fun entry => problem? (readOutput tree root entry.1 entry.2).outcome
  | .libraries => do
    let _ ← readSettings root top
    let _ ← (readOutputs tree root top).outcome
    return fun entry => problem? (readLibrary tree root entry.1 entry.2).outcome
  | .links => do
    let _ ← readSettings root top
    let outputs ← (readOutputs tree root top).outcome
    let libraries ← (readLibraries tree root top).outcome
    checkNames outputs libraries
    return fun entry => problem? (readLinkEdge outputs libraries [] entry.1 entry.2)

/-- Whether reading a descriptor fails at an entry: all that is read before it is read without a problem. -/
def FailsAt (tree : FileTree) (root : Path) (stage : Stage) (members : List (String × Json)) (index : Nat)
    (problem : Problem) : Prop :=
  ∃ problemOf entry, stage.entryProblem tree root ⟨members, none⟩ = .ok problemOf ∧
    (∀ earlier ∈ (stage.entries members).take index, problemOf earlier = none) ∧
    (stage.entries members)[index]? = some entry ∧ problemOf entry = some problem

/-- Descriptors that are the same before an entry of a map and at the entry. -/
structure AgreeUpTo (stage : Stage) (index : Nat) (left right : List (String × Json)) : Prop where
  earlier : ∀ tag ∈ stage.earlierTags, Json.member? left tag = Json.member? right tag
  entries : (stage.entries left).take (index + 1) = (stage.entries right).take (index + 1)

theorem seesOnly_readHead {tags : List String} (root : Path) (within : headTags ⊆ tags) :
    SeesOnly tags (readHead root) :=
  .bind (.readInfo root (within (by decide)) (within (by decide))) fun _info =>
    .bind (.optionalScalar (within (by decide))) fun _cppDefault =>
      .bind (.optionalScalar (within (by decide))) fun _cDefault =>
        .bind (.readStandards (within (by decide)) _) fun _cppStandards =>
          .bind (.readStandards (within (by decide)) _) fun _cStandards => .const _

theorem seesOnly_readSettings {tags : List String} (root : Path) (within : settingTags ⊆ tags) :
    SeesOnly tags (readSettings root) :=
  .bind (seesOnly_readHead root (List.Subset.trans (List.subset_append_left _ _) within)) fun _head =>
    .bind (.readTargets (within (by decide))) fun targets =>
      .bind (.readDefaultTarget (within (by decide)) targets) fun _defaultTarget => .const _

/-- Whether an entry has a problem depends on the fields before its map and on the entry. -/
theorem seesOnly_entryProblem (tree : FileTree) (root : Path) (stage : Stage) :
    SeesOnly stage.earlierTags (stage.entryProblem tree root) := by
  cases stage with
  | targets => exact .bind (seesOnly_readHead root (List.Subset.refl _)) fun _head => .const _
  | outputs => exact .bind (seesOnly_readSettings root (List.Subset.refl _)) fun _settings => .const _
  | libraries =>
      exact .bind (seesOnly_readSettings root (List.subset_append_left _ _)) fun _settings =>
        .bind (.readOutputs tree root (by decide)) fun _outputs => .const _
  | links =>
      exact .bind (seesOnly_readSettings root (List.subset_append_left _ _)) fun _settings =>
        .bind (.readOutputs tree root (by decide)) fun outputs =>
          .bind (.readLibraries tree root (by decide)) fun libraries =>
            .bind (.const (checkNames outputs libraries)) fun _apart => .const _

variable {tree : FileTree} {root : Path} {stage : Stage} {members others : List (String × Json)} {index : Nat}
  {problem : Problem}

theorem FailsAt.of_agree (fails : stage.FailsAt tree root members index problem)
    (agree : stage.AgreeUpTo index members others) : stage.FailsAt tree root others index problem := by
  obtain ⟨problemOf, entry, read, earlier, reached, failed⟩ := fails
  have sameEntry : (stage.entries members)[index]? = (stage.entries others)[index]? := by
    rw [← List.getElem?_take_of_lt (Nat.lt_succ_self index), agree.entries,
      List.getElem?_take_of_lt (Nat.lt_succ_self index)]
  have sameEarlier : (stage.entries members).take index = (stage.entries others).take index := by
    have within : min index (index + 1) = index := Nat.min_eq_left (Nat.le_succ index)
    rw [← within, ← List.take_take, agree.entries, List.take_take]
  rw [seesOnly_entryProblem tree root stage members others agree.earlier] at read
  rw [sameEarlier] at earlier
  exact ⟨problemOf, entry, read, earlier, sameEntry ▸ reached, failed⟩

/-! ### Failure -/

theorem present_of_filled (filled : stage.entries members ≠ []) :
    Json.member? members stage.tag = some (.object (stage.entries members)) := by
  rw [entries, Json.membersUnder] at filled ⊢
  split
  · rename_i inner found
    exact found
  · rename_i noObject
    split at filled
    · rename_i inner found
      exact absurd found (noObject inner)
    · exact absurd rfl filled

theorem requireObject_of_filled (filled : stage.entries members ≠ []) (reason : Option String) :
    Fields.requireObject ⟨members, none⟩ stage.tag reason = .ok (stage.entries members) :=
  (Fields.requireObject_eq_ok_iff _ _ _ _).2 (present_of_filled filled)

theorem optionalObject_of_filled (filled : stage.entries members ≠ []) :
    Fields.optionalObject ⟨members, none⟩ stage.tag = .ok (stage.entries members) :=
  (Fields.optionalObject_eq_ok_iff _ _ _).2
    (Or.inr ((Fields.optional_eq_some_iff _ _ _).2 ⟨present_of_filled filled, nofun⟩))

theorem readTargets_of_filled (filled : entries .targets members ≠ []) :
    readTargets ⟨members, none⟩ = (entries .targets members).mapM fun entry => readTarget entry.1 entry.2 := by
  have present := requireObject_of_filled filled (some Reason.targets)
  rw [tag] at present
  rw [readTargets, present, ok_bind, if_neg (mt List.isEmpty_iff.1 filled)]

theorem readOutputs_of_filled (tree : FileTree) (root : Path) (filled : entries .outputs members ≠ []) :
    (readOutputs tree root ⟨members, none⟩).outcome =
      (entries .outputs members).mapM fun entry => (readOutput tree root entry.1 entry.2).outcome := by
  rw [readOutputs_of_present tree root (present_of_filled filled) filled, Attempt.outcome_mapM]

theorem readLibraries_of_filled (tree : FileTree) (root : Path) (filled : entries .libraries members ≠ []) :
    (readLibraries tree root ⟨members, none⟩).outcome =
      (entries .libraries members).mapM fun entry => (readLibrary tree root entry.1 entry.2).outcome := by
  rw [readLibraries_of_present tree root (present_of_filled filled), Attempt.outcome_mapM]

theorem readLinkEdges_of_filled (outputs : List OutputUnit) (libraries : List ImportedLibrary)
    (filled : entries .links members ≠ []) :
    readLinkEdges ⟨members, none⟩ outputs libraries =
      (entries .links members).mapM fun entry => readLinkEdge outputs libraries [] entry.1 entry.2 := by
  have present := optionalObject_of_filled filled
  rw [tag] at present
  rw [readLinkEdges, present, ok_bind]
  rfl

theorem FailsAt.outcome (fails : stage.FailsAt tree root members index problem) :
    (resolveDescriptor tree root (.object members)).outcome = .error problem := by
  obtain ⟨problemOf, entry, read, earlier, reached, failed⟩ := fails
  have filled : stage.entries members ≠ [] := List.ne_nil_of_mem (List.mem_of_getElem? reached)
  rw [outcome_resolveDescriptor]
  cases stage with
  | targets =>
      obtain ⟨head, headRead, same⟩ := (bind_eq_ok_iff _ _ _).1 read
      cases same
      rw [readSettings, headRead, ok_bind, readTargets_of_filled filled, mapM_eq_error earlier reached failed]
      rfl
  | outputs =>
      obtain ⟨settings, settingsRead, same⟩ := (bind_eq_ok_iff _ _ _).1 read
      cases same
      rw [settingsRead, ok_bind, readOutputs_of_filled tree root filled, mapM_eq_error earlier reached failed]
      rfl
  | libraries =>
      obtain ⟨settings, settingsRead, rest⟩ := (bind_eq_ok_iff _ _ _).1 read
      obtain ⟨outputs, outputsRead, same⟩ := (bind_eq_ok_iff _ _ _).1 rest
      cases same
      rw [settingsRead, ok_bind, outputsRead, ok_bind, readLibraries_of_filled tree root filled,
        mapM_eq_error earlier reached failed]
      rfl
  | links =>
      obtain ⟨settings, settingsRead, rest⟩ := (bind_eq_ok_iff _ _ _).1 read
      obtain ⟨outputs, outputsRead, rest⟩ := (bind_eq_ok_iff _ _ _).1 rest
      obtain ⟨libraries, librariesRead, rest⟩ := (bind_eq_ok_iff _ _ _).1 rest
      obtain ⟨_done, apart, same⟩ := (bind_eq_ok_iff _ _ _).1 rest
      cases same
      rw [settingsRead, ok_bind, outputsRead, ok_bind, librariesRead, ok_bind, apart, ok_bind,
        readLinkEdges_of_filled outputs libraries filled, mapM_eq_error earlier reached failed]
      rfl

end Stage

/-- Where reading a descriptor fails at an entry, every descriptor that agrees with it up to the entry fails with the
same problem, whatever it holds from there on. -/
theorem resolveDescriptor_firstProblem (tree : FileTree) (root : Path) (stage : Stage)
    (members others : List (String × Json)) (index : Nat) (problem : Problem)
    (fails : stage.FailsAt tree root members index problem) (agree : stage.AgreeUpTo index members others) :
    (resolveDescriptor tree root (.object members)).outcome = .error problem ∧
      (resolveDescriptor tree root (.object others)).outcome = .error problem :=
  ⟨fails.outcome, (fails.of_agree agree).outcome⟩

def brokenMembers (laterOutputs laterFields : List (String × Json)) : List (String × Json) :=
  [(Tag.minimumVersion, .string "3.20"), (Tag.projectName, .string "demo"), (Tag.allowedCStandards, .texts ["11"]),
    (Tag.allowedCppStandards, .texts ["17"]), (Tag.targets, .object [("debug", Schema.targetEntry [] [])]),
    (Tag.output, .object ([("app", Schema.executableEntry "main.c"), ("tool", .object [])] ++ laterOutputs))] ++
    laterFields

def brokenLater : List (String × Json) :=
  brokenMembers [("APP", .null)] [(Tag.importedLibraries, .object [("app", .null)]), (Tag.linkLibraries, .null)]

theorem resolveDescriptor_firstProblem_brokenMembers :
    Stage.FailsAt ⟨[], []⟩ ⟨[]⟩ .outputs (brokenMembers [] []) 1
        (.missingField Tag.kind (some "tool") (some Reason.outputKind)) ∧
      Stage.AgreeUpTo .outputs 1 (brokenMembers [] []) brokenLater ∧
      (resolveDescriptor ⟨[], []⟩ ⟨[]⟩ (.object (brokenMembers [] []))).outcome =
        .error (.missingField Tag.kind (some "tool") (some Reason.outputKind)) ∧
      (resolveDescriptor ⟨[], []⟩ ⟨[]⟩ (.object brokenLater)).outcome =
        .error (.missingField Tag.kind (some "tool") (some Reason.outputKind)) := by
  have fails : Stage.FailsAt ⟨[], []⟩ ⟨[]⟩ .outputs (brokenMembers [] []) 1
      (.missingField Tag.kind (some "tool") (some Reason.outputKind)) :=
    ⟨_, ("tool", .object []), rfl, List.forall_mem_singleton.2 rfl, rfl, rfl⟩
  have agree : Stage.AgreeUpTo .outputs 1 (brokenMembers [] []) brokenLater := ⟨List.map_inj_left.1 rfl, rfl⟩
  exact ⟨fails, agree, resolveDescriptor_firstProblem _ _ _ _ _ _ _ fails agree⟩

end Listfile

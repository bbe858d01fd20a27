import Listfile.Proofs.Project.Soundness
import Listfile.Proofs.Script.Configurations
import Listfile.Proofs.Text.Case

set_option autoImplicit false

/-! Which flags a build type selects in the listfile of a project. Two targets whose names differ in the case of
their first letter share one configuration: both set their flags when it is selected, and the last one
decides. A configuration selects its own flags exactly where no two targets share one. -/

namespace Listfile

open Script

/-- Whether selecting a configuration sets the flags of its target and nothing else, and whether the initial
target is selected in the same way if there is no build type. -/
structure Project.SelectsOwnFlags (project : Project) : Prop where
  named : ∀ target ∈ project.targets, target.name ≠ "" →
    ∀ values : String → String, values buildTypeVariable = target.configurationName →
      ∃ session, execute project.configurationSection values = some session ∧
        session.assigned = target.settings ∧ session.HasFlagsOf target
  initial : ∀ values : String → String, values buildTypeVariable = "" →
    ∃ target ∈ project.targets, project.initialTarget = some target.name ∧
      ∃ session, execute project.configurationSection values = some session ∧
        session.assigned = (buildTypeVariable, target.configurationName) :: target.settings ∧
        session.HasFlagsOf target

theorem BuildTarget.configurationName_eq_empty_iff (target : BuildTarget) :
    target.configurationName = "" ↔ target.name = "" :=
  Text.capitalize_eq_empty_iff target.name

theorem Project.execute_named (project : Project) {target : BuildTarget} (filled : target.name ≠ "")
    {values : String → String} (given : values buildTypeVariable = target.configurationName) :
    execute project.configurationSection values = some ((Session.start values).assignAll
      ([] ++ (project.selectedTargets target.configurationName).flatMap BuildTarget.settings)) := by
  have notEmpty : target.configurationName ≠ "" := fun empty => filled (target.configurationName_eq_empty_iff.1 empty)
  rw [project.execute_section, given, defaultSettings, if_neg notEmpty, selectedType, if_neg notEmpty]

theorem Project.execute_initial (project : Project) {target : BuildTarget}
    (initial : project.initialTarget = some target.name) {values : String → String}
    (empty : values buildTypeVariable = "") :
    execute project.configurationSection values = some ((Session.start values).assignAll
      ([(buildTypeVariable, target.configurationName)] ++
        (project.selectedTargets target.configurationName).flatMap BuildTarget.settings)) := by
  rw [project.execute_section, empty, defaultSettings, if_pos rfl, selectedType, if_pos rfl, initial]
  rfl

theorem Project.selectedTargets_of_nodup {project : Project}
    (distinct : (project.targets.map BuildTarget.configurationName).Nodup) {target : BuildTarget}
    (member : target ∈ project.targets) : project.selectedTargets target.configurationName = [target] :=
  filter_eq_singleton_of_nodup distinct member

theorem Project.selectsOwnFlags_of_nodup {project : Project}
    (declared : ∃ target ∈ project.targets, project.initialTarget = some target.name)
    (distinct : (project.targets.map BuildTarget.configurationName).Nodup) : project.SelectsOwnFlags where
  named := by
    intro target member filled values given
    have ran := project.execute_named filled given
    rw [selectedTargets_of_nodup distinct member] at ran
    refine ⟨_, ran, Session.assigned_assignAll _ _, hasFlagsOf_getLast rfl _ _⟩
  initial := by
    intro values empty
    obtain ⟨target, member, initial⟩ := declared
    have ran := project.execute_initial initial empty
    rw [selectedTargets_of_nodup distinct member] at ran
    exact ⟨target, member, initial, _, ran, Session.assigned_assignAll _ _, hasFlagsOf_getLast rfl _ _⟩

theorem length_flatMap_settings (targets : List BuildTarget) :
    (targets.flatMap BuildTarget.settings).length = 2 * targets.length := by
  induction targets with
  | nil => rfl
  | cons target targets ih =>
      rw [List.flatMap_cons, List.length_append, ih, List.length_cons, BuildTarget.settings]
      simp only [List.length_cons, List.length_nil]
      omega

/-- One configuration is not shared if it selects its own flags. Targets that share the empty configuration share
the empty name. -/
theorem Project.SelectsOwnFlags.selectedTargets_length_le {project : Project} (selects : project.SelectsOwnFlags)
    (names : (project.targets.map BuildTarget.name).Nodup) (configuration : String) :
    (project.selectedTargets configuration).length ≤ 1 := by
  by_cases empty : configuration = ""
  · have counted := List.nodup_iff_count_le_one.1 names ""
    rw [List.count, List.countP_map, List.countP_eq_length_filter] at counted
    rw [selectedTargets, empty]
    simp only [BuildTarget.configurationName_eq_empty_iff]
    exact counted
  · cases chosen : project.selectedTargets configuration with
    | nil => exact Nat.zero_le _
    | cons target others =>
        have selected : target ∈ project.selectedTargets configuration := by
          rw [chosen]
          exact List.mem_cons_self
        obtain ⟨member, sameName⟩ := List.mem_filter.1 selected
        rw [decide_eq_true_eq] at sameName
        rw [← sameName] at empty chosen
        have filled : target.name ≠ "" := fun noName => empty (target.configurationName_eq_empty_iff.2 noName)
        obtain ⟨session, ran, assigned, _flags⟩ :=
          selects.named target member filled (fun _name => target.configurationName) rfl
        rw [project.execute_named filled rfl, chosen, Option.some.injEq] at ran
        rw [← ran, Session.assigned_assignAll, Session.assigned_start, List.nil_append, List.nil_append] at assigned
        have lengths := congrArg List.length assigned
        rw [length_flatMap_settings] at lengths
        simp only [BuildTarget.settings, List.length_cons, List.length_nil] at lengths ⊢
        omega

theorem Project.selectsOwnFlags_iff {project : Project}
    (declared : ∃ target ∈ project.targets, project.initialTarget = some target.name)
    (names : (project.targets.map BuildTarget.name).Nodup) :
    project.SelectsOwnFlags ↔ (project.targets.map BuildTarget.configurationName).Nodup := by
  constructor
  · intro selects
    rw [List.nodup_iff_count_le_one]
    intro configuration
    have short := selects.selectedTargets_length_le names configuration
    rw [List.count, List.countP_map, List.countP_eq_length_filter]
    exact short
  · exact selectsOwnFlags_of_nodup declared

theorem Project.ReadFrom.targets_nodup {tree : FileTree} {root : Path} {members : List (String × Json)}
    {units : List OutputUnit} {project : Project} (read : project.ReadFrom tree root ⟨members, none⟩ units)
    (distinct : (Json.object members).distinctKeys = true) : (project.targets.map BuildTarget.name).Nodup := by
  rw [readTargets_names read.targets]
  exact Json.membersUnder_nodup distinct _

/-- A configuration selects its own flags exactly if no two targets of the descriptor share one. In any case all
targets that share the selected configuration set their flags in order, and the last of them decides. The section that
was run for this is the end of the listfile. -/
theorem resolveDescriptor_selectsOwnFlags_iff (tree : FileTree) (root : Path) (descriptor : Json)
    (distinct : descriptor.distinctKeys = true) (project : Project)
    (resolved : (resolveDescriptor tree root descriptor).outcome = .ok project) :
    (project.SelectsOwnFlags ↔ (project.targets.map BuildTarget.configurationName).Nodup) ∧
      (∀ values : String → String, ∃ session, execute project.configurationSection values = some session ∧
        session.assigned = project.defaultSettings (values buildTypeVariable) ++
          (project.selectedTargets (project.selectedType (values buildTypeVariable))).flatMap BuildTarget.settings ∧
        ∀ target, (project.selectedTargets (project.selectedType (values buildTypeVariable))).getLast? = some target →
          session.HasFlagsOf target) ∧
      ∃ front, project.script = front ++ project.configurationSection := by
  obtain ⟨members, units, isObject, read⟩ := (resolveDescriptor_eq_ok_iff _ _ _ _).1 resolved
  rw [isObject] at distinct
  refine ⟨Project.selectsOwnFlags_iff (initialTarget_declared read.targets read.defaultTarget)
    (read.targets_nodup distinct), fun values => ?_, project.exists_script_eq_append_section⟩
  exact ⟨_, project.execute_section values, Session.assigned_assignAll _ _,
    fun target last => hasFlagsOf_getLast last _ _⟩

def targetsSample (first second : String) : Json :=
  Schema.descriptorOf [(first, Schema.targetEntry ["-g"] ["-g"]), (second, Schema.targetEntry ["-O2"] ["-O2"])]
    [("app", Schema.executableEntry "main.c")] [] []

theorem resolveDescriptor_selectsOwnFlags_iff_debug_release :
    ∃ project, (resolveDescriptor ⟨[], []⟩ ⟨[]⟩ (targetsSample "debug" "release")).outcome = .ok project ∧
      project.targets.map BuildTarget.configurationName = ["Debug", "Release"] ∧ project.SelectsOwnFlags := by
  obtain ⟨project, resolved, targets⟩ := (map_eq_ok_iff Project.targets _ _).1
    (show (resolveDescriptor ⟨[], []⟩ ⟨[]⟩ (targetsSample "debug" "release")).outcome.map Project.targets =
      .ok [⟨"debug", ["-g"], ["-g"]⟩, ⟨"release", ["-O2"], ["-O2"]⟩] from rfl)
  have configurations : project.targets.map BuildTarget.configurationName = ["Debug", "Release"] := by
    rw [targets]
    rfl
  refine ⟨project, resolved, configurations, ?_⟩
  refine (resolveDescriptor_selectsOwnFlags_iff _ _ _ (by decide) _ resolved).1.2 ?_
  rw [configurations]
  decide

/-- Names that differ in the case of the first letter are different keys with one configuration. -/
theorem not_selectsOwnFlags_debug_Debug :
    ∃ project, (resolveDescriptor ⟨[], []⟩ ⟨[]⟩ (targetsSample "debug" "Debug")).outcome = .ok project ∧
      ¬project.SelectsOwnFlags := by
  obtain ⟨project, resolved, targets⟩ := (map_eq_ok_iff Project.targets _ _).1
    (show (resolveDescriptor ⟨[], []⟩ ⟨[]⟩ (targetsSample "debug" "Debug")).outcome.map Project.targets =
      .ok [⟨"debug", ["-g"], ["-g"]⟩, ⟨"Debug", ["-O2"], ["-O2"]⟩] from rfl)
  refine ⟨project, resolved, fun selects => ?_⟩
  have names : (project.targets.map BuildTarget.name).Nodup := by
    rw [targets]
    decide
  have short := selects.selectedTargets_length_le names "Debug"
  rw [Project.selectedTargets, targets] at short
  exact absurd short (by decide)

end Listfile

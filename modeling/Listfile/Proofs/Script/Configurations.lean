import Listfile.Proofs.Script.Session

set_option autoImplicit false

/-! The section of a listfile that chooses a configuration. Without a build type it selects the initial target; then
every target whose configuration name is the build type sets its flags, one after the other. -/

namespace Listfile

open Script

def BuildTarget.settings (target : BuildTarget) : List (String × String) :=
  [("CMAKE_C_FLAGS", " ".intercalate target.cFlags), ("CMAKE_CXX_FLAGS", " ".intercalate target.cppFlags)]

namespace Project

def configurationSection (project : Project) : String := Script.text (project.targetParts.flatMap Part.lines)

/-- The build type that an empty build type gives way to. -/
def selectedType (project : Project) (buildType : String) : String :=
  if buildType = "" then (project.initialTarget.map Text.capitalize).getD "" else buildType

def defaultSettings (project : Project) (buildType : String) : List (String × String) :=
  if buildType = "" then project.initialTarget.toList.map fun name => (buildTypeVariable, Text.capitalize name) else []

def selectedTargets (project : Project) (buildType : String) : List BuildTarget :=
  project.targets.filter fun target => target.configurationName = buildType

end Project

/-- The section stands at the end of the listfile. -/
theorem Project.exists_script_eq_append_section (project : Project) :
    ∃ front, project.script = front ++ project.configurationSection := by
  rw [script, scriptLines, parts, List.flatMap_append, text_append]
  exact ⟨_, rfl⟩

def defaultStatements (name : String) : List Statement :=
  Session.guarded "" [⟨"set", [.word buildTypeVariable, .quoted (Text.capitalize name), .word "CACHE", .word "STRING",
    .quoted "Build configuration", .word "FORCE"]⟩]

def listStatement (targets : List BuildTarget) : Statement :=
  ⟨"set_property", [.word "CACHE", .word buildTypeVariable, .word "PROPERTY", .word "STRINGS"] ++
    (targets.map BuildTarget.configurationName).map .quoted⟩

def targetStatements (target : BuildTarget) : List Statement :=
  Session.guarded target.configurationName
    [⟨"set", [.word "CMAKE_C_FLAGS", .quoted (" ".intercalate target.cFlags)]⟩,
      ⟨"set", [.word "CMAKE_CXX_FLAGS", .quoted (" ".intercalate target.cppFlags)]⟩,
      ⟨"message", [.quoted ("Building project " ++ variableReference buildTypeVariable ++ " configuration")]⟩]

theorem reads_guard (configuration : String) :
    Reads ["if( " ++ buildTypeIs configuration ++ " )"]
      [⟨"if", [.quoted (variableReference buildTypeVariable), .word "STREQUAL", .quoted configuration]⟩] := by
  have parted : "if( " ++ buildTypeIs configuration ++ " )" =
      "if( " ++ quote (variableReference buildTypeVariable) ++ " STREQUAL " ++ quote configuration ++ " )" := by
    rw [buildTypeIs]
    simp only [String.append_assoc]
  have opened : ∀ before, (Reader.start before).takeText
      ("if( " ++ quote (variableReference buildTypeVariable) ++ " STREQUAL ") =
      ⟨before, .between "if" [.quoted (variableReference buildTypeVariable), .word "STREQUAL"]⟩ := fun _before => rfl
  rw [parted]
  exact reads_quoted opened fun _before => rfl

theorem reads_end : Reads ["endif()"] [⟨"endif", []⟩] := fun _before => rfl

theorem reads_guarded {lines : List String} {statements : List Statement} (reads : Reads lines statements)
    (configuration : String) :
    Reads (["", "if( " ++ buildTypeIs configuration ++ " )"] ++ lines ++ ["endif()"])
      (Session.guarded configuration statements) :=
  ((reads_guard configuration).append (reads.append reads_end)).blank

theorem reads_flags (front name value : String)
    (opened : ∀ before, (Reader.start before).takeText front = ⟨before, .between "set" [.word name]⟩) :
    Reads [front ++ quote value ++ " )"] [⟨"set", [.word name, .quoted value]⟩] :=
  reads_quoted opened fun _before => rfl

theorem reads_defaultTargetLines (name : String) : Reads (defaultTargetLines name) (defaultStatements name) := by
  have opened : ∀ before, (Reader.start before).takeText ("\tset( " ++ buildTypeVariable ++ " ") =
      ⟨before, .between "set" [.word buildTypeVariable]⟩ := fun _before => rfl
  exact reads_guarded (reads_quoted opened fun _before => rfl) ""

theorem reads_targetListLines (targets : List BuildTarget) :
    Reads (targetListLines targets) [listStatement targets] := by
  have opened : ∀ before, (Reader.start before).takeText
      ("set_property( CACHE " ++ buildTypeVariable ++ " PROPERTY STRINGS ") =
      ⟨before, .between "set_property" [.word "CACHE", .word buildTypeVariable, .word "PROPERTY", .word "STRINGS"]⟩ :=
    fun _before => rfl
  have names : targets.map (fun target => quote target.configurationName) =
      (targets.map BuildTarget.configurationName).map quote := by
    rw [List.map_map]
    rfl
  rw [targetListLines, names]
  exact Reads.blank (reads_quotes opened fun _before => rfl)

theorem reads_targetLines (target : BuildTarget) : Reads (targetLines target) (targetStatements target) := by
  have cFlags := reads_flags "\tset( CMAKE_C_FLAGS " "CMAKE_C_FLAGS" (" ".intercalate target.cFlags)
    fun _before => rfl
  have cppFlags := reads_flags "\tset( CMAKE_CXX_FLAGS " "CMAKE_CXX_FLAGS" (" ".intercalate target.cppFlags)
    fun _before => rfl
  have opened : ∀ before, (Reader.start before).takeText "\tmessage( " = ⟨before, .between "message" []⟩ :=
    fun _before => rfl
  exact reads_guarded (cFlags.append (cppFlags.append (reads_quoted opened fun _before => rfl)))
    target.configurationName

theorem readStatements_section (project : Project) :
    readStatements project.configurationSection =
      some (project.initialTarget.toList.flatMap defaultStatements ++ listStatement project.targets ::
        project.targets.flatMap targetStatements) := by
  have parted : project.targetParts.flatMap Part.lines = project.initialTarget.toList.flatMap defaultTargetLines ++
      (targetListLines project.targets ++ project.targets.flatMap targetLines) := by
    rw [Project.targetParts, List.flatMap_append, List.flatMap_append, List.flatMap_map, List.flatMap_map,
      List.flatMap_singleton, List.append_assoc]
    rfl
  rw [Project.configurationSection, parted]
  exact readStatements_of_reads ((Reads.flatMap fun name _member => reads_defaultTargetLines name).append
    ((reads_targetListLines project.targets).append (Reads.flatMap fun target _member => reads_targetLines target)))

theorem run_defaultStatements (name : String) {session : Session} (outside : session.blocks = []) :
    session.run (defaultStatements name) = some (if session.values buildTypeVariable = "" then
      session.assignAll [(buildTypeVariable, Text.capitalize name)] else session) :=
  Session.run_guarded (Session.Assigns.nil.set _ _ _) "" outside

theorem run_targetStatements (target : BuildTarget) {session : Session} (outside : session.blocks = []) :
    session.run (targetStatements target) = some (if session.values buildTypeVariable = target.configurationName then
      session.assignAll target.settings else session) :=
  Session.run_guarded (((Session.Assigns.nil.message _).set _ _ _).set _ _ _) target.configurationName outside

theorem settings_ne_buildType (target : BuildTarget) : ∀ setting ∈ target.settings, setting.1 ≠ buildTypeVariable := by
  rw [BuildTarget.settings, List.forall_mem_cons, List.forall_mem_singleton]
  have cApart : "CMAKE_C_FLAGS" ≠ buildTypeVariable := by decide
  have cppApart : "CMAKE_CXX_FLAGS" ≠ buildTypeVariable := by decide
  exact ⟨cApart, cppApart⟩

/-- Flags do not change the build type, so every target is compared with the build type at the start. -/
theorem run_targets (targets : List BuildTarget) {session : Session} (outside : session.blocks = []) :
    session.run (targets.flatMap targetStatements) =
      some (session.assignAll ((targets.filter fun target =>
        target.configurationName = session.values buildTypeVariable).flatMap BuildTarget.settings)) := by
  induction targets generalizing session with
  | nil => rfl
  | cons target targets ih =>
      rw [List.flatMap_cons, Session.run_append, run_targetStatements target outside, Option.bind_some]
      by_cases selected : target.configurationName = session.values buildTypeVariable
      · have sameType := Session.values_assignAll (settings_ne_buildType target) session
        rw [if_pos selected.symm, List.filter_cons_of_pos (by simpa using selected), List.flatMap_cons,
          Session.assignAll_append, ih ((Session.blocks_assignAll _ _).trans outside), sameType]
      · rw [if_neg (Ne.symm selected), List.filter_cons_of_neg (by simpa using selected), ih outside]

theorem Project.run_default (project : Project) (values : String → String) :
    (Session.start values).run (project.initialTarget.toList.flatMap defaultStatements) =
      some ((Session.start values).assignAll (project.defaultSettings (values buildTypeVariable))) := by
  rw [defaultSettings]
  cases project.initialTarget with
  | none =>
      rw [Option.toList_none, List.map_nil, ite_self]
      rfl
  | some name =>
      rw [Option.toList_some, List.flatMap_singleton, List.map_singleton, run_defaultStatements name rfl,
        Session.values_start]
      by_cases empty : values buildTypeVariable = ""
      · rw [if_pos empty, if_pos empty]
      · rw [if_neg empty, if_neg empty]
        rfl

theorem Project.values_default (project : Project) (values : String → String) :
    ((Session.start values).assignAll (project.defaultSettings (values buildTypeVariable))).values
      buildTypeVariable = project.selectedType (values buildTypeVariable) := by
  rw [defaultSettings, selectedType]
  by_cases empty : values buildTypeVariable = ""
  · rw [if_pos empty, if_pos empty]
    cases project.initialTarget with
    | none => exact empty
    | some name =>
        exact Session.values_assign_self _ buildTypeVariable (Text.capitalize name)
  · rw [if_neg empty, if_neg empty]
    rfl

/-- What the section does in every project, from every build type. -/
theorem Project.execute_section (project : Project) (values : String → String) :
    execute project.configurationSection values =
      some ((Session.start values).assignAll (project.defaultSettings (values buildTypeVariable) ++
        (project.selectedTargets (project.selectedType (values buildTypeVariable))).flatMap
          BuildTarget.settings)) := by
  have listed : ∀ session : Session, session.run (listStatement project.targets ::
      project.targets.flatMap targetStatements) = session.run (project.targets.flatMap targetStatements) :=
    fun _session => rfl
  rw [execute, readStatements_section, Option.bind_some, Session.run_append, project.run_default, Option.bind_some,
    listed, run_targets project.targets (Session.blocks_assignAll _ _), project.values_default,
    ← Session.assignAll_append]
  rfl

/-- The session after everything that a build type selects has been assigned. -/
structure Script.Session.HasFlagsOf (session : Session) (target : BuildTarget) : Prop where
  cFlags : session.values "CMAKE_C_FLAGS" = " ".intercalate target.cFlags
  cppFlags : session.values "CMAKE_CXX_FLAGS" = " ".intercalate target.cppFlags

theorem hasFlagsOf_assignAll_settings (session : Session) (target : BuildTarget) :
    (session.assignAll target.settings).HasFlagsOf target where
  cFlags := by
    have apart : "CMAKE_C_FLAGS" ≠ "CMAKE_CXX_FLAGS" := by decide
    exact ((session.assign _ _).values_assign_of_ne apart _).trans (session.values_assign_self _ _)
  cppFlags := Session.values_assign_self _ _ _

theorem hasFlagsOf_getLast {targets : List BuildTarget} {target : BuildTarget} (last : targets.getLast? = some target)
    (session : Session) (before : List (String × String)) :
    (session.assignAll (before ++ targets.flatMap BuildTarget.settings)).HasFlagsOf target := by
  obtain ⟨others, same⟩ := List.getLast?_eq_some_iff.1 last
  rw [same, List.flatMap_append, List.flatMap_singleton, ← List.append_assoc, Session.assignAll_append]
  exact hasFlagsOf_assignAll_settings _ target

end Listfile

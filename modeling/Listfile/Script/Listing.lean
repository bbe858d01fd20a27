import Listfile.Script.Part

set_option autoImplicit false

/-! The listfile of a project: its parts in a fixed order, the lines they write, and the text of the
lines. Links without targets are left out. -/

namespace Listfile

open Script (Part)

namespace Script

def text (lines : List String) : String := String.join (lines.map (· ++ "\n"))

end Script

namespace Project

def linkParts (project : Project) : List Part :=
  (project.linkEdges.filter fun edge => !edge.targets.isEmpty).map Part.links

def targetParts (project : Project) : List Part :=
  project.initialTarget.toList.map Part.defaultTarget ++ [Part.targetList project.targets] ++
    project.targets.map Part.target

/-- Version and name, imported libraries, outputs, links, language standards, configurations. -/
def parts (project : Project) : List Part :=
  [Part.version project.info.minimumVersion, Part.projectName project.info.name] ++
    project.importedLibraries.map Part.importedLibrary ++ project.outputs.map Part.output ++ project.linkParts ++
    [Part.standards .cpp project.cppStandards project.outputs, Part.standards .c project.cStandards project.outputs] ++
    project.targetParts

def scriptLines (project : Project) : List String := project.parts.flatMap Part.lines

def script (project : Project) : String := Script.text project.scriptLines

def scriptLog (project : Project) : List LogRecord := project.parts.flatMap Part.announcement

end Project

end Listfile

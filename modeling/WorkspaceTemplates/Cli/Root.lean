/-
  WorkspaceTemplates/Cli/Root.lean
  ================================
  **Finding the root of a workspace.**

  A root that is given counts.  Otherwise it is the nearest directory, from the
  working directory upwards, that holds a directory `.cursor`, or else the nearest
  that holds a directory `.git`, or else the working directory.
-/
import WorkspaceTemplates.Files.Disk
import WorkspaceTemplates.Layout

namespace WorkspaceTemplates.Cli

/-- A location and those above it, the nearest first. -/
def upwards (place : Location) : List Location :=
  (List.range (place.length + 1)).map fun n => place.take (place.length - n)

/-- The nearest location, from one upwards, that holds a directory of a name. -/
def findUpward (disk : Disk) (place : Location) (marker : String) : Option Location :=
  (upwards place).find? fun l => disk.isDir (Path.join (Disk.pathOf l) marker)

/-- The location of the root, when none is given. -/
def detectRoot (disk : Disk) : Location :=
  ((findUpward disk disk.workDir Layout.cursorDir).orElse fun _ =>
    findUpward disk disk.workDir ".git").getD disk.workDir

def resolveRoot (disk : Disk) (given? : Option String) : String :=
  match given? with
  | some path => path
  | none => Disk.pathOf (detectRoot disk)

end WorkspaceTemplates.Cli

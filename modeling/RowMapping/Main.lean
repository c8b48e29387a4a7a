import RowMapping.ClassTable.Described
import RowMapping.CommandLine.Run

/-!
# The program

Reads the described classes from the file `classesFile` of the working directory and the settings
file that the arguments name, and carries out what `run` says.
-/

namespace RowMapping
open RowMapping.Files

/-- the file that describes the classes at hand -/
def classesFile : String := "row-gen-classes.toml"

def FileFault.text : FileFault → String
  | .missing => "No such file or directory"
  | .isDirectory => "Is a directory"
  | .notDirectory => "Not a directory"
  | .alreadyExists => "File exists"
  | .denied => "Permission denied"
  | .nullInPath => "embedded null byte"

def platformTexts : PlatformTexts where
  ofFile fault path := FileFault.text fault ++ ": " ++ Text.shown path
  ofDocument _ := "malformed document"
  ofSettings _ := "malformed settings"

def usageText : String := "usage: row-gen [-h] [-o OUTPUT] [--config CONFIG] [-v] target"

/-- a tree in which nothing but the working directory is known -/
def startTree : IO FileTree := do
  return { workingDirectory := pathSegments (← IO.currentDir).toString }

/-- the file at a path, as far as it can be read, in a tree of its own -/
def readTree (path : String) : IO FileTree := do
  let tree ← startTree
  try
    let bytes ← IO.FS.readBinFile path
    return ((tree.makeParents path).1.write path bytes.toList).toOption.getD tree
  catch _ => return tree

def readModules : IO Modules := do
  match (← readTree classesFile).read classesFile with
  | .error _ => return {}
  | .ok bytes =>
    match (decodeUtf8 bytes).toOption.bind fun s => (Toml.parse (plainNewlines s)).toOption with
    | none => throw (IO.userError ("malformed file " ++ classesFile))
    | some entries =>
      match Modules.ofEntries? entries with
      | none => throw (IO.userError ("no class descriptions in " ++ classesFile))
      | some modules => return modules

def readSettings (argv : List String) : IO FileTree :=
  match Arguments.parse argv with
  | .ok { config := some path, .. } => readTree path
  | _ => startTree

/-- Writes the file that a command line names, below directories made where they are missing. -/
def writeOutput (argv : List String) (files : FileTree) : IO Unit := do
  if let .ok { output := some path, .. } := Arguments.parse argv then
    if let .ok bytes := files.read path then
      IO.FS.createDirAll (parentPath path)
      IO.FS.writeBinFile path ⟨bytes.toArray⟩

def report (argv : List String) : Outcome → IO UInt32
  | .stopped .help => do IO.println usageText; return 0
  | .stopped .usage => do IO.eprintln usageText; return 2
  | .returned status after => do
    IO.print after.stdout
    IO.eprint after.stderr
    if status = okStatus then writeOutput argv after.files
    return status.toUInt32
  | .aborted (.failure f) _ => do IO.eprintln f.message; return 1
  | .aborted (.writing f) _ => do IO.eprintln f.path; return 1

end RowMapping

open RowMapping in
def main (argv : List String) : IO UInt32 := do
  let modules ← readModules
  let files ← readSettings argv
  report argv (run platformTexts modules files argv)

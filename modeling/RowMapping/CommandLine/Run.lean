import RowMapping.ClassTable.Hooks
import RowMapping.ClassTable.Locate
import RowMapping.CommandLine.Arguments
import RowMapping.Settings.Load

/-!
# The command

`Command.carryOut` reads the settings, finds the class and generates its unit, in this order, and
then prints the source or writes it to a file.  It runs in `Surroundings`, which are all that it can
change.  An error of the program's own on the way to the unit is reported and has a status of its
own; any other one aborts the command, and what was done until then stays done.

`run` says what comes of a command line.
-/

namespace RowMapping
open RowMapping.Files RowMapping.Text

/-- what keeps the command from generating a unit -/
inductive CommandFailure where
  | settings (e : SettingsError)
  | generation (f : Failure)
deriving DecidableEq, Repr

def CommandFailure.message : CommandFailure → String
  | settings e => e.message
  | generation f => f.message

def CommandFailure.isReported : CommandFailure → Bool
  | settings e => e.isReported
  | generation f => f.isReported

def notApplicableText (target : String) : String :=
  target ++ " declares no cursor or content values hook"

/-! ### the unit -/

def settingsFor (texts : PlatformTexts) (files : FileTree) :
    Option String → Except SettingsError Settings
  | none => .ok {}
  | some path => Settings.load texts files path

def unitFor (texts : PlatformTexts) (modules : Modules) (files : FileTree) (args : Arguments) :
    Except CommandFailure (Option GeneratedUnit) := do
  let settings ← (settingsFor texts files args.config).mapError .settings
  let cls ← (modules.load args.target).mapError .generation
  (modules.classes.generate settings cls).mapError .generation

/-! ### steps of the command -/

/-- what the command can change: the two streams that it writes to, its log apart, and the files -/
structure Surroundings where
  stdout : String := ""
  stderr : String := ""
  files : FileTree := {}

/-- a file that can not be written, or the directory above it, with its path -/
structure WriteFault where
  path : String
  fault : FileFault
deriving DecidableEq, Repr

/-- what ends the command without a status -/
inductive Abort where
  | failure (f : CommandFailure)
  | writing (f : WriteFault)
deriving DecidableEq, Repr

abbrev Command := ExceptT Abort (StateM Surroundings)

def okStatus : Nat := 0
def errorStatus : Nat := 1
def notApplicableStatus : Nat := 2

namespace Command

def print (text : String) : Command Unit :=
  modify fun s => { s with stdout := s.stdout ++ text }

def complain (message : String) : Command Unit :=
  modify fun s => { s with stderr := s.stderr ++ "error: " ++ message ++ "\n" }

/-- Makes the directories above a path, as far as they can be made. -/
def makeParents (path : String) : Command Unit := do
  let (files, made) := (← get).files.makeParents path
  modify fun s => { s with files := files }
  match made with
  | .ok () => return
  | .error fault => throw (.writing { path := parentPath path, fault := fault })

def writeFile (path text : String) : Command Unit := do
  match (← get).files.write path text.toUTF8.toList with
  | .ok files => modify fun s => { s with files := files }
  | .error fault => throw (.writing { path := normalPath path, fault := fault })

def deliver (output : Option String) (source : String) : Command Unit :=
  match output with
  | none => print source
  | some path => do
    makeParents path
    writeFile path source

/-- the status in which the command ends -/
def carryOut (texts : PlatformTexts) (modules : Modules) (args : Arguments) : Command Nat := do
  match unitFor texts modules (← get).files args with
  | .error f =>
    if f.isReported then
      complain f.message
      return errorStatus
    else throw (.failure f)
  | .ok none =>
    complain (notApplicableText args.target)
    return notApplicableStatus
  | .ok (some unit) =>
    deliver args.output unit.source
    return okStatus

end Command

/-! ### command lines -/

inductive Outcome where
  | stopped (s : ArgumentStop)
  | returned (status : Nat) (after : Surroundings)
  | aborted (a : Abort) (after : Surroundings)

def runArguments (texts : PlatformTexts) (modules : Modules) (files : FileTree)
    (args : Arguments) : Outcome :=
  match (Command.carryOut texts modules args).run.run { files := files } with
  | (.ok status, after) => .returned status after
  | (.error a, after) => .aborted a after

/-- what comes of a command line, with nothing on the streams before -/
def run (texts : PlatformTexts) (modules : Modules) (files : FileTree) (argv : List String) :
    Outcome :=
  match Arguments.parse argv with
  | .error s => .stopped s
  | .ok args => runArguments texts modules files args

end RowMapping

import RowMapping.Text.Joined

/-!
# Files

A file tree is the files and directories below one root, each at its place, the names that lead
there.  A directory exists where it is listed, where something lies below it, or where the working
directory passes.  Paths are written with slashes, begin at the working directory unless they have
a root, and `normalPath` is how a path is shown: without empty segments and single dots.

What is asked of a place that the system denies is refused, for whatever reason it has.
-/

namespace RowMapping.Files
open RowMapping.Text

inductive FileFault where
  | missing | isDirectory | notDirectory | alreadyExists | denied | nullInPath
deriving DecidableEq, Repr

/-- Whether it is the file system that refuses.  It is never asked about a path with a null
character. -/
def FileFault.isOfSystem : FileFault → Bool
  | nullInPath => false
  | _ => true

inductive Node where
  | file (bytes : List UInt8)
  | directory
deriving DecidableEq, Repr

/-- files with their places, directories that hold none, and the places that are denied -/
structure FileTree where
  files : List (List String × List UInt8) := []
  directories : List (List String) := []
  denied : List String → Bool := fun _ => false
  workingDirectory : List String := []

/-! ### paths -/

/-- the segments of a path that lead anywhere -/
def pathSegments (path : String) : List String := (split '/' path).filter fun s => s ≠ "" ∧ s ≠ "."

/-- the root that a path is shown with; two slashes are a root of their own there -/
def pathRoot (path : String) : String :=
  match path.toList with
  | '/' :: '/' :: '/' :: _ => "/"
  | '/' :: '/' :: _ => "//"
  | '/' :: _ => "/"
  | _ => ""

def normalPath (path : String) : String :=
  let shown := pathRoot path ++ joined "/" (pathSegments path)
  if shown = "" then "." else shown

def parentPath (path : String) : String :=
  let shown := pathRoot path ++ joined "/" (pathSegments path).dropLast
  if shown = "" then "." else shown

def hasNull (path : String) : Bool := path.toList.contains '\x00'

namespace FileTree

/-- the place at which a path begins -/
def origin (t : FileTree) (path : String) : List String :=
  if pathRoot path = "" then t.workingDirectory else []

/-! ### looking -/

def node? (t : FileTree) (place : List String) : Option Node :=
  match t.files.lookup place with
  | some bytes => some (.file bytes)
  | none =>
    if place.isPrefixOf t.workingDirectory || t.directories.any place.isPrefixOf
        || t.files.any (place.isPrefixOf ·.1) then some .directory
    else none

/-- the place and the node that segments lead to from a directory; nothing is above the root -/
def walk (t : FileTree) (place : List String) : List String → Except FileFault (List String × Node)
  | [] => match t.node? place with
    | some n => .ok (place, n)
    | none => .error .missing
  | s :: rest =>
    match t.node? place with
    | none => .error .missing
    | some (.file _) => .error .notDirectory
    | some .directory => t.walk (if s = ".." then place.dropLast else place ++ [s]) rest

def read (t : FileTree) (path : String) : Except FileFault (List UInt8) :=
  if hasNull path then .error .nullInPath
  else match t.walk (t.origin path) (pathSegments path) with
    | .error e => .error e
    | .ok (_, .directory) => .error .isDirectory
    | .ok (place, .file bytes) => if t.denied place then .error .denied else .ok bytes

/-! ### writing -/

/-- the tree with a file of these bytes in place of whatever file was there -/
def insert (t : FileTree) (place : List String) (bytes : List UInt8) : FileTree :=
  { t with files := t.files.filter (·.1 ≠ place) ++ [(place, bytes)] }

/-- The tree with the directories that segments pass through, as far as they can be made, and why
they can not all be made. -/
def makeDirectories (t : FileTree) (place : List String) :
    List String → FileTree × Except FileFault Unit
  | [] => (t, .ok ())
  | s :: rest =>
    if s = ".." then t.makeDirectories place.dropLast rest
    else
      let next := place ++ [s]
      match t.node? next with
      | some (.file _) => (t, .error (if rest.isEmpty then .alreadyExists else .notDirectory))
      | some .directory => t.makeDirectories next rest
      | none =>
        if t.denied next then (t, .error .denied)
        else { t with directories := next :: t.directories }.makeDirectories next rest

/-- the tree with the directories above a path -/
def makeParents (t : FileTree) (path : String) : FileTree × Except FileFault Unit :=
  if hasNull (parentPath path) then (t, .error .nullInPath)
  else t.makeDirectories (t.origin path) (pathSegments path).dropLast

/-- the tree with a file of these bytes at a path whose directory is there -/
def write (t : FileTree) (path : String) (bytes : List UInt8) : Except FileFault FileTree :=
  if hasNull path then .error .nullInPath
  else match (pathSegments path).getLast?,
      t.walk (t.origin path) (pathSegments path).dropLast with
    | _, .error e => .error e
    | _, .ok (_, .file _) => .error .notDirectory
    | none, .ok (_, .directory) => .error .isDirectory
    | some last, .ok (place, .directory) =>
      if last = ".." then .error .isDirectory
      else match t.node? (place ++ [last]) with
        | some .directory => .error .isDirectory
        | _ => if t.denied (place ++ [last]) then .error .denied
          else .ok (t.insert (place ++ [last]) bytes)

end FileTree
end RowMapping.Files

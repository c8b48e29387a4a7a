import RowMapping.ClassTable.ResolutionOrder
import RowMapping.Failure

/-!
# Classes by name

A class is named as `module:Class`, or `module:Outer.Inner`.  Which modules there are, what an object
holds under a name and which objects are classes is up to the platform, an `Importer`, and
`Importer.load` follows a target through it.

`Modules.importer` is the platform of described classes.  Its modules are those of the classes of a
table and those that hold further names, and none of them is a package.
-/

namespace RowMapping
open RowMapping.Text

/-- whether the name of a module is relative to a package -/
def isRelativeName (name : String) : Bool := name.toList.head? == some '.'

/-- why there is no module under a name -/
inductive ImportRefusal where
  | unavailable (fault : ImportFault)
  | relative
deriving DecidableEq, Repr

/-- A platform: what it imports under a name, what an object holds under one, and which class an
object is.  It refuses relative names as such, since no package comes with them. -/
structure Importer (Object : Type) where
  importModule : String → Except ImportRefusal Object
  attribute? : Object → String → Option Object
  class? : Object → Option ClassRef
  relative_iff : ∀ name, importModule name = .error .relative ↔ isRelativeName name = true

/-- the module and the path of a target `module:path` -/
def splitTarget? (target : String) : Option (String × String) :=
  let module := target.toList.takeWhile (· ≠ ':')
  let path := (target.toList.dropWhile (· ≠ ':')).drop 1
  if module.isEmpty || path.isEmpty then none else some (String.ofList module, String.ofList path)

namespace Importer
variable {Object : Type} (p : Importer Object)

/-- what names lead to from an object -/
def follow (target module : String) (found : Object) : List String → Except Failure Object
  | [] => .ok found
  | name :: rest =>
    match p.attribute? found name with
    | some next => follow target module next rest
    | none => .error (.discovery target (.noMember name module))

/-- the class that a target names -/
def load (target : String) : Except Failure ClassRef :=
  match splitTarget? target with
  | none => .error (.discovery target .malformedTarget)
  | some (module, path) =>
    match p.importModule module with
    | .error .relative => .error (.relativeModule module)
    | .error (.unavailable fault) => .error (.discovery target (.notImported module fault))
    | .ok found =>
      match p.follow target module found (split '.' path) with
      | .error f => .error f
      | .ok object =>
        match p.class? object with
        | some c => .ok c
        | none => .error (.discovery target .notClass)

end Importer

/-! ### described classes -/

/-- the classes at hand and, of each module, the names of what is no class -/
structure Modules where
  classes : ClassTable := []
  constants : List (String × List String) := []

namespace Modules

def exists? (m : Modules) (name : String) : Bool :=
  m.classes.any (·.ref.module = name) || m.constants.any (·.1 = name)

/-! ### importing -/

/-- why a module can not be imported, its parent first; `fuel` bounds its number of parents -/
def importFaultWithin (m : Modules) : Nat → String → Option ImportFault
  | 0, name => some (.missing name)
  | fuel + 1, name =>
    if m.exists? name then none
    else
      let parent := beforeLastDot name
      if parent = "" then some (.missing name)
      else match m.importFaultWithin fuel parent with
        | some fault => some fault
        | none => some (.notPackage name parent)

def importFault (m : Modules) (name : String) : Option ImportFault :=
  m.importFaultWithin (name.length + 1) name

/-! ### members -/

inductive Found where
  | module (name : String)
  | cls (c : ClassRef)
  | other
deriving DecidableEq, Repr

def declared? (m : Modules) (module name : String) : Option ClassRef :=
  (m.classes.find? fun i => i.ref.module = module ∧ i.ref.name = name).map (·.ref)

def bodyMember? (m : Modules) (name : String) (i : ClassInfo) : Option Found :=
  match m.declared? i.ref.module (i.ref.name ++ "." ++ name) with
  | some c => some (.cls c)
  | none => if i.attributes.any (·.name = name) then some .other else none

def member? (m : Modules) (name : String) : Found → Option Found
  | .module module =>
    match m.declared? module name with
    | some c => some (.cls c)
    | none =>
      if m.constants.any fun e => e.1 = module ∧ e.2.contains name then some .other else none
  | .cls c => (m.classes.ancestry c).findSome? (m.bodyMember? name)
  | .other => none

def Found.class? : Found → Option ClassRef
  | .cls c => some c
  | _ => none

def importer (m : Modules) : Importer Found where
  importModule name :=
    if isRelativeName name then .error .relative
    else match m.importFault name with
      | some fault => .error (.unavailable fault)
      | none => .ok (.module name)
  attribute? found name := m.member? name found
  class? := Found.class?
  relative_iff name := by
    split
    next h => exact iff_of_true rfl h
    next h =>
      refine iff_of_false (fun hrefused => ?_) h
      split at hrefused <;> cases hrefused

def load (m : Modules) (target : String) : Except Failure ClassRef := m.importer.load target

end Modules
end RowMapping

import RowMapping.Method
import RowMapping.Plan.Naming
import RowMapping.Property
import RowMapping.Source
import RowMapping.Text.SnakeCase

/-!
# Adapter bindings

A unit makes one instance of every adapter class that its properties use and binds it to one name.
`resolve` checks, property by property, that the adapter has the methods its use asks for, and
binds the classes in the order in which they come up.
-/

namespace RowMapping
open RowMapping.Text

/-- what generated code is generated for and from -/
structure Mapping where
  settings : Settings
  directory : Directory

structure Directions where
  read : Bool := true
  write : Bool := true
deriving DecidableEq, Repr

structure AdapterBinding where
  cls : ClassRef
  type : TypeName
  name : String
deriving Repr

def AdapterBinding.instantiation (b : AdapterBinding) : Statement :=
  .bind b.name (b.type.render ++ "()") [b.type]

def Settings.rowStoreType (s : Settings) : TypeName := .parse s.rowStore.type

def Settings.cellMapType (s : Settings) : TypeName := .parse s.cellMap.type

namespace Mapping

/-! ### what an adapter has to define -/

def readShape (m : Mapping) (type : TypeName) : Shape :=
  { isStatic := false, takes := [m.settings.rowStoreType, .str], returns := type
    name := m.settings.adapter.readMethod }

def writeShape (m : Mapping) (type : TypeName) : Shape :=
  { isStatic := false, takes := [m.settings.cellMapType, .str, type], returns := .noneType
    name := m.settings.adapter.writeMethod }

def readContract (m : Mapping) (type : TypeName) : String :=
  "'" ++ m.settings.adapter.readMethod ++ "(self, cursor: " ++ m.settings.rowStoreType.render
    ++ ", column_name: str) -> " ++ type.render ++ "'"

def writeContract (m : Mapping) (type : TypeName) : String :=
  "'" ++ m.settings.adapter.writeMethod ++ "(self, values: " ++ m.settings.cellMapType.render
    ++ ", column_name: str, value: " ++ type.render ++ ") -> None'"

def violation (m : Mapping) (p : Property) (cls : ClassRef) (expected : String) : Failure :=
  .contract ⟨cls, (m.directory.typeName cls).qualifiedName, "public method", expected, p.site⟩

def checkAdapter (m : Mapping) (directions : Directions) (p : Property) (cls : ClassRef) :
    Except Failure Unit :=
  if directions.read && !m.directory.hasMethod cls (m.readShape p.type) then
    .error (m.violation p cls (m.readContract p.type))
  else if directions.write && !m.directory.hasMethod cls (m.writeShape p.type) then
    .error (m.violation p cls (m.writeContract p.type))
  else .ok ()

/-! ### binding -/

/-- the bindings with one for a class, a new one if it has none yet -/
def bindAdapter (m : Mapping) (bindings : List AdapterBinding) (cls : ClassRef) :
    Naming (List AdapterBinding) :=
  if bindings.any (·.cls = cls) then pure bindings
  else do
    let type := m.directory.typeName cls
    let name ← Naming.newNameFor (.adapter cls) (snakeCase type.simpleName)
    return bindings ++ [⟨cls, type, name⟩]

def resolveFrom (m : Mapping) (directions : Directions) (bindings : List AdapterBinding) :
    List Property → Naming (List AdapterBinding)
  | [] => pure bindings
  | p :: rest =>
    match p.adapter? with
    | none => m.resolveFrom directions bindings rest
    | some cls => do
      Naming.ofExcept (m.checkAdapter directions p cls)
      let bindings ← m.bindAdapter bindings cls
      m.resolveFrom directions bindings rest

def resolve (m : Mapping) (directions : Directions) (ps : List Property) :
    Naming (List AdapterBinding) := m.resolveFrom directions [] ps

end Mapping

def adapterName (bindings : List AdapterBinding) (cls : ClassRef) : Naming String :=
  match bindings.find? (·.cls = cls) with
  | some b => pure b.name
  | none => throw (.naming (.unbound (.adapter cls)))

end RowMapping

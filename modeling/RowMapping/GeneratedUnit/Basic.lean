import RowMapping.GeneratedUnit.Capabilities
import RowMapping.GeneratedUnit.LocalNames
import RowMapping.Plan.WritePlan

/-!
# Generated units

A unit is the module generated for one value class: the instances of its adapters, the function
that reads a value with the mapper behind it, and the function that writes one.

`generateUnit` refuses types that can not be imported, takes the names of all imports, names the
parts of the unit and its locals, and writes the routines over the types as they are imported.
-/

namespace RowMapping
open RowMapping.Text

structure GeneratedUnit where
  target : TypeName
  text : ModuleText
  readFunction : Option String := none
  writeFunction : Option String := none
  mapper : Option String := none
  readPlan : Option ReadPlan := none
  writePlan : Option WritePlan := none

def GeneratedUnit.source (u : GeneratedUnit) : String := u.text.render

structure FunctionNames where
  read : Option String := none
  mapper : Option String := none
  write : Option String := none
deriving DecidableEq, Repr

/-- a routine as the parts of a module, and the plan behind it -/
structure Routine (Plan : Type) where
  plan : Option Plan := none
  parts : List Part := []

/-- what stands above both routines of a unit; `target` is the class as it is declared, and
`written` as it is imported -/
structure Frame where
  target : TypeName
  written : TypeName
  rowStore : TypeName
  cellMap : TypeName
  byKeyword : Bool

/-! ### texts of the parts -/

namespace Frame

def readFunctionText (f : Frame) (name cursor : String) (plan : ReadPlan) : FunctionText :=
  { name := name
    parameters := [(cursor, f.rowStore)]
    returns := f.written
    doc := some ("Read one " ++ f.target.simpleName ++ " from the current row of the cursor.")
    body := plan.statements.map .assign
      ++ [.plain ("return " ++ plan.construction) [f.written]] }

/-- the declaration of the mapper, which is the read function under another name -/
def mapperStatement (f : Frame) (mapper function : String) : Statement :=
  let type := TypeName.callable [f.rowStore] f.written
  .plain (mapper ++ ": " ++ type.render ++ " = " ++ function) [type]

def writeFunctionText (f : Frame) (name : String) (plan : WritePlan) : FunctionText :=
  { name := name
    parameters := [(plan.value, f.written)]
    returns := f.cellMap
    doc := some ("Serialize one " ++ f.target.simpleName ++ " into content values.")
    body := .bind plan.values (f.cellMap.render ++ "()") [f.cellMap]
      :: plan.statements ++ [.plain ("return " ++ plan.values) []] }

def unitText (f : Frame) (bindings : List AdapterBinding) (parts : List Part) : ModuleText :=
  { doc := "Cursor mapping for " ++ f.target.qualifiedName ++ ". Generated, do not edit."
    parts := bindings.map (fun b => .statement b.instantiation) ++ parts }

theorem parts_unitText (f : Frame) (bindings : List AdapterBinding) (parts : List Part) :
    (f.unitText bindings parts).parts
      = bindings.map (fun b => .statement b.instantiation) ++ parts := rfl

end Frame

namespace Mapping

/-! ### types -/

/-- the types that a unit mentions, in the order in which they take their names -/
def referencedTypes (m : Mapping) (target : TypeName) (ps : List Property) : List TypeName :=
  [target, m.settings.rowStoreType, m.settings.cellMapType, .callable [] target]
    ++ ps.flatMap fun p =>
      p.type :: (p.adapter?.toList ++ p.factory?.toList).map m.directory.typeName

/-- Refuses types that are defined inside a function. -/
def checkImportable (types : List TypeName) : Except Failure Unit :=
  match TypeName.localPart? types with
  | some t => .error (.notImportable t.qualifiedName)
  | none => .ok ()

def under (m : Mapping) (aliases : Aliases) : Mapping :=
  { m with directory :=
    { m.directory with typeName := fun cls => (m.directory.typeName cls).aliased aliases } }

def aliasType (aliases : Aliases) (p : Property) : Property :=
  { p with type := p.type.aliased aliases }

/-! ### names -/

def nameMapper (m : Mapping) (c : Capabilities) : Naming (Option String) :=
  if c.exposesMapper then some <$> Naming.newNameFor (.role .mapper) m.settings.mapperName
  else pure none

def nameReader (m : Mapping) (c : Capabilities) : Naming FunctionNames :=
  if c.generatesRead then do
    let read ← Naming.newNameFor (.role .readFunction) m.settings.readFunction
    let mapper ← m.nameMapper c
    let _ ← Naming.nameFor (.role .cursor) m.settings.cursorParam
    return { read := some read, mapper := mapper }
  else pure {}

def nameWriter (m : Mapping) (c : Capabilities) (names : FunctionNames) : Naming FunctionNames :=
  match c.valuesMethod with
  | some method => do
    let write ← Naming.newNameFor (.role .writeFunction) method
    let _ ← Naming.nameFor (.role .value) m.settings.valueParam
    let _ ← Naming.nameFor (.role .values) m.settings.valuesVar
    return { names with write := some write }
  | none => pure names

/-! ### routines -/

def reader (m : Mapping) (f : Frame) (bindings : List AdapterBinding) (names : FunctionNames)
    (ps : List Property) : Naming (Routine ReadPlan) :=
  match names.read with
  | none => pure {}
  | some name => do
    let plan ← m.readPlan f.written f.byKeyword (some bindings) ps
    let cursor ← Naming.boundName (.role .cursor)
    return {
      plan := plan
      parts := .function (f.readFunctionText name cursor plan)
        :: names.mapper.toList.map fun mapper => .statement (f.mapperStatement mapper name) }

def writer (m : Mapping) (f : Frame) (bindings : List AdapterBinding) (names : FunctionNames)
    (ps : List Property) : Naming (Routine WritePlan) :=
  match names.write with
  | none => pure {}
  | some name => do
    let plan ← m.writePlan (some bindings) ps
    return { plan := plan, parts := [.function (f.writeFunctionText name plan)] }

/-! ### the unit -/

/-- the unit over types as they are imported, from a supply in which the imports have theirs -/
def unitIn (m : Mapping) (f : Frame) (c : Capabilities) (ps : List Property) :
    Naming GeneratedUnit := do
  let names ← m.nameReader c
  let names ← m.nameWriter c names
  nameLocals ps
  let bindings ← m.resolve { read := c.generatesRead, write := c.generatesWrite } ps
  let reading ← m.reader f bindings names ps
  let writing ← m.writer f bindings names ps
  return {
    target := f.target
    text := f.unitText bindings (reading.parts ++ writing.parts)
    readFunction := names.read
    writeFunction := names.write
    mapper := names.mapper
    readPlan := reading.plan
    writePlan := writing.plan }

/-- what stands above the routines of a unit whose types are imported under `aliases` -/
def frame (m : Mapping) (aliases : Aliases) (target : TypeName) (c : Capabilities) : Frame :=
  { target := target
    written := target.aliased aliases
    rowStore := m.settings.rowStoreType.aliased aliases
    cellMap := m.settings.cellMapType.aliased aliases
    byKeyword := c.keywordConstruction }

/-- the names that the imports of a unit take -/
def localNames (m : Mapping) (target : TypeName) (ps : List Property) : LocalNames :=
  .ofTypes (m.referencedTypes target ps)

/-- the unit of a class whose types can all be imported, and the supply that it leaves behind -/
def unitRun (m : Mapping) (target : TypeName) (ps : List Property) (c : Capabilities) :
    Except Failure GeneratedUnit × NameSupply :=
  let names := m.localNames target ps
  ((m.under names.aliases).unitIn (m.frame names.aliases target c) c
    (ps.map (aliasType names.aliases))).runFrom names.supply

/-- the unit of a class with these properties and capabilities -/
def generateUnit (m : Mapping) (target : TypeName) (ps : List Property) (c : Capabilities) :
    Except Failure GeneratedUnit := do
  checkImportable (m.referencedTypes target ps)
  (m.unitRun target ps c).1

end Mapping
end RowMapping

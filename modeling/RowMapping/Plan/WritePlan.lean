import RowMapping.Plan.ReadPlan

/-!
# Write plans

A write plan is what fills a map of cells from a value, one property after the other.  A factory
gives a map of its own, which is merged where it is not empty.
-/

namespace RowMapping
open RowMapping.Text

structure PropertyWriting where
  property : Property
  statements : List Statement

/-- statements that expect the value and an empty map of cells under two names -/
structure WritePlan where
  value : String
  values : String
  adapters : List AdapterBinding
  writings : List PropertyWriting

def WritePlan.statements (plan : WritePlan) : List Statement :=
  plan.writings.flatMap (·.statements)

namespace Mapping

def factoryShape (m : Mapping) (type : TypeName) : Shape :=
  { isStatic := true, takes := [type], returns := m.settings.cellMapType }

def factoryViolation (m : Mapping) (p : Property) (cls : ClassRef) : Failure :=
  .contract ⟨cls, (m.directory.typeName cls).qualifiedName, "static method",
    "taking '" ++ p.type.render ++ "' and returning '" ++ m.settings.cellMapType.render ++ "'",
    p.site⟩

/-- the statements that merge the map which a factory makes of `access` -/
def writeByFactory (m : Mapping) (values access : String) (p : Property) (cls : ClassRef) :
    Naming (List Statement) := do
  match m.directory.findMethod cls (m.factoryShape p.type) with
  | none => throw (m.factoryViolation p cls)
  | some method =>
    let type := m.directory.typeName cls
    let name ← Naming.newName (p.name ++ "_values")
    return [
      .bind name (type.render ++ "." ++ method.name ++ "(" ++ access ++ ")") [type],
      .plain ("if " ++ name ++ ":\n    " ++ values ++ "." ++ m.settings.cellMap.putAll ++ "("
        ++ name ++ ")") []]

def writeProperty (m : Mapping) (bindings : List AdapterBinding) (value values : String)
    (p : Property) : Naming (List Statement) :=
  let access := value ++ "." ++ p.name
  match p.conversion with
  | .factory cls => m.writeByFactory values access p cls
  | .adapter cls => do
    let adapter ← adapterName bindings cls
    return [.plain (adapter ++ "." ++ m.settings.adapter.writeMethod ++ "(" ++ values ++ ", "
      ++ literal p.column ++ ", " ++ access ++ ")") []]
  | .native =>
    if p.isSupported then do
      let put ← Naming.ofExcept (p.putStatement m.settings values access)
      return [.plain put []]
    else throw (p.unsupported .write)

def writeAll (m : Mapping) (bindings : List AdapterBinding) (value values : String) :
    List Property → Naming (List PropertyWriting)
  | [] => pure []
  | p :: rest => do
    let statements ← m.writeProperty bindings value values p
    let others ← m.writeAll bindings value values rest
    return { property := p, statements := statements } :: others

/-- the plan that writes properties into a map of cells -/
def writePlan (m : Mapping) (shared : Option (List AdapterBinding)) (ps : List Property) :
    Naming WritePlan := do
  let value ← Naming.nameFor (.role .value) m.settings.valueParam
  let values ← Naming.nameFor (.role .values) m.settings.valuesVar
  let bindings ← m.bindingsFor { read := false, write := true } ps shared
  let writings ← m.writeAll bindings value values ps
  return { value := value, values := values, adapters := bindings, writings := writings }

end Mapping
end RowMapping

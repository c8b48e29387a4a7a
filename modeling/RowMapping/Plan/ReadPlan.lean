import RowMapping.Plan.AdapterBinding

/-!
# Read plans

A read plan is what builds a value from the current row of a cursor: one local for each property,
assigned in order, and then the constructor call.  It has one `PropertyReading` for each property.

Where a native property may be `None`, its column is looked up first, and a missing column reads
like an empty cell.  A property of another type that may be `None` and names no column is `None`.
-/

namespace RowMapping
open RowMapping.Text

/-- an argument of a call: a value in the next place, or a value under a name -/
inductive Argument where
  | positional (value : String)
  | named (name value : String)
deriving DecidableEq, Repr

def Argument.text : Argument → String
  | positional value => value
  | named name value => name ++ "=" ++ value

/-- the statements that read one property, and its argument of the constructor -/
structure PropertyReading where
  property : Property
  statements : List Assignment
  argument : Argument

/-- statements that expect a cursor under a name, and the constructor call behind them -/
structure ReadPlan where
  cursor : String
  adapters : List AdapterBinding
  readings : List PropertyReading
  target : TypeName

namespace ReadPlan

def statements (plan : ReadPlan) : List Assignment := plan.readings.flatMap (·.statements)

def arguments (plan : ReadPlan) : List String := plan.readings.map (·.argument.text)

def construction (plan : ReadPlan) : String :=
  plan.target.render ++ "(" ++ joined ", " plan.arguments ++ ")"

end ReadPlan

inductive ReadWay where
  | adapter (cls : ClassRef)
  | cell
  | optionalCell
  | absent
deriving DecidableEq, Repr

def Property.readWay (p : Property) : Except Failure ReadWay :=
  match p.adapter? with
  | some cls => .ok (.adapter cls)
  | none =>
    if p.isSupported then .ok (if p.nullable then .optionalCell else .cell)
    else if p.nullable && !p.hasExplicitColumn then .ok .absent
    else .error (p.unsupported .read)

namespace Mapping

/-- the call of a method of the cursor with the column of a property -/
def lookup (cursor method : String) (p : Property) : String :=
  cursor ++ "." ++ method ++ "(" ++ literal p.column ++ ")"

/-- the expression of a cell that may be empty or missing, behind the index of its column -/
def optionalExpression (m : Mapping) (cursor index access : String) : String :=
  let store := m.settings.rowStore
  "None if " ++ index ++ " == " ++ toString store.missingIndex ++ " or " ++ cursor ++ "."
    ++ store.isNull ++ "(" ++ index ++ ") else " ++ access

def readBy (m : Mapping) (bindings : List AdapterBinding) (cursor name : String) (p : Property) :
    ReadWay → Naming (List Assignment)
  | .adapter cls => do
    let adapter ← adapterName bindings cls
    let call := adapter ++ "." ++ m.settings.adapter.readMethod ++ "(" ++ cursor ++ ", "
      ++ literal p.column ++ ")"
    return [{ type := p.type, name := name, value := call }]
  | .cell => do
    let index := lookup cursor m.settings.rowStore.indexOrThrow p
    let value ← Naming.ofExcept (p.readExpression m.settings cursor index)
    return [{ type := p.type, name := name, value := value }]
  | .optionalCell => do
    let index ← Naming.newName (name ++ "_column_index")
    let access ← Naming.ofExcept (p.readExpression m.settings cursor index)
    return [
      { type := .int, name := index, value := lookup cursor m.settings.rowStore.index p },
      { type := p.type, name := name, value := m.optionalExpression cursor index access }]
  | .absent => pure [
      { type := p.type, name := name, value := "None", comment := some "can't be read from cursor" }]

def argumentFor (byKeyword : Bool) (p : Property) (name : String) : Argument :=
  if byKeyword then .named p.name name else .positional name

def readProperty (m : Mapping) (bindings : List AdapterBinding) (cursor : String)
    (byKeyword : Bool) (p : Property) : Naming PropertyReading := do
  let name ← Naming.boundName (.property p.name)
  let way ← Naming.ofExcept p.readWay
  let statements ← m.readBy bindings cursor name p way
  return { property := p, statements := statements, argument := argumentFor byKeyword p name }

def readAll (m : Mapping) (bindings : List AdapterBinding) (cursor : String) (byKeyword : Bool) :
    List Property → Naming (List PropertyReading)
  | [] => pure []
  | p :: rest => do
    let reading ← m.readProperty bindings cursor byKeyword p
    let others ← m.readAll bindings cursor byKeyword rest
    return reading :: others

/-- Gives every property a local before anything else is named. -/
def nameLocals : List Property → Naming Unit
  | [] => pure ()
  | p :: rest => do
    let _ ← Naming.nameFor (.property p.name) p.name
    nameLocals rest

def bindingsFor (m : Mapping) (directions : Directions) (ps : List Property) :
    Option (List AdapterBinding) → Naming (List AdapterBinding)
  | some bindings => pure bindings
  | none => m.resolve directions ps

/-- the plan that reads properties into a value of a class -/
def readPlan (m : Mapping) (target : TypeName) (byKeyword : Bool)
    (shared : Option (List AdapterBinding)) (ps : List Property) : Naming ReadPlan := do
  let cursor ← Naming.nameFor (.role .cursor) m.settings.cursorParam
  nameLocals ps
  let bindings ← m.bindingsFor { read := true, write := false } ps shared
  let readings ← m.readAll bindings cursor byKeyword ps
  return { cursor := cursor, adapters := bindings, readings := readings, target := target }

end Mapping
end RowMapping

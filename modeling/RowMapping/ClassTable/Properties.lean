import RowMapping.ClassTable.DataFields
import RowMapping.Property
import RowMapping.Text.Joined

/-!
# The properties of a class

A value class has one property for each field of its constructor: the fields of a dataclass or of
a pydantic model, or the named parameters of the constructor of any other class.

`properties` fails where a quoted hint names nothing, where a field has no hint, and where a hint
has no type name.
-/

namespace RowMapping
open RowMapping.Text

structure Declaration where
  name : String
  hint : Hint
  markers : List Marker := []

namespace ClassTable

/-! ### kinds of classes -/

def isPydantic (t : ClassTable) (cls : ClassRef) : Bool :=
  (t.ancestry cls).any (·.kind == .pydantic)

def constructor? (t : ClassTable) (cls : ClassRef) : Option FunctionInfo :=
  ((t.ancestry cls).flatMap (·.attributes)).findSome? fun a =>
    if a.name = "__init__" then
      match a.member with
      | .instance f | .static f | .ofClass f => some f
      | _ => none
    else none

/-! ### declarations -/

/-- A pydantic model keeps a name that is defined nowhere, and takes the outermost markers off. -/
def modelDeclaration (name : String) (hint : Hint) : Declaration :=
  match hint.named with
  | .annotated inner markers => { name := name, hint := inner, markers := markers }
  | h => { name := name, hint := h }

def putHint (f : Field) : List Field → List Field
  | [] => [f]
  | g :: rest => if g.name = f.name then f :: rest else g :: putHint f rest

/-- the fields of ancestors and of a class, in the order of their first declaration -/
def hintedFields (t : ClassTable) (cls : ClassRef) : List Field :=
  ((t.ancestry cls).reverse.flatMap (·.fields)).foldl (fun all f => putHint f all) []

def isModelField (f : Field) : Bool := !f.hint.isClassVar && f.name.toList.head? != some '_'

def modelDeclarations (t : ClassTable) (cls : ClassRef) : List Declaration :=
  ((t.hintedFields cls).filter isModelField).map fun f => modelDeclaration f.name f.hint

/-- Refuses hints of which one names nothing.  Where that is because a name is defined nowhere or
because it is no hint, the class is to blame. -/
def checkNames (cls : ClassRef) (hints : List Hint) : Except Failure Unit :=
  match Hint.danglingAll? hints with
  | none => .ok ()
  | some d =>
    match d.fault with
    | .undefined | .unfit _ => .error (.discovery cls.name (.dangling d))
    | _ => .error (.dangling d)

/-- the fields that a dataclass takes in its constructor, and that its values have -/
def isOwnField (f : DataField) : Bool :=
  f.field.isInit && !f.field.hint.isClassVar && !f.field.hint.isInitVar

/-- the hint that the search from a class finds for a field -/
def hintOf (t : ClassTable) (cls : ClassRef) (f : DataField) : Hint :=
  (((t.hintedFields cls).find? (·.name = f.field.name)).getD f.field).hint

def dataDeclarations (t : ClassTable) (cls : ClassRef) (fields : List DataField) :
    Except Failure (List Declaration) := do
  checkNames cls (((t.ancestry cls).reverse.flatMap (·.fields)).map (·.hint))
  return (fields.filter isOwnField).map fun f => { name := f.field.name, hint := t.hintOf cls f }

def paramDeclaration (cls : ClassRef) (p : Param) : Except Failure Declaration :=
  match p.hint with
  | some h => .ok { name := p.name, hint := h }
  | none => .error (.discovery cls.name (.untyped p.name))

def isFieldParam (p : Param) : Bool := p.name ≠ "self" && !p.isVariadic

def plainDeclarations (t : ClassTable) (cls : ClassRef) : Except Failure (List Declaration) :=
  match t.constructor? cls with
  | none => .ok []
  | some f => do
    checkNames cls (f.params.filterMap (·.hint) ++ f.returns.toList)
    if f.brokenSignature then throw (.discovery cls.name .brokenSignature)
    (f.params.filter isFieldParam).mapM (paramDeclaration cls)

/-- the fields of a class's constructor in their order -/
def declarations (t : ClassTable) (cls : ClassRef) : Except Failure (List Declaration) :=
  if t.isPydantic cls then .ok (t.modelDeclarations cls)
  else match t.dataFields? cls with
    | some fields => t.dataDeclarations cls fields
    | none => t.plainDeclarations cls

/-! ### properties -/

/-- A field whose hint has no type name is a fault of the class. -/
def blameField (cls : ClassRef) (name : String) : Failure → Failure
  | .hint e => .discovery cls.name (.unnameable name e)
  | f => f

def propertyOf (cls : ClassRef) (d : Declaration) : Except Failure Property :=
  (Property.ofDeclaration (TypeName.ofClass cls).qualifiedName d.name d.hint d.markers).mapError
    (blameField cls d.name)

/-- the properties of a class, one for each field of its constructor -/
def properties (t : ClassTable) (cls : ClassRef) : Except Failure (List Property) := do
  (← t.declarations cls).mapM (propertyOf cls)

/-- whether some argument of a class's constructor can only be given by name -/
def constructsByKeyword (t : ClassTable) (cls : ClassRef) : Bool :=
  t.isPydantic cls ||
    match t.dataFields? cls with
    | some fields => (fields.filter isOwnField).any (·.keywordOnly)
    | none => (t.constructor? cls).any fun f =>
        !f.brokenSignature && f.params.any (·.kind == .keyword)

end ClassTable
end RowMapping

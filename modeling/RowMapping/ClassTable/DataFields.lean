import RowMapping.ClassTable.ResolutionOrder

/-!
# The fields of a dataclass

A dataclass has the fields of its ancestors and then its own.  A field of an ancestor's name takes
that field's place.  A class variable is listed among them but is no field of a value; an
initialiser is none either, and yet a parameter of the constructor.
-/

namespace RowMapping

def Hint.isInitVar : Hint → Bool
  | .initVar _ => true
  | _ => false

/-- a field of a dataclass, with the class's choice of keyword arguments -/
structure DataField where
  field : Field
  keywordOnly : Bool

/-- fields with one more, in the place of an earlier one of the same name -/
def putField (f : DataField) : List DataField → List DataField
  | [] => [f]
  | g :: rest => if g.field.name = f.field.name then f :: rest else g :: putField f rest

def putFields (fields others : List DataField) : List DataField :=
  others.foldl (fun all f => putField f all) fields

def ClassInfo.ownFields (i : ClassInfo) : List DataField :=
  i.fields.map fun f => ⟨f, f.keywordOnly.getD i.keywordOnly⟩

/-- the fields of dataclasses, keyed by class -/
abbrev FieldTable := List (ClassRef × List DataField)

/-- the fields of the first dataclass in a resolution order -/
def FieldTable.first? (fields : FieldTable) (order : List ClassRef) : Option (List DataField) :=
  order.findSome? (List.lookup · fields)

/-- the fields of the dataclasses of a table, front to back -/
def dataFieldsFrom (t : ClassTable) (fields : FieldTable) : ClassTable → FieldTable
  | [] => fields
  | i :: rest =>
    if i.kind = .dataclass then
      let inherited := (t.resolutionOrder i.ref).tail.reverse.map fun base =>
        (fields.first? (t.resolutionOrder base)).getD []
      let own := putFields (inherited.foldl putFields []) i.ownFields
      dataFieldsFrom t ((i.ref, own) :: fields) rest
    else dataFieldsFrom t fields rest

namespace ClassTable

/-- the fields of a dataclass, class variables and initialisers among them; none for another class -/
def dataFields? (t : ClassTable) (cls : ClassRef) : Option (List DataField) :=
  (dataFieldsFrom t [] t).first? (t.resolutionOrder cls)

def constructorParams (fields : List DataField) : List Param :=
  let taken := fields.filter fun f => f.field.isInit && !f.field.hint.isClassVar
  let param (kind : ParamKind) (f : DataField) : Param :=
    { name := f.field.name, hint := some f.field.hint, kind := kind
      hasDefault := f.field.hasDefault }
  (taken.filter (!·.keywordOnly)).map (param .standard)
    ++ (taken.filter (·.keywordOnly)).map (param .keyword)

def generatedConstructor (fields : List DataField) : FunctionInfo :=
  { params := constructorParams fields, returns := some .none }

end ClassTable
end RowMapping

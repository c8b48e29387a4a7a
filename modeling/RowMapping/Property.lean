import RowMapping.Catalog
import RowMapping.Hint.Markers
import RowMapping.TypeName.Written

/-!
# Properties

A property is one constructor field of a value class and how it maps to a column.  Its values are
native, or converted by an adapter class, or spread over columns by a factory class;
`Conversion.ofClasses` refuses an adapter beside a factory.

`Property.ofDeclaration` reads a property off its hint: of each kind of marker the last one
counts, those of the hint before the ones given beside it.
-/

namespace RowMapping

/-- how the values of a property become cells -/
inductive Conversion where
  | native
  | adapter (cls : ClassRef)
  | factory (cls : ClassRef)
deriving DecidableEq, Repr

namespace Conversion

def adapter? : Conversion → Option ClassRef
  | adapter cls => some cls
  | _ => none

def factory? : Conversion → Option ClassRef
  | factory cls => some cls
  | _ => none

/-- the conversion by one of two classes, none if both are given -/
def ofClasses : Option ClassRef → Option ClassRef → Option Conversion
  | none, none => some native
  | some cls, none => some (adapter cls)
  | none, some cls => some (factory cls)
  | some _, some _ => none

end Conversion

structure Property where
  name : String
  type : TypeName
  columnOverride : Option String := none
  conversion : Conversion := .native
  nullable : Bool := false
  site : Option Site := none
deriving Repr

namespace Property

def adapter? (p : Property) : Option ClassRef := p.conversion.adapter?

def factory? (p : Property) : Option ClassRef := p.conversion.factory?

def converted (p : Property) (adapter factory : Option ClassRef) : Except Failure Property :=
  match Conversion.ofClasses adapter factory with
  | some c => .ok { p with conversion := c }
  | none => .error (.conflict p.name p.site)

/-! ### declarations -/

def markedColumn : List Marker → Option String
  | [] => none
  | .column name :: rest => (markedColumn rest).or (some name)
  | _ :: rest => markedColumn rest

def markedAdapter : List Marker → Option ClassRef
  | [] => none
  | .adapter cls :: rest => (markedAdapter rest).or (some cls)
  | _ :: rest => markedAdapter rest

def markedFactory : List Marker → Option ClassRef
  | [] => none
  | .factory cls :: rest => (markedFactory rest).or (some cls)
  | _ :: rest => markedFactory rest

/-- the site of a member, where the owner is known -/
def siteOf (owner : String) (member : String) : Option Site :=
  if owner = "" then none else some ⟨owner, member⟩

def ofDeclaration (owner name : String) (hint : Hint) (markers : List Marker) :
    Except Failure Property :=
  let (bare, own) := hint.split
  match TypeName.ofHint bare with
  | .error e => .error (.hint e)
  | .ok type =>
    let markers := own ++ markers
    let p : Property :=
      { name := name, type := type, columnOverride := markedColumn markers,
        nullable := type.nullable, site := siteOf owner name }
    p.converted (markedAdapter markers) (markedFactory markers)

/-! ### column and operations -/

/-- the column of a property: the one it names, or its own name -/
def column (p : Property) : String := p.columnOverride.getD p.name

def hasExplicitColumn (p : Property) : Bool := p.columnOverride.isSome

def operations? (p : Property) : Option CellOperations := classify p.type

def isSupported (p : Property) : Bool := p.operations?.isSome

def unsupported (p : Property) (operation : Operation) : Failure :=
  .unsupported ⟨p.name, p.type.declared, operation, p.columnOverride, p.site⟩

/-- the operations of the property's type, whatever column it is mapped to -/
def operations (p : Property) : Except Failure CellOperations :=
  match p.operations? with
  | some ops => .ok ops
  | none => .error (.unsupported ⟨p.name, p.type.declared, .read, none, p.site⟩)

def readExpression (p : Property) (settings : Settings) (cursor index : String) :
    Except Failure String :=
  p.operations.bind fun ops => ops.readExpression settings cursor index

def putStatement (p : Property) (settings : Settings) (values value : String) :
    Except Failure String :=
  p.operations.map fun _ => RowMapping.putStatement settings values p.column value

end Property
end RowMapping

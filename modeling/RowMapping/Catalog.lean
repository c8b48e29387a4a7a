import RowMapping.Failure
import RowMapping.Settings.Basic
import RowMapping.Text.Literal
import RowMapping.TypeName.Basic

/-!
# The catalog of native types

`classify` finds how a type is read from a row and put into a map of cells.  The catalog is closed,
a type with arguments is never in it, and `None` beside a type makes no difference.

A boolean is read as a number and compared with one.
-/

namespace RowMapping
open RowMapping.Text

/-- how cells of a kind are accessed, and what is written behind the access -/
structure CellOperations where
  kind : CellKind
  accessor : CellKind
  narrowing : Option String := none
deriving DecidableEq, Repr

namespace CellOperations

def plain (kind : CellKind) : CellOperations := { kind := kind, accessor := kind }

def boolean : CellOperations := { kind := .boolean, accessor := .int, narrowing := some "== 1" }

end CellOperations

/-- the native types by qualified name -/
def catalog : List (String × CellOperations) :=
  [("str", .plain .string), ("int", .plain .int),
   ("row_gen.annotations.Int64", .plain .long),
   ("row_gen.annotations.Int16", .plain .short),
   ("row_gen.annotations.Float32", .plain .float),
   ("float", .plain .double), ("bool", .boolean),
   ("bytes", .plain .blob), ("bytearray", .plain .blob)]

/-- the operations of a type, if it is native -/
def classify (t : TypeName) : Option CellOperations :=
  if t.args.isEmpty then catalog.lookup t.qualifiedName else none

/-! ### texts of the accesses -/

def RowStoreSettings.getter (r : RowStoreSettings) (kind : CellKind) : Except Failure String :=
  match r.getter? kind with
  | some name => .ok name
  | none => .error (.noGetter kind)

namespace CellOperations

/-- the expression that reads the cell at `index`, itself an expression, of `cursor` -/
def readExpression (ops : CellOperations) (settings : Settings) (cursor index : String) :
    Except Failure String :=
  (settings.rowStore.getter ops.accessor).map fun getter =>
    let access := cursor ++ "." ++ getter ++ "(" ++ index ++ ")"
    match ops.narrowing with
    | some narrowing => access ++ " " ++ narrowing
    | none => access

end CellOperations

/-- the statement that puts `value`, an expression, under a column into `values` -/
def putStatement (settings : Settings) (values column value : String) : String :=
  values ++ "." ++ settings.cellMap.put ++ "(" ++ literal column ++ ", " ++ value ++ ")"

end RowMapping

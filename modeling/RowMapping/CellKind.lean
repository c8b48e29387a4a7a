/-!
# Cell kinds

The native kinds of values that a row holds and a map of cells accepts.
-/

namespace RowMapping

inductive CellKind where
  | string | int | long | short | float | double | boolean | blob
deriving DecidableEq, Repr

namespace CellKind

def all : List CellKind := [string, int, long, short, float, double, boolean, blob]

def text : CellKind → String
  | string => "string"
  | int => "int"
  | long => "long"
  | short => "short"
  | float => "float"
  | double => "double"
  | boolean => "boolean"
  | blob => "blob"

def ofText? (s : String) : Option CellKind := all.find? (·.text = s)

theorem ofText?_text (k : CellKind) : ofText? k.text = some k := by cases k <;> decide

end CellKind
end RowMapping

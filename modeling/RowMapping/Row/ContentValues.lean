import RowMapping.Row.Cursor

/-!
# Content values

A map from columns to cells in the order in which the columns were first written.
-/

namespace RowMapping

structure ContentValues where
  entries : List (String × Cell) := []

namespace ContentValues

def empty : ContentValues := {}

/-- entries with the cell of a column replaced in place, or added at the end -/
def putEntry (column : String) (v : Cell) : List (String × Cell) → List (String × Cell)
  | [] => [(column, v)]
  | (k, w) :: rest => if k = column then (k, v) :: rest else (k, w) :: putEntry column v rest

def put (values : ContentValues) (column : String) (v : Cell) : ContentValues :=
  ⟨putEntry column v values.entries⟩

def putAll (values : ContentValues) : List (String × Cell) → ContentValues
  | [] => values
  | (column, v) :: rest => (values.put column v).putAll rest

/-- the map of these entries, a later one of a column in place of an earlier one -/
def ofList (entries : List (String × Cell)) : ContentValues := empty.putAll entries

/-- the row of the map, as a cursor reads it -/
def cursor (values : ContentValues) : Cursor := .ofEntries values.entries

theorem putEntry_nil (column : String) (v : Cell) : putEntry column v [] = [(column, v)] := rfl
theorem putEntry_cons (column : String) (v : Cell) (e : String × Cell)
    (rest : List (String × Cell)) :
    putEntry column v (e :: rest)
      = if e.1 = column then (e.1, v) :: rest else e :: putEntry column v rest := rfl
theorem putAll_nil (values : ContentValues) : values.putAll [] = values := rfl
theorem putAll_cons (values : ContentValues) (e : String × Cell) (rest : List (String × Cell)) :
    values.putAll (e :: rest) = (values.put e.1 e.2).putAll rest := rfl

end ContentValues
end RowMapping

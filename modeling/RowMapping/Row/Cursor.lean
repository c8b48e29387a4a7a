import RowMapping.Row.Cell

/-!
# Cursors

A cursor has the names of its columns and stands on a row or on none.  Where a column name comes
twice it means the first of them.
-/

namespace RowMapping
open RowMapping.Text

structure Cursor where
  columns : List String
  row : Option (List Cell) := none

inductive RowError where
  | columnNotFound (column : String) (available : List String)
  | notPositioned
  | noColumn (index : Int)
  | shortRow
  | cell (error : CellError)
  | closed
  | noResultSet
deriving DecidableEq, Repr

def RowError.message : RowError → String
  | columnNotFound column available =>
    "Column '" ++ column ++ "' does not exist. Available columns: " ++ shownList available
  | notPositioned => "Cursor is not positioned on a row"
  | noColumn index => "Column index " ++ toString index ++ " out of range"
  | shortRow => "list index out of range"
  | cell error => error.message
  | closed => "Cannot operate on a closed cursor."
  | noResultSet => "Cursor has no result set"

namespace Cursor

def ofEntries (entries : List (String × Cell)) : Cursor :=
  { columns := entries.map (·.1), row := some (entries.map (·.2)) }

/-- a table with the index of a column, if it has none yet -/
def addIndex (table : List (String × Nat)) (column : String × Nat) : List (String × Nat) :=
  if (table.lookup column.1).isSome then table else table ++ [column]

/-- the indexes of columns, one after the other -/
def indexTable (columns : List String) : List (String × Nat) := columns.zipIdx.foldl addIndex []

/-- the index of a column, or minus one -/
def columnIndex (c : Cursor) (column : String) : Int :=
  match (indexTable c.columns).lookup column with
  | some i => i
  | none => -1

def columnIndexOrError (c : Cursor) (column : String) : Except RowError Int :=
  if c.columnIndex column = -1 then .error (.columnNotFound column c.columns)
  else .ok (c.columnIndex column)

def cell (c : Cursor) (index : Int) : Except RowError Cell :=
  match c.row with
  | none => .error .notPositioned
  | some cells =>
    if index < 0 ∨ (c.columns.length : Int) ≤ index then .error (.noColumn index)
    else match cells[index.toNat]? with
      | some v => .ok v
      | none => .error .shortRow

def isNull (c : Cursor) (index : Int) : Except RowError Bool := (c.cell index).map (·.isNull)

def converted {α : Type} (c : Cursor) (convert : Cell → Except CellError α) (index : Int) :
    Except RowError α := do
  (convert (← c.cell index)).mapError .cell

def getText (c : Cursor) : Int → Except RowError (Option String) := c.converted Cell.toText

def getInt (c : Cursor) : Int → Except RowError Int := c.converted Cell.toInt

def getFloat (c : Cursor) : Int → Except RowError Float := c.converted Cell.toFloat

def getBlob (c : Cursor) : Int → Except RowError (Option (List UInt8)) := c.converted Cell.toBlob

/-! ### indexes of columns -/

theorem lookup_addIndex (table : List (String × Nat)) (column : String × Nat) (name : String) :
    (addIndex table column).lookup name = (table.lookup name).or ([column].lookup name) := by
  unfold addIndex
  split
  next h =>
    by_cases hname : name = column.1
    · rw [hname, Option.or_of_isSome h]
    · rw [List.lookup_cons, beq_eq_false_iff_ne.mpr hname, List.lookup_nil, Option.or_none]
  next h => rw [List.lookup_append]

theorem lookup_foldl_addIndex (columns : List (String × Nat)) (table : List (String × Nat))
    (name : String) :
    (columns.foldl addIndex table).lookup name = (table.lookup name).or (columns.lookup name) := by
  induction columns generalizing table with
  | nil => rw [List.foldl_nil, List.lookup_nil, Option.or_none]
  | cons column rest ih =>
    rw [List.foldl_cons, ih, lookup_addIndex, Option.or_assoc, ← List.lookup_append,
      List.singleton_append]

theorem lookup_zipIdx (columns : List String) (name : String) (start : Nat) :
    (columns.zipIdx start).lookup name = (columns.idxOf? name).map (start + ·) := by
  induction columns generalizing start with
  | nil => rfl
  | cons column rest ih =>
    rw [List.zipIdx_cons, List.lookup_cons, List.idxOf?_cons, ih]
    by_cases h : column = name
    · rw [beq_iff_eq.mpr h, beq_iff_eq.mpr h.symm]
      rfl
    · rw [beq_eq_false_iff_ne.mpr h, beq_eq_false_iff_ne.mpr (Ne.symm h)]
      simp only [Bool.false_eq_true, if_false, Option.map_map]
      congr 1
      funext i
      show start + 1 + i = start + (i + 1)
      omega

/-- of the columns of a name, the table has the first one -/
theorem lookup_indexTable (columns : List String) (name : String) :
    (indexTable columns).lookup name = columns.idxOf? name := by
  rw [indexTable, lookup_foldl_addIndex, List.lookup_nil, Option.none_or, lookup_zipIdx]
  simp

theorem columnIndex_of_not_mem {c : Cursor} {column : String} (h : column ∉ c.columns) :
    c.columnIndex column = -1 := by
  rw [columnIndex, lookup_indexTable, List.idxOf?_eq_none_iff.mpr h]

end Cursor
end RowMapping

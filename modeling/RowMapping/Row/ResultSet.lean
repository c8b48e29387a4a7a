import RowMapping.Row.Cursor

/-!
# Result sets

A result set is a cursor that moves over rows.  It stands before the first of them at first, and
on no row again once they are used up.  A closed one moves no more and keeps the row it is on.
-/

namespace RowMapping

structure ResultSet where
  cursor : Cursor
  pending : List (List Cell)
  isClosed : Bool := false

namespace ResultSet

/-- a result set of rows; a query without columns has none -/
def ofQuery (columns : Option (List String)) (rows : List (List Cell)) : Except RowError ResultSet :=
  match columns with
  | none => .error .noResultSet
  | some columns => .ok { cursor := { columns := columns }, pending := rows }

def close (s : ResultSet) : ResultSet := { s with isClosed := true }

/-- the result set on its next row, and whether there is one -/
def advance (s : ResultSet) : Bool × ResultSet :=
  match s.pending with
  | [] => (false, { s with cursor := { s.cursor with row := none } })
  | row :: rest => (true, { s with cursor := { s.cursor with row := some row }, pending := rest })

end ResultSet

/-- a step on a result set, which goes on to the next step also after an error -/
abbrev RowStep := ExceptT RowError (StateM ResultSet)

namespace RowStep
variable {α : Type}

def ask (query : Cursor → Except RowError α) : RowStep α := do
  match query (← get).cursor with
  | .ok x => return x
  | .error e => throw e

/-- Moves to the next row, and says whether there is one. -/
def moveToNext : RowStep Bool := do
  if (← get).isClosed then throw .closed
  modifyGet (·.advance)

def close : RowStep Unit := modify (·.close)

/-- the results of a step on at most `fuel` of the rows that are left -/
def mapWithin (step : RowStep α) : Nat → RowStep (List α)
  | 0 => pure []
  | fuel + 1 => do
    if ← moveToNext then
      let first ← step
      let others ← mapWithin step fuel
      return first :: others
    else return []

/-- The results of a step on every row that is left.  No step adds a row, so one move more than
rows are left reaches the end. -/
def mapAll (step : RowStep α) : RowStep (List α) := do
  mapWithin step ((← get).pending.length + 1)

end RowStep
end RowMapping

import RowMapping.CellKind

/-!
# Settings

The types that generated code talks to, the names of their methods, and the names that a unit
suggests for its own parts.  Every setting has a default, and `getter?` is the accessor of a row
for cells of one kind.
-/

namespace RowMapping

/-- the accessors of a row, one for each kind that has one -/
abbrev Getters := List (CellKind × String)

def defaultGetters : Getters :=
  [(.string, "get_string"), (.int, "get_int"), (.long, "get_long"), (.short, "get_short"),
   (.float, "get_float"), (.double, "get_double"), (.blob, "get_blob")]

structure RowStoreSettings where
  type : String := "row_gen.runtime.protocol.Cursor"
  indexOrThrow : String := "get_column_index_or_throw"
  index : String := "get_column_index"
  isNull : String := "is_null"
  missingIndex : Int := -1
  getters : Getters := defaultGetters
deriving DecidableEq, Repr

structure CellMapSettings where
  type : String := "row_gen.runtime.protocol.ContentValues"
  put : String := "put"
  putAll : String := "put_all"
deriving DecidableEq, Repr

structure AdapterSettings where
  readMethod : String := "from_cursor"
  writeMethod : String := "to_content_values"
deriving DecidableEq, Repr

structure Settings where
  rowStore : RowStoreSettings := {}
  cellMap : CellMapSettings := {}
  adapter : AdapterSettings := {}
  readFunction : String := "create_from_cursor"
  mapperName : String := "MAPPER"
  cursorParam : String := "cursor"
  valueParam : String := "value"
  valuesVar : String := "values"
deriving DecidableEq, Repr

def RowStoreSettings.getter? (r : RowStoreSettings) (kind : CellKind) : Option String :=
  r.getters.lookup kind

theorem getter?_default_of_ne_boolean {kind : CellKind} (h : kind ≠ .boolean) :
    (({} : RowStoreSettings).getter? kind).isSome = true := by
  cases kind <;> first | rfl | exact absurd rfl h

end RowMapping

import RowMapping.Catalog
import RowMapping.Proofs.FirstSeen
import RowMapping.Row.ContentValues

/-!
# What is stored is loaded

A map of cells is filled by writes, one entry or those of another map.  `Holds` says what a map is
after its writes: its columns are in the order of their first write, and each has the cell of its
last one.  Every write preserves this, and so does a run of them.

A cursor over such a map finds every column at its place, with its cell, and a value of a native
type comes back from the accessor and the narrowing of its type as it was written:
`loads_of_writes`.
-/

namespace RowMapping

/-! ### accessors -/

/-- a text that may be missing, as a cell -/
def Cell.ofText : Option String → Cell
  | none => .null
  | some s => .text s

/-- bytes that may be missing, as a cell -/
def Cell.ofBlob : Option (List UInt8) → Cell
  | none => .null
  | some bytes => .blob bytes

/-- the accessors of a cursor, by the names that generated code calls them by -/
def Cursor.accessor? (name : String) : Option (Cursor → Int → Except RowError Cell) :=
  match name with
  | "get_string" => some fun c index => (c.getText index).map .ofText
  | "get_int" | "get_long" | "get_short" => some fun c index => (c.getInt index).map .int
  | "get_float" | "get_double" => some fun c index => (c.getFloat index).map .real
  | "get_blob" => some fun c index => (c.getBlob index).map .ofBlob
  | _ => none

/-- The value of an expression with a narrowing behind it: `== 1` asks whether a number is one. -/
def Cell.narrowed (v : Cell) : Option String → Option Cell
  | none => some v
  | some narrowing =>
    match narrowing, v with
    | "== 1", .int n => some (.bool (n == 1))
    | _, _ => none

/-- what generated code makes of the cell at an index for a type with these operations, if the
settings name an accessor that there is and the narrowing makes sense of what it answers -/
def CellOperations.load (ops : CellOperations) (store : RowStoreSettings) (c : Cursor)
    (index : Int) : Option (Except RowError Cell) := do
  let name ← store.getter? ops.accessor
  let access ← Cursor.accessor? name
  match access c index with
  | .ok v => (v.narrowed ops.narrowing).map .ok
  | .error e => some (.error e)

/-- whether a cell is a value of the native types of a kind, bytes for all blobs -/
def CellKind.isKindOf : CellKind → Cell → Bool
  | .string, .text _ => true
  | .int, .int _ | .long, .int _ | .short, .int _ => true
  | .float, .real _ | .double, .real _ => true
  | .boolean, .bool _ => true
  | .blob, .blob _ => true
  | _, _ => false

/-- the kinds of integers -/
def CellKind.isIntegral (k : CellKind) : Bool := k == .int || k == .long || k == .short

/-! ### writes -/

/-- a write into a map of cells: one entry, or those of another map -/
inductive CellWrite where
  | put (column : String) (v : Cell)
  | putAll (entries : List (String × Cell))

def CellWrite.entries : CellWrite → List (String × Cell)
  | put column v => [(column, v)]
  | putAll entries => entries

/-- all entries that are written, one after the other -/
def written (writes : List CellWrite) : List (String × Cell) := writes.flatMap CellWrite.entries

/-- the columns that are written, in the order of their first write -/
def writtenColumns (writes : List CellWrite) : List String :=
  ((written writes).map (·.1)).eraseDups

/-- the cell that is written last under a column -/
def lastWritten (entries : List (String × Cell)) (column : String) : Option Cell :=
  entries.reverse.lookup column

theorem lastWritten_concat (entries : List (String × Cell)) (column other : String) (v : Cell) :
    lastWritten (entries ++ [(column, v)]) other
      = if other = column then some v else lastWritten entries other := by
  unfold lastWritten
  rw [List.reverse_append, List.reverse_singleton, List.singleton_append, List.lookup_cons]
  by_cases h : other = column
  · rw [if_pos h, beq_iff_eq.mpr h]
  · rw [if_neg h, beq_eq_false_iff_ne.mpr h]

theorem exists_lastWritten {entries : List (String × Cell)} {column : String}
    (h : column ∈ entries.map (·.1)) : ∃ v, lastWritten entries column = some v := by
  rw [← Option.isSome_iff_exists, Option.isSome_iff_ne_none]
  intro hnone
  obtain ⟨e, he, rfl⟩ := List.mem_map.mp h
  have hne := List.lookup_eq_none_iff.mp hnone e (List.mem_reverse.mpr he)
  exact bne_iff_ne.mp hne rfl

namespace ContentValues

def write (values : ContentValues) : CellWrite → ContentValues
  | .put column v => values.put column v
  | .putAll entries => values.putAll entries

def writeAll (values : ContentValues) (writes : List CellWrite) : ContentValues :=
  writes.foldl write values

/-! ### one entry -/

theorem map_fst_putEntry_of_mem {column : String} {v : Cell} {entries : List (String × Cell)}
    (h : column ∈ entries.map (·.1)) :
    (putEntry column v entries).map (·.1) = entries.map (·.1) := by
  induction entries with
  | nil => cases h
  | cons e rest ih =>
    rw [putEntry_cons]
    by_cases he : e.1 = column
    · rw [if_pos he]
      rfl
    · rw [List.map_cons] at h
      have hrest := (List.mem_cons.mp h).resolve_left (Ne.symm he)
      rw [if_neg he, List.map_cons, List.map_cons, ih hrest]

theorem map_fst_putEntry_of_not_mem {column : String} {v : Cell} {entries : List (String × Cell)}
    (h : column ∉ entries.map (·.1)) :
    (putEntry column v entries).map (·.1) = entries.map (·.1) ++ [column] := by
  induction entries with
  | nil => rfl
  | cons e rest ih =>
    rw [List.map_cons, List.mem_cons, not_or] at h
    rw [putEntry_cons, if_neg (Ne.symm h.1), List.map_cons, ih h.2, List.map_cons,
      List.cons_append]

theorem lookup_putEntry (column other : String) (v : Cell) (entries : List (String × Cell)) :
    (putEntry column v entries).lookup other
      = if other = column then some v else entries.lookup other := by
  induction entries with
  | nil =>
    rw [putEntry_nil, List.lookup_cons, List.lookup_nil]
    by_cases h : other = column
    · rw [if_pos h, beq_iff_eq.mpr h]
    · rw [if_neg h, beq_eq_false_iff_ne.mpr h]
  | cons e rest ih =>
    rw [putEntry_cons, List.lookup_cons]
    by_cases he : e.1 = column
    · rw [if_pos he, List.lookup_cons, ← he]
      by_cases h : other = e.1
      · rw [if_pos h, beq_iff_eq.mpr h]
      · rw [if_neg h, beq_eq_false_iff_ne.mpr h]
    · rw [if_neg he, List.lookup_cons]
      by_cases h : other = e.1
      · rw [beq_iff_eq.mpr h, if_neg (h ▸ he)]
      · rw [beq_eq_false_iff_ne.mpr h]
        exact ih

/-! ### runs of writes -/

/-- what a map of cells is after entries were written into it -/
structure Holds (values : ContentValues) (log : List (String × Cell)) : Prop where
  columns : values.entries.map (·.1) = (log.map (·.1)).eraseDups
  cells : ∀ column, values.entries.lookup column = lastWritten log column

variable {values : ContentValues} {log : List (String × Cell)}

theorem holds_empty : Holds empty [] where
  columns := rfl
  cells _ := rfl

theorem Holds.put (h : Holds values log) (column : String) (v : Cell) :
    Holds (values.put column v) (log ++ [(column, v)]) where
  columns := by
    show (putEntry column v values.entries).map (·.1) = _
    rw [List.map_append]
    by_cases hmem : column ∈ log.map (·.1)
    · have hold : column ∈ values.entries.map (·.1) := by rwa [h.columns, List.mem_eraseDups]
      rw [map_fst_putEntry_of_mem hold, h.columns]
      exact (eraseDups_concat_of_mem hmem).symm
    · have hnew : column ∉ values.entries.map (·.1) := by rwa [h.columns, List.mem_eraseDups]
      rw [map_fst_putEntry_of_not_mem hnew, h.columns]
      exact (eraseDups_concat_of_not_mem hmem).symm
  cells other := by
    show (putEntry column v values.entries).lookup other = _
    rw [lookup_putEntry, lastWritten_concat, h.cells]

theorem Holds.putAll (h : Holds values log) (entries : List (String × Cell)) :
    Holds (values.putAll entries) (log ++ entries) := by
  induction entries generalizing values log with
  | nil => rwa [putAll_nil, List.append_nil]
  | cons e rest ih =>
    rw [putAll_cons, List.append_cons]
    exact ih (h.put e.1 e.2)

theorem Holds.write (h : Holds values log) (w : CellWrite) :
    Holds (values.write w) (log ++ w.entries) := by
  cases w with
  | put column v => exact h.put column v
  | putAll entries => exact h.putAll entries

theorem Holds.writeAll (h : Holds values log) (writes : List CellWrite) :
    Holds (values.writeAll writes) (log ++ written writes) := by
  induction writes generalizing values log with
  | nil =>
    show Holds values (log ++ [])
    rwa [List.append_nil]
  | cons w writes ih =>
    show Holds ((values.write w).writeAll writes) (log ++ (w.entries ++ written writes))
    rw [← List.append_assoc]
    exact ih (h.write w)

end ContentValues

/-! ### cursors over entries -/

namespace Cursor

theorem columnIndex_of_mem {c : Cursor} {column : String} (h : column ∈ c.columns) :
    c.columnIndex column = c.columns.idxOf column := by
  unfold columnIndex
  rw [lookup_indexTable, List.idxOf_eq_getD_idxOf?]
  cases hfind : c.columns.idxOf? column with
  | none => exact absurd h (List.idxOf?_eq_none_iff.mp hfind)
  | some i => rfl

theorem columnIndexOrError_of_mem {c : Cursor} {column : String} (h : column ∈ c.columns) :
    c.columnIndexOrError column = .ok (c.columns.idxOf column) := by
  unfold columnIndexOrError
  rw [columnIndex_of_mem h, if_neg (by omega)]

theorem columnIndexOrError_of_not_mem {c : Cursor} {column : String} (h : column ∉ c.columns) :
    c.columnIndexOrError column = .error (.columnNotFound column c.columns) := by
  unfold columnIndexOrError
  rw [columnIndex_of_not_mem h, if_pos rfl]

theorem getElem?_idxOf_of_lookup {entries : List (String × Cell)} {column : String} {v : Cell}
    (h : entries.lookup column = some v) :
    (entries.map (·.2))[(entries.map (·.1)).idxOf column]? = some v := by
  induction entries with
  | nil => cases h
  | cons e rest ih =>
    rw [List.lookup_cons] at h
    rw [List.map_cons, List.map_cons, List.idxOf_cons]
    by_cases he : column = e.1
    · rw [beq_iff_eq.mpr he] at h
      rw [beq_iff_eq.mpr he.symm]
      exact h
    · rw [beq_eq_false_iff_ne.mpr he] at h
      rw [beq_eq_false_iff_ne.mpr (Ne.symm he)]
      exact ih h

theorem cell_ofEntries {entries : List (String × Cell)} {column : String} {v : Cell}
    (h : entries.lookup column = some v) :
    (ofEntries entries).cell (((entries.map (·.1)).idxOf column : Nat) : Int) = .ok v := by
  have hcell := getElem?_idxOf_of_lookup h
  obtain ⟨hlt, -⟩ := List.getElem?_eq_some_iff.mp hcell
  rw [List.length_map] at hlt
  simp only [cell, ofEntries, List.length_map]
  rw [if_neg (by omega), Int.toNat_natCast, hcell]

/-! ### loading

What each kind in the catalog makes of a cell of its own. -/

/-- that a cursor finds a column at a place and reads the cell `v` there, as what it was written -/
structure Loads (c : Cursor) (column : String) (place : Nat) (v : Cell) : Prop where
  index : c.columnIndex column = place
  indexOrError : c.columnIndexOrError column = .ok place
  cell : c.cell place = .ok v
  null : v = .null → c.isNull place = .ok true
  native : ∀ t ops, classify t = some ops → ops.kind.isKindOf v = true →
    ops.load {} c place = some (.ok v)
  boolean : ∀ t ops b, classify t = some ops → ops.kind.isIntegral = true → v = .bool b →
    ops.load {} c place = some (.ok (.int (boolInt b)))

variable {c : Cursor} {index : Int} {v : Cell}

theorem plain_or_boolean_of_mem_catalog {name : String} {ops : CellOperations}
    (h : (name, ops) ∈ catalog) : ops = .boolean ∨ ∃ k, ops = .plain k ∧ k ≠ .boolean := by
  simp only [catalog, List.mem_cons, Prod.mk.injEq, List.not_mem_nil, or_false] at h
  rcases h with ⟨-, h⟩ | ⟨-, h⟩ | ⟨-, h⟩ | ⟨-, h⟩ | ⟨-, h⟩ | ⟨-, h⟩ | ⟨-, h⟩ | ⟨-, h⟩ | ⟨-, h⟩
  case inr.inr.inr.inr.inr.inr.inl => exact .inl h
  all_goals exact .inr ⟨_, h, by decide⟩

/-- What is loaded, from the accessor that the settings name and the narrowing behind it. -/
theorem load_eq_some {ops : CellOperations} {store : RowStoreSettings} {name : String}
    {access : Cursor → Int → Except RowError Cell} {w : Cell}
    (hname : store.getter? ops.accessor = some name) (haccess : accessor? name = some access)
    (hv : access c index = .ok v) (hw : v.narrowed ops.narrowing = some w) :
    ops.load store c index = some (.ok w) := by
  simp only [CellOperations.load, hname, haccess, hv, hw, Option.bind_eq_bind, Option.bind_some,
    Option.map_some]

theorem map_converted {α : Type} {convert : Cell → Except CellError α} {x : α} {wrap : α → Cell}
    (h : c.cell index = .ok v) (hx : convert v = .ok x) :
    (c.converted convert index).map wrap = .ok (wrap x) := by
  simp only [converted, h, bind, Except.bind, hx, Except.mapError, Except.map]

theorem load_plain {k : CellKind} (hk : k ≠ .boolean) (hkind : k.isKindOf v = true)
    (hcell : c.cell index = .ok v) : (CellOperations.plain k).load {} c index = some (.ok v) := by
  cases k <;> cases v <;> try cases hkind
  case boolean.bool b => exact absurd rfl hk
  case string.text s => exact load_eq_some rfl rfl (map_converted hcell rfl) rfl
  case int.int n | long.int n | short.int n =>
    exact load_eq_some rfl rfl (map_converted hcell rfl) rfl
  case float.real x | double.real x => exact load_eq_some rfl rfl (map_converted hcell rfl) rfl
  case blob.blob bytes => exact load_eq_some rfl rfl (map_converted hcell rfl) rfl

/-- a boolean is stored as it is, and read as one or zero before the narrowing -/
theorem load_boolean (hkind : CellKind.boolean.isKindOf v = true) (hcell : c.cell index = .ok v) :
    CellOperations.boolean.load {} c index = some (.ok v) := by
  cases v <;> try cases hkind
  case bool b =>
    refine load_eq_some rfl rfl (map_converted hcell rfl) ?_
    cases b <;> rfl

theorem load_bool_of_isIntegral {k : CellKind} {b : Bool} (hk : k.isIntegral = true)
    (hcell : c.cell index = .ok (.bool b)) :
    (CellOperations.plain k).load {} c index = some (.ok (.int (boolInt b))) := by
  cases k <;> try cases hk
  all_goals exact load_eq_some rfl rfl (map_converted hcell rfl) rfl

theorem mem_catalog_of_classify {t : TypeName} {ops : CellOperations}
    (h : classify t = some ops) : (t.qualifiedName, ops) ∈ catalog := by
  unfold classify at h
  split at h
  · obtain ⟨before, behind, heq, -⟩ := List.lookup_eq_some_iff.mp h
    rw [heq]
    exact List.mem_append_right _ List.mem_cons_self
  · cases h

theorem load_of_isKindOf {t : TypeName} {ops : CellOperations} (hops : classify t = some ops)
    (hkind : ops.kind.isKindOf v = true) (hcell : c.cell index = .ok v) :
    ops.load {} c index = some (.ok v) := by
  rcases plain_or_boolean_of_mem_catalog (mem_catalog_of_classify hops) with rfl | ⟨k, rfl, hk⟩
  · exact load_boolean hkind hcell
  · exact load_plain hk hkind hcell

theorem load_of_isIntegral {t : TypeName} {ops : CellOperations} {b : Bool}
    (hops : classify t = some ops) (hkind : ops.kind.isIntegral = true)
    (hcell : c.cell index = .ok (.bool b)) :
    ops.load {} c index = some (.ok (.int (boolInt b))) := by
  rcases plain_or_boolean_of_mem_catalog (mem_catalog_of_classify hops) with rfl | ⟨k, rfl, -⟩
  · cases hkind
  · exact load_bool_of_isIntegral hkind hcell

theorem loads_ofEntries {entries : List (String × Cell)} {column : String} {v : Cell}
    (h : entries.lookup column = some v) :
    (ofEntries entries).Loads column ((entries.map (·.1)).idxOf column) v := by
  have hmem : column ∈ (ofEntries entries).columns := by
    obtain ⟨before, behind, heq, -⟩ := List.lookup_eq_some_iff.mp h
    exact List.mem_map.mpr ⟨(column, v), heq ▸ List.mem_append_right _ List.mem_cons_self, rfl⟩
  have hcell := cell_ofEntries h
  exact {
    index := columnIndex_of_mem hmem
    indexOrError := columnIndexOrError_of_mem hmem
    cell := hcell
    null := by
      rintro rfl
      rw [isNull, hcell]
      rfl
    native := fun t ops hops hkind => load_of_isKindOf hops hkind hcell
    boolean := by
      rintro t ops b hops hkind rfl
      exact load_of_isIntegral hops hkind hcell }

end Cursor

/-! ### the row of a map -/

/-- The row of a map that was written has the written columns in the order of their first write,
each with the cell of its last one, which its type loads as it is.  It has no other column. -/
theorem loads_of_writes (writes : List CellWrite) (column : String) :
    let c := (ContentValues.empty.writeAll writes).cursor
    (column ∈ (written writes).map (·.1) → ∃ v, lastWritten (written writes) column = some v ∧
        c.Loads column ((writtenColumns writes).idxOf column) v) ∧
      (column ∉ (written writes).map (·.1) → c.columnIndex column = -1 ∧
        c.columnIndexOrError column
          = .error (.columnNotFound column (writtenColumns writes))) := by
  have hholds := ContentValues.holds_empty.writeAll writes
  rw [List.nil_append] at hholds
  have hcolumns : (ContentValues.empty.writeAll writes).cursor.columns = writtenColumns writes :=
    hholds.columns
  refine ⟨fun hwritten => ?_, fun hother => ?_⟩
  · obtain ⟨v, hv⟩ := exists_lastWritten hwritten
    have hloads := Cursor.loads_ofEntries ((hholds.cells column).trans hv)
    rw [hholds.columns] at hloads
    exact ⟨v, hv, hloads⟩
  · have hno : column ∉ (ContentValues.empty.writeAll writes).cursor.columns := by
      rwa [hcolumns, writtenColumns, List.mem_eraseDups]
    refine ⟨Cursor.columnIndex_of_not_mem hno, ?_⟩
    rw [Cursor.columnIndexOrError_of_not_mem hno, hcolumns]

/-- a column that is written twice keeps its first place and has the second value -/
theorem loads_of_writes_rewritten :
    let writes := [.put "id" (.int 7), .putAll [("active", .bool true), ("id", .int 8)]]
    let c := (ContentValues.empty.writeAll writes).cursor
    ("id" ∈ (written writes).map (·.1) ∧ c.Loads "id" 0 (.int 8)) ∧
      ("active" ∈ (written writes).map (·.1) ∧ c.Loads "active" 1 (.bool true)) ∧
      ("name" ∉ (written writes).map (·.1) ∧ c.columnIndex "name" = -1 ∧
        c.columnIndexOrError "name" = .error (.columnNotFound "name" ["id", "active"])) := by
  intro writes c
  have hid : "id" ∈ (written writes).map (·.1) := by decide
  have hactive : "active" ∈ (written writes).map (·.1) := by decide
  have hname : "name" ∉ (written writes).map (·.1) := by decide
  have hcolumns : writtenColumns writes = ["id", "active"] := rfl
  obtain ⟨v, hv, hloadsId⟩ := (loads_of_writes writes "id").1 hid
  obtain ⟨w, hw, hloadsActive⟩ := (loads_of_writes writes "active").1 hactive
  obtain rfl : Cell.int 8 = v := Option.some.inj hv
  obtain rfl : Cell.bool true = w := Option.some.inj hw
  rw [hcolumns] at hloadsId hloadsActive
  exact ⟨⟨hid, hloadsId⟩, ⟨hactive, hloadsActive⟩, hname, (loads_of_writes writes "name").2 hname⟩

end RowMapping

import RowMapping.Proofs.Fallible
import RowMapping.Proofs.Row.StoredCells

/-!
# Access to columns and cells

A cursor finds a column at the first place of its name.  A cell is out of reach where the cursor
stands on no row, where the index is none of a column, and where the row ends in front of it:
`OutOfReach` says which fault each case has.

All accessors read a cell in one way and convert it after that.  So they fail alike where the cell
is out of reach, have their defaults where it is empty, and any other fault is one of the
conversion of a cell that holds something: `findsFirst_and_readsAlike`.
-/

namespace RowMapping

/-- whether an error says that there is no cell at an index -/
def RowError.isIndexError : RowError → Bool
  | notPositioned | noColumn _ | shortRow => true
  | _ => false

namespace Cursor
variable {c : Cursor} {index : Int} {name : String} {e : RowError}

/-! ### columns -/

/-- a cursor finds every column at the first place of its name, and no other column -/
structure FindsFirst (c : Cursor) : Prop where
  first : ∀ (name : String) (i : Nat), c.columnIndex name = i ↔
    c.columns[i]? = some name ∧ ∀ j < i, c.columns[j]? ≠ some name
  missing : ∀ name, c.columnIndex name = -1 ↔ name ∉ c.columns
  found : ∀ name, name ∈ c.columns → c.columnIndexOrError name = .ok (c.columnIndex name)
  notFound : ∀ name, name ∉ c.columns →
    c.columnIndexOrError name = .error (.columnNotFound name c.columns)

theorem idxOf?_eq_some_iff_getElem? {columns : List String} {i : Nat} :
    columns.idxOf? name = some i ↔
      columns[i]? = some name ∧ ∀ j < i, columns[j]? ≠ some name := by
  rw [List.idxOf?_eq_some_iff, List.getElem?_eq_some_iff]
  constructor
  · rintro ⟨hi, hname, hfirst⟩
    refine ⟨⟨hi, hname⟩, fun j hj hother => ?_⟩
    obtain ⟨_, hsame⟩ := List.getElem?_eq_some_iff.mp hother
    exact hfirst j hj hsame
  · rintro ⟨⟨hi, hname⟩, hfirst⟩
    refine ⟨hi, hname, fun j hj hsame => hfirst j hj ?_⟩
    rw [List.getElem?_eq_getElem (by omega), hsame]

theorem columnIndex_eq_natCast_iff (i : Nat) :
    c.columnIndex name = i ↔ c.columns.idxOf? name = some i := by
  unfold columnIndex
  rw [lookup_indexTable]
  cases c.columns.idxOf? name with
  | none =>
    refine iff_of_false (fun h : (-1 : Int) = i => ?_) (fun h => by cases h)
    omega
  | some j =>
    rw [Option.some.injEq]
    exact Int.ofNat_inj

theorem columnIndex_eq_neg_one_iff : c.columnIndex name = -1 ↔ name ∉ c.columns := by
  constructor
  · intro h hmem
    rw [columnIndex_of_mem hmem] at h
    omega
  · exact columnIndex_of_not_mem

theorem findsFirst (c : Cursor) : c.FindsFirst where
  first _ i := (columnIndex_eq_natCast_iff i).trans idxOf?_eq_some_iff_getElem?
  missing _ := columnIndex_eq_neg_one_iff
  found _ h := by rw [columnIndexOrError_of_mem h, columnIndex_of_mem h]
  notFound _ := columnIndexOrError_of_not_mem

/-! ### cells out of reach -/

/-- why there is no cell at an index -/
inductive OutOfReach (c : Cursor) (index : Int) : RowError → Prop where
  | notPositioned : c.row = none → OutOfReach c index .notPositioned
  | noColumn {cells : List Cell} : c.row = some cells → (index < 0 ∨ c.columns.length ≤ index) →
      OutOfReach c index (.noColumn index)
  | shortRow {cells : List Cell} : c.row = some cells → 0 ≤ index → index < c.columns.length →
      cells.length ≤ index → OutOfReach c index .shortRow

theorem OutOfReach.isIndexError (h : c.OutOfReach index e) : e.isIndexError = true := by
  cases h <;> rfl

theorem cell_eq_error_iff : c.cell index = .error e ↔ c.OutOfReach index e := by
  constructor
  · intro h
    unfold cell at h
    split at h
    next hrow =>
      cases h
      exact .notPositioned hrow
    next cells hrow =>
      split at h
      next hout =>
        cases h
        exact .noColumn hrow hout
      next hin =>
        split at h
        next => cases h
        next hnone =>
          cases h
          have hshort := List.getElem?_eq_none_iff.mp hnone
          exact .shortRow hrow (by omega) (by omega) (by omega)
  · intro h
    cases h with
    | notPositioned hrow => rw [cell, hrow]
    | noColumn hrow hout =>
      rw [cell, hrow]
      exact if_pos hout
    | shortRow hrow hnonneg hlt hshort =>
      simp only [cell, hrow]
      rw [if_neg (by omega), List.getElem?_eq_none (by omega)]

theorem isNull_eq_error_iff : c.isNull index = .error e ↔ c.cell index = .error e := by
  unfold isNull
  cases c.cell index with
  | error other => rw [Except.map, Except.error.injEq, Except.error.injEq]
  | ok v => exact iff_of_false (fun h => by cases h) (fun h => by cases h)

theorem isNull_eq_ok_iff {b : Bool} :
    c.isNull index = .ok b ↔ ∃ v, c.cell index = .ok v ∧ v.isNull = b := by
  unfold isNull
  cases c.cell index with
  | error other => exact iff_of_false (fun h => by cases h) (fun ⟨_, h, _⟩ => by cases h)
  | ok v =>
    constructor
    · rintro h
      exact ⟨v, rfl, Except.ok.inj h⟩
    · rintro ⟨w, hw, rfl⟩
      cases hw
      rfl

/-! ### accessors -/

section converted
variable {α β : Type} {convert : Cell → Except CellError α}

theorem converted_of_error (h : c.cell index = .error e) : c.converted convert index = .error e := by
  rw [converted, h]
  rfl

theorem converted_of_ok {v : Cell} (h : c.cell index = .ok v) :
    c.converted convert index = (convert v).mapError .cell := by
  rw [converted, h]
  rfl

theorem map_converted_eq (wrap : α → β) :
    (c.converted convert index).map wrap = c.converted (fun v => (convert v).map wrap) index := by
  cases h : c.cell index with
  | error e => rw [converted_of_error h, converted_of_error h, Except.map]
  | ok v =>
    rw [converted_of_ok h, converted_of_ok h]
    cases convert v <;> rfl

end converted

/-- what an accessor answers for an empty cell, by its name -/
def nullReading (name : String) : Cell :=
  match name with
  | "get_int" | "get_long" | "get_short" => .int 0
  | "get_float" | "get_double" => .real 0.0
  | _ => .null

/-- every accessor is the reading of a cell and a conversion that knows the empty cell -/
theorem exists_conversion {access : Cursor → Int → Except RowError Cell}
    (h : accessor? name = some access) : ∃ convert : Cell → Except CellError Cell,
      (∀ c index, access c index = c.converted convert index) ∧
        convert .null = .ok (nullReading name) := by
  unfold accessor? at h
  split at h <;> cases h
  all_goals exact ⟨_, fun _ _ => map_converted_eq _, rfl⟩

/-- every cell is read alike, whatever accessor reads it -/
structure ReadsAlike (c : Cursor) (index : Int) : Prop where
  outOfReach : ∀ e, c.isNull index = .error e ↔ c.OutOfReach index e
  failsAlike : ∀ e, e.isIndexError = true → (c.isNull index = .error e ↔
    ∀ name access, accessor? name = some access → access c index = .error e)
  null : c.isNull index = .ok true ↔
    ∀ name access, accessor? name = some access → access c index = .ok (nullReading name)
  otherFault : ∀ name access e, accessor? name = some access → access c index = .error e →
    e.isIndexError = false →
      ∃ v fault, c.cell index = .ok v ∧ v.isNull = false ∧ e = .cell fault

theorem failsAlike_iff (he : e.isIndexError = true) : c.isNull index = .error e ↔
    ∀ name access, accessor? name = some access → access c index = .error e := by
  rw [isNull_eq_error_iff]
  constructor
  · intro hcell name access haccess
    obtain ⟨convert, hconvert, -⟩ := exists_conversion haccess
    rw [hconvert, converted_of_error hcell]
  · intro hall
    have htext := hall "get_string" _ rfl
    rw [getText, map_converted_eq] at htext
    cases hcell : c.cell index with
    | error other => rwa [converted_of_error hcell] at htext
    | ok v =>
      rw [converted_of_ok hcell] at htext
      cases hconvert : (Cell.toText v).map Cell.ofText with
      | ok w => rw [hconvert] at htext; cases htext
      | error fault => rw [hconvert] at htext; cases htext; cases he

theorem null_iff : c.isNull index = .ok true ↔
    ∀ name access, accessor? name = some access → access c index = .ok (nullReading name) := by
  rw [isNull_eq_ok_iff]
  constructor
  · rintro ⟨v, hcell, hv⟩ name access haccess
    obtain ⟨convert, hconvert, hnull⟩ := exists_conversion haccess
    cases v <;> cases hv
    rw [hconvert, converted_of_ok hcell, hnull]
    rfl
  · intro hall
    have htext := hall "get_string" _ rfl
    rw [getText, map_converted_eq] at htext
    cases hcell : c.cell index with
    | error other => rw [converted_of_error hcell] at htext; cases htext
    | ok v =>
      refine ⟨v, rfl, (Cell.toText_eq_none_iff v).mp ?_⟩
      rw [converted_of_ok hcell] at htext
      cases hconvert : Cell.toText v with
      | error fault => rw [hconvert] at htext; cases htext
      | ok text =>
        rw [hconvert] at htext
        cases text with
        | none => rfl
        | some s => cases htext

theorem exists_of_otherFault {access : Cursor → Int → Except RowError Cell}
    (haccess : accessor? name = some access) (h : access c index = .error e)
    (he : e.isIndexError = false) :
    ∃ v fault, c.cell index = .ok v ∧ v.isNull = false ∧ e = .cell fault := by
  obtain ⟨convert, hconvert, hnull⟩ := exists_conversion haccess
  rw [hconvert] at h
  cases hcell : c.cell index with
  | error other =>
    rw [converted_of_error hcell] at h
    cases h
    rw [(cell_eq_error_iff.mp hcell).isIndexError] at he
    cases he
  | ok v =>
    rw [converted_of_ok hcell] at h
    cases v with
    | null => rw [hnull] at h; cases h
    | _ =>
      obtain ⟨fault, -, rfl⟩ := mapError_eq_error_iff.mp h
      exact ⟨_, fault, rfl, rfl, rfl⟩

/-- Columns are found at the first place of their name, and all accessors agree about every index:
they fail alike where there is no cell, have their defaults where it is empty, and fail on their own
only in the conversion of a cell that is not. -/
theorem findsFirst_and_readsAlike (c : Cursor) (index : Int) :
    c.FindsFirst ∧ c.ReadsAlike index :=
  ⟨c.findsFirst,
    { outOfReach := fun _ => isNull_eq_error_iff.trans cell_eq_error_iff
      failsAlike := fun _ => failsAlike_iff
      null := null_iff
      otherFault := fun _ _ _ => exists_of_otherFault }⟩

end Cursor
end RowMapping

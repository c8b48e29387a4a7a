import RowMapping.Number.Double
import RowMapping.Number.Numeral
import RowMapping.Settings.Basic
import RowMapping.Value

/-!
# Checking settings

`Settings.ofValue` reads settings off a data value.  Keys that no setting has are passed over, and
a missing key leaves the default.  Every fault is reported, in the order in which the settings are
declared, with the path to it.

Accessors that a value names replace the default ones kind by kind.
-/

namespace RowMapping
open RowMapping.Number RowMapping.Text

inductive IssueKind where
  | notSettings | notTable | notText | unknownKind
  | notInteger | badInteger | integerTooLarge | fractional | notFinite
deriving DecidableEq, Repr

def IssueKind.code : IssueKind → String
  | notSettings => "model_type"
  | notTable => "dict_type"
  | notText => "string_type"
  | unknownKind => "enum"
  | notInteger => "int_type"
  | badInteger => "int_parsing"
  | integerTooLarge => "int_parsing_size"
  | fractional => "int_from_float"
  | notFinite => "finite_number"

structure Issue where
  path : List String
  kind : IssueKind
deriving DecidableEq, Repr

/-- a value and the faults found on the way to it; it is of use only without faults -/
structure Checked (α : Type) where
  issues : List Issue
  value : α

namespace Checked
variable {α β : Type}

def pure (x : α) : Checked α := ⟨[], x⟩

/-- a fault, with a value that nothing uses -/
def fault (path : List String) (kind : IssueKind) (x : α) : Checked α := ⟨[⟨path, kind⟩], x⟩

/-- a checked function on a checked value, the faults of the function first -/
def seq (f : Checked (α → β)) (x : Checked α) : Checked β := ⟨f.issues ++ x.issues, f.value x.value⟩

def toExcept (c : Checked α) : Except (List Issue) α :=
  if c.issues.isEmpty then .ok c.value else .error c.issues

end Checked

/-! ### plain settings -/

def checkText (fallback : String) (path : List String) : Value → Checked String
  | .text s => .pure s
  | _ => .fault path .notText fallback

/-- white space without the four information separators -/
def isSettingBlank (c : Char) : Bool :=
  isBlank c && !(decide (0x1C ≤ c.toNat) && decide (c.toNat ≤ 0x1F))

/-- the part of a written integer in front of a fraction of zeros -/
def dropZeroFraction (s : List Char) : List Char :=
  if ((s.dropWhile (· ≠ '.')).drop 1).all (· = '0') then s.takeWhile (· ≠ '.') else s

/-- an integer written with an optional sign, single underscores between its digits, and an
optional fraction of zeros -/
def settingInteger? (s : List Char) : Option Int :=
  let (negative, body) := takeSign (trim isSettingBlank s)
  ((dropGrouping? ' ' (dropZeroFraction body)).bind natural?).map fun n =>
    if negative then -(n : Int) else n

/-- the most bytes that a written integer may have -/
def longestInteger : Nat := 4300

def checkWritten (fallback : Int) (path : List String) (s : List Char) : Checked Int :=
  if longestInteger < (String.ofList (trim isSettingBlank s)).utf8ByteSize then
    .fault path .integerTooLarge fallback
  else match settingInteger? s with
    | some n => .pure n
    | none => .fault path .badInteger fallback

/-- an integer of a finite double without a fraction, inside the range of 64 bits -/
def checkWhole (fallback : Int) (path : List String) (x : Double) : Checked Int :=
  match x.truncate? with
  | none => .fault path .notFinite fallback
  | some n =>
    if !x.isWhole then .fault path .fractional fallback
    else if -Int.pow 2 63 < n ∧ n < Int.pow 2 63 then .pure n
    else .fault path .integerTooLarge fallback

def checkInteger (fallback : Int) (path : List String) : Value → Checked Int
  | .int n => .pure n
  | .bool b => .pure (if b then 1 else 0)
  | .float x => checkWhole fallback path (Double.ofFloat x)
  | .text s => checkWritten fallback path s.toList
  | _ => .fault path .notInteger fallback

/-! ### accessors -/

def checkGetter (path : List String) (entry : String × Value) : Checked Getters :=
  let path := path ++ [entry.1]
  let name := checkText "" path entry.2
  match CellKind.ofText? entry.1 with
  | some kind => ⟨name.issues, [(kind, name.value)]⟩
  | none => ⟨⟨path ++ ["[key]"], .unknownKind⟩ :: name.issues, []⟩

def checkGetterEntries (path : List String) : List (String × Value) → Checked Getters
  | [] => .pure []
  | entry :: rest =>
    let first := checkGetter path entry
    let others := checkGetterEntries path rest
    ⟨first.issues ++ others.issues, first.value ++ others.value⟩

/-- the default accessors by the texts of their kinds -/
def defaultEntries : List (String × Value) := defaultGetters.map fun g => (g.1.text, .text g.2)

/-- entries in place of the default accessors of the same kinds, others behind them -/
def overDefaults (entries : List (String × Value)) : List (String × Value) :=
  entries.foldl (fun all e => Value.setKey e.1 e.2 all) defaultEntries

def checkGetters (path : List String) : Value → Checked Getters
  | .table entries => checkGetterEntries path (overDefaults entries)
  | _ => .fault path .notTable defaultGetters

/-! ### groups of settings -/

/-- the setting of a key, its default if the key is missing -/
def setting {α : Type} (check : List String → Value → Checked α) (fallback : α)
    (path : List String) (entries : List (String × Value)) (key : String) : Checked α :=
  match entries.lookup key with
  | some v => check (path ++ [key]) v
  | none => .pure fallback

/-- a group of settings, checked by `check` if the value is a table -/
def group {α : Type} (check : List String → List (String × Value) → Checked α) (fallback : α)
    (path : List String) : Value → Checked α
  | .table entries => check path entries
  | _ => .fault path .notSettings fallback

/-- the settings of a row whose accessors are checked already -/
def checkRowStoreOver (getters : Checked Getters) (path : List String)
    (entries : List (String × Value)) : Checked RowStoreSettings :=
  let d : RowStoreSettings := {}
  let text (fallback key : String) := setting (checkText fallback) fallback path entries key
  (((((Checked.pure RowStoreSettings.mk
    |>.seq (text d.type "type"))
    |>.seq (text d.indexOrThrow "index_or_throw"))
    |>.seq (text d.index "index"))
    |>.seq (text d.isNull "is_null"))
    |>.seq (setting (checkInteger d.missingIndex) d.missingIndex path entries "missing_index"))
    |>.seq getters

def checkRowStore (path : List String) (entries : List (String × Value)) :
    Checked RowStoreSettings :=
  checkRowStoreOver (setting checkGetters defaultGetters path entries "getters") path entries

def checkCellMap (path : List String) (entries : List (String × Value)) :
    Checked CellMapSettings :=
  let d : CellMapSettings := {}
  let text (fallback key : String) := setting (checkText fallback) fallback path entries key
  ((Checked.pure CellMapSettings.mk
    |>.seq (text d.type "type"))
    |>.seq (text d.put "put"))
    |>.seq (text d.putAll "put_all")

def checkAdapter (path : List String) (entries : List (String × Value)) :
    Checked AdapterSettings :=
  let d : AdapterSettings := {}
  let text (fallback key : String) := setting (checkText fallback) fallback path entries key
  (Checked.pure AdapterSettings.mk
    |>.seq (text d.readMethod "read_method"))
    |>.seq (text d.writeMethod "write_method")

/-- settings whose row is checked already -/
def checkSettingsOver (rowStore : Checked RowStoreSettings) (path : List String)
    (entries : List (String × Value)) : Checked Settings :=
  let d : Settings := {}
  let text (fallback key : String) := setting (checkText fallback) fallback path entries key
  (((((((Checked.pure Settings.mk
    |>.seq rowStore)
    |>.seq (setting (group checkCellMap d.cellMap) d.cellMap path entries "cell_map"))
    |>.seq (setting (group checkAdapter d.adapter) d.adapter path entries "adapter"))
    |>.seq (text d.readFunction "read_function"))
    |>.seq (text d.mapperName "mapper_name"))
    |>.seq (text d.cursorParam "cursor_param"))
    |>.seq (text d.valueParam "value_param"))
    |>.seq (text d.valuesVar "values_var")

def checkSettings (path : List String) (entries : List (String × Value)) : Checked Settings :=
  checkSettingsOver (setting (group checkRowStore {}) {} path entries "row_store") path entries

/-- the settings of a data value, or every fault in it -/
def Settings.ofValue (v : Value) : Except (List Issue) Settings :=
  (group checkSettings {} [] v).toExcept

end RowMapping

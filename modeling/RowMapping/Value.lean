/-!
# Data values

What a document holds: nested tables and lists of plain values.  Dates and times are values of
their own, whose contents nothing reads.
-/

namespace RowMapping

inductive Value where
  | null
  | bool (b : Bool)
  | int (n : Int)
  | float (x : Float)
  | text (s : String)
  | moment
  | list (items : List Value)
  | table (entries : List (String × Value))
deriving Inhabited

namespace Value

def get? (key : String) : Value → Option Value
  | table entries => entries.lookup key
  | _ => none

/-- a table with the value of one key replaced in place, or added at the end -/
def setKey (key : String) (v : Value) : List (String × Value) → List (String × Value)
  | [] => [(key, v)]
  | (k, w) :: rest => if k = key then (k, v) :: rest else (k, w) :: setKey key v rest

theorem setKey_nil (key : String) (v : Value) : setKey key v [] = [(key, v)] := rfl

theorem lookup_setKey_self (key : String) (v : Value) (entries : List (String × Value)) :
    (setKey key v entries).lookup key = some v := by
  induction entries with
  | nil => simp [setKey]
  | cons e rest ih =>
    obtain ⟨k, w⟩ := e
    by_cases h : k = key
    · simp [setKey, h]
    · have : (key == k) = false := by simpa using fun e => h e.symm
      simp [setKey, h, List.lookup_cons, this, ih]

/-! ### entries of a table -/

def text? (entries : List (String × Value)) (key : String) : Option String :=
  match entries.lookup key with
  | some (.text s) => some s
  | _ => none

/-- the list under a key, empty if the key is missing -/
def items (entries : List (String × Value)) (key : String) : List Value :=
  match entries.lookup key with
  | some (.list vs) => vs
  | _ => []

def bool? (entries : List (String × Value)) (key : String) : Option Bool :=
  match entries.lookup key with
  | some (.bool b) => some b
  | _ => none

/-- the value under a key, if it is there and not null -/
def present? (entries : List (String × Value)) (key : String) : Option Value :=
  match entries.lookup key with
  | some .null => none
  | v => v

/-- whether the value under a key is true -/
def flag (entries : List (String × Value)) (key : String) : Bool :=
  (bool? entries key).getD false

end Value
end RowMapping

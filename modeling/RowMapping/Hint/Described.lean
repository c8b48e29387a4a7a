import RowMapping.Hint.Basic
import RowMapping.Text.Blank
import RowMapping.Text.Identifier
import RowMapping.Text.Joined
import RowMapping.Value

/-!
# Hints as data

A hint is described by a data value: a name stands for itself, and a table for a compound hint,
with the key that says which.  `Hint.ofValue?` reads a description from the inside out: each part
of a table is read before the table is.
-/

namespace RowMapping
open RowMapping.Text

/-! ### names -/

def plainClasses : List String :=
  ["int", "str", "float", "bool", "bytes", "bytearray", "complex", "object", "list", "dict", "set",
   "frozenset", "tuple", "type"]

/-- the class with a dotted name -/
def ClassRef.ofDotted (name : String) : ClassRef :=
  { name := afterLastDot name, module := beforeLastDot name }

def Hint.ofText (s : String) : Hint :=
  if s = "None" then .none
  else if s = "Any" then .any
  else if s = "..." then .ellipsis
  else if s = "Cursor" then .cls .cursor
  else if s = "ContentValues" then .cls .contentValues
  else if ["Int16", "Int64", "Float32"].contains s then .newType s "row_gen.annotations"
  else if plainClasses.contains s then .cls (.builtin s)
  else .cls (.ofDotted s)

/-- the module under a key; a missing one is that of the classes without a module -/
def moduleOf (entries : List (String × Value)) : String :=
  ((Value.text? entries "module").filter (· ≠ "")).getD builtins

def ClassRef.ofValue? : Value → Option ClassRef
  | .text s =>
    match Hint.ofText s with
    | .cls c => some c
    | _ => none
  | .table entries =>
    (Value.text? entries "class").map fun name => { name := name, module := moduleOf entries }
  | _ => none

/-! ### markers and plain values -/

def Marker.ofValue? : Value → Option Marker
  | .table entries =>
    (((Value.text? entries "column").map .column).or
      (((entries.lookup "adapter").bind ClassRef.ofValue?).map .adapter)).or
      ((((entries.lookup "factory").bind ClassRef.ofValue?).map .factory).or
        ((Value.text? entries "other").map .other))
  | _ => none

def Scalar.ofValue? : Value → Option Scalar
  | .null => some .none
  | .text s => some (.text s)
  | .int n => some (.int n)
  | .bool b => some (.bool b)
  | _ => none

/-! ### quoted hints -/

/-- whether a text begins with two words, as no expression does -/
def isPhrase (s : String) : Bool :=
  let first := s.toList.takeWhile isWordChar
  let behind := s.toList.drop first.length
  let second := (behind.dropWhile isAsciiBlank).takeWhile isWordChar
  let isWord (w : List Char) : Bool := !w.isEmpty && !isKeyword (String.ofList w)
  behind.head?.any isAsciiBlank && isWord first && isWord second

/-- a quoted hint; its names are defined nowhere -/
def Hint.ofQuoted (s : String) : Hint := .text s (if isPhrase s then .malformed else .undefined)

example : isPhrase "the width" = true ∧ isPhrase "app.User" = false ∧ isPhrase "a or b" = false := by
  decide +kernel

/-! ### compound hints -/

/-- a part of a described hint: one hint or a list of them, as far as it is a hint at all -/
inductive Piece where
  | one (h : Option Hint)
  | many (hs : List (Option Hint))

def Piece.one? : Piece → Option Hint
  | one h => h
  | many _ => none

def Piece.many? : Piece → Option (List Hint)
  | one _ => none
  | many hs => hs.mapM id

/-- the parameters of a callable: hints, or a lone ellipsis -/
def Piece.params? : Piece → Option (List Hint)
  | one h => h.map fun h => [h]
  | many hs => hs.mapM id

/-- a table with the parts of a hint, each under its key and read already -/
structure Pieces where
  entries : List (String × Value)
  read : List (String × Piece)

namespace Pieces

def one? (p : Pieces) (key : String) : Option Hint := (p.read.lookup key).bind Piece.one?

def many? (p : Pieces) (key : String) : Option (List Hint) := (p.read.lookup key).bind Piece.many?

def class? (p : Pieces) : Option Hint :=
  (Value.text? p.entries "class").map fun name =>
    .cls { name := name, module := moduleOf p.entries }

def newType? (p : Pieces) : Option Hint :=
  (Value.text? p.entries "newtype").map fun name => .newType name (moduleOf p.entries)

def generic? (p : Pieces) : Option Hint :=
  ((p.entries.lookup "generic").bind ClassRef.ofValue?).bind fun origin =>
    (p.many? "args").map (.generic origin)

def callable? (p : Pieces) : Option Hint :=
  ((p.read.lookup "callable").bind Piece.params?).bind fun params =>
    (p.one? "returns").map (.callable params)

def annotated? (p : Pieces) : Option Hint :=
  (p.one? "annotated").bind fun h =>
    ((Value.items p.entries "markers").mapM Marker.ofValue?).map h.annotate

def literal? (p : Pieces) : Option Hint :=
  match p.entries.lookup "literal" with
  | some (.list vs) => (vs.mapM Scalar.ofValue?).map fun vs => .literal vs.eraseDups
  | _ => none

def quoted? (p : Pieces) : Option Hint :=
  (Value.text? p.entries "forward").map .ofQuoted

def value? (p : Pieces) : Option Hint :=
  ((p.entries.lookup "value").bind Scalar.ofValue?).map .value

/-- the readings of a table, of which the first that applies counts -/
def readings (p : Pieces) : List (Option Hint) :=
  [p.class?, p.newType?, (p.many? "union").map .unionOf, (p.many? "bar").map .unionOf,
   (p.one? "optional").map .optional, p.generic?, p.callable?, p.annotated?,
   (p.many? "list").map .list, p.literal?, (p.one? "classvar").map (.classVar ·.named),
   (p.one? "initvar").map .initVar, p.quoted?,
   (Value.text? p.entries "forwardref").map fun name => .forward name, p.value?]

def hint? (p : Pieces) : Option Hint := p.readings.findSome? id

end Pieces

mutual

def Hint.ofValue? : Value → Option Hint
  | .text s => some (.ofText s)
  | .table entries => Pieces.hint? ⟨entries, Hint.piecesOf entries⟩
  | _ => none

def Hint.listOf : List Value → List (Option Hint)
  | [] => []
  | v :: vs => Hint.ofValue? v :: Hint.listOf vs

def Hint.pieceOf : Value → Piece
  | .list items => .many (Hint.listOf items)
  | v => .one (Hint.ofValue? v)

def Hint.piecesOf : List (String × Value) → List (String × Piece)
  | [] => []
  | (key, v) :: rest => (key, Hint.pieceOf v) :: Hint.piecesOf rest

end

end RowMapping

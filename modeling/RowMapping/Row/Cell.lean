import RowMapping.Number.Numeral
import RowMapping.Number.Written
import RowMapping.Text.Shown

/-!
# Cells

A cell holds nothing or a value of its own kind.  It is read as a text, an integer, a number or
bytes, with a conversion where its kind is another; an empty cell reads as zero where a number is
asked for.

`toText` fails on an integer of too many digits, `toInt` and `toFloat` on a text that is no number,
and `toBlob` on all but bytes and counts, a count standing for that many zero bytes.
-/

namespace RowMapping
open RowMapping.Number RowMapping.Text

inductive Cell where
  | null
  | text (s : String)
  | bool (b : Bool)
  | int (n : Int)
  | real (x : Float)
  | blob (bytes : List UInt8)
deriving Inhabited

inductive CellError where
  | notInteger (shown : String)
  | tooManyDigits (count : Nat)
  | tooLongToShow
  | notNumber (shown : String)
  | nanToInteger
  | infinityToInteger
  | integerTooLarge
  | textToBytes
  | realToBytes
  | negativeCount
  | countTooLarge
  | bytesTooLong
  | outOfMemory
deriving DecidableEq, Repr

def CellError.message : CellError → String
  | notInteger shown => "invalid literal for int() with base 10: " ++ shown
  | tooManyDigits count => tooManyDigitsText (digitsFoundText count)
  | tooLongToShow => tooManyDigitsText ""
  | notNumber shown => "could not convert string to float: " ++ shown
  | nanToInteger => "cannot convert float NaN to integer"
  | infinityToInteger => "cannot convert float infinity to integer"
  | integerTooLarge => "int too large to convert to float"
  | textToBytes => "string argument without an encoding"
  | realToBytes => "cannot convert 'float' object to bytes"
  | negativeCount => "negative count"
  | countTooLarge => "cannot fit 'int' into an index-sized integer"
  | bytesTooLong => "byte string is too large"
  | outOfMemory => ""

/-! ### integers and numbers -/

/-- the number of digits at the front of a written integer, if no underscore is out of place
among them -/
def frontDigits (s : List Char) : Nat :=
  let body := (takeSign (s.dropWhile isAsciiBlank)).2
  ((dropGrouping? ' ' (body.takeWhile fun c => c.isDigit || c == '_')).map List.length).getD 0

/-- the most characters that a diagnostic shows of what is no integer -/
def shownLimit : Nat := 200

/-- the integer that a text writes; a diagnostic shows the front of `shown` -/
def writtenInteger (shown : String) (s : List Char) : Except CellError Int :=
  if digitLimit < frontDigits s then .error (.tooManyDigits (frontDigits s))
  else match integer? s with
    | some n => .ok n
    | none => .error (.notInteger (String.ofList (shown.toList.take shownLimit)))

/-- the number that a text writes, `shown` in diagnostics -/
def writtenNumber (shown : String) (s : List Char) : Except CellError Float :=
  match float? s with
  | some x => .ok x
  | none => .error (.notNumber shown)

def byteChars (bytes : List UInt8) : List Char := bytes.map fun b => Char.ofNat b.toNat

/-- a number without its fraction -/
def truncated (x : Float) : Except CellError Int :=
  match (Double.ofFloat x).truncate? with
  | some n => .ok n
  | none => .error (if x.isNaN then .nanToInteger else .infinityToInteger)

def nearest (n : Int) : Except CellError Float :=
  let x := roundDecimal n.natAbs 0
  if x.isInf then .error .integerTooLarge else .ok (if n < 0 then -x else x)

def zeroBytes (count : Int) : Except CellError (List UInt8) :=
  if Int.pow 2 63 ≤ count ∨ count < -Int.pow 2 63 then .error .countTooLarge
  else if count < 0 then .error .negativeCount
  else if Int.pow 2 63 - 34 < count then .error .bytesTooLong
  else if Int.pow 2 36 < count then .error .outOfMemory
  else .ok (List.replicate count.toNat 0)

def boolInt (b : Bool) : Int := if b then 1 else 0

def shownInteger (n : Int) : Except CellError String :=
  if digitLimit < digitCount n.natAbs then .error .tooLongToShow else .ok (intText n)

/-! ### readings -/

namespace Cell

def isNull : Cell → Bool
  | null => true
  | _ => false

def toText : Cell → Except CellError (Option String)
  | null => .ok none
  | text s => .ok (some s)
  | bool b => .ok (some (if b then "True" else "False"))
  | int n => (shownInteger n).map some
  | real x => .ok (some (floatText x))
  | blob bytes => .ok (some (shownBytes bytes))

def toInt : Cell → Except CellError Int
  | null => .ok 0
  | text s => writtenInteger (shown s) (plainDigits s.toList)
  | bool b => .ok (boolInt b)
  | int n => .ok n
  | real x => truncated x
  | blob bytes => writtenInteger (shownBytes (bytes.take shownLimit)) (byteChars bytes)

def toFloat : Cell → Except CellError Float
  | null => .ok 0.0
  | text s => writtenNumber (shown s) (plainDigits s.toList)
  | bool b => nearest (boolInt b)
  | int n => nearest n
  | real x => .ok x
  | blob bytes => writtenNumber (shownBytes bytes) (byteChars bytes)

def toBlob : Cell → Except CellError (Option (List UInt8))
  | null => .ok none
  | text _ => .error .textToBytes
  | bool b => (zeroBytes (boolInt b)).map some
  | int n => (zeroBytes n).map some
  | real _ => .error .realToBytes
  | blob bytes => .ok (some bytes)

theorem toText_eq_none_iff (c : Cell) : c.toText = .ok none ↔ c.isNull = true := by
  cases c with
  | int n => cases h : shownInteger n <;> simp [toText, isNull, h, Except.map]
  | _ => simp [toText, isNull]

end Cell
end RowMapping

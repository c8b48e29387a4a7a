import RowMapping.Text.Blank
import RowMapping.Text.Digit

/-!
# Numbers read from text

`integer?` reads a decimal integer: blanks around it, one sign, digits with single underscores
between them.  `float?` reads a decimal number with an optional point and power of ten, or one of
the words for infinity and for no number, under the same rules.  `plainDigits` first replaces the
blanks and the decimal digits of other scripts.

A decimal integer of more than `digitLimit` digits is neither read nor shown.
-/

namespace RowMapping.Number
open RowMapping.Text

def digitsValue (digits : List Char) : Nat :=
  digits.foldl (fun n c => 10 * n + (c.toNat - 48)) 0

/-- a text in which every underscore that stands between two digits is left out; none if an
underscore stands elsewhere -/
def dropGrouping? (previous : Char) : List Char → Option (List Char)
  | [] => some []
  | c :: rest =>
    if c = '_' then
      if previous.isDigit && (rest.head?.map Char.isDigit).getD false then dropGrouping? c rest
      else none
    else (dropGrouping? c rest).map (c :: ·)

/-- a first sign, true for minus, and the rest -/
def takeSign : List Char → Bool × List Char
  | '-' :: rest => (true, rest)
  | '+' :: rest => (false, rest)
  | s => (false, s)

def natural? (s : List Char) : Option Nat :=
  if !s.isEmpty && s.all Char.isDigit then some (digitsValue s) else none

def integer? (s : List Char) : Option Int :=
  let (negative, body) := takeSign (trim isAsciiBlank s)
  ((dropGrouping? ' ' body).bind natural?).map fun n => if negative then -(n : Int) else n

/-- the most digits that a written integer may have -/
def digitLimit : Nat := 4300

/-- a fault about an integer with too many digits, `found` of which says how many there are -/
def tooManyDigitsText (found : String) : String :=
  "Exceeds the limit (" ++ toString digitLimit ++ " digits) for integer string conversion" ++ found
    ++ "; use sys.set_int_max_str_digits() to increase the limit"

def digitsFoundText (count : Nat) : String := ": value has " ++ toString count ++ " digits"

/-! ### decimal fractions -/

/-- `digits * 10 ^ exponent` rounded to a double; a number beyond all doubles is infinity -/
def roundDecimal (digits : Nat) (exponent : Int) : Float :=
  let place := (Nat.toDigits 10 digits).length + exponent
  if digits = 0 ∨ place < -340 then 0.0
  else if 320 < place then 1.0 / 0.0
  else Float.ofScientific digits (decide (exponent < 0)) exponent.natAbs

/-- the power of ten after a mantissa: nothing, or the letter, a sign and digits -/
def powerOfTen? : List Char → Option Int
  | [] => some 0
  | c :: rest =>
    if c = 'e' || c = 'E' then
      let (negative, digits) := takeSign rest
      (natural? digits).map fun n => if negative then -(n : Int) else n
    else none

def decimal? (s : List Char) : Option Float :=
  let whole := s.takeWhile Char.isDigit
  let rest := s.dropWhile Char.isDigit
  let fraction := if rest.head? = some '.' then (rest.drop 1).takeWhile Char.isDigit else []
  let tail := if rest.head? = some '.' then (rest.drop 1).dropWhile Char.isDigit else rest
  if whole.isEmpty && fraction.isEmpty then none
  else (powerOfTen? tail).map fun power =>
    roundDecimal (digitsValue (whole ++ fraction)) (power - fraction.length)

def numberWord? (s : List Char) : Option Float :=
  let word := s.map Char.toLower
  if word = "inf".toList || word = "infinity".toList then some (1.0 / 0.0)
  else if word = "nan".toList then some (0.0 / 0.0)
  else none

def float? (s : List Char) : Option Float :=
  (dropGrouping? ' ' (trim isAsciiBlank s)).bind fun body =>
    let (negative, rest) := takeSign body
    ((numberWord? rest).or (decimal? rest)).map fun x => if negative then -x else x

/-! ### digits of other scripts -/

/-- the plain form of a blank or a digit of another script; any other such character is none of a
number -/
def plainDigit (c : Char) : Char :=
  if c.toNat < 127 then c
  else if isBlank c then ' '
  else match decimalValue? c with
    | some v => Char.ofNat (48 + v)
    | none => '?'

def plainDigits (s : List Char) : List Char := s.map plainDigit

end RowMapping.Number

import RowMapping.Number.Numeral
import RowMapping.Value
import RowMapping.Toml.Reader

/-!
# TOML numbers, dates and times

A number is an integer in base ten, or after a prefix in base sixteen, eight or two, or a float
with a point or a power of ten.  A date has to exist in the calendar; a time may follow it, and an
offset the time.
-/

namespace RowMapping.Toml
open RowMapping.Number

/-- the digits and the base of a number behind a first zero and this letter -/
def base? : Char → Option (Nat × (Char → Bool))
  | 'x' => some (16, isHexDigit)
  | 'o' => some (8, fun c => '0' ≤ c && c ≤ '7')
  | 'b' => some (2, fun c => c == '0' || c == '1')
  | _ => none

def prefixed : Reader Value
  | '0' :: c :: rest => do
    let (base, digit) ← base? c
    let (ds, rest) ← digits digit rest
    return (.int (valueInBase base ds), rest)
  | _ => none

/-- the digits in front of the point: a lone zero, or digits that begin with another one -/
def wholePart : Reader (List Char)
  | '0' :: rest => some (['0'], rest)
  | s => digits Char.isDigit s

/-- a point and the digits behind it, or no digits -/
def fractionPart : List Char → Option (List Char) × List Char
  | '.' :: rest =>
    match digits Char.isDigit rest with
    | some (ds, rest) => (some ds, rest)
    | none => (none, '.' :: rest)
  | s => (none, s)

/-- a power of ten, or none -/
def powerPart : List Char → Option Int × List Char
  | c :: rest =>
    if c = 'e' || c = 'E' then
      let (negative, body) := takeSign rest
      match digits Char.isDigit body with
      | some (ds, rest) =>
        let n : Int := valueInBase 10 ds
        (some (if negative then -n else n), rest)
      | none => (none, c :: rest)
    else (none, c :: rest)
  | [] => (none, [])

def plainNumber : ValueReader Value := fun s => do
  let (negative, body) := takeSign s
  let (whole, rest) ← wholePart body
  let (fraction, rest) := fractionPart rest
  let (power, rest) := powerPart rest
  if fraction.isNone && power.isNone then
    if digitLimit < whole.length then throw (.tooManyDigits whole.length)
    let n : Int := valueInBase 10 whole
    return (.int (if negative then -n else n), rest)
  else
    let fraction := fraction.getD []
    let x := roundDecimal (valueInBase 10 (whole ++ fraction)) (power.getD 0 - fraction.length)
    return (.float (if negative then -x else x), rest)

/-- infinity or no number, with an optional sign -/
def wordNumber : Reader Value := fun s => do
  let (negative, body) := takeSign s
  match after? "inf".toList body with
  | some rest => return (.float (if negative then -(1.0 / 0.0) else 1.0 / 0.0), rest)
  | none =>
    let rest ← after? "nan".toList body
    return (.float (0.0 / 0.0), rest)

def number : ValueReader Value := fun s =>
  match prefixed s, plainNumber s with
  | some r, _ => .ok r
  | none, .error .malformed => wordNumber s
  | none, r => r

/-! ### dates and times -/

def daysInMonth (year month : Nat) : Nat :=
  if month = 2 then
    (if year % 4 = 0 ∧ (year % 100 ≠ 0 ∨ year % 400 = 0) then 29 else 28)
  else if month = 4 ∨ month = 6 ∨ month = 9 ∨ month = 11 then 30
  else 31

/-- two digits of a number from `low` to `high` -/
def twoDigits (low high : Nat) : Reader Nat := fun s => do
  let (n, rest) ← fixedDigits 2 s
  if low ≤ n ∧ n ≤ high then return (n, rest) else failure

/-- the rest behind a time of day -/
def timeOfDay (s : List Char) : Option (List Char) := do
  let (_, s) ← twoDigits 0 23 s
  let s ← after? [':'] s
  let (_, s) ← twoDigits 0 59 s
  let s ← after? [':'] s
  let (_, s) ← twoDigits 0 59 s
  match s with
  | '.' :: c :: rest => return if c.isDigit then rest.dropWhile Char.isDigit else '.' :: c :: rest
  | s => return s

/-- the rest behind an optional offset -/
def skipOffset : List Char → List Char
  | [] => []
  | c :: rest =>
    if c = 'Z' || c = 'z' then rest
    else if c = '+' || c = '-' then
      let offset := do
        let (_, s) ← twoDigits 0 23 rest
        let s ← after? [':'] s
        let (_, s) ← twoDigits 0 59 s
        return s
      offset.getD (c :: rest)
    else c :: rest

/-- the rest behind an optional time after a date -/
def skipTime : List Char → List Char
  | [] => []
  | c :: rest =>
    if c = 'T' || c = 't' || c = ' ' then
      match timeOfDay rest with
      | some rest => skipOffset rest
      | none => c :: rest
    else c :: rest

/-- the year, month and day of a written date -/
def date : Reader (Nat × Nat × Nat) := fun s => do
  let (year, s) ← fixedDigits 4 s
  let s ← after? ['-'] s
  let (month, s) ← twoDigits 1 12 s
  let s ← after? ['-'] s
  let (day, s) ← twoDigits 1 31 s
  return ((year, month, day), s)

/-- a plain value that begins with none of the marks of the other values -/
def bareValue : ValueReader Value := fun s =>
  match date s with
  | some ((year, month, day), rest) =>
    if 1 ≤ year ∧ day ≤ daysInMonth year month then .ok (.moment, skipTime rest)
    else .error .malformed
  | none =>
    match timeOfDay s with
    | some rest => .ok (.moment, rest)
    | none => number s

end RowMapping.Toml

import RowMapping.Number.Shortest

/-!
# Numbers as text

`floatText` writes a double in its shortest decimal.  The point is written where the first digit
counts for `10 ^ -4` up to `10 ^ 15`, and a whole number keeps one zero behind it; all others have
an exponent with a sign and at least two digits.
-/

namespace RowMapping.Number

/-- decimal digits without the zeros at the end, and the power of ten above the first of them -/
def Decimal.significant (d : Decimal) : List Char × Int :=
  let digits := Nat.toDigits 10 d.digits
  ((digits.reverse.dropWhile (· = '0')).reverse, digits.length + d.exponent)

/-- digits with the point behind `place` of them -/
def pointed (digits : List Char) (place : Int) : List Char :=
  if place ≤ 0 then '0' :: '.' :: List.replicate (-place).toNat '0' ++ digits
  else
    let place := place.toNat
    let fraction := digits.drop place
    digits.take place ++ List.replicate (place - digits.length) '0' ++ '.' ::
      (if fraction.isEmpty then ['0'] else fraction)

/-- digits with the point behind the first one and the power of ten of the first one -/
def withExponent (digits : List Char) (power : Int) : List Char :=
  let sign := if power < 0 then '-' else '+'
  let shown := Nat.toDigits 10 power.natAbs
  digits.take 1 ++ (if digits.length ≤ 1 then [] else '.' :: digits.drop 1) ++
    'e' :: sign :: (List.replicate (2 - shown.length) '0' ++ shown)

/-- a positive number in its shortest decimal -/
def positiveText (m : Nat) (e : Int) : List Char :=
  let (digits, place) := (shortest m e).significant
  if -4 < place && place ≤ 16 then pointed digits place else withExponent digits (place - 1)

def Double.text : Double → String
  | .nan => "nan"
  | .infinite negative => if negative then "-inf" else "inf"
  | .finite negative m e =>
    let body := if m = 0 then "0.0" else String.ofList (positiveText m e)
    if negative then "-" ++ body else body

def floatText (x : Float) : String := (Double.ofFloat x).text

def intText (n : Int) : String :=
  if n < 0 then "-" ++ String.ofList (Nat.toDigits 10 n.natAbs)
  else String.ofList (Nat.toDigits 10 n.natAbs)

end RowMapping.Number

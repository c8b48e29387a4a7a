/-!
# The parts of a double

A double is a sign with infinity, no number at all, or a sign with `mantissa * 2 ^ exponent`.
`Double.ofFloat` reads the parts off the bits; what follows from them is exact arithmetic on
naturals and integers.
-/

namespace RowMapping.Number

inductive Double where
  | nan
  | infinite (negative : Bool)
  | finite (negative : Bool) (mantissa : Nat) (exponent : Int)
deriving DecidableEq, Repr

/-- the parts of the double with these 64 bits -/
def Double.ofBits (bits : Nat) : Double :=
  let negative := bits / Nat.pow 2 63 % 2 == 1
  let biased : Nat := bits / Nat.pow 2 52 % Nat.pow 2 11
  let fraction := bits % Nat.pow 2 52
  if biased = 2047 then (if fraction = 0 then .infinite negative else .nan)
  else if biased = 0 then .finite negative fraction (-1074)
  else .finite negative (Nat.pow 2 52 + fraction) ((biased : Int) - 1075)

def Double.ofFloat (x : Float) : Double := .ofBits x.toBits.toNat

/-- `m * 2 ^ e` without its fraction -/
def scaled (m : Nat) (e : Int) : Nat :=
  if 0 ≤ e then m * Nat.pow 2 e.toNat else m / Nat.pow 2 (-e).toNat

/-- the integer between a finite number and zero that is nearest to the number -/
def Double.truncate? : Double → Option Int
  | .finite negative m e => some (if negative then -(scaled m e) else scaled m e)
  | _ => none

def Double.isWhole : Double → Bool
  | .finite _ m e => decide (0 ≤ e) || m % Nat.pow 2 (-e).toNat == 0
  | _ => false

end RowMapping.Number

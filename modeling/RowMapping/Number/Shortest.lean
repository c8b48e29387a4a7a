import RowMapping.Number.Double

/-!
# The shortest decimal of a double

`shortest m e` is the decimal with the fewest digits that reads back as the double `m * 2 ^ e`,
and of those the one nearest to it.  A decimal reads back as the double when it lies between the
middles of the gaps to the two neighbours, where the middles themselves count if `m` is even.  All
bounds are taken four times as large, so that they are integers over one denominator.

For 1, 2, ... 17 digits the two neighbours of the value on that decimal grid are tried.  If any
point of a grid lies between the bounds, so does one of these two.
-/

namespace RowMapping.Number

/-- the bounds of the decimals that read back as a double, and the double, over one denominator -/
structure ReadBack where
  low : Nat
  value : Nat
  high : Nat
  denominator : Nat
  closed : Bool

/-- The gap below is half as wide where the mantissa is the least of its exponent. -/
def ReadBack.of (m : Nat) (e : Int) : ReadBack :=
  let below := if m = Nat.pow 2 52 ∧ -1074 < e then 1 else 2
  let factor := Nat.pow 2 (e - 2).toNat
  { low := (4 * m - below) * factor
    value := 4 * m * factor
    high := (4 * m + 2) * factor
    denominator := Nat.pow 2 (2 - e).toNat
    closed := m % 2 == 0 }

/-- the same numbers with `10 ^ k` as the unit -/
def ReadBack.inUnits (r : ReadBack) (k : Int) : ReadBack :=
  { r with
    low := r.low * Nat.pow 10 (-k).toNat
    value := r.value * Nat.pow 10 (-k).toNat
    high := r.high * Nat.pow 10 (-k).toNat
    denominator := r.denominator * Nat.pow 10 k.toNat }

def ReadBack.holds (r : ReadBack) (d : Nat) : Bool :=
  let x := d * r.denominator
  if r.closed then decide (r.low ≤ x) && decide (x ≤ r.high)
  else decide (r.low < x) && decide (x < r.high)

def digitCount (n : Nat) : Nat := (Nat.toDigits 10 n).length

/-- the power of ten just above the value -/
def ReadBack.magnitude (r : ReadBack) : Int :=
  if r.denominator ≤ r.value then digitCount (r.value / r.denominator)
  else 1 - digitCount ((r.denominator - 1) / r.value)

/-- the integer nearest to the value, an even one where two are equally near -/
def ReadBack.nearest (r : ReadBack) : Nat :=
  let d := r.value / r.denominator
  let rest := r.value % r.denominator
  if 2 * rest < r.denominator then d
  else if r.denominator < 2 * rest then d + 1
  else d + d % 2

/-- of the two integers around the value, the nearer one between the bounds -/
def ReadBack.hit? (r : ReadBack) : Option Nat :=
  let d := r.nearest
  let other := if d = r.value / r.denominator then d + 1 else d - 1
  if r.holds d then some d else if r.holds other then some other else none

/-- a decimal `digits * 10 ^ exponent` -/
structure Decimal where
  digits : Nat
  exponent : Int
deriving DecidableEq, Repr

/-- the first hit with `n`, `n + 1`, ... digits, at most `more` steps on -/
def ReadBack.firstHit (r : ReadBack) (n : Nat) : Nat → Decimal
  | 0 => let k := r.magnitude - n
         ⟨(r.inUnits k).nearest, k⟩
  | more + 1 =>
    let k := r.magnitude - n
    match (r.inUnits k).hit? with
    | some d => ⟨d, k⟩
    | none => r.firstHit (n + 1) more

def shortest (m : Nat) (e : Int) : Decimal :=
  if m = 0 then ⟨0, 0⟩ else (ReadBack.of m e).firstHit 1 16

end RowMapping.Number

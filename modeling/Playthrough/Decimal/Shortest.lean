import Playthrough.Decimal.Binary64
import Playthrough.Text.Digits

/-!
Contract: the fewest significant decimal digits that still round to a given binary number, and of
those the nearest.

Owns: the interval of rationals that round to a value, the search over decimal grids, and the layout
of the digits found as text.

The search looks at one grid of decimals per digit count. Of a grid only the two neighbours of the
exact value can be nearest, so the first grid with a neighbour inside the interval has the fewest
digits that read back.
-/

namespace Playthrough.Decimal

/-- Significant digits `digits` and the power of ten of the last of them. -/
structure Significand where
  digits : Nat
  power : Int
deriving DecidableEq, Repr, Inhabited

/-- The rationals that round to a positive value, as numerators over one denominator. -/
structure RoundingInterval where
  lower : Nat
  value : Nat
  upper : Nat
  denominator : Nat
  /-- Whether the two ends round to the value as well. -/
  closed : Bool
deriving DecidableEq, Repr, Inhabited

/-- The interval around `mantissa * 2 ^ exponent`. Just above a power of two the lower half-gap is
half as wide, unless the value below has the same exponent. -/
def RoundingInterval.around (mantissa : Nat) (exponent : Int) : RoundingInterval :=
  let lowerGap :=
    if mantissa = Nat.pow 2 52 ∧ Binary64.leastExponent < exponent then 1 else 2
  let scale := if 0 ≤ exponent then Nat.pow 2 exponent.toNat else 1
  { lower := (4 * mantissa - lowerGap) * scale
    value := 4 * mantissa * scale
    upper := (4 * mantissa + 2) * scale
    denominator := if 0 ≤ exponent then 4 else 4 * Nat.pow 2 (-exponent).toNat
    closed := mantissa % 2 = 0 }

/-- Whether `candidate / scale` lies in the interval. -/
def RoundingInterval.contains (interval : RoundingInterval) (candidate scale : Nat) : Bool :=
  let point := candidate * interval.denominator
  if interval.closed then interval.lower * scale ≤ point && point ≤ interval.upper * scale
  else interval.lower * scale < point && point < interval.upper * scale

/-- The count of decimal digits of a natural, one for zero. -/
def digitCount (value : Nat) : Nat :=
  (Nat.toDigits 10 value).length

/-- The largest power of ten that is at most `numerator / denominator`, as an exponent. -/
def decimalExponent (numerator denominator : Nat) : Int :=
  if denominator ≤ numerator then (digitCount (numerator / denominator) : Int) - 1
  else
    let inverse := (denominator + numerator - 1) / numerator
    let estimate : Nat := digitCount inverse
    if denominator ≤ numerator * Nat.pow 10 (estimate - 1) then -((estimate : Int) - 1)
    else -(estimate : Int)

/-- The candidate on the grid of multiples of `10 ^ power`, if one of the value's two neighbours
there lies in the interval: the nearer one, of two equally near the even one. -/
def RoundingInterval.onGrid? (interval : RoundingInterval) (power : Int) : Option Nat :=
  let numeratorScale := if 0 ≤ power then 1 else Nat.pow 10 (-power).toNat
  let denominatorScale := if 0 ≤ power then Nat.pow 10 power.toNat else 1
  let numerator := interval.value * numeratorScale
  let denominator := interval.denominator * denominatorScale
  let below := numerator / denominator
  let remainder := numerator % denominator
  let inside (candidate : Nat) : Bool :=
    interval.contains (candidate * denominatorScale) numeratorScale
  let nearer := Binary64.roundQuotientToEven numerator denominator
  let farther := if nearer = below then below + 1 else below
  if remainder = 0 then some below
  else if inside nearer then some nearer
  else if inside farther then some farther
  else none

/-- The first grid, from `digits` significant digits on, that has a candidate. -/
def RoundingInterval.search (interval : RoundingInterval) (leading : Int) (digits : Nat) :
    Nat → Significand
  | 0 => { digits := 0, power := 0 }
  | remaining + 1 =>
      let power := leading + 1 - (digits : Int)
      match interval.onGrid? power with
      | some candidate => { digits := candidate, power := power }
      | none => interval.search leading (digits + 1) remaining

/-- The shortest digits of a positive value. Seventeen always suffice. -/
def shortest (mantissa : Nat) (exponent : Int) : Significand :=
  let interval := RoundingInterval.around mantissa exponent
  interval.search (decimalExponent interval.value interval.denominator) 1 17

/-- Drops the zeros at the end of the digits. -/
def Significand.trim (significand : Significand) : Nat → Significand
  | 0 => significand
  | steps + 1 =>
      if significand.digits % 10 = 0 ∧ significand.digits ≠ 0 then
        Significand.trim { digits := significand.digits / 10, power := significand.power + 1 } steps
      else significand

/-- How the digits of a number are laid out as text. -/
structure Layout where
  /-- The least exponent of the leading digit that is written without an exponent mark. -/
  leastPositional : Int
  /-- The first exponent of the leading digit that is written with an exponent mark. -/
  firstScientific : Int
  /-- The least count of digits after the exponent mark. -/
  exponentWidth : Nat
deriving DecidableEq, Repr

/-- The text of a positive number with the given digits. -/
def Layout.render (layout : Layout) (significand : Significand) : String :=
  let digits := Nat.toDigits 10 significand.digits
  let leading : Int := significand.power + (digits.length : Int) - 1
  if layout.leastPositional ≤ leading ∧ leading < layout.firstScientific then
    if 0 ≤ significand.power then
      String.ofList (digits ++ List.replicate significand.power.toNat '0' ++ ['.', '0'])
    else if 0 ≤ leading then
      let whole := leading.toNat + 1
      String.ofList (digits.take whole ++ ['.'] ++ digits.drop whole)
    else
      String.ofList (['0', '.'] ++ List.replicate ((-leading).toNat - 1) '0' ++ digits)
  else
    let fraction := digits.drop 1
    let mantissa := digits.take 1 ++ (if fraction.isEmpty then [] else '.' :: fraction)
    let sign := if leading < 0 then '-' else '+'
    String.ofList
      (mantissa ++ ['e', sign] ++ Text.digits 10 layout.exponentWidth leading.natAbs)

/-- Numbers of documents: positional from `1e-04` up to below `1e16`, and at least two digits after
the exponent mark. -/
def Layout.document : Layout :=
  { leastPositional := -4, firstScientific := 16, exponentWidth := 2 }

end Playthrough.Decimal

namespace Playthrough.Binary64

/-- The shortest text that reads back as the value. -/
def toText : Binary64 → String
  | .finite negative mantissa exponent =>
      let sign := if negative then "-" else ""
      if mantissa = 0 then sign ++ "0.0"
      else
        let significand := (Decimal.shortest mantissa exponent).trim 400
        sign ++ Decimal.Layout.document.render significand
  | .infinite negative => if negative then "-inf" else "inf"
  | .notANumber => "nan"

end Playthrough.Binary64

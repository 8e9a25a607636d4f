/-!
Contract: 64-bit binary floating-point numbers as exact data, and the nearest such number to a
rational.

Owns:
- the type `Binary64`, whose finite values are a sign, a mantissa and a power of two;
- rounding of a quotient of naturals to the nearest value, ties to the even mantissa;
- the interchange bits of a value and the integer that an integral value stands for.

Does not own: decimal spellings; those are in `Decimal.Shortest` and in the readers of documents.
-/

namespace Playthrough

/-- A 64-bit binary floating-point number. A finite value is `mantissa * 2 ^ exponent`, negated when
`negative`; the exponent is at least `-1074` and the mantissa below `2 ^ 53`. -/
inductive Binary64 where
  | finite (negative : Bool) (mantissa : Nat) (exponent : Int)
  | infinite (negative : Bool)
  | notANumber
deriving DecidableEq, Repr, Inhabited

namespace Binary64

/-- The exponent of the smallest positive value. -/
def leastExponent : Int := -1074

/-- The exponent of the largest finite value. -/
def greatestExponent : Int := 971

/-- Zero with a sign. -/
def zero (negative : Bool) : Binary64 :=
  .finite negative 0 leastExponent

/-- `numerator / denominator` multiplied by a power of two, as a new quotient. -/
def scaleQuotient (numerator denominator : Nat) (power : Int) : Nat × Nat :=
  if 0 ≤ power then (numerator * Nat.pow 2 power.toNat, denominator)
  else (numerator, denominator * Nat.pow 2 (-power).toNat)

/-- The quotient of two naturals rounded to the nearest natural, a tie to the even one. -/
def roundQuotientToEven (numerator denominator : Nat) : Nat :=
  let quotient := numerator / denominator
  let remainder := numerator % denominator
  if 2 * remainder < denominator then quotient
  else if denominator < 2 * remainder then quotient + 1
  else quotient + quotient % 2

/-- The largest power of two that is at most a positive quotient, as an exponent. -/
def quotientLog2 (numerator denominator : Nat) : Int :=
  let estimate : Int := (Nat.log2 numerator : Int) - (Nat.log2 denominator : Int)
  let scaled := scaleQuotient numerator denominator (-estimate)
  if scaled.1 < scaled.2 then estimate - 1 else estimate

/-- The value nearest to a quotient of naturals, `none` when its magnitude rounds beyond every
finite value. The denominator is positive. -/
def ofQuotient (negative : Bool) (numerator denominator : Nat) : Option Binary64 :=
  if numerator = 0 then some (zero negative)
  else
    let exponent := max (quotientLog2 numerator denominator - 52) leastExponent
    let scaled := scaleQuotient numerator denominator (-exponent)
    let mantissa := roundQuotientToEven scaled.1 scaled.2
    let carried : Nat × Int :=
      if mantissa = Nat.pow 2 53 then (Nat.pow 2 52, exponent + 1) else (mantissa, exponent)
    if greatestExponent < carried.2 then none
    else some (.finite negative carried.1 carried.2)

/-- The value nearest to `digits * 10 ^ power`; beyond every finite value it is infinite. A power so
far out that the digits cannot bring the number back into range decides alone. -/
def ofDecimal (negative : Bool) (digits : Nat) (power : Int) : Binary64 :=
  let magnitude : Int := (Nat.log2 digits : Int)
  if digits = 0 then zero negative
  else if 400 < power then .infinite negative
  else if power < -(magnitude + 400) then zero negative
  else
    let nearest :=
      if 0 ≤ power then ofQuotient negative (digits * Nat.pow 10 power.toNat) 1
      else ofQuotient negative digits (Nat.pow 10 (-power).toNat)
    nearest.getD (.infinite negative)

/-- The integer that an integral value stands for, `none` for every other value. -/
def toInt? : Binary64 → Option Int
  | .finite negative mantissa exponent =>
      let magnitude : Option Nat :=
        if 0 ≤ exponent then some (mantissa * Nat.pow 2 exponent.toNat)
        else
          let unit := Nat.pow 2 (-exponent).toNat
          if mantissa % unit = 0 then some (mantissa / unit) else none
      magnitude.map fun value => if negative then -(value : Int) else (value : Int)
  | .infinite _ => none
  | .notANumber => none

/-- Whether the value is neither infinite nor the missing number. -/
def isFinite : Binary64 → Bool
  | .finite .. => true
  | .infinite _ => false
  | .notANumber => false

/-- The sixty-four interchange bits of a value, as a natural number. -/
def toBits : Binary64 → Nat
  | .finite negative mantissa exponent =>
      let sign := if negative then Nat.pow 2 63 else 0
      if mantissa < Nat.pow 2 52 then sign + mantissa
      else sign + (exponent + 1075).toNat * Nat.pow 2 52 + (mantissa - Nat.pow 2 52)
  | .infinite negative => (if negative then Nat.pow 2 63 else 0) + 2047 * Nat.pow 2 52
  | .notANumber => 2047 * Nat.pow 2 52 + Nat.pow 2 51

@[simp] theorem toInt?_infinite (negative : Bool) : toInt? (.infinite negative) = none := rfl

@[simp] theorem toInt?_notANumber : toInt? .notANumber = none := rfl

@[simp] theorem ofQuotient_zero (negative : Bool) (denominator : Nat) :
    ofQuotient negative 0 denominator = some (zero negative) := by
  simp [ofQuotient]

/-- A rounded quotient is one of the two naturals around the exact one. -/
theorem roundQuotientToEven_bounds (numerator denominator : Nat) :
    numerator / denominator ≤ roundQuotientToEven numerator denominator ∧
      roundQuotientToEven numerator denominator ≤ numerator / denominator + 1 := by
  unfold roundQuotientToEven
  simp only
  split
  · omega
  · split <;> omega

end Binary64

end Playthrough

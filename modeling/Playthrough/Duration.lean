import Playthrough.Decimal.Binary64
import Playthrough.Text.Digits

/-!
Contract: lengths of time, exact to the millisecond.

Owns: the type `Duration`, the largest length that the clock can hold, and the two spellings in
seconds.

The clock counts seconds in 64-bit binary numbers. A length whose seconds round beyond the largest
of them is refused where it arises; every length that is accepted is kept exactly.
-/

namespace Playthrough

/-- A length of time. -/
structure Duration where
  milliseconds : Nat
deriving DecidableEq, Repr, Inhabited

namespace Duration

/-- No time at all. -/
def zero : Duration := ⟨0⟩

/-- The shorter of two lengths. -/
def atMost (duration limit : Duration) : Duration :=
  ⟨min duration.milliseconds limit.milliseconds⟩

/-- Whether one length is greater than another. -/
def exceeds (duration threshold : Duration) : Bool :=
  threshold.milliseconds < duration.milliseconds

/-- The least magnitude that rounds beyond every finite binary number. -/
def clockLimit : Nat := Nat.pow 2 1024 - Nat.pow 2 970

/-- The length of so many milliseconds, `none` when its seconds are beyond the clock. -/
def ofMilliseconds? (milliseconds : Nat) : Option Duration :=
  if milliseconds < 1000 * clockLimit then some ⟨milliseconds⟩ else none

/-- The length of so many milliseconds, none at all for a negative count. -/
def ofSignedMilliseconds (milliseconds : Int) : Duration :=
  ⟨milliseconds.toNat⟩

/-- Seconds with six places. -/
def fixedText (duration : Duration) : String :=
  toString (duration.milliseconds / 1000) ++ "."
    ++ String.ofList (Text.digits 10 3 (duration.milliseconds % 1000)) ++ "000"

/-- The interchange bits of the binary number nearest to the seconds. -/
def bitsText (duration : Duration) : String :=
  let nearest :=
    (Binary64.ofQuotient false duration.milliseconds 1000).getD (.infinite false)
  "0x" ++ String.ofList (Text.hexadecimal 16 nearest.toBits)

/-- Seconds as text: fixed places below a thousand million, the exact bits from there on. -/
def toText (duration : Duration) : String :=
  if duration.milliseconds < Nat.pow 10 12 then duration.fixedText else duration.bitsText

@[simp] theorem milliseconds_zero : zero.milliseconds = 0 := rfl

@[simp] theorem milliseconds_atMost (duration limit : Duration) :
    (duration.atMost limit).milliseconds = min duration.milliseconds limit.milliseconds := rfl

@[simp] theorem exceeds_iff (duration threshold : Duration) :
    duration.exceeds threshold = true ↔ threshold.milliseconds < duration.milliseconds := by
  simp [exceeds]

end Duration

end Playthrough

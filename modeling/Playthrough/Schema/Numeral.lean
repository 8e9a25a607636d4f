import Playthrough.Json.Reader
import Playthrough.Text.Blank

/-!
Contract: numbers that are given as text.

Owns: the grammar of integers: a plus sign in front, zeros in front of an unsigned number, single
underscores between digits, and a point followed by zeros only; and the grammar of other numbers: a
sign, digits with a point anywhere, an exponent, and the words for what is not finite.

Does not own: the white space around a number, and numbers that are given as such; those are in
`Schema.Leaf`.
-/

namespace Playthrough.Schema.Numeral

/-- The longest text that is tried. -/
def longest : Nat := 4300

/-- The characters after leading zeros and underscores: from the first other digit on, or from the
last zero on when a point or nothing follows. `before` is the character in front. -/
def afterLeadingZeros (before : Char) : List Char → Option (List Char)
  | [] => some [before]
  | character :: rest =>
      if character = '0' ∨ character = '_' then afterLeadingZeros character rest
      else if character.isDigit then some (character :: rest)
      else if character = '.' then some (before :: character :: rest)
      else none

/-- Drops zeros in front of a number that starts with one. A number has to start with a digit or
with a minus sign. -/
def dropLeadingZeros : List Char → Option (List Char)
  | [] => none
  | character :: rest =>
      if character = '0' then afterLeadingZeros '0' rest
      else if character.isDigit ∨ character = '-' then some (character :: rest)
      else none

/-- Drops a first point that only zeros follow. -/
def dropZeroFraction (characters : List Char) : List Char :=
  let whole := characters.takeWhile (· ≠ '.')
  let fraction := characters.dropWhile (· ≠ '.')
  if (fraction.drop 1).all (· = '0') then whole else characters

/-- Whether an underscore directly follows another one. -/
def hasDoubledUnderscore : List Char → Bool
  | '_' :: '_' :: _ => true
  | _ :: rest => hasDoubledUnderscore rest
  | [] => false

/-- Drops the underscores, which have to stand alone and inside. -/
def dropUnderscores (characters : List Char) : Option (List Char) :=
  if characters.head? = some '_' ∨ characters.getLast? = some '_'
      ∨ hasDoubledUnderscore characters then none
  else some (characters.filter (· ≠ '_'))

/-- Digits without zeros in front, behind a minus sign or not. -/
def plainInteger? (characters : List Char) : Option Int :=
  let negative := characters.head? = some '-'
  let digits := if negative then characters.drop 1 else characters
  match Json.wholeDigits? digits with
  | some (whole, []) =>
      let value : Int := (Json.digitsValue whole : Int)
      some (if negative then -value else value)
  | _ => none

/-- Drops a plus sign, which no minus sign may follow. -/
def dropPlus : List Char → Option (List Char)
  | '+' :: '-' :: _ => none
  | '+' :: rest => some rest
  | characters => some characters

/-- The integer of a text without white space around it. -/
def integer? (characters : List Char) : Option Int := do
  let unsigned ← dropPlus characters
  let significant ← dropLeadingZeros unsigned
  let digits ← dropUnderscores (dropZeroFraction significant)
  plainInteger? digits

/-- The words for numbers that are not finite, in lower case. -/
def nonFinite? (negative : Bool) (word : List Char) : Option Binary64 :=
  if word = "inf".toList ∨ word = "infinity".toList then some (.infinite negative)
  else if word = "nan".toList then some .notANumber
  else none

/-- The number of digits with a point anywhere and an exponent. -/
def decimal? (negative : Bool) (characters : List Char) : Option Binary64 :=
  let whole := characters.takeWhile Char.isDigit
  let split : List Char × List Char :=
    match characters.dropWhile Char.isDigit with
    | '.' :: rest => (rest.takeWhile Char.isDigit, rest.dropWhile Char.isDigit)
    | rest => ([], rest)
  let digits := whole ++ split.1
  match digits, Json.exponentPart split.2 with
  | [], _ => none
  | _, (exponent, []) =>
      some (Binary64.ofDecimal negative (Json.digitsValue digits)
        (exponent.getD 0 - (split.1.length : Int)))
  | _, _ => none

/-- The number of a text without white space around it. -/
def real? (characters : List Char) : Option Binary64 :=
  let negative := characters.head? = some '-'
  let unsigned :=
    if negative ∨ characters.head? = some '+' then characters.drop 1 else characters
  nonFinite? negative (unsigned.map Char.toLower) <|> decimal? negative unsigned

end Playthrough.Schema.Numeral

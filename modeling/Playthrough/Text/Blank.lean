/-!
Contract: the characters that count as blank.

Owns: the White_Space property of Unicode, the wider class that also takes the four information
separators, and the trimming of text by either.
-/

namespace Playthrough.Text

/-- The characters with the White_Space property. -/
def isWhiteSpace (character : Char) : Bool :=
  let codePoint := character.toNat
  (0x09 ≤ codePoint && codePoint ≤ 0x0d) || codePoint = 0x20 || codePoint = 0x85
    || codePoint = 0xa0 || codePoint = 0x1680 || (0x2000 ≤ codePoint && codePoint ≤ 0x200a)
    || codePoint = 0x2028 || codePoint = 0x2029 || codePoint = 0x202f || codePoint = 0x205f
    || codePoint = 0x3000

/-- White space and the four information separators. -/
def isBlank (character : Char) : Bool :=
  isWhiteSpace character || (0x1c ≤ character.toNat && character.toNat ≤ 0x1f)

/-- The characters between the leading and the trailing members of a class. -/
def trimBy (inside : Char → Bool) (characters : List Char) : List Char :=
  ((characters.dropWhile inside).reverse.dropWhile inside).reverse

/-- Whether a text has nothing but blanks. -/
def isAllBlank (value : String) : Bool :=
  value.toList.all isBlank

/-- Every white-space character is blank. -/
theorem isBlank_of_isWhiteSpace {character : Char} (white : isWhiteSpace character = true) :
    isBlank character = true := by
  simp [isBlank, white]

/-- The white space of ASCII is blank. -/
theorem isBlank_of_asciiWhitespace {character : Char} (white : character.isWhitespace = true) :
    isBlank character = true := by
  simp only [Char.isWhitespace, Bool.or_eq_true, decide_eq_true_eq] at white
  rcases white with ((same | same) | same) | same <;> subst same <;> decide

end Playthrough.Text

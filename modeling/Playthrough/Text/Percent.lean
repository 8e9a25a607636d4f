import Playthrough.Text.Utf8

/-!
Contract: texts in addresses, where a percent sign and two hexadecimal digits stand for one octet.

Owns: the reading of such texts, and the parameters behind the question mark of an address.

A percent sign that two hexadecimal digits do not follow stands for itself.
-/

namespace Playthrough.Text.Percent

/-- The octets of a text. -/
def octets : List Char → List UInt8
  | [] => []
  | '%' :: high :: low :: rest =>
      match hexValue? high, hexValue? low with
      | some high, some low => UInt8.ofNat (16 * high + low) :: octets rest
      | _, _ => String.utf8EncodeChar '%' ++ octets (high :: low :: rest)
  | character :: rest => String.utf8EncodeChar character ++ octets rest

/-- The characters that a text stands for. -/
def decode (characters : List Char) : List Char :=
  Utf8.decodeReplacing (octets characters)

/-- The pieces between the places of a separator. -/
def split (separator : Char) : List Char → List (List Char)
  | [] => [[]]
  | character :: rest =>
      if character = separator then [] :: split separator rest
      else
        match split separator rest with
        | [] => [[character]]
        | piece :: pieces => (character :: piece) :: pieces

/-- A text among parameters, where a plus sign stands for a space. -/
def decodeParameter (characters : List Char) : String :=
  String.ofList
    (decode (characters.map fun character => if character = '+' then ' ' else character))

/-- The name and the value of a parameter. -/
def parameter (piece : List Char) : String × String :=
  (decodeParameter (piece.takeWhile (· ≠ '=')),
    decodeParameter ((piece.dropWhile (· ≠ '=')).drop 1))

/-- The parameters in order. -/
def parameters (characters : List Char) : List (String × String) :=
  ((split '&' characters).filter fun piece => !piece.isEmpty).map parameter

/-- The path of an address, read, and its parameters. -/
def address (target : String) : List (List Char) × List (String × String) :=
  let characters := target.toList
  (split '/' (decode (characters.takeWhile (· ≠ '?'))),
    parameters ((characters.dropWhile (· ≠ '?')).drop 1))

/-- There is always a piece. -/
theorem split_ne_nil (separator : Char) (characters : List Char) :
    split separator characters ≠ [] := by
  fun_cases split separator characters <;> simp

/-- Nothing is lost between the pieces. -/
theorem intercalate_split (separator : Char) (characters : List Char) :
    List.intercalate [separator] (split separator characters) = characters := by
  fun_induction split separator characters with
  | case1 => rfl
  | case2 rest inductionHypothesis =>
      obtain ⟨piece, pieces, found⟩ := List.exists_cons_of_ne_nil (split_ne_nil separator rest)
      rw [found] at inductionHypothesis ⊢
      simpa [List.intercalate] using inductionHypothesis
  | case3 character rest _ found => exact absurd found (split_ne_nil separator rest)
  | case4 character rest _ piece pieces found inductionHypothesis =>
      rw [found] at inductionHypothesis
      cases pieces <;> simpa [List.intercalate] using inductionHypothesis

end Playthrough.Text.Percent

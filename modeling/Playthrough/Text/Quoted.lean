import Playthrough.Json.Value
import Playthrough.Decimal.Shortest
import Playthrough.Text.Digits
import Playthrough.Text.Printable

/-!
Contract: values as they are quoted in messages.

Owns: the quoted form of a text, which names every character beyond doubt, and the form of a JSON
value inside a message.

A text stands between single quotes, or between double ones when it holds a single quote and no
double one. The quote, the backslash and unprintable characters are escaped.
-/

namespace Playthrough.Text

/-- One code point inside quotes. -/
def quoteCodePoint (quote : Nat) (codePoint : Nat) : List Char :=
  if codePoint = quote ∨ codePoint = 0x5c then ['\\', Char.ofNat codePoint]
  else if codePoint = 0x09 then ['\\', 't']
  else if codePoint = 0x0a then ['\\', 'n']
  else if codePoint = 0x0d then ['\\', 'r']
  else if Printable.isPrintable codePoint then [Char.ofNat codePoint]
  else if codePoint < 0x100 then '\\' :: 'x' :: hexadecimal 2 codePoint
  else if codePoint < 0x10000 then '\\' :: 'u' :: hexadecimal 4 codePoint
  else '\\' :: 'U' :: hexadecimal 8 codePoint

/-- The quoted form of a sequence of code points. -/
def quoteCodePoints (codePoints : List Nat) : String :=
  let quote := if codePoints.contains 0x27 && !codePoints.contains 0x22 then 0x22 else 0x27
  let mark := Char.ofNat quote
  String.ofList (mark :: codePoints.flatMap (quoteCodePoint quote) ++ [mark])

/-- The quoted form of a text. -/
def quoted (value : String) : String :=
  quoteCodePoints (value.toList.map Char.toNat)

end Playthrough.Text

namespace Playthrough.Json

mutual

/-- A value as a message shows it. -/
def quoted : Json → String
  | .null => "None"
  | .boolean true => "True"
  | .boolean false => "False"
  | .integer value => toString value
  | .real value => value.toText
  | .text value => Text.quoted value
  | .looseText codePoints => Text.quoteCodePoints codePoints
  | .array items => "[" ++ ", ".intercalate (quotedItems items) ++ "]"
  | .object fields => "\x7b" ++ ", ".intercalate (quotedFields fields) ++ "\x7d"

/-- The items of an array, each as a message shows it. -/
def quotedItems : List Json → List String
  | [] => []
  | item :: rest => quoted item :: quotedItems rest

/-- The fields of an object, each as a message shows it. -/
def quotedFields : List (String × Json) → List String
  | [] => []
  | (name, value) :: rest => (Text.quoted name ++ ": " ++ quoted value) :: quotedFields rest

end

end Playthrough.Json

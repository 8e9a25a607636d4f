import Playthrough.Json.Value
import Playthrough.Decimal.Shortest
import Playthrough.Text.Digits

/-!
Contract: JSON texts of values, in ASCII.

Owns: the escapes of strings, the spelling of numbers, and two layouts: on one line, or indented by
two blanks for each level.

A character outside the printable ASCII range is written as a code escape, as two of them when it
lies beyond the sixteen-bit range.
-/

namespace Playthrough.Json

/-- A code escape. -/
def codeEscape (bits : Nat) : List Char :=
  '\\' :: 'u' :: Text.hexadecimal 4 bits

/-- One code point inside a string. -/
def writeCodePoint (codePoint : Nat) : List Char :=
  if codePoint = 0x22 then ['\\', '"']
  else if codePoint = 0x5c then ['\\', '\\']
  else if codePoint = 0x08 then ['\\', 'b']
  else if codePoint = 0x0c then ['\\', 'f']
  else if codePoint = 0x0a then ['\\', 'n']
  else if codePoint = 0x0d then ['\\', 'r']
  else if codePoint = 0x09 then ['\\', 't']
  else if 0x20 ≤ codePoint ∧ codePoint < 0x7f then [Char.ofNat codePoint]
  else if codePoint < 0x10000 then codeEscape codePoint
  else
    codeEscape (0xD800 + (codePoint - 0x10000) / 0x400)
      ++ codeEscape (0xDC00 + (codePoint - 0x10000) % 0x400)

/-- A string between its quotes. -/
def writeCodePoints (codePoints : List Nat) : List Char :=
  '"' :: codePoints.flatMap writeCodePoint ++ ['"']

/-- A text between its quotes. -/
def writeText (value : String) : List Char :=
  writeCodePoints (value.toList.map Char.toNat)

/-- A number that is no integer. -/
def writeReal : Binary64 → List Char
  | .infinite false => "Infinity".toList
  | .infinite true => "-Infinity".toList
  | .notANumber => "NaN".toList
  | value => value.toText.toList

/-- How the items of arrays and objects are set apart. -/
inductive WriteLayout where
  | oneLine
  | indented
deriving DecidableEq, Repr

/-- What stands before an item at a depth, and before the closing bracket with one level less. -/
def WriteLayout.lineBreak : WriteLayout → Nat → List Char
  | .oneLine, _ => []
  | .indented, depth => '\n' :: List.replicate (2 * depth) ' '

/-- What stands between two items at a depth. -/
def WriteLayout.separator : WriteLayout → Nat → List Char
  | .oneLine, _ => [',', ' ']
  | .indented, depth => ',' :: WriteLayout.lineBreak .indented depth

mutual

/-- The text of a value that stands at a depth. -/
def writeAt (layout : WriteLayout) (depth : Nat) : Json → List Char
  | .null => "null".toList
  | .boolean true => "true".toList
  | .boolean false => "false".toList
  | .integer value => (toString value).toList
  | .real value => writeReal value
  | .text value => writeText value
  | .looseText codePoints => writeCodePoints codePoints
  | .array [] => ['[', ']']
  | .array (first :: rest) =>
      '[' :: layout.lineBreak (depth + 1) ++ writeAt layout (depth + 1) first
        ++ writeItems layout (depth + 1) rest ++ layout.lineBreak depth ++ [']']
  | .object [] => ['\x7b', '\x7d']
  | .object ((name, value) :: rest) =>
      '\x7b' :: layout.lineBreak (depth + 1) ++ writeText name ++ [':', ' ']
        ++ writeAt layout (depth + 1) value
        ++ writeFields layout (depth + 1) rest ++ layout.lineBreak depth ++ ['\x7d']

/-- The items after the first one, each behind a separator. -/
def writeItems (layout : WriteLayout) (depth : Nat) : List Json → List Char
  | [] => []
  | item :: rest =>
      layout.separator depth ++ writeAt layout depth item ++ writeItems layout depth rest

/-- The fields after the first one, each behind a separator. -/
def writeFields (layout : WriteLayout) (depth : Nat) : List (String × Json) → List Char
  | [] => []
  | (name, value) :: rest =>
      layout.separator depth ++ writeText name ++ [':', ' '] ++ writeAt layout depth value
        ++ writeFields layout depth rest

end

/-- The text of a value on one line. -/
def write (value : Json) : String :=
  String.ofList (writeAt .oneLine 0 value)

/-- The text of a value with one item a line. -/
def writeIndented (value : Json) : String :=
  String.ofList (writeAt .indented 0 value)

end Playthrough.Json

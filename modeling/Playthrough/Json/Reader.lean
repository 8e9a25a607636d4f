import Playthrough.Json.Value
import Playthrough.Text.Digits

/-!
Contract: reading JSON texts, in two dialects of one grammar.

Owns:
- the grammar of values, shared by both dialects: JSON with `NaN`, `Infinity` and `-Infinity`, exact
  integers, and the last of several fields of one name winning;
- the strict dialect, which refuses unpaired surrogate escapes and more than two hundred levels of
  arrays and objects that are not empty, and the lenient dialect, which takes both;
- the place and the reason of a refusal.

A reader takes the characters that are left and gives back those that it did not use, so a place in
the text is known by how many characters are left there.
-/

namespace Playthrough.Json

/-- Why a text is not read. -/
inductive Complaint where
  | byteOrderMark
  | valueExpected
  | nameExpected
  | colonExpected
  | commaExpected
  | unterminatedString
  | controlCharacter
  | unknownEscape
  | badCodeEscape
  | unpairedSurrogate
  | nestingTooDeep
  | extraData
deriving DecidableEq, Repr, Inhabited

/-- A complaint and the count of characters that are left where it arises. -/
structure Stop where
  complaint : Complaint
  left : Nat
deriving DecidableEq, Repr, Inhabited

/-- What a reader of `α` gives: the value with the characters left, or where it stopped. -/
abbrev Reading (α : Type) := Except Stop (α × List Char)

/-- Stops before the given characters. -/
def stopAt {α : Type} (complaint : Complaint) (rest : List Char) : Except Stop α :=
  .error { complaint := complaint, left := rest.length }

/-- What distinguishes the two dialects. -/
structure Dialect where
  /-- The greatest depth of arrays and objects that are not empty, `none` for no limit. -/
  nesting : Option Nat
  /-- Whether a surrogate escape may stand alone. -/
  looseSurrogates : Bool
deriving DecidableEq, Repr

/-- The dialect of documents that are validated as they are read. -/
def Dialect.strict : Dialect := { nesting := some 200, looseSurrogates := false }

/-- The dialect of documents that are only passed on. -/
def Dialect.lenient : Dialect := { nesting := none, looseSurrogates := true }

/-- Whether `depth` open arrays and objects are too many. -/
def Dialect.refuses (dialect : Dialect) (depth : Nat) : Bool :=
  match dialect.nesting with
  | none => false
  | some limit => limit < depth

/-! ## Blanks and numbers -/

/-- The four blanks between tokens. -/
def isBlank (character : Char) : Bool :=
  character = ' ' || character = '\t' || character = '\n' || character = '\r'

/-- The characters after the leading blanks. -/
def skipBlanks (characters : List Char) : List Char :=
  characters.dropWhile isBlank

/-- The value of a run of decimal digits. -/
def digitsValue (digits : List Char) : Nat :=
  digits.foldl (fun value digit => 10 * value + (digit.toNat - '0'.toNat)) 0

/-- The digits before the point: a zero alone, or digits that start with another one. -/
def wholeDigits? : List Char → Option (List Char × List Char)
  | [] => none
  | first :: rest =>
      if first = '0' then some (['0'], rest)
      else if first.isDigit then
        some (first :: rest.takeWhile Char.isDigit, rest.dropWhile Char.isDigit)
      else none

/-- The digits after a point, none when no digit follows it. -/
def fractionDigits : List Char → List Char × List Char
  | '.' :: rest =>
      let digits := rest.takeWhile Char.isDigit
      if digits.isEmpty then ([], '.' :: rest) else (digits, rest.dropWhile Char.isDigit)
  | characters => ([], characters)

/-- The power of ten after an exponent mark, none when no digit follows it. -/
def exponentPart : List Char → Option Int × List Char
  | [] => (none, [])
  | mark :: rest =>
      if mark = 'e' ∨ mark = 'E' then
        let signed : Bool × List Char :=
          match rest with
          | '-' :: after => (true, after)
          | '+' :: after => (false, after)
          | after => (false, after)
        let digits := signed.2.takeWhile Char.isDigit
        if digits.isEmpty then (none, mark :: rest)
        else
          let value : Int := (digitsValue digits : Int)
          (some (if signed.1 then -value else value), signed.2.dropWhile Char.isDigit)
      else (none, mark :: rest)

/-- A number: an integer when it has neither a fraction nor an exponent. -/
def number? (characters : List Char) : Option (Json × List Char) :=
  let negative := characters.head? = some '-'
  let unsigned := if negative then characters.drop 1 else characters
  match wholeDigits? unsigned with
  | none => none
  | some (whole, afterWhole) =>
      let (fraction, afterFraction) := fractionDigits afterWhole
      let (exponent, rest) := exponentPart afterFraction
      if fraction.isEmpty ∧ exponent.isNone then
        let value : Int := (digitsValue whole : Int)
        some (.integer (if negative then -value else value), rest)
      else
        let power := exponent.getD 0 - (fraction.length : Int)
        some (.real (Binary64.ofDecimal negative (digitsValue (whole ++ fraction)) power), rest)

/-- The values that are written as a word. -/
def words : List (List Char × Json) :=
  [ ("null".toList, .null),
    ("true".toList, .boolean true),
    ("false".toList, .boolean false),
    ("NaN".toList, .real .notANumber),
    ("Infinity".toList, .real (.infinite false)),
    ("-Infinity".toList, .real (.infinite true)) ]

/-- The first word that the characters start with. -/
def word? (characters : List Char) : Option (Json × List Char) :=
  words.findSome? fun word =>
    if word.1.isPrefixOf characters then some (word.2, characters.drop word.1.length) else none

/-! ## Strings -/

/-- One element of a string: a character as it stands or by a short escape, or the sixteen bits of a
code escape. -/
inductive Piece where
  | plain (character : Char)
  | unit (bits : Nat)
deriving DecidableEq, Repr

/-- The character of a short escape. -/
def shortEscape? : Char → Option Char
  | '"' => some '"'
  | '\\' => some '\\'
  | '/' => some '/'
  | 'b' => some '\x08'
  | 'f' => some '\x0c'
  | 'n' => some '\n'
  | 'r' => some '\r'
  | 't' => some '\t'
  | _ => none

/-- The sixteen bits of four hexadecimal digits. -/
def unitOf? (first second third fourth : Char) : Option Nat := do
  let first ← Text.hexValue? first
  let second ← Text.hexValue? second
  let third ← Text.hexValue? third
  let fourth ← Text.hexValue? fourth
  return ((first * 16 + second) * 16 + third) * 16 + fourth

/-- The elements of a string up to its closing quote. `opening` is the text from the opening quote
on. A code escape has to be followed by at least one more character. -/
def pieces (opening : List Char) : List Char → Reading (List Piece)
  | [] => stopAt .unterminatedString opening
  | '"' :: rest => .ok ([], rest)
  | '\\' :: 'u' :: first :: second :: third :: fourth :: next :: rest =>
      match unitOf? first second third fourth with
      | none =>
          stopAt .badCodeEscape ('u' :: first :: second :: third :: fourth :: next :: rest)
      | some bits =>
          (pieces opening (next :: rest)).map fun (tail, after) => (.unit bits :: tail, after)
  | '\\' :: 'u' :: rest => stopAt .badCodeEscape ('u' :: rest)
  | ['\\'] => stopAt .unterminatedString opening
  | '\\' :: escape :: rest =>
      match shortEscape? escape with
      | none => stopAt .unknownEscape ('\\' :: escape :: rest)
      | some character =>
          (pieces opening rest).map fun (tail, after) => (.plain character :: tail, after)
  | character :: rest =>
      if character.toNat < 32 then stopAt .controlCharacter (character :: rest)
      else (pieces opening rest).map fun (tail, after) => (.plain character :: tail, after)

/-- Whether sixteen bits are the first half of a surrogate pair. -/
def isHighSurrogate (bits : Nat) : Bool := 0xD800 ≤ bits && bits < 0xDC00

/-- Whether sixteen bits are the second half of a surrogate pair. -/
def isLowSurrogate (bits : Nat) : Bool := 0xDC00 ≤ bits && bits < 0xE000

/-- Whether a code point is a surrogate, which no character is. -/
def isSurrogate (codePoint : Nat) : Bool := 0xD800 ≤ codePoint && codePoint < 0xE000

/-- The code point of a surrogate pair. -/
def joinSurrogates (high low : Nat) : Nat :=
  0x10000 + (high - 0xD800) * 0x400 + (low - 0xDC00)

/-- The code points of the elements: a high surrogate escape directly before a low one is one code
point. -/
def codePoints : List Piece → List Nat
  | [] => []
  | .plain character :: rest => character.toNat :: codePoints rest
  | .unit high :: .unit low :: rest =>
      if isHighSurrogate high && isLowSurrogate low then joinSurrogates high low :: codePoints rest
      else high :: codePoints (.unit low :: rest)
  | .unit bits :: rest => bits :: codePoints rest

/-- The text of code points, `none` when one of them is a surrogate. -/
def textOf? (points : List Nat) : Option String :=
  if points.any isSurrogate then none else some (String.ofList (points.map Char.ofNat))

/-- The text of code points with the replacement character for each surrogate. -/
def replacingSurrogates (points : List Nat) : String :=
  String.ofList (points.map fun point =>
    if isSurrogate point then Char.ofNat 0xFFFD else Char.ofNat point)

/-- A string value after its opening quote, with its text for use as a name: in a name an unpaired
surrogate is replaced. -/
def stringAfterQuote (dialect : Dialect) (opening characters : List Char) :
    Reading (Json × String) :=
  match pieces opening characters with
  | .error stop => .error stop
  | .ok (found, rest) =>
      let points := codePoints found
      match textOf? points with
      | some value => .ok ((.text value, value), rest)
      | none =>
          if dialect.looseSurrogates then
            .ok ((.looseText points, replacingSurrogates points), rest)
          else stopAt .unpairedSurrogate opening

/-! ## Values -/

mutual

/-- A value, from its first character on. The fuel bounds the calls; the length of the text, and one
more, is enough. -/
def readValue (dialect : Dialect) : (fuel depth : Nat) → List Char → Reading Json
  | 0, _, characters => stopAt .valueExpected characters
  | fuel + 1, depth, characters =>
      match characters with
      | '"' :: rest => (stringAfterQuote dialect characters rest).map fun (value, after) =>
          (value.1, after)
      | '[' :: rest =>
          match skipBlanks rest with
          | ']' :: after => .ok (.array [], after)
          | items =>
              if dialect.refuses (depth + 1) then stopAt .nestingTooDeep characters
              else (readItems dialect fuel (depth + 1) items).map fun (values, after) =>
                (.array values, after)
      | '\x7b' :: rest =>
          match skipBlanks rest with
          | '\x7d' :: after => .ok (.object [], after)
          | members =>
              if dialect.refuses (depth + 1) then stopAt .nestingTooDeep characters
              else (readMembers dialect fuel (depth + 1) [] members).map fun (fields, after) =>
                (.object fields, after)
      | _ =>
          match word? characters with
          | some found => .ok found
          | none =>
              match number? characters with
              | some found => .ok found
              | none => stopAt .valueExpected characters

/-- The items of an array, from the first one on, through the closing bracket. -/
def readItems (dialect : Dialect) : (fuel depth : Nat) → List Char → Reading (List Json)
  | 0, _, characters => stopAt .valueExpected characters
  | fuel + 1, depth, characters =>
      match readValue dialect fuel depth characters with
      | .error stop => .error stop
      | .ok (value, rest) =>
          match skipBlanks rest with
          | ']' :: after => .ok ([value], after)
          | ',' :: after =>
              (readItems dialect fuel depth (skipBlanks after)).map fun (values, finish) =>
                (value :: values, finish)
          | other => stopAt .commaExpected other

/-- The fields of an object, from the first name on, through the closing brace, added to the fields
read before them. -/
def readMembers (dialect : Dialect) : (fuel depth : Nat) → Fields → List Char → Reading Fields
  | 0, _, _, characters => stopAt .nameExpected characters
  | fuel + 1, depth, before, characters =>
      match characters with
      | '"' :: afterQuote =>
          match stringAfterQuote dialect characters afterQuote with
          | .error stop => .error stop
          | .ok ((_, name), rest) =>
              match skipBlanks rest with
              | ':' :: afterColon =>
                  match readValue dialect fuel depth (skipBlanks afterColon) with
                  | .error stop => .error stop
                  | .ok (value, rest) =>
                      let fields := before.put name value
                      match skipBlanks rest with
                      | '\x7d' :: after => .ok (fields, after)
                      | ',' :: after => readMembers dialect fuel depth fields (skipBlanks after)
                      | other => stopAt .commaExpected other
              | other => stopAt .colonExpected other
      | other => stopAt .nameExpected other

end

/-- Reads a whole text: one value between blanks. -/
def readCharacters (dialect : Dialect) (characters : List Char) : Except Stop Json :=
  match characters with
  | '\ufeff' :: _ => stopAt .byteOrderMark characters
  | _ =>
      match readValue dialect (2 * characters.length + 1) 0 (skipBlanks characters) with
      | .error stop => .error stop
      | .ok (value, rest) =>
          match skipBlanks rest with
          | [] => .ok value
          | other => stopAt .extraData other

/-! ## Refusals as reports -/

/-- A complaint with the offset of the character where it arises. -/
structure ReadError where
  complaint : Complaint
  offset : Nat
deriving DecidableEq, Repr, Inhabited

/-- Reads a text in a dialect. -/
def read (dialect : Dialect) (source : String) : Except ReadError Json :=
  let characters := source.toList
  match readCharacters dialect characters with
  | .ok value => .ok value
  | .error stop => .error { complaint := stop.complaint, offset := characters.length - stop.left }

/-- The words of a complaint. -/
def Complaint.message : Complaint → String
  | .byteOrderMark => "Unexpected UTF-8 BOM (decode using utf-8-sig)"
  | .valueExpected => "Expecting value"
  | .nameExpected => "Expecting property name enclosed in double quotes"
  | .colonExpected => "Expecting ':' delimiter"
  | .commaExpected => "Expecting ',' delimiter"
  | .unterminatedString => "Unterminated string starting at"
  | .controlCharacter => "Invalid control character at"
  | .unknownEscape => "Invalid \\escape"
  | .badCodeEscape => "Invalid \\uXXXX escape"
  | .unpairedSurrogate => "Unpaired surrogate"
  | .nestingTooDeep => "Nesting too deep"
  | .extraData => "Extra data"

/-- The complaint with its line, its column and its offset in the text; the first two count from
one. -/
def ReadError.message (error : ReadError) (source : String) : String :=
  let before := source.toList.take error.offset
  let line := before.count '\n' + 1
  let column := (before.reverse.takeWhile (· ≠ '\n')).length + 1
  error.complaint.message ++ ": line " ++ toString line ++ " column " ++ toString column
    ++ " (char " ++ toString error.offset ++ ")"

end Playthrough.Json

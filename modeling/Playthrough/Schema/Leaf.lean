import Playthrough.Schema.Validation
import Playthrough.Schema.Numeral

/-!
Contract: checking the parts that schemas are made of.

Owns: texts, integers, other numbers, truth values, listed names, lists and optional values, and the
fields of a model. Numbers and truth values are taken in several spellings, texts in one.
-/

namespace Playthrough.Schema

variable {α : Type}

/-- A text. -/
def checkText : Json → Validation String
  | .text value => .accepted value
  | .looseText _ => .issue .textNotUnicode
  | _ => .issue .textExpected

/-- Two to the power of sixty-three. -/
def wordBound : Int := 9223372036854775808

/-- The integer of an integral number, strictly within sixty-three bits and a sign. -/
def integerOfReal (value : Binary64) : Validation Int :=
  if value.isFinite then
    match value.toInt? with
    | none => .issue .integerHasFraction
    | some whole =>
        if -wordBound < whole ∧ whole < wordBound then .accepted whole else .issue .integerTooLong
  else .issue .numberNotFinite

/-- The integer of a text. -/
def integerOfText (value : String) : Validation Int :=
  let trimmed := Text.trimBy Text.isWhiteSpace value.toList
  if Numeral.longest < trimmed.length then .issue .integerTooLong
  else
    match Numeral.integer? trimmed with
    | some whole => .accepted whole
    | none => .issue .integerUnreadable

/-- An integer: as it stands, as a truth value, as an integral number or as text. -/
def checkInteger : Json → Validation Int
  | .integer value => .accepted value
  | .boolean value => .accepted (if value then 1 else 0)
  | .real value => integerOfReal value
  | .text value => integerOfText value
  | .looseText _ => .issue .integerUnreadable
  | _ => .issue .integerExpected

/-- The number of a text. Underscores are taken where no white space is around them. -/
def realOfText (value : String) : Validation Binary64 :=
  let characters := value.toList
  let found :=
    Numeral.real? (Text.trimBy Text.isWhiteSpace characters)
      <|> (Numeral.dropUnderscores characters).bind Numeral.real?
  match found with
  | some number => .accepted number
  | none => .issue .numberUnreadable

/-- A number: as it stands, as a truth value or as text. An integer beyond sixty-three bits and a
sign is none. -/
def checkReal : Json → Validation Binary64
  | .real value => .accepted value
  | .integer value =>
      if -wordBound ≤ value ∧ value < wordBound then
        .accepted (Binary64.ofDecimal (decide (value < 0)) value.natAbs 0)
      else .issue .numberExpected
  | .boolean value => .accepted (Binary64.ofDecimal false (if value then 1 else 0) 0)
  | .text value => realOfText value
  | .looseText _ => .issue .numberUnreadable
  | _ => .issue .numberExpected

/-- The texts that stand for yes. -/
def affirmatives : List String := ["1", "on", "t", "true", "y", "yes"]

/-- The texts that stand for no. -/
def negatives : List String := ["0", "off", "f", "false", "n", "no"]

/-- The truth value of a text, whatever the case of its ASCII letters. -/
def booleanOfText (value : String) : Validation Bool :=
  let lower := String.ofList (value.toList.map Char.toLower)
  if affirmatives.contains lower then .accepted true
  else if negatives.contains lower then .accepted false
  else .issue .booleanUnreadable

/-- The truth value of an integer. -/
def booleanOfInteger (value : Int) : Validation Bool :=
  if value = 1 then .accepted true
  else if value = 0 then .accepted false
  else .issue .booleanUnreadable

/-- A truth value: as it stands, as one of the texts, or as the number one or zero. -/
def checkBoolean : Json → Validation Bool
  | .boolean value => .accepted value
  | .text value => booleanOfText value
  | .integer value =>
      if -wordBound ≤ value ∧ value < wordBound then booleanOfInteger value
      else .issue .booleanExpected
  | .real value =>
      match integerOfReal value with
      | .accepted whole => booleanOfInteger whole
      | _ => .issue .booleanExpected
  | .looseText _ => .issue .booleanUnreadable
  | _ => .issue .booleanExpected

/-- One of a list of names, as the value that the name stands for. -/
def checkListed (ofName? : String → Option α) : Json → Validation α
  | .text name =>
      match ofName? name with
      | some value => .accepted value
      | none => .issue .notListed
  | _ => .issue .notListed

/-- A value or nothing. -/
def checkOptional (check : Json → Validation α) : Json → Validation (Option α)
  | .null => .accepted none
  | document => some <$> check document

/-- The items from a position on. -/
def checkItemsFrom (check : Json → Validation α) : Nat → List Json → Validation (List α)
  | _, [] => .accepted []
  | position, item :: rest =>
      (fun value values => value :: values)
        <$> (check item).below (.index position)
        <*> checkItemsFrom check (position + 1) rest

/-- A list. -/
def checkList (check : Json → Validation α) : Json → Validation (List α)
  | .array items => checkItemsFrom check 0 items
  | _ => .issue .listExpected

/-- The fields of a model, checked together. -/
def checkModel (check : Json.Fields → Validation α) : Json → Validation α
  | .object fields => check fields
  | _ => .issue .modelExpected

/-- A field that has to be there. -/
def required (name : String) (check : Json → Validation α) (fields : Json.Fields) :
    Validation α :=
  match fields.get? name with
  | none => (Validation.issue .missing).below (.key name)
  | some document => (check document).below (.key name)

/-- A field with a value to use when it is not there. -/
def defaulted (name : String) (absent : α) (check : Json → Validation α) (fields : Json.Fields) :
    Validation α :=
  match fields.get? name with
  | none => .accepted absent
  | some document => (check document).below (.key name)

/-- A field with two names: the first name that is there counts, whatever its value. -/
def eitherName (first second : String) (absent : α) (check : Json → Validation α)
    (fields : Json.Fields) : Validation α :=
  if fields.has first then defaulted first absent check fields
  else defaulted second absent check fields

end Playthrough.Schema

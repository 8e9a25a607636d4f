import Playthrough.Decimal.Binary64

/-!
Contract: the values of JSON documents.

Owns: the type `Json`, the list of an object's fields with its lookup and its insertion, and the
kinds of value that error reports name.

Does not own: texts; `Json.Reader` and `Json.Writer` relate values and texts.

An object keeps the order in which its names first appeared, and each name once. A string that holds
an unpaired surrogate is no text: it is kept as the list of its code points.
-/

namespace Playthrough

/-- A JSON value. Integers are exact; every other number is the nearest binary one. -/
inductive Json where
  | null
  | boolean (value : Bool)
  | integer (value : Int)
  | real (value : Binary64)
  | text (value : String)
  | looseText (codePoints : List Nat)
  | array (items : List Json)
  | object (fields : List (String × Json))
deriving Repr, Inhabited, BEq

namespace Json

/-- The fields of an object, each name once, in the order of first appearance. -/
abbrev Fields := List (String × Json)

/-- The value of a name. -/
def Fields.get? (fields : Fields) (name : String) : Option Json :=
  (fields.find? fun field => field.1 == name).map Prod.snd

/-- Whether a name is present. -/
def Fields.has (fields : Fields) (name : String) : Bool :=
  fields.any fun field => field.1 == name

/-- Gives a name a value: in its place when the name is present, at the end otherwise. -/
def Fields.put (fields : Fields) (name : String) (value : Json) : Fields :=
  match fields with
  | [] => [(name, value)]
  | field :: rest =>
      if field.1 == name then (name, value) :: rest
      else field :: Fields.put rest name value

/-- The names in order. -/
def Fields.names (fields : Fields) : List String :=
  fields.map Prod.fst

/-- The fields of an object, `none` for every other value. -/
def fields? : Json → Option Fields
  | .object fields => some fields
  | _ => none

@[simp] theorem Fields.get?_nil (name : String) : Fields.get? [] name = none := rfl

theorem Fields.get?_cons (head : String × Json) (rest : Fields) (name : String) :
    Fields.get? (head :: rest) name =
      if head.1 == name then some head.2 else Fields.get? rest name := by
  by_cases same : head.1 == name <;> simp [Fields.get?, List.find?, same]

/-- A value that is found is that of a field. -/
theorem Fields.mem_of_get? {fields : Fields} {name : String} {value : Json}
    (there : fields.get? name = some value) : (name, value) ∈ fields := by
  unfold Fields.get? at there
  obtain ⟨field, found, rfl⟩ := Option.map_eq_some_iff.mp there
  have named : field.1 = name := by simpa using List.find?_some found
  have member : field ∈ fields := List.mem_of_find?_eq_some found
  rwa [← named]

/-- A name reads back the value it was given. -/
@[simp] theorem Fields.get?_put_self (fields : Fields) (name : String) (value : Json) :
    (fields.put name value).get? name = some value := by
  induction fields with
  | nil => simp [Fields.put, Fields.get?]
  | cons head rest inductionHypothesis =>
      unfold Fields.put
      by_cases same : head.1 == name
      · simp [same, Fields.get?_cons]
      · simp only [same, Bool.false_eq_true, ↓reduceIte, Fields.get?_cons]
        exact inductionHypothesis

/-- Giving one name a value leaves every other name alone. -/
theorem Fields.get?_put_of_ne (fields : Fields) {name other : String} (value : Json)
    (different : name ≠ other) :
    (fields.put name value).get? other = fields.get? other := by
  induction fields with
  | nil => simp [Fields.put, Fields.get?, different]
  | cons head rest inductionHypothesis =>
      unfold Fields.put
      by_cases same : head.1 == name
      · have headName : head.1 = name := by simpa using same
        simp [Fields.get?_cons, headName, different]
      · simp only [same, Bool.false_eq_true, ↓reduceIte, Fields.get?_cons]
        split
        · rfl
        · exact inductionHypothesis

end Json

end Playthrough

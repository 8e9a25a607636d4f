import Playthrough.Json.Value

/-!
Contract: the outcome of checking a document against a schema.

Owns: the kinds of issue, the place of an issue in a document, and the outcome type, which collects
the issues of all parts of a document in the order in which the parts are checked.

A document is unusable when the checking itself cannot be carried out. That outweighs every issue.
-/

namespace Playthrough.Schema

/-- What is wrong with a part of a document. -/
inductive IssueKind where
  | missing
  | malformedText
  | modelExpected
  | bodyExpected
  | textExpected
  | textNotUnicode
  | listExpected
  | integerExpected
  | integerUnreadable
  | integerTooLong
  | integerHasFraction
  | numberNotFinite
  | numberExpected
  | numberUnreadable
  | booleanExpected
  | booleanUnreadable
  | notListed
deriving DecidableEq, Repr, Inhabited

/-- The name of a kind in reports. -/
def IssueKind.name : IssueKind → String
  | .missing => "missing"
  | .malformedText => "json_invalid"
  | .modelExpected => "model_type"
  | .bodyExpected => "model_attributes_type"
  | .textExpected => "string_type"
  | .textNotUnicode => "string_unicode"
  | .listExpected => "list_type"
  | .integerExpected => "int_type"
  | .integerUnreadable => "int_parsing"
  | .integerTooLong => "int_parsing_size"
  | .integerHasFraction => "int_from_float"
  | .numberNotFinite => "finite_number"
  | .numberExpected => "float_type"
  | .numberUnreadable => "float_parsing"
  | .booleanExpected => "bool_type"
  | .booleanUnreadable => "bool_parsing"
  | .notListed => "literal_error"

/-- One step into a document. -/
inductive Step where
  | key (name : String)
  | index (position : Nat)
deriving DecidableEq, Repr

/-- An issue and the way to the part that it concerns. -/
structure Issue where
  kind : IssueKind
  location : List Step
deriving DecidableEq, Repr, Inhabited

/-- The same issue seen from one step further out. -/
def Issue.below (step : Step) (issue : Issue) : Issue :=
  { issue with location := step :: issue.location }

/-- The outcome of checking a document that should hold an `α`. -/
inductive Validation (α : Type) where
  | accepted (value : α)
  | refused (issues : List Issue)
  | unusable
deriving Repr

namespace Validation

variable {α β : Type}

/-- One issue with the whole of the document. -/
def issue (kind : IssueKind) : Validation α :=
  .refused [{ kind := kind, location := [] }]

/-- Changes an accepted value. -/
def map (change : α → β) : Validation α → Validation β
  | .accepted value => .accepted (change value)
  | .refused issues => .refused issues
  | .unusable => .unusable

/-- Both parts: the issues of the first before those of the second. -/
def both (first : Validation (α → β)) (second : Unit → Validation α) : Validation β :=
  match first, second () with
  | .unusable, _ => .unusable
  | _, .unusable => .unusable
  | .accepted change, .accepted value => .accepted (change value)
  | .accepted _, .refused issues => .refused issues
  | .refused issues, .accepted _ => .refused issues
  | .refused issues, .refused others => .refused (issues ++ others)

instance : Applicative Validation where
  pure := .accepted
  seq := both
  map := map

/-- The outcome for a part, seen from one step further out. -/
def below (step : Step) : Validation α → Validation α
  | .accepted value => .accepted value
  | .refused issues => .refused (issues.map (Issue.below step))
  | .unusable => .unusable

/-- The accepted value. -/
def value? : Validation α → Option α
  | .accepted value => some value
  | _ => none

@[simp] theorem map_accepted (change : α → β) (value : α) :
    map change (.accepted value) = .accepted (change value) := rfl

@[simp] theorem below_accepted (step : Step) (value : α) :
    below step (.accepted value) = .accepted value := rfl

@[simp] theorem pure_eq (value : α) : (pure value : Validation α) = .accepted value := rfl

@[simp] theorem accepted_map (change : α → β) (value : α) :
    change <$> (Validation.accepted value) = .accepted (change value) := rfl

@[simp] theorem accepted_seq (change : α → β) (value : α) :
    (Validation.accepted change <*> Validation.accepted value) = .accepted (change value) := rfl

/-- Two parts are accepted together exactly when each of them is. -/
theorem seq_eq_accepted_iff {first : Validation (α → β)} {second : Validation α} {result : β} :
    (first <*> second) = .accepted result ↔
      ∃ change value, first = .accepted change ∧ second = .accepted value ∧
        change value = result := by
  show both first (fun _ => second) = _ ↔ _
  cases first <;> cases second <;> simp [both]

/-- A changed value is accepted exactly when the value is. -/
theorem map_eq_accepted_iff {change : α → β} {outcome : Validation α} {result : β} :
    change <$> outcome = .accepted result ↔
      ∃ value, outcome = .accepted value ∧ change value = result := by
  show map change outcome = _ ↔ _
  cases outcome <;> simp [map]

end Validation

end Playthrough.Schema

import Mathlib.Data.List.Forall2
import Playthrough.Schema.Leaf

/-!
Contract: what it takes for the parts of a document to be accepted.

Owns: when a field, a model, an optional value and a list are accepted, and with which value.

Does not own: the schemas of scenes.
-/

namespace Playthrough.Schema

variable {α : Type} {check : Json → Validation α} {fields : Json.Fields} {name : String}

namespace Validation

@[simp] theorem below_eq_accepted_iff {step : Step} {outcome : Validation α} {value : α} :
    outcome.below step = .accepted value ↔ outcome = .accepted value := by
  cases outcome <;> simp [below]

end Validation

/-! ## Fields -/

/-- A field that has to be there is accepted when it is there and its value is. -/
theorem required_eq_accepted_iff {value : α} :
    required name check fields = .accepted value ↔
      ∃ document, fields.get? name = some document ∧ check document = .accepted value := by
  unfold required
  cases fields.get? name with
  | none => simp [Validation.issue, Validation.below]
  | some document => simp

/-- A field that may be absent is accepted when it is, with the given value, or when its value is. -/
theorem defaulted_eq_accepted_iff {absent value : α} :
    defaulted name absent check fields = .accepted value ↔
      fields.get? name = none ∧ absent = value
        ∨ ∃ document, fields.get? name = some document ∧ check document = .accepted value := by
  unfold defaulted
  cases fields.get? name with
  | none => simp
  | some document => simp

/-- Looking a name up fails exactly where it is not present. -/
theorem get?_eq_none_iff : fields.get? name = none ↔ fields.has name = false := by
  simp only [Json.Fields.get?, Json.Fields.has, Option.map_eq_none_iff, List.find?_eq_none, List.any_eq_false]

/-- A field with two names is accepted under the first one that is there. -/
theorem eitherName_eq_accepted_iff {first second : String} {absent value : α} :
    eitherName first second absent check fields = .accepted value ↔
      (∃ document, fields.get? first = some document ∧ check document = .accepted value)
        ∨ fields.get? first = none ∧ defaulted second absent check fields = .accepted value := by
  unfold eitherName
  cases present : fields.has first with
  | true =>
      have there : fields.get? first ≠ none := by simp [get?_eq_none_iff, present]
      simp [defaulted_eq_accepted_iff, there]
  | false =>
      have missing : fields.get? first = none := get?_eq_none_iff.mpr present
      simp [missing]

/-- A model is accepted when it is an object and its fields are. -/
theorem checkModel_eq_accepted_iff {check : Json.Fields → Validation α} {document : Json} {value : α} :
    checkModel check document = .accepted value ↔
      ∃ fields, document = .object fields ∧ check fields = .accepted value := by
  cases document <;> simp [checkModel, Validation.issue]

/-! ## Optional values and lists -/

theorem checkOptional_eq_accepted_iff {document : Json} {value : Option α} :
    checkOptional check document = .accepted value ↔
      document = .null ∧ value = none
        ∨ document ≠ .null ∧ ∃ found, check document = .accepted found ∧ some found = value := by
  cases document <;> simp [checkOptional, Validation.map_eq_accepted_iff, eq_comm]

theorem checkItemsFrom_eq_accepted_iff {position : Nat} {items : List Json} {values : List α} :
    checkItemsFrom check position items = .accepted values ↔
      List.Forall₂ (fun item value => check item = .accepted value) items values := by
  induction items generalizing position values with
  | nil =>
      unfold checkItemsFrom
      rw [List.forall₂_nil_left_iff, Validation.accepted.injEq, eq_comm]
  | cons item rest inductionHypothesis =>
      simp only [checkItemsFrom, Validation.seq_eq_accepted_iff, Validation.map_eq_accepted_iff,
        Validation.below_eq_accepted_iff, inductionHypothesis]
      constructor
      · rintro ⟨-, found, ⟨value, accepted, rfl⟩, each, rfl⟩
        exact .cons accepted each
      · rintro (_ | ⟨accepted, each⟩)
        exact ⟨_, _, ⟨_, accepted, rfl⟩, each, rfl⟩

/-- A list is accepted when each of its items is, in their order. -/
theorem checkList_eq_accepted_iff {document : Json} {values : List α} :
    checkList check document = .accepted values ↔
      ∃ items, document = .array items
        ∧ List.Forall₂ (fun item value => check item = .accepted value) items values := by
  cases document <;> simp [checkList, checkItemsFrom_eq_accepted_iff, Validation.issue]

end Playthrough.Schema

import Playthrough.Scene.Check

/-!
Contract: which documents a schema can be applied to at all.

Owns: what makes a document unusable for the two schemas of scenes: one of its nodes states a kind
that is an array or an object. Every other part of a scene can be checked whatever stands there.

Does not own: which documents are accepted.
-/

namespace Playthrough

open Schema

namespace Schema.Validation

variable {α β : Type}

@[simp] theorem map_eq_unusable_iff {change : α → β} {outcome : Validation α} :
    change <$> outcome = .unusable ↔ outcome = .unusable := by
  show map change outcome = _ ↔ _
  cases outcome <;> simp [map]

/-- Two parts are unusable together exactly when one of them is. -/
@[simp] theorem seq_eq_unusable_iff {first : Validation (α → β)} {second : Validation α} :
    first <*> second = .unusable ↔ first = .unusable ∨ second = .unusable := by
  show both first (fun _ => second) = _ ↔ _
  cases first <;> cases second <;> simp [both]

@[simp] theorem below_eq_unusable_iff {step : Schema.Step} {outcome : Validation α} :
    outcome.below step = .unusable ↔ outcome = .unusable := by
  cases outcome <;> simp [below]

@[simp] theorem issue_ne_unusable (kind : IssueKind) :
    (issue kind : Validation α) ≠ .unusable := by
  simp [issue]

end Schema.Validation

namespace Schema

variable {α : Type}

/-- A check that comes to an outcome on every document. -/
def Applicable (check : Json → Validation α) : Prop :=
  ∀ document, check document ≠ .unusable

/-! ## The parts that schemas are made of -/

theorem applicable_checkText : Applicable checkText := by
  intro document
  cases document <;> simp [checkText]

theorem integerOfReal_ne_unusable (value : Binary64) : integerOfReal value ≠ .unusable := by
  unfold integerOfReal
  split
  · split
    · simp
    · split <;> simp
  · simp

theorem integerOfText_ne_unusable (value : String) : integerOfText value ≠ .unusable := by
  simp only [integerOfText]
  split
  · simp
  · split <;> simp

theorem applicable_checkInteger : Applicable checkInteger := by
  intro document
  cases document with
  | real value => exact integerOfReal_ne_unusable value
  | text value => exact integerOfText_ne_unusable value
  | _ => simp [checkInteger]

theorem applicable_checkListed (ofName? : String → Option α) :
    Applicable (checkListed ofName?) := by
  intro document
  cases document with
  | text name =>
      simp only [checkListed]
      split <;> simp
  | _ => simp [checkListed]

theorem checkItemsFrom_eq_unusable_iff {check : Json → Validation α} {position : Nat}
    {items : List Json} :
    checkItemsFrom check position items = .unusable ↔
      ∃ item ∈ items, check item = .unusable := by
  induction items generalizing position with
  | nil => simp [checkItemsFrom]
  | cons item rest inductionHypothesis => simp [checkItemsFrom, inductionHypothesis]

/-- A list is unusable exactly when one of its items is. -/
theorem checkList_eq_unusable_iff {check : Json → Validation α} {document : Json} :
    checkList check document = .unusable ↔
      ∃ items, document = .array items ∧ ∃ item ∈ items, check item = .unusable := by
  cases document <;> simp [checkList, checkItemsFrom_eq_unusable_iff]

theorem Applicable.list {check : Json → Validation α} (applicable : Applicable check) :
    Applicable (checkList check) := by
  intro document unusable
  obtain ⟨items, -, item, -, itemUnusable⟩ := checkList_eq_unusable_iff.mp unusable
  exact applicable item itemUnusable

theorem Applicable.optional {check : Json → Validation α} (applicable : Applicable check) :
    Applicable (checkOptional check) := by
  intro document
  cases document <;> simp [checkOptional, applicable _]

/-! ## The fields of a model -/

theorem required_eq_unusable_iff {name : String} {check : Json → Validation α}
    {fields : Json.Fields} :
    required name check fields = .unusable ↔
      ∃ document, fields.get? name = some document ∧ check document = .unusable := by
  unfold required
  split <;> simp_all

theorem defaulted_eq_unusable_iff {name : String} {absent : α} {check : Json → Validation α}
    {fields : Json.Fields} :
    defaulted name absent check fields = .unusable ↔
      ∃ document, fields.get? name = some document ∧ check document = .unusable := by
  unfold defaulted
  split <;> simp_all

@[simp] theorem Applicable.required_ne {check : Json → Validation α}
    (applicable : Applicable check) (name : String) (fields : Json.Fields) :
    required name check fields ≠ .unusable := by
  simp [required_eq_unusable_iff, applicable _]

@[simp] theorem Applicable.defaulted_ne {check : Json → Validation α}
    (applicable : Applicable check) (name : String) (absent : α) (fields : Json.Fields) :
    defaulted name absent check fields ≠ .unusable := by
  simp [defaulted_eq_unusable_iff, applicable _]

theorem Applicable.eitherName_ne {check : Json → Validation α}
    (applicable : Applicable check) (first second : String) (absent : α) (fields : Json.Fields) :
    eitherName first second absent check fields ≠ .unusable := by
  unfold eitherName
  split
  · exact applicable.defaulted_ne _ _ _
  · exact applicable.defaulted_ne _ _ _

/-- A model is unusable exactly when its fields are. -/
theorem checkModel_eq_unusable_iff {check : Json.Fields → Validation α} {document : Json} :
    checkModel check document = .unusable ↔
      ∃ fields, document = .object fields ∧ check fields = .unusable := by
  cases document <;> simp [checkModel]

theorem applicable_checkModel {check : Json.Fields → Validation α}
    (applicable : ∀ fields, check fields ≠ .unusable) : Applicable (checkModel check) := by
  intro document unusable
  obtain ⟨fields, -, fieldsUnusable⟩ := checkModel_eq_unusable_iff.mp unusable
  exact applicable fields fieldsUnusable

end Schema

/-! ## The parts of a scene -/

theorem applicable_checkKind (kind : String) (fields : Json.Fields) :
    checkKind kind fields ≠ .unusable :=
  (applicable_checkListed _).defaulted_ne _ _ _

theorem Localized.applicable_check : Applicable Localized.check :=
  applicable_checkModel fun fields => by
    simp [applicable_checkText.required_ne]

theorem Choice.applicable_check : Applicable Choice.check :=
  applicable_checkModel fun fields => by
    simp [applicable_checkText.required_ne, applicable_checkInteger.required_ne,
      Localized.applicable_check.required_ne, Localized.applicable_check.optional.defaulted_ne,
      Localized.applicable_check.list.optional.eitherName_ne,
      applicable_checkInteger.optional.eitherName_ne]

theorem NarrativeBlock.applicable_check : Applicable NarrativeBlock.check :=
  applicable_checkModel fun fields => by
    simp [applicable_checkText.required_ne, applicable_checkKind,
      Localized.applicable_check.optional.defaulted_ne]

theorem MessageBlock.applicable_check : Applicable MessageBlock.check :=
  applicable_checkModel fun fields => by
    simp [applicable_checkText.required_ne, applicable_checkKind,
      applicable_checkText.optional.defaulted_ne, applicable_checkInteger.optional.defaulted_ne,
      Localized.applicable_check.list.optional.defaulted_ne]

theorem DialogueBlock.applicable_check : Applicable DialogueBlock.check :=
  applicable_checkModel fun fields => by
    simp [applicable_checkText.required_ne, applicable_checkKind,
      applicable_checkText.optional.defaulted_ne, applicable_checkInteger.optional.defaulted_ne,
      Localized.applicable_check.optional.defaulted_ne,
      Localized.applicable_check.list.optional.defaulted_ne]

theorem ChoiceNode.applicable_check : Applicable ChoiceNode.check :=
  applicable_checkModel fun fields => by
    simp [applicable_checkText.required_ne, applicable_checkKind,
      Choice.applicable_check.list.optional.defaulted_ne]

theorem SystemEvent.applicable_check : Applicable SystemEvent.check :=
  applicable_checkModel fun fields => by
    simp [applicable_checkText.required_ne, applicable_checkKind,
      applicable_checkText.optional.defaulted_ne, Localized.applicable_check.optional.defaulted_ne]

theorem ForeignNode.applicable_check : Applicable ForeignNode.check :=
  applicable_checkModel fun fields => by
    simp [applicable_checkText.defaulted_ne]

/-- The schema of every kind of node that is played can be applied. -/
theorem KnownKind.applicable_check (kind : KnownKind) : Applicable kind.check := by
  intro document
  cases kind <;>
    simp [KnownKind.check, NarrativeBlock.applicable_check _, MessageBlock.applicable_check _,
      DialogueBlock.applicable_check _, ChoiceNode.applicable_check _,
      SystemEvent.applicable_check _]

theorem Ending.applicable_check : Applicable Ending.check :=
  applicable_checkModel fun fields => by
    simp [applicable_checkInteger.required_ne, Localized.applicable_check.required_ne,
      Localized.applicable_check.list.defaulted_ne]

theorem EndingTable.applicable_check : Applicable EndingTable.check :=
  applicable_checkModel fun fields => by
    simp [Ending.applicable_check.required_ne]

/-! ## Nodes and scenes -/

/-- A node that states a kind which is an array or an object. -/
def Json.StatesCompoundKind (node : Json) : Prop :=
  ∃ fields : Json.Fields, node = .object fields ∧
    ((∃ items, fields.get? "type" = some (.array items)) ∨
      ∃ inner, fields.get? "type" = some (.object inner))

/-- A document one of whose nodes states a kind which is an array or an object. -/
def Json.HoldsCompoundKind (document : Json) : Prop :=
  ∃ (fields : Json.Fields) (nodes : List Json), document = .object fields ∧
    fields.get? "nodes" = some (.array nodes) ∧ ∃ node ∈ nodes, node.StatesCompoundKind

/-- A node that states no kind to look up asks for no schema; every other node asks for one. -/
theorem NodeSchema.of_eq_unusable_iff {node : Json} :
    NodeSchema.of node = .unusable ↔ node.StatesCompoundKind := by
  cases node with
  | object fields =>
      simp only [NodeSchema.of, Json.fields?, Json.StatesCompoundKind, Json.object.injEq,
        exists_eq_left']
      cases Json.Fields.get? fields "type" with
      | none => simp
      | some kind =>
          cases kind with
          | text name =>
              simp only [Option.some.injEq, reduceCtorEq, exists_false, or_self, iff_false]
              split <;> simp
          | _ => simp
  | _ => simp [NodeSchema.of, Json.fields?, Json.StatesCompoundKind]

/-- A node cannot be checked exactly when its kind cannot be looked up. -/
theorem Node.check_eq_unusable_iff {node : Json} :
    Node.check node = .unusable ↔ node.StatesCompoundKind := by
  rw [← NodeSchema.of_eq_unusable_iff]
  unfold Node.check
  split
  · simp_all [KnownKind.applicable_check _ _]
  · simp_all [ForeignNode.applicable_check _]
  · simp_all

theorem defaulted_nodes_eq_unusable_iff {fields : Json.Fields} :
    defaulted "nodes" [] (checkList Node.check) fields = .unusable ↔
      (Json.object fields).HoldsCompoundKind := by
  simp only [defaulted_eq_unusable_iff, checkList_eq_unusable_iff, Node.check_eq_unusable_iff,
    Json.HoldsCompoundKind, Json.object.injEq]
  constructor
  · rintro ⟨_, stored, nodes, rfl, compound⟩
    exact ⟨fields, nodes, rfl, stored, compound⟩
  · rintro ⟨_, nodes, rfl, stored, compound⟩
    exact ⟨_, stored, nodes, rfl, compound⟩

/-- A schema that is unusable exactly on the documents that hold a compound kind. -/
def FailsOnCompoundKinds {α : Type} (check : Json → Validation α) : Prop :=
  ∀ document, check document = .unusable ↔ document.HoldsCompoundKind

theorem failsOnCompoundKinds_checkModel {α : Type} {check : Json.Fields → Validation α}
    (fails : ∀ fields, check fields = .unusable ↔
      defaulted "nodes" [] (checkList Node.check) fields = .unusable) :
    FailsOnCompoundKinds (checkModel check) := by
  intro document
  rw [checkModel_eq_unusable_iff]
  constructor
  · rintro ⟨fields, rfl, unusable⟩
    exact defaulted_nodes_eq_unusable_iff.mp ((fails fields).mp unusable)
  · rintro ⟨fields, nodes, rfl, stored, compound⟩
    exact ⟨fields, rfl, (fails fields).mpr
      (defaulted_nodes_eq_unusable_iff.mpr ⟨fields, nodes, rfl, stored, compound⟩)⟩

/-- A text scene is unusable exactly when one of its nodes states a compound kind. -/
theorem TextScene.failsOnCompoundKinds : FailsOnCompoundKinds TextScene.check :=
  failsOnCompoundKinds_checkModel fun fields => by
    simp [applicable_checkText.required_ne, applicable_checkInteger.required_ne,
      applicable_checkText.list.defaulted_ne]

/-- An encounter is unusable exactly when one of its nodes states a compound kind. -/
theorem EncounterScene.failsOnCompoundKinds : FailsOnCompoundKinds EncounterScene.check :=
  failsOnCompoundKinds_checkModel fun fields => by
    simp [applicable_checkText.required_ne, applicable_checkInteger.required_ne,
      Localized.applicable_check.required_ne, EndingTable.applicable_check.required_ne]

end Playthrough

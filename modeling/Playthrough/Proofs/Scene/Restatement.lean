import Playthrough.Proofs.Schema.Acceptance
import Playthrough.Scene.Check
import Playthrough.Scene.Encode

/-!
Contract: that reading a document and writing it again tells the same.

Owns: when one document restates another (`Restates`), and checks whose values are written as
documents that are read back as the same values and restate what was read (`Preserves`), from texts
and integers to fields, optional values and lists.

Does not own: the schemas of scenes, each of which is preserved in `Proofs.Scene.Encoding`.
-/

namespace Playthrough

open Schema

/-! ## Restating a document -/

/-- The two names of one field: the one that is written, and the other that is read as well. -/
def spellings : List (String × String) :=
  [("reaction_delay_ms", "response_delay_ms"), ("branch_lines", "branch_messages")]

/-- What may be written for a field that a document leaves out. -/
inductive Standard : String → Json → Prop where
  | nothing {name : String} : Standard name .null
  | noItems {name : String} : Standard name (.array [])
  | blank {name : String} : Standard name (.text "")
  | kind (kind : KnownKind) : Standard "type" (.text kind.name)

mutual

/-- A document tells again what another tells: integers in any of their spellings, the items of an
array in their order, and of an object nothing that it does not say. -/
inductive Restates : Json → Json → Prop where
  | same (document : Json) : Restates document document
  | integer {document : Json} {value : Int} (agrees : checkInteger document = .accepted value) :
      Restates document (.integer value)
  | array {items restated : List Json} (each : List.Forall₂ Restates items restated) :
      Restates (.array items) (.array restated)
  | object {fields restated : Json.Fields} (each : RestatesFields fields restated) :
      Restates (.object fields) (.object restated)

/-- Every field that is written restates the field of its name, or the one of its other name when
there is none of its own; where a document leaves it out, it holds a standard value. -/
inductive RestatesFields : Json.Fields → Json.Fields → Prop where
  | nil {fields : Json.Fields} : RestatesFields fields []
  | own {fields restated : Json.Fields} {name : String} {document value : Json}
      (there : (name, document) ∈ fields) (agrees : Restates document value)
      (others : RestatesFields fields restated) : RestatesFields fields ((name, value) :: restated)
  | otherwise {fields restated : Json.Fields} {name other : String} {document value : Json}
      (missing : fields.get? name = none) (either : (name, other) ∈ spellings)
      (there : (other, document) ∈ fields) (agrees : Restates document value)
      (others : RestatesFields fields restated) : RestatesFields fields ((name, value) :: restated)
  | leftOut {fields restated : Json.Fields} {name : String} {value : Json}
      (missing : fields.get? name = none) (standard : Standard name value)
      (others : RestatesFields fields restated) : RestatesFields fields ((name, value) :: restated)

end

/-! ## Checks that preserve documents -/

variable {α : Type} {check : Json → Validation α} {encode : α → Json}

/-- What is read from a document is read again from the document that is written for it, which
restates the first one. -/
def Preserves (check : Json → Validation α) (encode : α → Json) : Prop :=
  ∀ document value, check document = .accepted value →
    check (encode value) = .accepted value ∧ Restates document (encode value)

theorem preserves_checkText : Preserves checkText Json.text := by
  intro document value accepted
  refine ⟨rfl, ?_⟩
  cases document with
  | text found =>
      obtain rfl : found = value := by simpa [checkText] using accepted
      exact .same _
  | _ => simp [checkText, Validation.issue] at accepted

theorem preserves_checkInteger : Preserves checkInteger Json.integer :=
  fun _ _ accepted => ⟨rfl, .integer accepted⟩

/-- An optional value is preserved when the value is and is never written as nothing. -/
theorem Preserves.optional (preserves : Preserves check encode)
    (solid : ∀ value, encode value ≠ .null) :
    Preserves (checkOptional check) (Json.ofOption encode) := by
  intro document value outcome
  rcases checkOptional_eq_accepted_iff.mp outcome with ⟨rfl, rfl⟩ | ⟨-, found, accepted, rfl⟩
  · exact ⟨rfl, .same _⟩
  · obtain ⟨again, agrees⟩ := preserves document found accepted
    exact ⟨checkOptional_eq_accepted_iff.mpr (.inr ⟨solid found, found, again, rfl⟩), agrees⟩

/-- A list is preserved when its items are. -/
theorem Preserves.list (preserves : Preserves check encode) :
    Preserves (checkList check) (Json.ofList encode) := by
  intro document values outcome
  obtain ⟨items, rfl, each⟩ := checkList_eq_accepted_iff.mp outcome
  clear outcome
  constructor
  · apply checkList_eq_accepted_iff.mpr
    refine ⟨values.map encode, rfl, ?_⟩
    induction each with
    | nil => exact .nil
    | cons accepted _ inductionHypothesis =>
        exact .cons (preserves _ _ accepted).1 inductionHypothesis
  · apply Restates.array
    rw [List.forall₂_map_right_iff]
    exact each.imp fun item value accepted => (preserves item value accepted).2

/-- What is read may be wrapped when that does not show in its document. -/
theorem Preserves.wrapped {β : Type} {wrap : α → β} {encodeWrapped : β → Json}
    (preserves : Preserves check encode) (same : ∀ value, encodeWrapped (wrap value) = encode value) :
    Preserves (fun document => wrap <$> check document) encodeWrapped := by
  intro document wrapped outcome
  obtain ⟨value, accepted, rfl⟩ := Validation.map_eq_accepted_iff.mp outcome
  obtain ⟨again, restates⟩ := preserves document value accepted
  rw [same]
  exact ⟨Validation.map_eq_accepted_iff.mpr ⟨value, again, rfl⟩, restates⟩

/-- The same of a field under one name: it is read from every object that holds what is written for
it, and what is written for it may stand among the fields that restate those of the object. -/
structure KeepsField (check : Json.Fields → Validation α) (name : String) (encode : α → Json) :
    Prop where
  again : ∀ {fields : Json.Fields} {value : α}, check fields = .accepted value →
    ∀ {others : Json.Fields}, others.get? name = some (encode value) →
      check others = .accepted value
  agrees : ∀ {fields : Json.Fields} {value : α}, check fields = .accepted value →
    ∀ {restated : Json.Fields}, RestatesFields fields restated →
      RestatesFields fields ((name, encode value) :: restated)

theorem Preserves.required (preserves : Preserves check encode) (name : String) :
    KeepsField (required name check) name encode where
  again accepted others there := by
    obtain ⟨document, -, accepted⟩ := required_eq_accepted_iff.mp accepted
    exact required_eq_accepted_iff.mpr ⟨_, there, (preserves document _ accepted).1⟩
  agrees accepted _ each := by
    obtain ⟨document, there, accepted⟩ := required_eq_accepted_iff.mp accepted
    exact .own (Json.Fields.mem_of_get? there) (preserves document _ accepted).2 each

/-- A field that may be left out is kept when the value it has then is preserved and standard. -/
theorem Preserves.defaulted {name : String} {absent : α} (preserves : Preserves check encode)
    (reads : check (encode absent) = .accepted absent) (standard : Standard name (encode absent)) :
    KeepsField (defaulted name absent check) name encode where
  again accepted others there := by
    apply defaulted_eq_accepted_iff.mpr
    rcases defaulted_eq_accepted_iff.mp accepted with ⟨-, rfl⟩ | ⟨document, -, accepted⟩
    · exact .inr ⟨_, there, reads⟩
    · exact .inr ⟨_, there, (preserves document _ accepted).1⟩
  agrees accepted _ each := by
    rcases defaulted_eq_accepted_iff.mp accepted with ⟨missing, rfl⟩ | ⟨document, there, accepted⟩
    · exact .leftOut missing standard each
    · exact .own (Json.Fields.mem_of_get? there) (preserves document _ accepted).2 each

/-- An optional field is kept. -/
theorem Preserves.optionalField {name : String} (preserves : Preserves check encode)
    (solid : ∀ value, encode value ≠ .null) :
    KeepsField (Schema.defaulted name none (checkOptional check)) name (Json.ofOption encode) :=
  (preserves.optional solid).defaulted rfl .nothing

/-- A list that may be left out is kept. -/
theorem Preserves.listField {name : String} (preserves : Preserves check encode) :
    KeepsField (Schema.defaulted name [] (checkList check)) name (Json.ofList encode) :=
  preserves.list.defaulted rfl .noItems

/-- An optional field with two names is kept under the first of them. -/
theorem Preserves.eitherName {name other : String} (preserves : Preserves check encode)
    (solid : ∀ value, encode value ≠ .null) (either : (name, other) ∈ spellings) :
    KeepsField (eitherName name other none (checkOptional check)) name (Json.ofOption encode) where
  again accepted others there := by
    apply eitherName_eq_accepted_iff.mpr
    refine .inl ⟨_, there, ?_⟩
    rcases eitherName_eq_accepted_iff.mp accepted with ⟨document, -, accepted⟩ | ⟨-, accepted⟩
    · exact (preserves.optional solid document _ accepted).1
    · rcases defaulted_eq_accepted_iff.mp accepted with ⟨-, rfl⟩ | ⟨document, -, accepted⟩
      · rfl
      · exact (preserves.optional solid document _ accepted).1
  agrees accepted _ each := by
    rcases eitherName_eq_accepted_iff.mp accepted with ⟨document, there, accepted⟩ | ⟨missing, accepted⟩
    · exact .own (Json.Fields.mem_of_get? there) (preserves.optional solid document _ accepted).2 each
    · rcases defaulted_eq_accepted_iff.mp accepted with ⟨-, rfl⟩ | ⟨document, there, accepted⟩
      · exact .leftOut missing .nothing each
      · exact .otherwise missing either (Json.Fields.mem_of_get? there)
          (preserves.optional solid document _ accepted).2 each

/-- A name that has to be the given one is preserved. -/
theorem preserves_checkListed_eq (expected : String) :
    Preserves (checkListed fun name => if name = expected then some name else none) Json.text := by
  intro document value accepted
  cases document with
  | text found =>
      by_cases same : found = expected
      · obtain rfl : found = value := by simpa [checkListed, same] using accepted
        exact ⟨accepted, .same _⟩
      · simp [checkListed, same, Validation.issue] at accepted
  | _ => simp [checkListed, Validation.issue] at accepted

/-- The kind of a node is never accepted as another one. -/
theorem exists_checkKind_iff {kind : String} {fields : Json.Fields} :
    (∃ found, checkKind kind fields = .accepted found) ↔ checkKind kind fields = .accepted kind := by
  constructor
  · rintro ⟨found, accepted⟩
    rcases defaulted_eq_accepted_iff.mp accepted with ⟨-, rfl⟩ | ⟨document, -, listed⟩
    · exact accepted
    · cases document with
      | text name =>
          by_cases same : name = kind
          · obtain rfl : name = found := by simpa [checkListed, same] using listed
            rwa [same] at accepted
          · simp [checkListed, same, Validation.issue] at listed
      | _ => simp [checkListed, Validation.issue] at listed
  · exact fun accepted => ⟨kind, accepted⟩

/-- The stated kind of a node is kept. -/
theorem keepsField_checkKind (kind : KnownKind) :
    KeepsField (checkKind kind.name) "type" Json.text :=
  (preserves_checkListed_eq kind.name).defaulted (by simp [checkListed]) (.kind kind)

end Playthrough

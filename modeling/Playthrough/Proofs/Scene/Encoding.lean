import Playthrough.Proofs.Scene.Restatement

/-!
Contract: that every part of a scene is preserved when its document is read and written again.

Owns: when each part is accepted, field by field, and one lemma for each part that it is preserved,
from localized texts to the nodes and the ending table.

Does not own: whole scenes, and documents that differ in their spelling.

Each part is preserved because each of its fields is kept: the value that is written for it is read
again under its own name, and restates the field that it was read from.
-/

namespace Playthrough

open Schema

variable {fields : Json.Fields}

/-! ## Localized texts and choices -/

theorem Localized.check_eq_accepted_iff {text : Localized} :
    Localized.check (.object fields) = .accepted text ↔
      required "en" checkText fields = .accepted text.english
        ∧ required "it" checkText fields = .accepted text.italian
        ∧ required "ka" checkText fields = .accepted text.georgian
        ∧ required "fa" checkText fields = .accepted text.persian := by
  cases text
  constructor
  · intro accepted
    obtain ⟨_, _, upToGeorgian, inPersian, made⟩ := Validation.seq_eq_accepted_iff.mp accepted
    obtain ⟨_, _, upToItalian, inGeorgian, rfl⟩ := Validation.seq_eq_accepted_iff.mp upToGeorgian
    obtain ⟨_, _, upToEnglish, inItalian, rfl⟩ := Validation.seq_eq_accepted_iff.mp upToItalian
    obtain ⟨_, inEnglish, rfl⟩ := Validation.map_eq_accepted_iff.mp upToEnglish
    cases made
    exact ⟨inEnglish, inItalian, inGeorgian, inPersian⟩
  · rintro ⟨inEnglish, inItalian, inGeorgian, inPersian⟩
    change (_ <$> _ <*> _ <*> _ <*> _ : Validation Localized) = _
    rw [inEnglish, inItalian, inGeorgian, inPersian]
    rfl

theorem Localized.preserves : Preserves Localized.check Localized.encode := by
  intro document text outcome
  obtain ⟨fields, rfl, -⟩ := checkModel_eq_accepted_iff.mp outcome
  obtain ⟨english, italian, georgian, persian⟩ := Localized.check_eq_accepted_iff.mp outcome
  have inEnglish := preserves_checkText.required "en"
  have inItalian := preserves_checkText.required "it"
  have inGeorgian := preserves_checkText.required "ka"
  have inPersian := preserves_checkText.required "fa"
  constructor
  · apply Localized.check_eq_accepted_iff.mpr
    exact ⟨inEnglish.again english rfl, inItalian.again italian rfl,
      inGeorgian.again georgian rfl, inPersian.again persian rfl⟩
  · apply Restates.object
    exact inEnglish.agrees english (inItalian.agrees italian
      (inGeorgian.agrees georgian (inPersian.agrees persian .nil)))

/-- Fields that may hold a localized text. -/
theorem Localized.keepsOptional (name : String) :
    KeepsField (defaulted name none (checkOptional Localized.check)) name
      (Json.ofOption Localized.encode) :=
  Localized.preserves.optionalField fun _ => nofun

/-- Fields that may hold a list of localized texts, or nothing. -/
theorem Localized.keepsOptionalList (name : String) :
    KeepsField (defaulted name none (checkOptional (checkList Localized.check))) name
      (Json.ofOption (Json.ofList Localized.encode)) :=
  Localized.preserves.list.optionalField fun _ => nofun

/-- Fields that may hold a text. -/
theorem keepsOptionalText (name : String) :
    KeepsField (defaulted name none (checkOptional checkText)) name (Json.ofOption Json.text) :=
  preserves_checkText.optionalField fun _ => nofun

/-- Fields that may hold an integer. -/
theorem keepsOptionalInteger (name : String) :
    KeepsField (defaulted name none (checkOptional checkInteger)) name (Json.ofOption Json.integer) :=
  preserves_checkInteger.optionalField fun _ => nofun

theorem Choice.check_eq_accepted_iff {choice : Choice} :
    Choice.check (.object fields) = .accepted choice ↔
      required "option_id" checkText fields = .accepted choice.id
        ∧ required "text" Localized.check fields = .accepted choice.text
        ∧ required "points" checkInteger fields = .accepted choice.points
        ∧ eitherName "reaction_delay_ms" "response_delay_ms" none (checkOptional checkInteger) fields
            = .accepted choice.reactionHint
        ∧ defaulted "branch_narrative" none (checkOptional Localized.check) fields
            = .accepted choice.narrative
        ∧ eitherName "branch_lines" "branch_messages" none (checkOptional (checkList Localized.check))
              fields
            = .accepted choice.lines := by
  cases choice
  constructor
  · intro accepted
    obtain ⟨_, _, upToNarrative, inLines, made⟩ := Validation.seq_eq_accepted_iff.mp accepted
    obtain ⟨_, _, upToHint, inNarrative, rfl⟩ := Validation.seq_eq_accepted_iff.mp upToNarrative
    obtain ⟨_, _, upToPoints, inHint, rfl⟩ := Validation.seq_eq_accepted_iff.mp upToHint
    obtain ⟨_, _, upToText, inPoints, rfl⟩ := Validation.seq_eq_accepted_iff.mp upToPoints
    obtain ⟨_, _, upToId, inText, rfl⟩ := Validation.seq_eq_accepted_iff.mp upToText
    obtain ⟨_, inId, rfl⟩ := Validation.map_eq_accepted_iff.mp upToId
    cases made
    exact ⟨inId, inText, inPoints, inHint, inNarrative, inLines⟩
  · rintro ⟨inId, inText, inPoints, inHint, inNarrative, inLines⟩
    change (_ <$> _ <*> _ <*> _ <*> _ <*> _ <*> _ : Validation Choice) = _
    rw [inId, inText, inPoints, inHint, inNarrative, inLines]
    rfl

theorem Choice.preserves : Preserves Choice.check Choice.encode := by
  intro document choice outcome
  obtain ⟨fields, rfl, -⟩ := checkModel_eq_accepted_iff.mp outcome
  obtain ⟨id, text, points, hint, narrative, lines⟩ := Choice.check_eq_accepted_iff.mp outcome
  have inId := preserves_checkText.required "option_id"
  have inText := Localized.preserves.required "text"
  have inPoints := preserves_checkInteger.required "points"
  have inHint := preserves_checkInteger.eitherName (fun _ => nofun)
    (show ("reaction_delay_ms", "response_delay_ms") ∈ spellings by simp [spellings])
  have inNarrative := Localized.keepsOptional "branch_narrative"
  have inLines := Localized.preserves.list.eitherName (fun _ => nofun)
    (show ("branch_lines", "branch_messages") ∈ spellings by simp [spellings])
  constructor
  · apply Choice.check_eq_accepted_iff.mpr
    exact ⟨inId.again id rfl, inText.again text rfl, inPoints.again points rfl, inHint.again hint rfl,
      inNarrative.again narrative rfl, inLines.again lines rfl⟩
  · apply Restates.object
    exact inId.agrees id (inText.agrees text (inPoints.agrees points (inHint.agrees hint
      (inNarrative.agrees narrative (inLines.agrees lines .nil)))))

/-! ## Nodes that are played -/

theorem NarrativeBlock.check_eq_accepted_iff {block : NarrativeBlock} :
    NarrativeBlock.check (.object fields) = .accepted block ↔
      required "id" checkText fields = .accepted block.id
        ∧ checkKind "narrative_block" fields = .accepted "narrative_block"
        ∧ defaulted "description" none (checkOptional Localized.check) fields
            = .accepted block.description := by
  cases block
  constructor
  · intro accepted
    obtain ⟨_, _, upToKind, inDescription, made⟩ := Validation.seq_eq_accepted_iff.mp accepted
    obtain ⟨_, _, upToId, inKind, rfl⟩ := Validation.seq_eq_accepted_iff.mp upToKind
    obtain ⟨_, inId, rfl⟩ := Validation.map_eq_accepted_iff.mp upToId
    cases made
    exact ⟨inId, exists_checkKind_iff.mp ⟨_, inKind⟩, inDescription⟩
  · rintro ⟨inId, inKind, inDescription⟩
    change (_ <$> _ <*> _ <*> _ : Validation NarrativeBlock) = _
    rw [inId, inKind, inDescription]
    rfl

theorem NarrativeBlock.preserves : Preserves NarrativeBlock.check NarrativeBlock.encode := by
  intro document block outcome
  obtain ⟨fields, rfl, -⟩ := checkModel_eq_accepted_iff.mp outcome
  obtain ⟨id, kind, description⟩ := NarrativeBlock.check_eq_accepted_iff.mp outcome
  have inId := preserves_checkText.required "id"
  have inKind := keepsField_checkKind .narrative
  have inDescription := Localized.keepsOptional "description"
  constructor
  · apply NarrativeBlock.check_eq_accepted_iff.mpr
    exact ⟨inId.again id rfl, inKind.again kind rfl, inDescription.again description rfl⟩
  · apply Restates.object
    exact inId.agrees id (inKind.agrees kind (inDescription.agrees description .nil))

theorem MessageBlock.check_eq_accepted_iff {block : MessageBlock} :
    MessageBlock.check (.object fields) = .accepted block ↔
      required "id" checkText fields = .accepted block.id
        ∧ checkKind "message_block" fields = .accepted "message_block"
        ∧ defaulted "sender" none (checkOptional checkText) fields = .accepted block.sender
        ∧ defaulted "messages" none (checkOptional (checkList Localized.check)) fields
            = .accepted block.messages
        ∧ defaulted "response_delay_ms" none (checkOptional checkInteger) fields
            = .accepted block.responseHint
        ∧ defaulted "system_event" none (checkOptional checkText) fields = .accepted block.event := by
  cases block
  constructor
  · intro accepted
    obtain ⟨_, _, upToHint, inEvent, made⟩ := Validation.seq_eq_accepted_iff.mp accepted
    obtain ⟨_, _, upToMessages, inHint, rfl⟩ := Validation.seq_eq_accepted_iff.mp upToHint
    obtain ⟨_, _, upToSender, inMessages, rfl⟩ := Validation.seq_eq_accepted_iff.mp upToMessages
    obtain ⟨_, _, upToKind, inSender, rfl⟩ := Validation.seq_eq_accepted_iff.mp upToSender
    obtain ⟨_, _, upToId, inKind, rfl⟩ := Validation.seq_eq_accepted_iff.mp upToKind
    obtain ⟨_, inId, rfl⟩ := Validation.map_eq_accepted_iff.mp upToId
    cases made
    exact ⟨inId, exists_checkKind_iff.mp ⟨_, inKind⟩, inSender, inMessages, inHint, inEvent⟩
  · rintro ⟨inId, inKind, inSender, inMessages, inHint, inEvent⟩
    change (_ <$> _ <*> _ <*> _ <*> _ <*> _ <*> _ : Validation MessageBlock) = _
    rw [inId, inKind, inSender, inMessages, inHint, inEvent]
    rfl

theorem MessageBlock.preserves : Preserves MessageBlock.check MessageBlock.encode := by
  intro document block outcome
  obtain ⟨fields, rfl, -⟩ := checkModel_eq_accepted_iff.mp outcome
  obtain ⟨id, kind, sender, messages, hint, event⟩ := MessageBlock.check_eq_accepted_iff.mp outcome
  have inId := preserves_checkText.required "id"
  have inKind := keepsField_checkKind .messages
  have inSender := keepsOptionalText "sender"
  have inMessages := Localized.keepsOptionalList "messages"
  have inHint := keepsOptionalInteger "response_delay_ms"
  have inEvent := keepsOptionalText "system_event"
  constructor
  · apply MessageBlock.check_eq_accepted_iff.mpr
    exact ⟨inId.again id rfl, inKind.again kind rfl, inSender.again sender rfl,
      inMessages.again messages rfl, inHint.again hint rfl, inEvent.again event rfl⟩
  · apply Restates.object
    exact inId.agrees id (inKind.agrees kind (inSender.agrees sender (inMessages.agrees messages
      (inHint.agrees hint (inEvent.agrees event .nil)))))

theorem DialogueBlock.check_eq_accepted_iff {block : DialogueBlock} :
    DialogueBlock.check (.object fields) = .accepted block ↔
      required "id" checkText fields = .accepted block.id
        ∧ checkKind "dialogue_block" fields = .accepted "dialogue_block"
        ∧ defaulted "speaker" none (checkOptional checkText) fields = .accepted block.speaker
        ∧ defaulted "lines" none (checkOptional (checkList Localized.check)) fields
            = .accepted block.lines
        ∧ defaulted "narrative_action" none (checkOptional Localized.check) fields
            = .accepted block.action
        ∧ defaulted "reaction_delay_ms" none (checkOptional checkInteger) fields
            = .accepted block.reactionHint := by
  cases block
  constructor
  · intro accepted
    obtain ⟨_, _, upToAction, inHint, made⟩ := Validation.seq_eq_accepted_iff.mp accepted
    obtain ⟨_, _, upToLines, inAction, rfl⟩ := Validation.seq_eq_accepted_iff.mp upToAction
    obtain ⟨_, _, upToSpeaker, inLines, rfl⟩ := Validation.seq_eq_accepted_iff.mp upToLines
    obtain ⟨_, _, upToKind, inSpeaker, rfl⟩ := Validation.seq_eq_accepted_iff.mp upToSpeaker
    obtain ⟨_, _, upToId, inKind, rfl⟩ := Validation.seq_eq_accepted_iff.mp upToKind
    obtain ⟨_, inId, rfl⟩ := Validation.map_eq_accepted_iff.mp upToId
    cases made
    exact ⟨inId, exists_checkKind_iff.mp ⟨_, inKind⟩, inSpeaker, inLines, inAction, inHint⟩
  · rintro ⟨inId, inKind, inSpeaker, inLines, inAction, inHint⟩
    change (_ <$> _ <*> _ <*> _ <*> _ <*> _ <*> _ : Validation DialogueBlock) = _
    rw [inId, inKind, inSpeaker, inLines, inAction, inHint]
    rfl

theorem DialogueBlock.preserves : Preserves DialogueBlock.check DialogueBlock.encode := by
  intro document block outcome
  obtain ⟨fields, rfl, -⟩ := checkModel_eq_accepted_iff.mp outcome
  obtain ⟨id, kind, speaker, lines, action, hint⟩ := DialogueBlock.check_eq_accepted_iff.mp outcome
  have inId := preserves_checkText.required "id"
  have inKind := keepsField_checkKind .dialogue
  have inSpeaker := keepsOptionalText "speaker"
  have inLines := Localized.keepsOptionalList "lines"
  have inAction := Localized.keepsOptional "narrative_action"
  have inHint := keepsOptionalInteger "reaction_delay_ms"
  constructor
  · apply DialogueBlock.check_eq_accepted_iff.mpr
    exact ⟨inId.again id rfl, inKind.again kind rfl, inSpeaker.again speaker rfl,
      inLines.again lines rfl, inAction.again action rfl, inHint.again hint rfl⟩
  · apply Restates.object
    exact inId.agrees id (inKind.agrees kind (inSpeaker.agrees speaker (inLines.agrees lines
      (inAction.agrees action (inHint.agrees hint .nil)))))

theorem ChoiceNode.check_eq_accepted_iff {node : ChoiceNode} :
    ChoiceNode.check (.object fields) = .accepted node ↔
      required "id" checkText fields = .accepted node.id
        ∧ checkKind "player_choice" fields = .accepted "player_choice"
        ∧ defaulted "options" none (checkOptional (checkList Choice.check)) fields
            = .accepted node.choices := by
  cases node
  constructor
  · intro accepted
    obtain ⟨_, _, upToKind, inOptions, made⟩ := Validation.seq_eq_accepted_iff.mp accepted
    obtain ⟨_, _, upToId, inKind, rfl⟩ := Validation.seq_eq_accepted_iff.mp upToKind
    obtain ⟨_, inId, rfl⟩ := Validation.map_eq_accepted_iff.mp upToId
    cases made
    exact ⟨inId, exists_checkKind_iff.mp ⟨_, inKind⟩, inOptions⟩
  · rintro ⟨inId, inKind, inOptions⟩
    change (_ <$> _ <*> _ <*> _ : Validation ChoiceNode) = _
    rw [inId, inKind, inOptions]
    rfl

theorem ChoiceNode.preserves : Preserves ChoiceNode.check ChoiceNode.encode := by
  intro document node outcome
  obtain ⟨fields, rfl, -⟩ := checkModel_eq_accepted_iff.mp outcome
  obtain ⟨id, kind, options⟩ := ChoiceNode.check_eq_accepted_iff.mp outcome
  have inId := preserves_checkText.required "id"
  have inKind := keepsField_checkKind .choice
  have inOptions : KeepsField (defaulted "options" none (checkOptional (checkList Choice.check)))
      "options" (Json.ofOption (Json.ofList Choice.encode)) :=
    Choice.preserves.list.optionalField fun _ => nofun
  constructor
  · apply ChoiceNode.check_eq_accepted_iff.mpr
    exact ⟨inId.again id rfl, inKind.again kind rfl, inOptions.again options rfl⟩
  · apply Restates.object
    exact inId.agrees id (inKind.agrees kind (inOptions.agrees options .nil))

theorem SystemEvent.check_eq_accepted_iff {event : SystemEvent} :
    SystemEvent.check (.object fields) = .accepted event ↔
      required "id" checkText fields = .accepted event.id
        ∧ checkKind "system_event" fields = .accepted "system_event"
        ∧ defaulted "event" none (checkOptional checkText) fields = .accepted event.event
        ∧ defaulted "label" none (checkOptional Localized.check) fields = .accepted event.label := by
  cases event
  constructor
  · intro accepted
    obtain ⟨_, _, upToName, inLabel, made⟩ := Validation.seq_eq_accepted_iff.mp accepted
    obtain ⟨_, _, upToKind, inName, rfl⟩ := Validation.seq_eq_accepted_iff.mp upToName
    obtain ⟨_, _, upToId, inKind, rfl⟩ := Validation.seq_eq_accepted_iff.mp upToKind
    obtain ⟨_, inId, rfl⟩ := Validation.map_eq_accepted_iff.mp upToId
    cases made
    exact ⟨inId, exists_checkKind_iff.mp ⟨_, inKind⟩, inName, inLabel⟩
  · rintro ⟨inId, inKind, inName, inLabel⟩
    change (_ <$> _ <*> _ <*> _ <*> _ : Validation SystemEvent) = _
    rw [inId, inKind, inName, inLabel]
    rfl

theorem SystemEvent.preserves : Preserves SystemEvent.check SystemEvent.encode := by
  intro document event outcome
  obtain ⟨fields, rfl, -⟩ := checkModel_eq_accepted_iff.mp outcome
  obtain ⟨id, kind, name, label⟩ := SystemEvent.check_eq_accepted_iff.mp outcome
  have inId := preserves_checkText.required "id"
  have inKind := keepsField_checkKind .system
  have inName := keepsOptionalText "event"
  have inLabel := Localized.keepsOptional "label"
  constructor
  · apply SystemEvent.check_eq_accepted_iff.mpr
    exact ⟨inId.again id rfl, inKind.again kind rfl, inName.again name rfl, inLabel.again label rfl⟩
  · apply Restates.object
    exact inId.agrees id (inKind.agrees kind (inName.agrees name (inLabel.agrees label .nil)))

/-! ## Foreign nodes and nodes of every kind -/

theorem ForeignNode.check_eq_accepted_iff {node : ForeignNode} :
    ForeignNode.check (.object fields) = .accepted node ↔
      defaulted "id" "" checkText fields = .accepted node.id
        ∧ defaulted "type" "" checkText fields = .accepted node.kind
        ∧ ForeignNode.extrasOf fields = node.extras := by
  cases node
  constructor
  · intro accepted
    obtain ⟨_, _, upToId, inKind, made⟩ := Validation.seq_eq_accepted_iff.mp accepted
    obtain ⟨_, inId, rfl⟩ := Validation.map_eq_accepted_iff.mp upToId
    cases made
    exact ⟨inId, inKind, rfl⟩
  · rintro ⟨inId, inKind, rfl⟩
    change (_ <$> _ <*> _ : Validation ForeignNode) = _
    rw [inId, inKind]
    rfl

/-- The other fields of a node are those of its document. -/
theorem ForeignNode.extrasOf_encoded (id kind : Json) :
    ForeignNode.extrasOf (("id", id) :: ("type", kind) :: ForeignNode.extrasOf fields)
      = ForeignNode.extrasOf fields := by
  simp [ForeignNode.extrasOf]

/-- Fields that a document has may be written as they are. -/
theorem restatesFields_of_subset {restated : Json.Fields} (subset : restated ⊆ fields) :
    RestatesFields fields restated := by
  induction restated with
  | nil => exact .nil
  | cons field rest inductionHypothesis =>
      obtain ⟨there, others⟩ := List.cons_subset.mp subset
      exact .own there (.same _) (inductionHypothesis others)

theorem ForeignNode.preserves : Preserves ForeignNode.check ForeignNode.encode := by
  intro document node outcome
  obtain ⟨fields, rfl, -⟩ := checkModel_eq_accepted_iff.mp outcome
  obtain ⟨id, kind, extras⟩ := ForeignNode.check_eq_accepted_iff.mp outcome
  have inId : KeepsField (defaulted "id" "" checkText) "id" Json.text :=
    preserves_checkText.defaulted rfl .blank
  have inKind : KeepsField (defaulted "type" "" checkText) "type" Json.text :=
    preserves_checkText.defaulted rfl .blank
  constructor
  · apply ForeignNode.check_eq_accepted_iff.mpr
    refine ⟨inId.again id rfl, inKind.again kind rfl, ?_⟩
    rw [← extras]
    exact ForeignNode.extrasOf_encoded _ _
  · apply Restates.object
    rw [← extras]
    exact inId.agrees id (inKind.agrees kind (restatesFields_of_subset (List.filter_subset_self _)))

theorem checkText_eq_accepted_iff {document : Json} {text : String} :
    checkText document = .accepted text ↔ document = .text text := by
  cases document <;> simp [checkText, Validation.issue]

/-- A foreign node names no kind that is played. -/
theorem ForeignNode.ofName?_kind {node : ForeignNode}
    (asked : NodeSchema.of (.object fields) = .foreign)
    (accepted : ForeignNode.check (.object fields) = .accepted node) :
    KnownKind.ofName? node.kind = none := by
  obtain ⟨-, kind, -⟩ := ForeignNode.check_eq_accepted_iff.mp accepted
  rcases defaulted_eq_accepted_iff.mp kind with ⟨-, blank⟩ | ⟨document, stated, isText⟩
  · rw [← blank]
    rfl
  · rw [checkText_eq_accepted_iff.mp isText] at stated
    cases named : KnownKind.ofName? node.kind with
    | none => rfl
    | some known => simp [NodeSchema.of, Json.fields?, stated, named] at asked

/-- The document of a node that names no kind that is played asks for the foreign schema. -/
theorem ForeignNode.schema_encode {node : ForeignNode} (unnamed : KnownKind.ofName? node.kind = none) :
    NodeSchema.of node.encode = .foreign := by
  simp [NodeSchema.of, ForeignNode.encode, Json.fields?, Json.Fields.get?_cons, unnamed]

/-- The document of a node that was read as one of a kind asks for the schema of that kind. -/
theorem KnownKind.schema_encode {kind : KnownKind} {document : Json} {node : Node}
    (accepted : kind.check document = .accepted node) : NodeSchema.of node.encode = .known kind := by
  cases kind <;> obtain ⟨part, -, rfl⟩ := Validation.map_eq_accepted_iff.mp accepted <;> rfl

/-- Every kind of node that is played is preserved. -/
theorem KnownKind.preserves (kind : KnownKind) : Preserves kind.check Node.encode := by
  cases kind with
  | narrative => exact NarrativeBlock.preserves.wrapped fun _ => rfl
  | messages => exact MessageBlock.preserves.wrapped fun _ => rfl
  | dialogue => exact DialogueBlock.preserves.wrapped fun _ => rfl
  | choice => exact ChoiceNode.preserves.wrapped fun _ => rfl
  | system => exact SystemEvent.preserves.wrapped fun _ => rfl

/-- A node is accepted by the schema that it asks for. -/
theorem Node.check_eq_accepted_iff {document : Json} {node : Node} :
    Node.check document = .accepted node ↔
      (∃ kind, NodeSchema.of document = .known kind ∧ kind.check document = .accepted node)
        ∨ NodeSchema.of document = .foreign
            ∧ Node.foreign <$> ForeignNode.check document = .accepted node := by
  unfold Node.check
  cases NodeSchema.of document <;> simp

theorem Node.encode_foreign (node : ForeignNode) : (Node.foreign node).encode = node.encode := rfl

theorem Node.preserves : Preserves Node.check Node.encode := by
  intro document node outcome
  rcases Node.check_eq_accepted_iff.mp outcome with ⟨kind, -, accepted⟩ | ⟨asked, accepted⟩
  · obtain ⟨again, restates⟩ := kind.preserves document node accepted
    exact ⟨Node.check_eq_accepted_iff.mpr (.inl ⟨kind, kind.schema_encode accepted, again⟩), restates⟩
  · obtain ⟨again, restates⟩ :=
      ForeignNode.preserves.wrapped Node.encode_foreign document node accepted
    obtain ⟨foreign, isForeign, rfl⟩ := Validation.map_eq_accepted_iff.mp accepted
    obtain ⟨fields, rfl, -⟩ := checkModel_eq_accepted_iff.mp isForeign
    have unnamed := ForeignNode.ofName?_kind asked isForeign
    exact ⟨Node.check_eq_accepted_iff.mpr (.inr ⟨ForeignNode.schema_encode unnamed, again⟩), restates⟩

/-- A node asks for the same schema after it was read and written again. -/
theorem Node.schema_encode {document : Json} {node : Node}
    (outcome : Node.check document = .accepted node) :
    NodeSchema.of node.encode = NodeSchema.of document := by
  rcases Node.check_eq_accepted_iff.mp outcome with ⟨kind, asked, accepted⟩ | ⟨asked, accepted⟩
  · rw [asked, kind.schema_encode accepted]
  · obtain ⟨foreign, isForeign, rfl⟩ := Validation.map_eq_accepted_iff.mp accepted
    obtain ⟨fields, rfl, -⟩ := checkModel_eq_accepted_iff.mp isForeign
    rw [asked]
    exact ForeignNode.schema_encode (ForeignNode.ofName?_kind asked isForeign)

/-- The names besides the id and the kind find the same among the other fields. -/
theorem ForeignNode.get?_extrasOf {name : String} (notId : name ≠ "id") (notKind : name ≠ "type") :
    (ForeignNode.extrasOf fields).get? name = fields.get? name := by
  unfold ForeignNode.extrasOf Json.Fields.get?
  rw [List.find?_filter]
  congr 2
  funext field
  by_cases same : field.1 = name <;> simp [same, notId, notKind]

/-- What a node keeps when it is read and written again: the schema that it asks for, and every field
if that is the foreign one. -/
structure Node.Kept (document restated : Json) : Prop where
  variant : NodeSchema.of restated = NodeSchema.of document
  foreign : NodeSchema.of document = .foreign → ∀ fields, document.fields? = some fields →
    ∃ kept, restated.fields? = some kept
      ∧ ∀ name value, fields.get? name = some value → kept.get? name = some value

theorem ForeignNode.get?_encode {node : ForeignNode}
    (accepted : ForeignNode.check (.object fields) = .accepted node) {name : String} {value : Json}
    (there : fields.get? name = some value) :
    Json.Fields.get? (("id", .text node.id) :: ("type", .text node.kind) :: node.extras) name
      = some value := by
  obtain ⟨id, kind, extras⟩ := ForeignNode.check_eq_accepted_iff.mp accepted
  by_cases isId : name = "id"
  · subst isId
    simp only [defaulted_eq_accepted_iff, there, checkText_eq_accepted_iff] at id
    simp_all [Json.Fields.get?_cons]
  · by_cases isKind : name = "type"
    · subst isKind
      simp only [defaulted_eq_accepted_iff, there, checkText_eq_accepted_iff] at kind
      simp_all [Json.Fields.get?_cons]
    · rw [Json.Fields.get?_cons, Json.Fields.get?_cons, ← extras, ForeignNode.get?_extrasOf isId isKind]
      simp [Ne.symm isId, Ne.symm isKind, there]

theorem Node.kept {document : Json} {node : Node} (outcome : Node.check document = .accepted node) :
    Node.Kept document node.encode where
  variant := Node.schema_encode outcome
  foreign asked fields isObject := by
    rcases Node.check_eq_accepted_iff.mp outcome with ⟨kind, askedKnown, -⟩ | ⟨-, accepted⟩
    · simp [asked] at askedKnown
    · obtain ⟨foreign, isForeign, rfl⟩ := Validation.map_eq_accepted_iff.mp accepted
      obtain ⟨found, rfl, -⟩ := checkModel_eq_accepted_iff.mp isForeign
      obtain rfl : found = fields := by simpa [Json.fields?] using isObject
      exact ⟨_, rfl, fun name value there => ForeignNode.get?_encode isForeign there⟩

/-! ## Endings -/

theorem Ending.check_eq_accepted_iff {ending : Ending} :
    Ending.check (.object fields) = .accepted ending ↔
      required "threshold" checkInteger fields = .accepted ending.threshold
        ∧ required "post_scene_label" Localized.check fields = .accepted ending.label
        ∧ defaulted "final_texts" [] (checkList Localized.check) fields = .accepted ending.texts := by
  cases ending
  constructor
  · intro accepted
    obtain ⟨_, _, upToLabel, inTexts, made⟩ := Validation.seq_eq_accepted_iff.mp accepted
    obtain ⟨_, _, upToThreshold, inLabel, rfl⟩ := Validation.seq_eq_accepted_iff.mp upToLabel
    obtain ⟨_, inThreshold, rfl⟩ := Validation.map_eq_accepted_iff.mp upToThreshold
    cases made
    exact ⟨inThreshold, inLabel, inTexts⟩
  · rintro ⟨inThreshold, inLabel, inTexts⟩
    change (_ <$> _ <*> _ <*> _ : Validation Ending) = _
    rw [inThreshold, inLabel, inTexts]
    rfl

theorem Ending.preserves : Preserves Ending.check Ending.encode := by
  intro document ending outcome
  obtain ⟨fields, rfl, -⟩ := checkModel_eq_accepted_iff.mp outcome
  obtain ⟨threshold, label, texts⟩ := Ending.check_eq_accepted_iff.mp outcome
  have inThreshold := preserves_checkInteger.required "threshold"
  have inLabel := Localized.preserves.required "post_scene_label"
  have inTexts : KeepsField (defaulted "final_texts" [] (checkList Localized.check)) "final_texts"
      (Json.ofList Localized.encode) := Localized.preserves.listField
  constructor
  · apply Ending.check_eq_accepted_iff.mpr
    exact ⟨inThreshold.again threshold rfl, inLabel.again label rfl, inTexts.again texts rfl⟩
  · apply Restates.object
    exact inThreshold.agrees threshold (inLabel.agrees label (inTexts.agrees texts .nil))

theorem EndingTable.check_eq_accepted_iff {table : EndingTable} :
    EndingTable.check (.object fields) = .accepted table ↔
      required "good" Ending.check fields = .accepted table.good
        ∧ required "neutral" Ending.check fields = .accepted table.neutral
        ∧ required "bad" Ending.check fields = .accepted table.bad := by
  cases table
  constructor
  · intro accepted
    obtain ⟨_, _, upToNeutral, inBad, made⟩ := Validation.seq_eq_accepted_iff.mp accepted
    obtain ⟨_, _, upToGood, inNeutral, rfl⟩ := Validation.seq_eq_accepted_iff.mp upToNeutral
    obtain ⟨_, inGood, rfl⟩ := Validation.map_eq_accepted_iff.mp upToGood
    cases made
    exact ⟨inGood, inNeutral, inBad⟩
  · rintro ⟨inGood, inNeutral, inBad⟩
    change (_ <$> _ <*> _ <*> _ : Validation EndingTable) = _
    rw [inGood, inNeutral, inBad]
    rfl

theorem EndingTable.preserves : Preserves EndingTable.check EndingTable.encode := by
  intro document table outcome
  obtain ⟨fields, rfl, -⟩ := checkModel_eq_accepted_iff.mp outcome
  obtain ⟨good, neutral, bad⟩ := EndingTable.check_eq_accepted_iff.mp outcome
  have inGood := Ending.preserves.required "good"
  have inNeutral := Ending.preserves.required "neutral"
  have inBad := Ending.preserves.required "bad"
  constructor
  · apply EndingTable.check_eq_accepted_iff.mpr
    exact ⟨inGood.again good rfl, inNeutral.again neutral rfl, inBad.again bad rfl⟩
  · apply Restates.object
    exact inGood.agrees good (inNeutral.agrees neutral (inBad.agrees bad .nil))

end Playthrough

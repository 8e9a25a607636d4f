import Playthrough.Proofs.Scene.Encoding

/-!
Contract: that reading undoes writing over whole scenes, and that either spelling of a choice reads
the same.

Owns: documents that differ in the spelling of their choices (`Respelt`), what a node keeps when it is
read and written again (`Node.Kept`), and the result for both kinds of scene.
-/

namespace Playthrough

open Schema

/-! ## Fields under other names -/

namespace Json.Fields

variable {fields : Json.Fields} {name other : String}

/-- The fields with one name in the place of another. -/
def rename (fields : Json.Fields) (name other : String) : Json.Fields :=
  fields.map fun field => if field.1 == name then (other, field.2) else field

theorem rename_cons (field : String × Json) (rest : Json.Fields) :
    rename (field :: rest) name other
      = (if field.1 = name then (other, field.2) else field) :: rename rest name other := by
  simp [rename]

theorem get?_rename_self (different : name ≠ other) : (fields.rename name other).get? name = none := by
  induction fields with
  | nil => rfl
  | cons field rest inductionHypothesis =>
      rw [rename_cons, get?_cons, inductionHypothesis]
      by_cases same : field.1 = name
      · simp [same, different.symm]
      · simp [same]

/-- A field whose new name was not taken is found under it. -/
theorem get?_rename_new (alone : fields.get? other = none) :
    (fields.rename name other).get? other = fields.get? name := by
  induction fields with
  | nil => rfl
  | cons field rest inductionHypothesis =>
      rw [get?_cons] at alone
      by_cases taken : field.1 = other
      · simp [taken] at alone
      · have found := inductionHypothesis (by simpa [taken] using alone)
        rw [rename_cons, get?_cons, get?_cons, found]
        by_cases same : field.1 = name
        · simp [same]
        · simp [same, taken]

/-- Every other name finds what it found. -/
theorem get?_rename_of_ne {third : String} (first : third ≠ name) (second : third ≠ other) :
    (fields.rename name other).get? third = fields.get? third := by
  induction fields with
  | nil => rfl
  | cons field rest inductionHypothesis =>
      rw [rename_cons, get?_cons, get?_cons, inductionHypothesis]
      by_cases same : field.1 = name
      · simp [same, first.symm, second.symm]
      · simp [same]

end Json.Fields

/-! ## Documents that differ in their spelling -/

/-- The document of a choice with any of its fields under the other of their two names, where that one
is not taken. -/
inductive Choice.Respelt : Json → Json → Prop where
  | same (document : Json) : Choice.Respelt document document
  | renamed {fields : Json.Fields} {document : Json} {name other : String}
      (either : (name, other) ∈ spellings ∨ (other, name) ∈ spellings)
      (alone : fields.get? other = none)
      (others : Choice.Respelt (.object (fields.rename name other)) document) :
      Choice.Respelt (.object fields) document

/-- The document of a node, with its choices in other spellings if it has any. -/
inductive Node.Respelt : Json → Json → Prop where
  | same (document : Json) : Node.Respelt document document
  | choices {fields : Json.Fields} {options respelt : List Json}
      (asked : NodeSchema.of (.object fields) = .known .choice)
      (there : fields.get? "options" = some (.array options))
      (each : List.Forall₂ Choice.Respelt options respelt) :
      Node.Respelt (.object fields) (.object (fields.put "options" (.array respelt)))

/-- The document of a scene, with any of its choices in other spellings. -/
inductive Respelt : Json → Json → Prop where
  | same (document : Json) : Respelt document document
  | nodes {fields : Json.Fields} {nodes respelt : List Json}
      (there : fields.get? "nodes" = some (.array nodes))
      (each : List.Forall₂ Node.Respelt nodes respelt) :
      Respelt (.object fields) (.object (fields.put "nodes" (.array respelt)))

/-- A list stays accepted when each of its items is exchanged for one that is accepted whenever it is. -/
theorem checkList_of_related {α : Type} {check : Json → Validation α} {related : Json → Json → Prop}
    {items others : List Json} {values : List α}
    (keeps : ∀ {item other value}, related item other → check item = .accepted value →
      check other = .accepted value)
    (exchanged : List.Forall₂ related items others)
    (accepted : checkList check (.array items) = .accepted values) :
    checkList check (.array others) = .accepted values := by
  simp only [checkList_eq_accepted_iff, Json.array.injEq, exists_eq_left'] at accepted ⊢
  induction exchanged generalizing values with
  | nil => exact accepted
  | cons alike _ inductionHypothesis =>
      cases accepted with
      | cons first rest => exact .cons (keeps alike first) (inductionHypothesis rest)

/-- Two objects in which each name of a choice, or its other name where it has two, finds the same. -/
structure ReadAlike (fields others : Json.Fields) : Prop where
  plain : ∀ name ∈ ["option_id", "text", "points", "branch_narrative"],
    others.get? name = fields.get? name
  either : ∀ pair ∈ spellings,
    (others.get? pair.1).or (others.get? pair.2) = (fields.get? pair.1).or (fields.get? pair.2)

/-- The names that a choice has twice are no others of its names, and none of them is twice among them. -/
theorem apart_of_spellings {name other : String}
    (either : (name, other) ∈ spellings ∨ (other, name) ∈ spellings) :
    name ≠ other ∧ (∀ third ∈ ["option_id", "text", "points", "branch_narrative"], third ≠ name ∧ third ≠ other)
      ∧ ∀ pair ∈ spellings, pair = (name, other) ∨ pair = (other, name)
          ∨ (pair.1 ≠ name ∧ pair.1 ≠ other) ∧ pair.2 ≠ name ∧ pair.2 ≠ other := by
  simp only [spellings, List.mem_cons, Prod.mk.injEq, List.not_mem_nil, or_false] at either
  rcases either with (⟨rfl, rfl⟩ | ⟨rfl, rfl⟩) | (⟨rfl, rfl⟩ | ⟨rfl, rfl⟩) <;> decide

theorem readAlike_rename {fields : Json.Fields} {name other : String}
    (either : (name, other) ∈ spellings ∨ (other, name) ∈ spellings)
    (alone : fields.get? other = none) : ReadAlike fields (fields.rename name other) := by
  obtain ⟨different, apart, pairs⟩ := apart_of_spellings either
  constructor
  · intro third member
    exact Json.Fields.get?_rename_of_ne (apart third member).1 (apart third member).2
  · intro pair member
    have gone : (fields.rename name other).get? name = none :=
      Json.Fields.get?_rename_self different
    have found : (fields.rename name other).get? other = fields.get? name :=
      Json.Fields.get?_rename_new alone
    rcases pairs pair member with rfl | rfl | ⟨first, second⟩
    · simp [gone, found, alone]
    · simp [gone, found, alone]
    · rw [Json.Fields.get?_rename_of_ne first.1 first.2, Json.Fields.get?_rename_of_ne second.1 second.2]

section Congruence

variable {α : Type} {check : Json → Validation α} {fields others : Json.Fields} {name other : String}
  {absent value : α}

/-- A field that is found alike is accepted alike. -/
theorem required_congr (alike : others.get? name = fields.get? name) :
    required name check others = required name check fields := by
  unfold required
  rw [alike]

theorem defaulted_congr (alike : others.get? name = fields.get? name) :
    defaulted name absent check others = defaulted name absent check fields := by
  unfold defaulted
  rw [alike]

/-- A field with two names is accepted by what either name finds. -/
theorem eitherName_eq_accepted_iff_or :
    eitherName name other absent check fields = .accepted value ↔
      (fields.get? name).or (fields.get? other) = none ∧ absent = value
        ∨ ∃ document, (fields.get? name).or (fields.get? other) = some document
            ∧ check document = .accepted value := by
  rw [eitherName_eq_accepted_iff, defaulted_eq_accepted_iff]
  cases fields.get? name <;> simp

end Congruence

/-- A choice is read alike from objects in which its names find the same. -/
theorem Choice.check_of_readAlike {fields others : Json.Fields} {choice : Choice}
    (alike : ReadAlike fields others) (accepted : Choice.check (.object fields) = .accepted choice) :
    Choice.check (.object others) = .accepted choice := by
  obtain ⟨id, text, points, hint, narrative, lines⟩ := Choice.check_eq_accepted_iff.mp accepted
  apply Choice.check_eq_accepted_iff.mpr
  rw [eitherName_eq_accepted_iff_or] at hint lines ⊢
  rw [eitherName_eq_accepted_iff_or]
  rw [required_congr (alike.plain "option_id" (by simp)), required_congr (alike.plain "text" (by simp)),
    required_congr (alike.plain "points" (by simp)),
    defaulted_congr (alike.plain "branch_narrative" (by simp)),
    alike.either ("reaction_delay_ms", "response_delay_ms") (by simp [spellings]),
    alike.either ("branch_lines", "branch_messages") (by simp [spellings])]
  exact ⟨id, text, points, hint, narrative, lines⟩

/-- The spelling of a choice does not show in what is read. -/
theorem Choice.check_respelt {document other : Json} {choice : Choice}
    (respelt : Choice.Respelt document other) (accepted : Choice.check document = .accepted choice) :
    Choice.check other = .accepted choice := by
  induction respelt with
  | same => exact accepted
  | renamed either alone _ inductionHypothesis =>
      exact inductionHypothesis (Choice.check_of_readAlike (readAlike_rename either alone) accepted)

/-- An object asks for the schema of the kind that it states. -/
theorem NodeSchema.of_congr {fields others : Json.Fields}
    (alike : others.get? "type" = fields.get? "type") :
    NodeSchema.of (.object others) = NodeSchema.of (.object fields) := by
  simp [NodeSchema.of, Json.fields?, alike]

/-- Nor does it show in the choices of a node. -/
theorem Choice.options_respelt {fields : Json.Fields} {options respelt : List Json}
    {choices : Option (List Choice)} (there : fields.get? "options" = some (.array options))
    (each : List.Forall₂ Choice.Respelt options respelt)
    (accepted : defaulted "options" none (checkOptional (checkList Choice.check)) fields
      = .accepted choices) :
    defaulted "options" none (checkOptional (checkList Choice.check))
      (fields.put "options" (.array respelt)) = .accepted choices := by
  simp only [defaulted_eq_accepted_iff, there, Json.Fields.get?_put_self, Option.some.injEq,
    exists_eq_left', checkOptional_eq_accepted_iff, reduceCtorEq, false_and, false_or, ne_eq,
    not_false_eq_true, true_and] at accepted ⊢
  obtain ⟨found, read, rfl⟩ := accepted
  exact ⟨found, checkList_of_related Choice.check_respelt each read, rfl⟩

/-- Nor does it show in a node. -/
theorem Node.check_respelt {document other : Json} {node : Node} (respelt : Node.Respelt document other)
    (accepted : Node.check document = .accepted node) : Node.check other = .accepted node := by
  cases respelt with
  | same => exact accepted
  | @choices fields options respelt asked there each =>
      rcases Node.check_eq_accepted_iff.mp accepted with ⟨kind, askedKind, isKind⟩ | ⟨askedForeign, -⟩
      · obtain rfl : KnownKind.choice = kind := by simpa [asked] using askedKind
        obtain ⟨part, isChoice, rfl⟩ := Validation.map_eq_accepted_iff.mp isKind
        obtain ⟨id, stated, found⟩ := ChoiceNode.check_eq_accepted_iff.mp isChoice
        have apart : ∀ name, "options" ≠ name →
            (fields.put "options" (.array respelt)).get? name = fields.get? name :=
          fun name different => fields.get?_put_of_ne _ different
        apply Node.check_eq_accepted_iff.mpr
        refine .inl ⟨.choice, ?_, Validation.map_eq_accepted_iff.mpr ⟨part, ?_, rfl⟩⟩
        · rw [NodeSchema.of_congr (apart "type" (by decide)), asked]
        · apply ChoiceNode.check_eq_accepted_iff.mpr
          refine ⟨?_, ?_, ?_⟩
          · rw [required_congr (apart "id" (by decide))]
            exact id
          · unfold checkKind at stated ⊢
            rw [defaulted_congr (apart "type" (by decide))]
            exact stated
          · exact Choice.options_respelt there each found
      · simp [asked] at askedForeign

/-- Nor does it show in the nodes of a scene. -/
theorem Node.nodes_respelt {fields : Json.Fields} {documents respelt : List Json} {nodes : List Node}
    (there : fields.get? "nodes" = some (.array documents))
    (each : List.Forall₂ Node.Respelt documents respelt)
    (accepted : defaulted "nodes" [] (checkList Node.check) fields = .accepted nodes) :
    defaulted "nodes" [] (checkList Node.check) (fields.put "nodes" (.array respelt))
      = .accepted nodes := by
  simp only [defaulted_eq_accepted_iff, there, Json.Fields.get?_put_self, Option.some.injEq,
    exists_eq_left', reduceCtorEq, false_and, false_or] at accepted ⊢
  exact checkList_of_related Node.check_respelt each accepted

/-! ## Scenes -/

/-- The documents of the nodes of a scene. -/
def nodeDocuments (document : Json) : List Json :=
  match document.fields?.bind fun fields => fields.get? "nodes" with
  | some (.array documents) => documents
  | _ => []

/-- What holds of a document that was read as a scene: reading what is written for the scene gives the
scene again, so that reading and writing is done once and for all; what is written tells again what
the document told, each node in its place and of its kind; and no spelling of the choices matters. -/
structure Survives {Scene : Type} (check : Json → Validation Scene) (encode : Scene → Json)
    (document : Json) (scene : Scene) : Prop where
  again : check (encode scene) = .accepted scene
  idempotent : encode <$> check (encode scene) = encode <$> check document
  restated : Restates document (encode scene)
  nodes : List.Forall₂ Node.Kept (nodeDocuments document) (nodeDocuments (encode scene))
  respelt : ∀ other, Respelt document other → check other = .accepted scene

/-- The nodes of a scene are kept one by one. -/
theorem Node.kept_documents {fields : Json.Fields} {nodes : List Node}
    (accepted : defaulted "nodes" [] (checkList Node.check) fields = .accepted nodes) :
    List.Forall₂ Node.Kept (nodeDocuments (.object fields)) (nodes.map Node.encode) := by
  unfold nodeDocuments
  rcases defaulted_eq_accepted_iff.mp accepted with ⟨missing, rfl⟩ | ⟨document, there, isList⟩
  · simp [Json.fields?, missing]
  · obtain ⟨items, rfl, each⟩ := checkList_eq_accepted_iff.mp isList
    simp only [Json.fields?, Option.bind_some, there, List.forall₂_map_right_iff]
    exact each.imp fun item node isNode => Node.kept isNode

theorem TextScene.check_eq_accepted_iff {fields : Json.Fields} {scene : TextScene} :
    TextScene.check (.object fields) = .accepted scene ↔
      required "chapter" checkInteger fields = .accepted scene.chapter
        ∧ required "scene_id" checkText fields = .accepted scene.id
        ∧ required "scene_type" checkText fields = .accepted scene.kind
        ∧ defaulted "characters" [] (checkList checkText) fields = .accepted scene.characters
        ∧ defaulted "nodes" [] (checkList Node.check) fields = .accepted scene.nodes := by
  cases scene
  constructor
  · intro accepted
    obtain ⟨_, _, upToCharacters, inNodes, made⟩ := Validation.seq_eq_accepted_iff.mp accepted
    obtain ⟨_, _, upToKind, inCharacters, rfl⟩ := Validation.seq_eq_accepted_iff.mp upToCharacters
    obtain ⟨_, _, upToId, inKind, rfl⟩ := Validation.seq_eq_accepted_iff.mp upToKind
    obtain ⟨_, _, upToChapter, inId, rfl⟩ := Validation.seq_eq_accepted_iff.mp upToId
    obtain ⟨_, inChapter, rfl⟩ := Validation.map_eq_accepted_iff.mp upToChapter
    cases made
    exact ⟨inChapter, inId, inKind, inCharacters, inNodes⟩
  · rintro ⟨inChapter, inId, inKind, inCharacters, inNodes⟩
    change (_ <$> _ <*> _ <*> _ <*> _ <*> _ : Validation TextScene) = _
    rw [inChapter, inId, inKind, inCharacters, inNodes]
    rfl

theorem TextScene.preserves : Preserves TextScene.check TextScene.encode := by
  intro document scene outcome
  obtain ⟨fields, rfl, -⟩ := checkModel_eq_accepted_iff.mp outcome
  obtain ⟨chapter, id, kind, characters, nodes⟩ := TextScene.check_eq_accepted_iff.mp outcome
  have inChapter := preserves_checkInteger.required "chapter"
  have inId := preserves_checkText.required "scene_id"
  have inKind := preserves_checkText.required "scene_type"
  have inCharacters : KeepsField (defaulted "characters" [] (checkList checkText)) "characters"
      (Json.ofList Json.text) := preserves_checkText.listField
  have inNodes : KeepsField (defaulted "nodes" [] (checkList Node.check)) "nodes"
      (Json.ofList Node.encode) := Node.preserves.listField
  constructor
  · apply TextScene.check_eq_accepted_iff.mpr
    exact ⟨inChapter.again chapter rfl, inId.again id rfl, inKind.again kind rfl,
      inCharacters.again characters rfl, inNodes.again nodes rfl⟩
  · apply Restates.object
    exact inChapter.agrees chapter (inId.agrees id (inKind.agrees kind
      (inCharacters.agrees characters (inNodes.agrees nodes .nil))))

theorem TextScene.check_respelt {document other : Json} {scene : TextScene}
    (respelt : Respelt document other) (accepted : TextScene.check document = .accepted scene) :
    TextScene.check other = .accepted scene := by
  cases respelt with
  | same => exact accepted
  | @nodes fields _ respelt there each =>
      obtain ⟨chapter, id, kind, characters, nodes⟩ := TextScene.check_eq_accepted_iff.mp accepted
      have apart : ∀ name, "nodes" ≠ name →
          (fields.put "nodes" (.array respelt)).get? name = fields.get? name :=
        fun name different => fields.get?_put_of_ne _ different
      apply TextScene.check_eq_accepted_iff.mpr
      rw [required_congr (apart "chapter" (by decide)), required_congr (apart "scene_id" (by decide)),
        required_congr (apart "scene_type" (by decide)),
        defaulted_congr (apart "characters" (by decide))]
      exact ⟨chapter, id, kind, characters, Node.nodes_respelt there each nodes⟩

theorem EncounterScene.check_eq_accepted_iff {fields : Json.Fields} {scene : EncounterScene} :
    EncounterScene.check (.object fields) = .accepted scene ↔
      required "chapter" checkInteger fields = .accepted scene.chapter
        ∧ required "scene_id" checkText fields = .accepted scene.id
        ∧ required "scene_type" checkText fields = .accepted scene.kind
        ∧ required "location" Localized.check fields = .accepted scene.location
        ∧ required "atmosphere" Localized.check fields = .accepted scene.atmosphere
        ∧ defaulted "nodes" [] (checkList Node.check) fields = .accepted scene.nodes
        ∧ required "endings" EndingTable.check fields = .accepted scene.endings := by
  cases scene
  constructor
  · intro accepted
    obtain ⟨_, _, upToNodes, inEndings, made⟩ := Validation.seq_eq_accepted_iff.mp accepted
    obtain ⟨_, _, upToAtmosphere, inNodes, rfl⟩ := Validation.seq_eq_accepted_iff.mp upToNodes
    obtain ⟨_, _, upToLocation, inAtmosphere, rfl⟩ := Validation.seq_eq_accepted_iff.mp upToAtmosphere
    obtain ⟨_, _, upToKind, inLocation, rfl⟩ := Validation.seq_eq_accepted_iff.mp upToLocation
    obtain ⟨_, _, upToId, inKind, rfl⟩ := Validation.seq_eq_accepted_iff.mp upToKind
    obtain ⟨_, _, upToChapter, inId, rfl⟩ := Validation.seq_eq_accepted_iff.mp upToId
    obtain ⟨_, inChapter, rfl⟩ := Validation.map_eq_accepted_iff.mp upToChapter
    cases made
    exact ⟨inChapter, inId, inKind, inLocation, inAtmosphere, inNodes, inEndings⟩
  · rintro ⟨inChapter, inId, inKind, inLocation, inAtmosphere, inNodes, inEndings⟩
    change (_ <$> _ <*> _ <*> _ <*> _ <*> _ <*> _ <*> _ : Validation EncounterScene) = _
    rw [inChapter, inId, inKind, inLocation, inAtmosphere, inNodes, inEndings]
    rfl

theorem EncounterScene.preserves : Preserves EncounterScene.check EncounterScene.encode := by
  intro document scene outcome
  obtain ⟨fields, rfl, -⟩ := checkModel_eq_accepted_iff.mp outcome
  obtain ⟨chapter, id, kind, location, atmosphere, nodes, endings⟩ :=
    EncounterScene.check_eq_accepted_iff.mp outcome
  have inChapter := preserves_checkInteger.required "chapter"
  have inId := preserves_checkText.required "scene_id"
  have inKind := preserves_checkText.required "scene_type"
  have inLocation := Localized.preserves.required "location"
  have inAtmosphere := Localized.preserves.required "atmosphere"
  have inNodes : KeepsField (defaulted "nodes" [] (checkList Node.check)) "nodes"
      (Json.ofList Node.encode) := Node.preserves.listField
  have inEndings := EndingTable.preserves.required "endings"
  constructor
  · apply EncounterScene.check_eq_accepted_iff.mpr
    exact ⟨inChapter.again chapter rfl, inId.again id rfl, inKind.again kind rfl,
      inLocation.again location rfl, inAtmosphere.again atmosphere rfl, inNodes.again nodes rfl,
      inEndings.again endings rfl⟩
  · apply Restates.object
    exact inChapter.agrees chapter (inId.agrees id (inKind.agrees kind (inLocation.agrees location
      (inAtmosphere.agrees atmosphere (inNodes.agrees nodes (inEndings.agrees endings .nil))))))

theorem EncounterScene.check_respelt {document other : Json} {scene : EncounterScene}
    (respelt : Respelt document other) (accepted : EncounterScene.check document = .accepted scene) :
    EncounterScene.check other = .accepted scene := by
  cases respelt with
  | same => exact accepted
  | @nodes fields _ respelt there each =>
      obtain ⟨chapter, id, kind, location, atmosphere, nodes, endings⟩ :=
        EncounterScene.check_eq_accepted_iff.mp accepted
      have apart : ∀ name, "nodes" ≠ name →
          (fields.put "nodes" (.array respelt)).get? name = fields.get? name :=
        fun name different => fields.get?_put_of_ne _ different
      apply EncounterScene.check_eq_accepted_iff.mpr
      rw [required_congr (apart "chapter" (by decide)), required_congr (apart "scene_id" (by decide)),
        required_congr (apart "scene_type" (by decide)), required_congr (apart "location" (by decide)),
        required_congr (apart "atmosphere" (by decide)), required_congr (apart "endings" (by decide))]
      exact ⟨chapter, id, kind, location, atmosphere, Node.nodes_respelt there each nodes, endings⟩

/-- Every document that is read as a scene, of either kind, survives being read and written. -/
theorem scenes_survive :
    (∀ document scene, TextScene.check document = .accepted scene →
        Survives TextScene.check TextScene.encode document scene)
      ∧ ∀ document scene, EncounterScene.check document = .accepted scene →
          Survives EncounterScene.check EncounterScene.encode document scene := by
  constructor
  · intro document scene accepted
    obtain ⟨again, restated⟩ := TextScene.preserves document scene accepted
    obtain ⟨fields, rfl, -⟩ := checkModel_eq_accepted_iff.mp accepted
    obtain ⟨-, -, -, -, nodes⟩ := TextScene.check_eq_accepted_iff.mp accepted
    exact {
      again, restated
      idempotent := by rw [again, accepted]
      nodes := Node.kept_documents nodes
      respelt := fun other respelt => TextScene.check_respelt respelt accepted }
  · intro document scene accepted
    obtain ⟨again, restated⟩ := EncounterScene.preserves document scene accepted
    obtain ⟨fields, rfl, -⟩ := checkModel_eq_accepted_iff.mp accepted
    obtain ⟨-, -, -, -, -, nodes, -⟩ := EncounterScene.check_eq_accepted_iff.mp accepted
    exact {
      again, restated
      idempotent := by rw [again, accepted]
      nodes := Node.kept_documents nodes
      respelt := fun other respelt => EncounterScene.check_respelt respelt accepted }

/-- A thread with a node of a kind that is not played, an integer that is written as a text, and a
choice whose delay hint stands under its other name. -/
def clipDocument : Json :=
  .object
    [ ("chapter", .text "2"),
      ("scene_id", .text "clip"),
      ("scene_type", .text "text_message_thread"),
      ("nodes", .array
        [ .object [("type", .text "video"), ("url", .text "clip.mp4"), ("loops", .boolean true)],
          .object
            [ ("id", .text "ask"),
              ("type", .text "player_choice"),
              ("options", .array
                [ .object
                    [ ("option_id", .text "yes"),
                      ("text", Localized.encode .blank),
                      ("points", .boolean true),
                      ("response_delay_ms", .text "300") ] ]) ] ]) ]

/-- The scene of that document. -/
def clip : TextScene :=
  { chapter := 2
    id := "clip"
    kind := "text_message_thread"
    characters := []
    nodes :=
      [ .foreign { id := "", kind := "video", extras := [("url", .text "clip.mp4"), ("loops", .boolean true)] },
        .choice
          { id := "ask"
            choices := some
              [ { id := "yes"
                  text := .blank
                  points := 1
                  reactionHint := some 300
                  narrative := none
                  lines := none } ] } ] }

theorem scenes_survive_for_clip :
    TextScene.check clipDocument = .accepted clip
      ∧ Survives TextScene.check TextScene.encode clipDocument clip
      ∧ EncounterScene.check (EncounterScene.encode .fallback) = .accepted .fallback
      ∧ Survives EncounterScene.check EncounterScene.encode (EncounterScene.encode .fallback) .fallback :=
  have thread : TextScene.check clipDocument = .accepted clip := by rfl
  have encounter : EncounterScene.check (EncounterScene.encode .fallback) = .accepted .fallback := by rfl
  ⟨thread, scenes_survive.1 _ _ thread, encounter, scenes_survive.2 _ _ encounter⟩

end Playthrough

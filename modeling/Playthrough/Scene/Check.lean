import Playthrough.Scene.Event
import Playthrough.Schema.Leaf
import Playthrough.Json.Reader

/-!
Contract: reading scenes from documents.

Owns: the schema of every part of a scene, and of events and offers.

Fields that a schema does not name are dropped, except those of a node of a foreign kind. A node is
checked against the schema of the kind that it names; every other node is foreign. A kind that is an
array or an object cannot be looked up, which makes the whole document unusable.
-/

namespace Playthrough

open Schema

/-- The schema of a localized text. -/
def Localized.check : Json → Validation Localized :=
  checkModel fun fields =>
    Localized.mk
      <$> required "en" checkText fields
      <*> required "it" checkText fields
      <*> required "ka" checkText fields
      <*> required "fa" checkText fields

/-- The schema of preferences; what is absent is as in the standard ones. -/
def Preferences.check : Json → Validation Preferences :=
  checkModel fun fields =>
    Preferences.mk
      <$> defaulted "language" .english (checkListed Language.ofName?) fields
      <*> defaulted "pacing" .medium (checkListed Pacing.ofName?) fields

/-- The schema of a choice. The delay hint and the lines have two names each. -/
def Choice.check : Json → Validation Choice :=
  checkModel fun fields =>
    Choice.mk
      <$> required "option_id" checkText fields
      <*> required "text" Localized.check fields
      <*> required "points" checkInteger fields
      <*> eitherName "reaction_delay_ms" "response_delay_ms" none
            (checkOptional checkInteger) fields
      <*> defaulted "branch_narrative" none (checkOptional Localized.check) fields
      <*> eitherName "branch_lines" "branch_messages" none
            (checkOptional (checkList Localized.check)) fields

/-- The kind of a node, which has to be the given one where it is stated. -/
def checkKind (kind : String) : Json.Fields → Validation String :=
  defaulted "type" kind (checkListed fun name => if name = kind then some name else none)

/-- The schema of a narrative block. -/
def NarrativeBlock.check : Json → Validation NarrativeBlock :=
  checkModel fun fields =>
    (fun id _ description => NarrativeBlock.mk id description)
      <$> required "id" checkText fields
      <*> checkKind "narrative_block" fields
      <*> defaulted "description" none (checkOptional Localized.check) fields

/-- The schema of a message block. -/
def MessageBlock.check : Json → Validation MessageBlock :=
  checkModel fun fields =>
    (fun id _ sender messages hint event => MessageBlock.mk id sender messages hint event)
      <$> required "id" checkText fields
      <*> checkKind "message_block" fields
      <*> defaulted "sender" none (checkOptional checkText) fields
      <*> defaulted "messages" none (checkOptional (checkList Localized.check)) fields
      <*> defaulted "response_delay_ms" none (checkOptional checkInteger) fields
      <*> defaulted "system_event" none (checkOptional checkText) fields

/-- The schema of a dialogue block. -/
def DialogueBlock.check : Json → Validation DialogueBlock :=
  checkModel fun fields =>
    (fun id _ speaker lines action hint => DialogueBlock.mk id speaker lines action hint)
      <$> required "id" checkText fields
      <*> checkKind "dialogue_block" fields
      <*> defaulted "speaker" none (checkOptional checkText) fields
      <*> defaulted "lines" none (checkOptional (checkList Localized.check)) fields
      <*> defaulted "narrative_action" none (checkOptional Localized.check) fields
      <*> defaulted "reaction_delay_ms" none (checkOptional checkInteger) fields

/-- The schema of a choice node. -/
def ChoiceNode.check : Json → Validation ChoiceNode :=
  checkModel fun fields =>
    (fun id _ choices => ChoiceNode.mk id choices)
      <$> required "id" checkText fields
      <*> checkKind "player_choice" fields
      <*> defaulted "options" none (checkOptional (checkList Choice.check)) fields

/-- The schema of a system event. -/
def SystemEvent.check : Json → Validation SystemEvent :=
  checkModel fun fields =>
    (fun id _ event label => SystemEvent.mk id event label)
      <$> required "id" checkText fields
      <*> checkKind "system_event" fields
      <*> defaulted "event" none (checkOptional checkText) fields
      <*> defaulted "label" none (checkOptional Localized.check) fields

/-- The fields of a foreign node besides its id and its kind. -/
def ForeignNode.extrasOf (fields : Json.Fields) : Json.Fields :=
  fields.filter fun field => field.1 != "id" && field.1 != "type"

/-- The schema of a foreign node, which keeps every other field as it is. -/
def ForeignNode.check : Json → Validation ForeignNode :=
  checkModel fun fields =>
    (fun id kind => ForeignNode.mk id kind (ForeignNode.extrasOf fields))
      <$> defaulted "id" "" checkText fields
      <*> defaulted "type" "" checkText fields

/-- The kinds of node that are played. -/
inductive KnownKind where
  | narrative
  | messages
  | dialogue
  | choice
  | system
deriving DecidableEq, Repr

namespace KnownKind

/-- Every kind. -/
def all : List KnownKind := [.narrative, .messages, .dialogue, .choice, .system]

/-- The name by which a node states its kind. -/
def name : KnownKind → String
  | .narrative => "narrative_block"
  | .messages => "message_block"
  | .dialogue => "dialogue_block"
  | .choice => "player_choice"
  | .system => "system_event"

/-- The kind of a name. -/
def ofName? (name : String) : Option KnownKind :=
  all.find? fun kind => kind.name == name

/-- The schema of a kind. -/
def check : KnownKind → Json → Validation Node
  | .narrative, document => Node.narrative <$> NarrativeBlock.check document
  | .messages, document => Node.messages <$> MessageBlock.check document
  | .dialogue, document => Node.dialogue <$> DialogueBlock.check document
  | .choice, document => Node.choice <$> ChoiceNode.check document
  | .system, document => Node.system <$> SystemEvent.check document

@[simp] theorem ofName?_name (kind : KnownKind) : ofName? kind.name = some kind := by
  cases kind <;> rfl

end KnownKind

/-- Which schema a node is checked against. -/
inductive NodeSchema where
  | known (kind : KnownKind)
  | foreign
  /-- The kind cannot be looked up. -/
  | unusable
deriving DecidableEq, Repr

/-- The schema that a node asks for. -/
def NodeSchema.of (document : Json) : NodeSchema :=
  match document.fields? with
  | none => .foreign
  | some fields =>
      match fields.get? "type" with
      | some (.text name) =>
          match KnownKind.ofName? name with
          | some kind => .known kind
          | none => .foreign
      | some (.array _) => .unusable
      | some (.object _) => .unusable
      | _ => .foreign

/-- The schema of a node. Issues are placed below the name of the schema that was used. -/
def Node.check (document : Json) : Validation Node :=
  match NodeSchema.of document with
  | .known kind => (kind.check document).below (.key kind.name)
  | .foreign => (Node.foreign <$> ForeignNode.check document).below (.key "unknown")
  | .unusable => .unusable

/-- The schema of a text scene. -/
def TextScene.check : Json → Validation TextScene :=
  checkModel fun fields =>
    TextScene.mk
      <$> required "chapter" checkInteger fields
      <*> required "scene_id" checkText fields
      <*> required "scene_type" checkText fields
      <*> defaulted "characters" [] (checkList checkText) fields
      <*> defaulted "nodes" [] (checkList Node.check) fields

/-- The schema of an ending. -/
def Ending.check : Json → Validation Ending :=
  checkModel fun fields =>
    Ending.mk
      <$> required "threshold" checkInteger fields
      <*> required "post_scene_label" Localized.check fields
      <*> defaulted "final_texts" [] (checkList Localized.check) fields

/-- The schema of an ending table. -/
def EndingTable.check : Json → Validation EndingTable :=
  checkModel fun fields =>
    EndingTable.mk
      <$> required "good" Ending.check fields
      <*> required "neutral" Ending.check fields
      <*> required "bad" Ending.check fields

/-- The schema of an encounter. -/
def EncounterScene.check : Json → Validation EncounterScene :=
  checkModel fun fields =>
    EncounterScene.mk
      <$> required "chapter" checkInteger fields
      <*> required "scene_id" checkText fields
      <*> required "scene_type" checkText fields
      <*> required "location" Localized.check fields
      <*> required "atmosphere" Localized.check fields
      <*> defaulted "nodes" [] (checkList Node.check) fields
      <*> required "endings" EndingTable.check fields

/-- The schema of an event. -/
def SceneEvent.check : Json → Validation SceneEvent :=
  checkModel fun fields =>
    SceneEvent.mk
      <$> required "kind" (checkListed EventKind.ofName?) fields
      <*> required "text" checkText fields
      <*> defaulted "tier" none (checkOptional (checkListed Tier.ofName?)) fields

/-- The schema of an offer. -/
def Offer.check : Json → Validation Offer :=
  checkModel fun fields =>
    Offer.mk
      <$> required "tag" checkText fields
      <*> required "text" checkText fields
      <*> required "points" checkInteger fields

/-- Checks a text against a schema, reading it in the strict dialect. -/
def Schema.checkSource {α : Type} (check : Json → Validation α) (source : String) : Validation α :=
  match Json.read .strict source with
  | .error _ => .issue .malformedText
  | .ok document => check document

end Playthrough

import Playthrough.Scene.Event

/-!
Contract: documents of scenes.

Owns: the document form of every part of a scene, and of events and offers. Every field is present;
what is absent is `null`.
-/

namespace Playthrough

/-- An optional value, `null` when it is absent. -/
def Json.ofOption {α : Type} (encode : α → Json) : Option α → Json
  | none => .null
  | some value => encode value

/-- The items of a list. -/
def Json.ofList {α : Type} (encode : α → Json) (values : List α) : Json :=
  .array (values.map encode)

/-- The document of a localized text. -/
def Localized.encode (text : Localized) : Json :=
  .object
    [ ("en", .text text.english),
      ("it", .text text.italian),
      ("ka", .text text.georgian),
      ("fa", .text text.persian) ]

/-- The document of preferences. -/
def Preferences.encode (preferences : Preferences) : Json :=
  .object
    [ ("language", .text preferences.language.name),
      ("pacing", .text preferences.pacing.name) ]

/-- The document of a choice, under the names that encounters use. -/
def Choice.encode (choice : Choice) : Json :=
  .object
    [ ("option_id", .text choice.id),
      ("text", choice.text.encode),
      ("points", .integer choice.points),
      ("reaction_delay_ms", .ofOption .integer choice.reactionHint),
      ("branch_narrative", .ofOption Localized.encode choice.narrative),
      ("branch_lines", .ofOption (.ofList Localized.encode) choice.lines) ]

/-- The document of a narrative block. -/
def NarrativeBlock.encode (block : NarrativeBlock) : Json :=
  .object
    [ ("id", .text block.id),
      ("type", .text "narrative_block"),
      ("description", .ofOption Localized.encode block.description) ]

/-- The document of a message block. -/
def MessageBlock.encode (block : MessageBlock) : Json :=
  .object
    [ ("id", .text block.id),
      ("type", .text "message_block"),
      ("sender", .ofOption .text block.sender),
      ("messages", .ofOption (.ofList Localized.encode) block.messages),
      ("response_delay_ms", .ofOption .integer block.responseHint),
      ("system_event", .ofOption .text block.event) ]

/-- The document of a dialogue block. -/
def DialogueBlock.encode (block : DialogueBlock) : Json :=
  .object
    [ ("id", .text block.id),
      ("type", .text "dialogue_block"),
      ("speaker", .ofOption .text block.speaker),
      ("lines", .ofOption (.ofList Localized.encode) block.lines),
      ("narrative_action", .ofOption Localized.encode block.action),
      ("reaction_delay_ms", .ofOption .integer block.reactionHint) ]

/-- The document of a choice node. -/
def ChoiceNode.encode (node : ChoiceNode) : Json :=
  .object
    [ ("id", .text node.id),
      ("type", .text "player_choice"),
      ("options", .ofOption (.ofList Choice.encode) node.choices) ]

/-- The document of a system event. -/
def SystemEvent.encode (event : SystemEvent) : Json :=
  .object
    [ ("id", .text event.id),
      ("type", .text "system_event"),
      ("event", .ofOption .text event.event),
      ("label", .ofOption Localized.encode event.label) ]

/-- The document of a foreign node, with its other fields at the end. -/
def ForeignNode.encode (node : ForeignNode) : Json :=
  .object (("id", .text node.id) :: ("type", .text node.kind) :: node.extras)

/-- The document of a node. -/
def Node.encode : Node → Json
  | .narrative block => block.encode
  | .messages block => block.encode
  | .dialogue block => block.encode
  | .choice node => node.encode
  | .system event => event.encode
  | .foreign node => node.encode

/-- The document of a text scene. -/
def TextScene.encode (scene : TextScene) : Json :=
  .object
    [ ("chapter", .integer scene.chapter),
      ("scene_id", .text scene.id),
      ("scene_type", .text scene.kind),
      ("characters", .ofList .text scene.characters),
      ("nodes", .ofList Node.encode scene.nodes) ]

/-- The document of an ending. -/
def Ending.encode (ending : Ending) : Json :=
  .object
    [ ("threshold", .integer ending.threshold),
      ("post_scene_label", ending.label.encode),
      ("final_texts", .ofList Localized.encode ending.texts) ]

/-- The document of an ending table. -/
def EndingTable.encode (table : EndingTable) : Json :=
  .object
    [ ("good", table.good.encode),
      ("neutral", table.neutral.encode),
      ("bad", table.bad.encode) ]

/-- The document of an encounter. -/
def EncounterScene.encode (scene : EncounterScene) : Json :=
  .object
    [ ("chapter", .integer scene.chapter),
      ("scene_id", .text scene.id),
      ("scene_type", .text scene.kind),
      ("location", scene.location.encode),
      ("atmosphere", scene.atmosphere.encode),
      ("nodes", .ofList Node.encode scene.nodes),
      ("endings", scene.endings.encode) ]

/-- The document of an event. -/
def SceneEvent.encode (event : SceneEvent) : Json :=
  .object
    [ ("kind", .text event.kind.name),
      ("text", .text event.text),
      ("tier", .ofOption (fun tier : Tier => .text tier.name) event.tier) ]

/-- The document of an offer. -/
def Offer.encode (offer : Offer) : Json :=
  .object
    [ ("tag", .text offer.tag),
      ("text", .text offer.text),
      ("points", .integer offer.points) ]

end Playthrough

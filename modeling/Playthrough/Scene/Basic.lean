import Playthrough.Json.Value
import Playthrough.Preferences

/-!
Contract: authored scenes.

Owns: localized texts, the six kinds of node, the two kinds of scene, and the ending table with its
tiers.

Does not own: the document form of scenes, and how a scene is played.
-/

namespace Playthrough

/-- One text in every language. -/
structure Localized where
  english : String
  italian : String
  georgian : String
  persian : String
deriving DecidableEq, Repr, Inhabited

namespace Localized

/-- The text in one language. -/
def resolve (text : Localized) : Language → String
  | .english => text.english
  | .italian => text.italian
  | .georgian => text.georgian
  | .persian => text.persian

/-- The empty text in every language. -/
def blank : Localized := ⟨"", "", "", ""⟩

@[simp] theorem resolve_blank (language : Language) : blank.resolve language = "" := by
  cases language <;> rfl

end Localized

/-- The sender or speaker whose lines are the player's own. -/
def playerName : String := "Player"

/-- The event that ends a text scene. -/
def transitionMarker : String := "transition_to_encounter"

/-- One way to answer at a choice node, with what follows when it is chosen. -/
structure Choice where
  id : String
  text : Localized
  points : Int
  /-- How long the answer to it takes, in milliseconds. -/
  reactionHint : Option Int
  narrative : Option Localized
  lines : Option (List Localized)
deriving DecidableEq, Repr, Inhabited

/-- Whether anything is played when the choice is taken. -/
def Choice.hasBranch (choice : Choice) : Bool :=
  choice.narrative.isSome || !(choice.lines.getD []).isEmpty

/-- A passage of narration. -/
structure NarrativeBlock where
  id : String
  description : Option Localized
deriving DecidableEq, Repr, Inhabited

/-- A run of text messages from one sender. -/
structure MessageBlock where
  id : String
  sender : Option String
  messages : Option (List Localized)
  /-- How long the other side takes to respond to the player's messages, in milliseconds. -/
  responseHint : Option Int
  event : Option String
deriving DecidableEq, Repr, Inhabited

/-- Whether the messages are the player's own. -/
def MessageBlock.isPlayer (block : MessageBlock) : Bool :=
  block.sender == some playerName

/-- Spoken lines of one speaker. -/
structure DialogueBlock where
  id : String
  speaker : Option String
  lines : Option (List Localized)
  action : Option Localized
  /-- How long the speaker thinks, in milliseconds. -/
  reactionHint : Option Int
deriving DecidableEq, Repr, Inhabited

/-- Whether the lines are the player's own. -/
def DialogueBlock.isPlayer (block : DialogueBlock) : Bool :=
  block.speaker == some playerName

/-- A place where the player chooses. -/
structure ChoiceNode where
  id : String
  choices : Option (List Choice)
deriving DecidableEq, Repr, Inhabited

namespace ChoiceNode

/-- What can be chosen. -/
def options (node : ChoiceNode) : List Choice := node.choices.getD []

/-- The first choice of an id. -/
def find? (node : ChoiceNode) (id : String) : Option Choice :=
  node.options.find? fun choice => choice.id == id

/-- A choice that is found has the id that was asked for. -/
theorem id_of_find? {node : ChoiceNode} {id : String} {choice : Choice}
    (found : node.find? id = some choice) : choice.id = id := by
  simpa using List.find?_some found

end ChoiceNode

/-- Something that happens without anybody speaking. -/
structure SystemEvent where
  id : String
  event : Option String
  label : Option Localized
deriving DecidableEq, Repr, Inhabited

/-- A node of a kind that is not played, with all its other fields. -/
structure ForeignNode where
  id : String
  kind : String
  extras : Json.Fields
deriving Repr, Inhabited, BEq

/-- One entry of a scene. -/
inductive Node where
  | narrative (block : NarrativeBlock)
  | messages (block : MessageBlock)
  | dialogue (block : DialogueBlock)
  | choice (node : ChoiceNode)
  | system (event : SystemEvent)
  | foreign (node : ForeignNode)
deriving Repr, Inhabited, BEq

/-- The id of a node. -/
def Node.id : Node → String
  | .narrative block => block.id
  | .messages block => block.id
  | .dialogue block => block.id
  | .choice node => node.id
  | .system event => event.id
  | .foreign node => node.id

/-- How a play-through ends. -/
inductive Tier where
  | good
  | neutral
  | bad
deriving DecidableEq, Repr, Inhabited

namespace Tier

/-- The tiers from the best on. -/
def all : List Tier := [.good, .neutral, .bad]

/-- The name of a tier. -/
def name : Tier → String
  | .good => "good"
  | .neutral => "neutral"
  | .bad => "bad"

/-- The tier of a name. -/
def ofName? (name : String) : Option Tier :=
  all.find? fun tier => tier.name == name

@[simp] theorem ofName?_name (tier : Tier) : ofName? tier.name = some tier := by
  cases tier <;> rfl

end Tier

/-- What is shown at the end, and the score from which it is earned. -/
structure Ending where
  threshold : Int
  label : Localized
  texts : List Localized
deriving DecidableEq, Repr, Inhabited

/-- The ending of each tier. -/
structure EndingTable where
  good : Ending
  neutral : Ending
  bad : Ending
deriving DecidableEq, Repr, Inhabited

namespace EndingTable

/-- The ending of a tier. -/
def ending (table : EndingTable) : Tier → Ending
  | .good => table.good
  | .neutral => table.neutral
  | .bad => table.bad

/-- The first tier, from the best on, whose threshold the score reaches; bad when there is none. -/
def earned (table : EndingTable) (score : Int) : Tier :=
  if table.good.threshold ≤ score then .good
  else if table.neutral.threshold ≤ score then .neutral
  else .bad

/-- Good is earned exactly from its threshold on. -/
theorem earned_eq_good_iff (table : EndingTable) (score : Int) :
    table.earned score = .good ↔ table.good.threshold ≤ score := by
  unfold earned
  by_cases good : table.good.threshold ≤ score
  · simp [good]
  · by_cases neutral : table.neutral.threshold ≤ score <;> simp [good, neutral]

end EndingTable

/-- A thread of text messages. -/
structure TextScene where
  chapter : Int
  id : String
  kind : String
  characters : List String
  nodes : List Node
deriving Repr, Inhabited, BEq

/-- An encounter in person, closed by an ending table. -/
structure EncounterScene where
  chapter : Int
  id : String
  kind : String
  location : Localized
  atmosphere : Localized
  nodes : List Node
  endings : EndingTable
deriving Repr, Inhabited, BEq

/-- The text scene that stands in for one that cannot be used. -/
def TextScene.fallback : TextScene :=
  { chapter := 1, id := "fallback", kind := "text_message_thread", characters := [], nodes := [] }

/-- The encounter that stands in for one that cannot be used. -/
def EncounterScene.fallback : EncounterScene :=
  let ending (threshold : Int) : Ending :=
    { threshold := threshold, label := .blank, texts := [] }
  { chapter := 1
    id := "fallback"
    kind := "in_person_interaction"
    location := .blank
    atmosphere := .blank
    nodes := []
    endings := { good := ending 14, neutral := ending 8, bad := ending 0 } }

end Playthrough

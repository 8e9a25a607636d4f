import Playthrough.Scene.Event
import Playthrough.Task.World

/-!
Contract: the state of an interpreter, which plays one scene.

Owns: what is played, how far it has come, what is on offer, and the snapshot that the outside sees.

Does not own: the changes over time; those are in `Interpreter.Walk` and `Interpreter.Operations`.
-/

namespace Playthrough

/-- The two kinds of scene. -/
inductive SceneKind where
  | text
  | encounter
deriving DecidableEq, Repr, Inhabited

/-- What an interpreter plays. -/
structure Scenario where
  kind : SceneKind
  /-- What is shown before the first node. -/
  header : List (EventKind × Localized)
  nodes : List Node

/-- A text scene has no header. -/
def TextScene.scenario (scene : TextScene) : Scenario :=
  { kind := .text, header := [], nodes := scene.nodes }

/-- An encounter is headed by its place and its mood. -/
def EncounterScene.scenario (scene : EncounterScene) : Scenario :=
  { kind := .encounter
    header := [(.system, scene.location), (.action, scene.atmosphere)]
    nodes := scene.nodes }

namespace Scenario

/-- Whether the transition marker stops the scene. -/
def stopsAtMarker (scenario : Scenario) : Bool := scenario.kind == .text

/-- Whether a scene goes on after the label of a system event. -/
def labelsContinue (scenario : Scenario) : Bool := scenario.kind == .text

/-- What is shown while the scene is held up. -/
def indicator (scenario : Scenario) : Indicator :=
  match scenario.kind with
  | .text => .typing
  | .encounter => .thinking

end Scenario

/-- How far an interpreter has come. -/
inductive Progress where
  | idle
  | running
  | awaitingChoice
  | transitionReady
  | terminal
deriving DecidableEq, Repr, Inhabited

namespace Progress

/-- Every stage. -/
def all : List Progress := [.idle, .running, .awaitingChoice, .transitionReady, .terminal]

/-- The name of a stage. -/
def name : Progress → String
  | .idle => "idle"
  | .running => "running"
  | .awaitingChoice => "awaiting_choice"
  | .transitionReady => "transition_ready"
  | .terminal => "terminal"

/-- The stage of a name. -/
def ofName? (name : String) : Option Progress :=
  all.find? fun progress => progress.name == name

@[simp] theorem ofName?_name (progress : Progress) : ofName? progress.name = some progress := by
  cases progress <;> rfl

end Progress

/-- An interpreter. -/
structure Interpreter where
  scenario : Scenario
  preferences : Preferences
  /-- Whether the end of the scene was reported since the last reset. -/
  finished : Bool
  progress : Progress
  nodeIndex : Nat
  events : List SceneEvent
  choices : List Offer
  /-- Whether the scene is held up. -/
  suspended : Bool
  transitionReady : Bool

namespace Interpreter

/-- An interpreter that has not played yet. -/
def initial (scenario : Scenario) : Interpreter :=
  { scenario := scenario
    preferences := .standard
    finished := false
    progress := .idle
    nodeIndex := 0
    events := []
    choices := []
    suspended := false
    transitionReady := false }

/-- Forgets the run, but not the preferences that it was played with. -/
def reset (interpreter : Interpreter) : Interpreter :=
  { initial interpreter.scenario with preferences := interpreter.preferences }

/-- Begins a run. -/
def begin (interpreter : Interpreter) (preferences : Preferences) : Interpreter :=
  { interpreter with preferences := preferences, progress := .running }

/-- Writes an event. -/
def record (interpreter : Interpreter) (event : SceneEvent) : Interpreter :=
  { interpreter with events := interpreter.events ++ [event] }

/-- Moves on by one node. -/
def advance (interpreter : Interpreter) : Interpreter :=
  { interpreter with nodeIndex := interpreter.nodeIndex + 1 }

/-- Offers the choices of a node. -/
def offer (interpreter : Interpreter) (node : ChoiceNode) : Interpreter :=
  { interpreter with
    choices := node.options.map fun choice => choice.offer interpreter.preferences.language
    progress := .awaitingChoice }

/-- Takes back the offer and goes on. -/
def claim (interpreter : Interpreter) : Interpreter :=
  { interpreter with choices := [], progress := .running }

/-- Says that the scene can be left. -/
def becomeReady (interpreter : Interpreter) : Interpreter :=
  { interpreter with transitionReady := true, progress := .transitionReady }

/-- Comes to the end. -/
def terminate (interpreter : Interpreter) : Interpreter :=
  { interpreter with progress := .terminal }

/-- Reports the end. A scene that stops at the marker can then be left. -/
def reportEnd (interpreter : Interpreter) : Interpreter :=
  { interpreter with
    finished := true
    transitionReady := interpreter.transitionReady || interpreter.scenario.stopsAtMarker }

/-- Shows or hides that the scene is held up. -/
def setSuspended (interpreter : Interpreter) (suspended : Bool) : Interpreter :=
  { interpreter with suspended := suspended }

/-- The node at the current place. -/
def node? (interpreter : Interpreter) : Option Node :=
  interpreter.scenario.nodes[interpreter.nodeIndex]?

/-- The node after the current place. -/
def following? (interpreter : Interpreter) : Option Node :=
  interpreter.scenario.nodes[interpreter.nodeIndex + 1]?

/-- A text in the language of the run. -/
def say (interpreter : Interpreter) (text : Localized) : String :=
  text.resolve interpreter.preferences.language

/-- Texts in the language of the run. -/
def sayAll (interpreter : Interpreter) (texts : Option (List Localized)) : List String :=
  (texts.getD []).map interpreter.say

/-- What is shown now. -/
def shown (interpreter : Interpreter) : List Indicator :=
  if interpreter.suspended then [interpreter.scenario.indicator] else []

@[simp] theorem scenario_reset (interpreter : Interpreter) :
    interpreter.reset.scenario = interpreter.scenario := rfl

@[simp] theorem scenario_begin (interpreter : Interpreter) (preferences : Preferences) :
    (interpreter.begin preferences).scenario = interpreter.scenario := rfl

@[simp] theorem scenario_record (interpreter : Interpreter) (event : SceneEvent) :
    (interpreter.record event).scenario = interpreter.scenario := rfl

@[simp] theorem events_record (interpreter : Interpreter) (event : SceneEvent) :
    (interpreter.record event).events = interpreter.events ++ [event] := rfl

@[simp] theorem nodeIndex_advance (interpreter : Interpreter) :
    interpreter.advance.nodeIndex = interpreter.nodeIndex + 1 := rfl

@[simp] theorem events_advance (interpreter : Interpreter) :
    interpreter.advance.events = interpreter.events := rfl

@[simp] theorem choices_claim (interpreter : Interpreter) : interpreter.claim.choices = [] := rfl

@[simp] theorem progress_offer (interpreter : Interpreter) (node : ChoiceNode) :
    (interpreter.offer node).progress = .awaitingChoice := rfl

/-- What the outside sees of an interpreter. -/
structure Snapshot where
  progress : Progress
  nodeIndex : Int
  events : List SceneEvent
  choices : List Offer
  typing : Bool
  thinking : Bool
  transitionReady : Bool
deriving DecidableEq, Repr

/-- The snapshot at this moment. -/
def snapshot (interpreter : Interpreter) : Snapshot :=
  { progress := interpreter.progress
    nodeIndex := interpreter.nodeIndex
    events := interpreter.events
    choices := interpreter.choices
    typing := interpreter.shown.contains .typing
    thinking := interpreter.shown.contains .thinking
    transitionReady := interpreter.transitionReady }

end Interpreter

end Playthrough

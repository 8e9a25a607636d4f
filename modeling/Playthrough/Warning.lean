import Playthrough.Interpreter.State
import Playthrough.Text.Quoted

/-!
Contract: what is reported about a run without stopping it.

Owns: the phases of a play-through, the kinds of warning, and their wording.
-/

namespace Playthrough

/-- Where a play-through stands. -/
inductive Phase where
  | textScene
  | transition
  | encounter
  | epilogue
deriving DecidableEq, Repr, Inhabited

namespace Phase

/-- Every phase, in order. -/
def all : List Phase := [.textScene, .transition, .encounter, .epilogue]

/-- The name of a phase. -/
def name : Phase → String
  | .textScene => "text_scene"
  | .transition => "transition_to_encounter"
  | .encounter => "encounter"
  | .epilogue => "epilogue"

/-- The phase of a name. -/
def ofName? (name : String) : Option Phase :=
  all.find? fun phase => phase.name == name

@[simp] theorem ofName?_name (phase : Phase) : ofName? phase.name = some phase := by
  cases phase <;> rfl

end Phase

/-- Something odd that a run goes on from. -/
inductive Warning where
  | choiceIgnored (kind : SceneKind) (tag : String) (progress : Progress)
  | choiceUnmatched (tag nodeId : String)
  | choiceNodeEmpty (nodeId : String)
  | nodeKindUnknown (kind : String) (index : Nat)
  | sceneMissing (kind : SceneKind)
  | transitionIgnored (phase : Phase) (ready : Bool)
  | encounterIgnored (phase : Phase)
  | optionNotOffered (id : String) (phase : Phase)
deriving DecidableEq, Repr

/-- What plays a scene of a kind, by name. -/
def SceneKind.interpreterName : SceneKind → String
  | .text => "TextSceneInterpreter"
  | .encounter => "EncounterInterpreter"

/-- The name of a kind of scene at the head of a sentence. -/
def SceneKind.title : SceneKind → String
  | .text => "Text"
  | .encounter => "Encounter"

/-- The words of a warning. -/
def Warning.message : Warning → String
  | .choiceIgnored kind tag progress =>
      kind.interpreterName ++ ": choice " ++ Text.quoted tag ++ " ignored in state "
        ++ progress.name
  | .choiceUnmatched tag nodeId =>
      "Choice " ++ Text.quoted tag ++ " matches no option on node " ++ Text.quoted nodeId
        ++ " — continuing without branch"
  | .choiceNodeEmpty nodeId => "Choice node " ++ Text.quoted nodeId ++ " has no options — skipped"
  | .nodeKindUnknown kind index =>
      "Unknown node type " ++ Text.quoted kind ++ " at index " ++ toString index ++ " — skipped"
  | .sceneMissing kind => kind.title ++ " scene missing — using an empty fallback"
  | .transitionIgnored phase ready =>
      "Transition ignored: phase=" ++ phase.name ++ " ready=" ++ (Json.boolean ready).quoted
  | .encounterIgnored phase => "Encounter start ignored in phase " ++ phase.name
  | .optionNotOffered id phase =>
      "Option " ++ Text.quoted id ++ " is not on offer in phase " ++ phase.name

end Playthrough

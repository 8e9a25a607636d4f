import Playthrough.Epilogue.Basic
import Playthrough.Interpreter.State
import Playthrough.Warning

/-!
Contract: the state of one play-through of a text scene and an encounter.

Owns: the phase, the score and the three drivers' states, and the snapshot that the outside sees.

Does not own: the changes over time; those are in `Session.Operations`.
-/

namespace Playthrough

/-- The three drivers of a play-through. -/
inductive Role where
  | text
  | encounter
  | epilogue
deriving DecidableEq, Repr, Inhabited

namespace Role

/-- The drivers in order. -/
def all : List Role := [.text, .encounter, .epilogue]

/-- The name of a driver. -/
def name : Role → String
  | .text => "text"
  | .encounter => "encounter"
  | .epilogue => "epilogue"

end Role

/-- A play-through. -/
structure Session where
  endings : EndingTable
  preferences : Preferences
  phase : Phase
  score : Int
  text : Interpreter
  encounter : Interpreter
  epilogue : Epilogue

namespace Session

/-- A play-through of two scenes, an empty one in place of each that is missing. -/
def initial (textScene : Option TextScene) (encounterScene : Option EncounterScene)
    (preferences : Preferences) : Session :=
  let encounterScene := encounterScene.getD .fallback
  { endings := encounterScene.endings
    preferences := preferences
    phase := .textScene
    score := 0
    text := .initial (textScene.getD .fallback).scenario
    encounter := .initial encounterScene.scenario
    epilogue := .blank }

/-- What is reported about missing scenes. -/
def initialWarnings (textScene : Option TextScene) (encounterScene : Option EncounterScene) :
    List Warning :=
  (if textScene.isNone then [.sceneMissing .text] else [])
    ++ (if encounterScene.isNone then [.sceneMissing .encounter] else [])

/-- The tier that the score has earned. -/
def tier (session : Session) : Tier := session.endings.earned session.score

/-- The ending that the score has earned. -/
def earnedEnding (session : Session) : Ending := session.endings.ending session.tier

/-- Which interpreter takes the player's choices. -/
def currentKind? (session : Session) : Option SceneKind :=
  match session.phase with
  | .textScene => some .text
  | .encounter => some .encounter
  | _ => none

/-- The interpreter of a kind of scene. -/
def interpreter (session : Session) : SceneKind → Interpreter
  | .text => session.text
  | .encounter => session.encounter

/-- Changes the interpreter of a kind of scene. -/
def modifyInterpreter (kind : SceneKind) (change : Interpreter → Interpreter) (session : Session) :
    Session :=
  match kind with
  | .text => { session with text := change session.text }
  | .encounter => { session with encounter := change session.encounter }

/-- Changes the epilogue. -/
def modifyEpilogue (change : Epilogue → Epilogue) (session : Session) : Session :=
  { session with epilogue := change session.epilogue }

/-- Adds points to the score. -/
def award (points : Int) (session : Session) : Session :=
  { session with score := session.score + points }

/-- Enters a phase. -/
def enter (phase : Phase) (session : Session) : Session :=
  { session with phase := phase }

/-- Goes back to a clean text scene, with other preferences if some are given. -/
def restarted (preferences : Option Preferences) (session : Session) : Session :=
  { session with
    preferences := preferences.getD session.preferences
    score := 0
    phase := .textScene }

/-- What is shown now, of the text scene before the encounter. -/
def shown (session : Session) : List Indicator :=
  session.text.shown ++ session.encounter.shown

@[simp] theorem score_award (points : Int) (session : Session) :
    (session.award points).score = session.score + points := rfl

@[simp] theorem phase_enter (phase : Phase) (session : Session) :
    (session.enter phase).phase = phase := rfl

@[simp] theorem score_enter (phase : Phase) (session : Session) :
    (session.enter phase).score = session.score := rfl

@[simp] theorem interpreter_modifyInterpreter (kind : SceneKind)
    (change : Interpreter → Interpreter) (session : Session) :
    (session.modifyInterpreter kind change).interpreter kind =
      change (session.interpreter kind) := by
  cases kind <;> rfl

@[simp] theorem score_modifyInterpreter (kind : SceneKind) (change : Interpreter → Interpreter)
    (session : Session) : (session.modifyInterpreter kind change).score = session.score := by
  cases kind <;> rfl

/-- What the outside sees of a play-through. Lengths of time are as exact as `Delay` is. -/
structure Snapshot (Delay : Type) where
  phase : Phase
  score : Int
  preferences : Preferences
  /-- How long the transition screen is held. -/
  transitionDelay : Delay
  text : Interpreter.Snapshot
  encounter : Interpreter.Snapshot
  epilogue : Epilogue
deriving DecidableEq, Repr

/-- The snapshot at this moment. -/
def snapshot (session : Session) : Snapshot Duration :=
  { phase := session.phase
    score := session.score
    preferences := session.preferences
    transitionDelay := session.preferences.pacing.transition
    text := session.text.snapshot
    encounter := session.encounter.snapshot
    epilogue := session.epilogue }

end Session

end Playthrough

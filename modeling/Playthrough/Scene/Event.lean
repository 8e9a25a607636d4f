import Playthrough.Scene.Basic

/-!
Contract: what a player sees of a scene.

Owns: the events of a log, with their kinds, and the choices that are on offer.
-/

namespace Playthrough

/-- What an event shows. -/
inductive EventKind where
  | npc
  | player
  | narrative
  | action
  | system
  | ending
deriving DecidableEq, Repr, Inhabited

namespace EventKind

/-- Every kind. -/
def all : List EventKind := [.npc, .player, .narrative, .action, .system, .ending]

/-- The name of a kind. -/
def name : EventKind → String
  | .npc => "npc"
  | .player => "player"
  | .narrative => "narrative"
  | .action => "action"
  | .system => "system"
  | .ending => "ending"

/-- The kind of a name. -/
def ofName? (name : String) : Option EventKind :=
  all.find? fun kind => kind.name == name

@[simp] theorem ofName?_name (kind : EventKind) : ofName? kind.name = some kind := by
  cases kind <;> rfl

end EventKind

/-- One entry of a log. Only the texts of an ending have a tier. -/
structure SceneEvent where
  kind : EventKind
  text : String
  tier : Option Tier
deriving DecidableEq, Repr, Inhabited

/-- An event without a tier. -/
def SceneEvent.plain (kind : EventKind) (text : String) : SceneEvent :=
  { kind := kind, text := text, tier := none }

/-- A choice as the player is shown it. -/
structure Offer where
  tag : String
  text : String
  points : Int
deriving DecidableEq, Repr, Inhabited

/-- A choice in the player's language. -/
def Choice.offer (choice : Choice) (language : Language) : Offer :=
  { tag := choice.id, text := choice.text.resolve language, points := choice.points }

@[simp] theorem Choice.tag_offer (choice : Choice) (language : Language) :
    (choice.offer language).tag = choice.id := rfl

@[simp] theorem Choice.points_offer (choice : Choice) (language : Language) :
    (choice.offer language).points = choice.points := rfl

end Playthrough

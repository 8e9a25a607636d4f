import Playthrough.Session.Operations
import Playthrough.Task.Step

/-!
Contract: one play-through alone in its world.

Owns: what such a world keeps beside the play-through, its machine, and the operations on it.
-/

namespace Playthrough.Session

/-- What the world of one play-through holds. -/
structure Alone where
  session : Session
  /-- What was given to the listeners of each driver, the oldest first. -/
  deliveries : List (Role × SceneEvent)
  warnings : List Warning

namespace Alone

/-- What an operation answers. -/
inductive Reply where
  | verdict (accepted : Bool)
  | snapshot (snapshot : Snapshot Duration)
  | ending (tier : Tier) (ending : Ending)
deriving DecidableEq, Repr

/-- The programs of the only play-through. -/
abbrev Plan := Program Alone Role SceneKind Reply

/-- The world of the only play-through. -/
abbrev Setting := World Alone Role SceneKind Reply

/-- A world that has not played yet. -/
def initial (textScene : Option TextScene) (encounterScene : Option EncounterScene)
    (preferences : Preferences) : Alone :=
  { session := .initial textScene encounterScene preferences
    deliveries := []
    warnings := initialWarnings textScene encounterScene }

/-- The seat of the only play-through. -/
def seat : Seat Alone Role SceneKind :=
  { driver := id
    walk := id
    get := session
    modify := fun change store => { store with session := change store.session }
    deliver := fun role event store =>
      { store with deliveries := store.deliveries ++ [(role, event)] }
    warn := fun warning store => { store with warnings := store.warnings ++ [warning] } }

/-- The walks, and what the play-through shows. -/
def machine : Machine Alone Role SceneKind Reply :=
  { body := fun kind => (seat.interpreter kind).walkBody
    shown := fun store => store.session.shown }

/-- The end of an operation that was refused. -/
def refused : Plan := .give (.verdict false)

/-- The end of an operation that was accepted. -/
def accepted : Plan := .give (.verdict true)

/-- Plays the text scene from the top. -/
def begin : Plan := seat.begin .stop

/-- Leaves the text scene, once it can be left. -/
def triggerTransition : Plan := seat.triggerTransition refused accepted

/-- Confirms the transition screen. -/
def beginEncounter : Plan := seat.beginEncounter refused accepted

/-- Makes the choice of an id. -/
def select (id : String) : Plan := seat.select id refused accepted

/-- Goes back to a clean text scene. -/
def restart (preferences : Option Preferences) : Plan := seat.restart preferences .stop

/-- Adds points to the score. -/
def addPoints (points : Int) : Plan := seat.addPoints points .stop

/-- Ends the encounter. -/
def finishEncounter : Plan := seat.finishEncounter .stop

/-- Waits until none of the drivers plays. -/
def settle : Plan := seat.settle .stop

/-- Stops every driver. -/
def close : Plan := seat.close .stop

/-- Looks at the play-through. -/
def observe : Plan := .look fun store => .give (.snapshot store.session.snapshot)

/-- Looks at the ending that the score has earned. -/
def observeEnding : Plan :=
  .look fun store => .give (.ending store.session.tier store.session.earnedEnding)

end Alone

end Playthrough.Session

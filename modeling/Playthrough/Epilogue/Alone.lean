import Playthrough.Epilogue.Basic
import Playthrough.Task.Step

/-!
Contract: one epilogue alone in its world.

Owns: what such a world keeps beside the epilogue, its machine, and the operations on it.
-/

namespace Playthrough.Epilogue

/-- What the world of one epilogue holds. -/
structure Alone where
  epilogue : Epilogue
  /-- What was given to the listener, the oldest first. -/
  deliveries : List SceneEvent
deriving DecidableEq, Repr

namespace Alone

/-- The programs of the only epilogue. They call nothing and answer what is seen of it. -/
abbrev Plan := Program Alone Unit Empty Epilogue

/-- The world of the only epilogue. -/
abbrev Setting := World Alone Unit Empty Epilogue

/-- A world that has not played yet. -/
def initial : Alone := { epilogue := .blank, deliveries := [] }

/-- The seat of the only epilogue. -/
def seat : Seat Alone Unit :=
  { driver := ()
    modify := fun change store => { store with epilogue := change store.epilogue }
    record := fun event store =>
      { store with
        epilogue := store.epilogue.record event
        deliveries := store.deliveries ++ [event] } }

/-- An epilogue shows nothing beside its log. -/
def machine : Machine Alone Unit Empty Epilogue :=
  { body := fun procedure => nomatch procedure
    shown := fun _ => [] }

/-- Plays an ending. -/
def play (preferences : Preferences) (ending : Ending) (tier : Option Tier) : Plan :=
  seat.play preferences ending tier .stop

/-- Stops the ending and forgets it. -/
def reset : Plan := seat.reset .stop

/-- Stops the ending. -/
def cancel : Plan := .cancel () .stop

/-- Waits until nothing is being played. -/
def await : Plan := .await () .stop

/-- Looks at the epilogue. -/
def observe : Plan := .look fun store => .give store.epilogue

end Alone

end Playthrough.Epilogue

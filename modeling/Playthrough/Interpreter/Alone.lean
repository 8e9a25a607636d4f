import Playthrough.Interpreter.Operations
import Playthrough.Task.Step

/-!
Contract: one interpreter alone in its world.

Owns: what such a world keeps beside the interpreter, its machine, and the operations on it.
-/

namespace Playthrough.Interpreter

/-- What the world of one interpreter holds. -/
structure Alone where
  interpreter : Interpreter
  /-- Whether points and the end of the scene are reported to anybody. -/
  reporting : Bool
  /-- The points that were reported, the oldest first. -/
  points : List Int
  /-- How often the end of the scene was reported. -/
  finishes : Nat
  /-- What was given to the listener, the oldest first. -/
  deliveries : List SceneEvent
  warnings : List Warning

namespace Alone

/-- What an operation answers. -/
inductive Reply where
  | verdict (accepted : Bool)
  /-- No choice is on offer at that place. -/
  | noSuchOffer
  | snapshot (snapshot : Snapshot)
deriving DecidableEq, Repr

/-- The programs of the only interpreter; the only procedure is its walk. -/
abbrev Plan := Program Alone Unit Unit Reply

/-- The world of the only interpreter. -/
abbrev Setting := World Alone Unit Unit Reply

/-- A world that has not played yet. -/
def initial (scenario : Scenario) (reporting : Bool) : Alone :=
  { interpreter := .initial scenario
    reporting := reporting
    points := []
    finishes := 0
    deliveries := []
    warnings := [] }

/-- Changes the interpreter. -/
def modify (change : Interpreter → Interpreter) (store : Alone) : Alone :=
  { store with interpreter := change store.interpreter }

/-- Writes an event and gives it to the listener. -/
def record (event : SceneEvent) (store : Alone) : Alone :=
  { store with
    interpreter := store.interpreter.record event
    deliveries := store.deliveries ++ [event] }

/-- Keeps reported points. -/
def award (points : Int) (store : Alone) : Alone :=
  if store.reporting then { store with points := store.points ++ [points] } else store

/-- Counts a reported end. -/
def countFinish (store : Alone) : Alone :=
  if store.reporting then { store with finishes := store.finishes + 1 } else store

/-- Keeps a warning. -/
def warn (warning : Warning) (store : Alone) : Alone :=
  { store with warnings := store.warnings ++ [warning] }

/-- The seat of the only interpreter. -/
def seat : Seat Alone Unit Unit Reply :=
  { driver := ()
    walk := ()
    get := interpreter
    modify := modify
    record := record
    award := award
    onFinish := .update countFinish .stop
    warn := warn }

/-- The walk, and what the interpreter shows. -/
def machine : Machine Alone Unit Unit Reply :=
  { body := fun _ => seat.walkBody
    shown := fun store => store.interpreter.shown }

/-- Starts the scene. -/
def start (preferences : Preferences) : Plan := seat.start preferences .stop

/-- Stops the run and forgets it. -/
def reset : Plan := seat.reset .stop

/-- Stops the run. -/
def cancel : Plan := .cancel () .stop

/-- Waits until the run has stopped. -/
def await : Plan := .await () .stop

/-- Makes a choice. -/
def choose (offer : Offer) : Plan :=
  seat.select offer (.give (.verdict false)) (.give (.verdict true))

/-- Makes the choice that is offered at a place. -/
def select (position : Nat) : Plan :=
  .look fun store =>
    match store.interpreter.choices[position]? with
    | none => .give .noSuchOffer
    | some offer => choose offer

/-- Looks at the interpreter. -/
def observe : Plan := .look fun store => .give (.snapshot store.interpreter.snapshot)

@[simp] theorem interpreter_modify (change : Interpreter → Interpreter) (store : Alone) :
    (modify change store).interpreter = change store.interpreter := rfl

@[simp] theorem interpreter_record (event : SceneEvent) (store : Alone) :
    (record event store).interpreter = store.interpreter.record event := rfl

@[simp] theorem interpreter_award (points : Int) (store : Alone) :
    (award points store).interpreter = store.interpreter := by
  unfold award
  split <;> rfl

@[simp] theorem interpreter_warn (warning : Warning) (store : Alone) :
    (warn warning store).interpreter = store.interpreter := rfl

end Alone

end Playthrough.Interpreter

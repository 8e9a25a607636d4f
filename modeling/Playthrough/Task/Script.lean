import Playthrough.Task.Step
import Playthrough.Scene.Event

/-!
Contract: one driver alone in its world, running programs that are written out in full.

Owns: scripts, which are programs without access to the store, the log that they write to, and the
machine that runs them.

Does not own: drivers that play scenes.
-/

namespace Playthrough

/-- A program for a driver, as a sequence of statements. -/
inductive Script where
  | stop
  /-- Waits for so many milliseconds; a negative count is no time at all. -/
  | pause (milliseconds : Int) (next : Script)
  /-- Shows an event, given by the names of its kind and its tier. -/
  | emit (kind text : String) (tier : Option String) (next : Script)
  /-- Gives the driver a new task. -/
  | spawn (body next : Script)
  /-- Goes on only while the task may act. -/
  | check (next : Script)
  /-- Revokes the task's own permission to act. -/
  | revoke (next : Script)
  /-- Cancels the driver. -/
  | cancel (next : Script)
  /-- Gives up with a message. -/
  | raise (message : String)
  /-- Runs a script and goes on when it ends or is cancelled. -/
  | guard (body next : Script)
  /-- Runs a script, then another one whatever ended the first. -/
  | ensure (body cleanup next : Script)
deriving DecidableEq, Repr, Inhabited

namespace Script

/-- The log of a driver. Listeners are numbered; each event goes to all of them when it is written.
-/
structure Log where
  events : List SceneEvent
  listeners : Nat
  /-- What was given to which listener, the oldest first. -/
  deliveries : List (Nat × SceneEvent)
deriving DecidableEq, Repr

/-- A log that one listener follows. -/
def Log.initial : Log := { events := [], listeners := 1, deliveries := [] }

/-- Writes an event. -/
def Log.record (log : Log) (event : SceneEvent) : Log :=
  { log with
    events := log.events ++ [event]
    deliveries :=
      log.deliveries ++ (List.range log.listeners).map fun listener => (listener, event) }

/-- Adds a listener. -/
def Log.subscribe (log : Log) : Log := { log with listeners := log.listeners + 1 }

@[simp] theorem Log.events_record (log : Log) (event : SceneEvent) :
    (log.record event).events = log.events ++ [event] := rfl

@[simp] theorem Log.events_subscribe (log : Log) : log.subscribe.events = log.events := rfl

/-- The programs of the only driver. They end without an answer and call nothing. -/
abbrev Plan := Program Log Unit Empty Unit

/-- The world of the only driver. -/
abbrev Setting := World Log Unit Empty Unit

/-- The event of a kind and a tier given by name. -/
def event? (kind text : String) (tier : Option String) : Option SceneEvent :=
  match EventKind.ofName? kind, tier with
  | some kind, none => some { kind := kind, text := text, tier := none }
  | some kind, some name =>
      (Tier.ofName? name).map fun tier => { kind := kind, text := text, tier := some tier }
  | none, _ => none

/-- The program of a script. -/
def toProgram : Script → Plan
  | .stop => .stop
  | .pause milliseconds next =>
      match Duration.ofMilliseconds? milliseconds.natAbs with
      | none => .fail .overflow
      | some _ => .pause (Duration.ofSignedMilliseconds milliseconds) next.toProgram
  | .emit kind content tier next =>
      .check (match event? kind content tier with
        | none => .fail .invalidEvent
        | some event => .update (fun log => log.record event) next.toProgram)
  | .spawn body next => .spawn () body.toProgram next.toProgram
  | .check next => .check next.toProgram
  | .revoke next => .revoke next.toProgram
  | .cancel next => .cancel () next.toProgram
  | .raise message => .fail (.raised message)
  | .guard body next => .guard body.toProgram next.toProgram
  | .ensure body cleanup next => .ensure body.toProgram cleanup.toProgram next.toProgram

/-- Nothing is called and nothing is shown beside the log. -/
def machine : Machine Log Unit Empty Unit :=
  { body := fun procedure => nomatch procedure
    shown := fun _ => [] }

/-- The world before anything was done. -/
def initial : Setting := World.initial Log.initial

end Script

end Playthrough

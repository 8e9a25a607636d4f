import Playthrough.Interpreter.Walk

/-!
Contract: what can be done to an interpreter from outside.

Owns: starting, resetting and choosing, as programs that go on with what the caller wants done next.

Each of them waits for the driver's task to unwind before it writes anything that the task could
still change. A choice is claimed before that wait, so that no other one can be made meanwhile.
-/

namespace Playthrough.Seat

variable {Store Driver Procedure Answer : Type}

/-- Stops the run and forgets it. -/
def reset (seat : Seat Store Driver Procedure Answer)
    (next : Program Store Driver Procedure Answer) : Program Store Driver Procedure Answer :=
  .cancel seat.driver (.update (seat.modify Interpreter.reset) next)

/-- Writes the header of the scene. -/
def recordHeader (seat : Seat Store Driver Procedure Answer) (interpreter : Interpreter)
    (store : Store) : Store :=
  interpreter.scenario.header.foldl
    (fun reached line => seat.record (.plain line.1 (interpreter.say line.2)) reached) store

/-- Starts the scene from its first node. -/
def start (seat : Seat Store Driver Procedure Answer) (preferences : Preferences)
    (next : Program Store Driver Procedure Answer) : Program Store Driver Procedure Answer :=
  seat.reset
    (.update (seat.modify fun interpreter => interpreter.begin preferences)
      (.update (fun store => seat.recordHeader (seat.get store) store)
        (.spawn seat.driver seat.openScene next)))

/-- The choice that an offer was made from, at the current place. -/
def chosen? (interpreter : Interpreter) (tag : String) : Option Choice :=
  match interpreter.node? with
  | some (.choice node) => node.find? tag
  | _ => none

/-- Writes the player's line, reports the points, and warns of an offer that matches no choice. -/
def applyChoice (seat : Seat Store Driver Procedure Answer) (offer : Offer) (nodeId : String)
    (choice : Option Choice) (store : Store) : Store :=
  let told := seat.award offer.points (seat.record (.plain .player offer.text) store)
  match choice with
  | none => seat.warn (.choiceUnmatched offer.tag nodeId) told
  | some _ => told

/-- Makes a choice, unless none is awaited. -/
def select (seat : Seat Store Driver Procedure Answer) (offer : Offer)
    (refused accepted : Program Store Driver Procedure Answer) :
    Program Store Driver Procedure Answer :=
  .look fun store =>
    let interpreter := seat.get store
    if interpreter.progress = .awaitingChoice then
      let choice := chosen? interpreter offer.tag
      let nodeId := (interpreter.node?.map Node.id).getD ""
      .update (seat.modify Interpreter.claim)
        (.cancel seat.driver
          (.update (seat.applyChoice offer nodeId choice)
            (.spawn seat.driver (seat.resume choice) accepted)))
    else
      .update
        (seat.warn (.choiceIgnored interpreter.scenario.kind offer.tag interpreter.progress))
        refused

end Playthrough.Seat

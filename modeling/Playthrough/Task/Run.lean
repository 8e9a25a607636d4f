import Playthrough.Task.Step

/-!
Contract: operations from outside, carried out to their end.

Owns: one operation alone, and several at the same time.

An operation that waits for the clock lets the oldest wait end whenever nothing else moves.
-/

namespace Playthrough.World

variable {Store Driver Procedure Answer : Type}

/-- The bound on the steps of one run. A run of authored scenes ends by itself long before. -/
def patience : Nat := 10000000

/-- Carries out one operation. Its outcome is missing when it waits for something that never comes.
-/
def perform [DecidableEq Driver] (machine : Machine Store Driver Procedure Answer)
    (world : World Store Driver Procedure Answer)
    (operation : Program Store Driver Procedure Answer) :
    Option (Outcome Answer) × World Store Driver Procedure Answer :=
  let (id, begun) := world.begin operation
  let reached := runUntilEnded machine id patience begun
  (reached.outcome? id, reached)

/-- Carries out several operations at the same time; they begin in order. -/
def performAll [DecidableEq Driver] (machine : Machine Store Driver Procedure Answer)
    (world : World Store Driver Procedure Answer)
    (operations : List (Program Store Driver Procedure Answer)) :
    List (Option (Outcome Answer)) × World Store Driver Procedure Answer :=
  let (ids, begun) := world.beginAll operations
  let (id, joining) := begun.beginJoin ids
  let reached := runUntilEnded machine id patience joining
  (ids.map reached.outcome?, reached)

/-- Lets every task run until nothing moves by itself. -/
def drainAll [DecidableEq Driver] (machine : Machine Store Driver Procedure Answer)
    (world : World Store Driver Procedure Answer) : World Store Driver Procedure Answer :=
  drain machine patience world

/-- Lets the wait at a position end and everything run, so many times or until there is no such
wait. The first of the pair counts the waits that ended. -/
def advanceClock [DecidableEq Driver] (machine : Machine Store Driver Procedure Answer)
    (position : Nat) :
    Nat → World Store Driver Procedure Answer → Nat × World Store Driver Procedure Answer
  | 0, world => (0, world)
  | count + 1, world =>
      match world.release? position with
      | none => (0, world)
      | some released =>
          let (more, reached) := advanceClock machine position count (drainAll machine released)
          (more + 1, reached)

end Playthrough.World

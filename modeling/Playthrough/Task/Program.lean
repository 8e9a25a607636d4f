import Playthrough.Duration

/-!
Contract: cooperative programs, as data.

Owns: the type `Program` of what a task does between two moments at which other tasks may run, and
sequencing of programs.

Does not own: the tasks that run programs, the clock, and the order in which tasks take turns; those
are in `Task.World` and `Task.Step`.

A program works on a store that all tasks share, and on drivers. A driver holds at most one task at
a time in its slot, and lets only its newest task act, for as long as that task's permission was not
revoked. A program keeps the turn until it pauses, joins another task or ends.
-/

namespace Playthrough

/-- A fault that ends a task. -/
inductive Fault where
  /-- A program gave up with a message. -/
  | raised (message : String)
  /-- An event of an unknown kind or tier was to be shown. -/
  | invalidEvent
  /-- A wait is longer than the clock can hold. -/
  | overflow
deriving DecidableEq, Repr, Inhabited

/-- What a task does. `Store` is what all tasks share, `Driver` names the drivers, `Procedure` names
the programs that can be called, and `Answer` is what a task may end with. -/
inductive Program (Store Driver Procedure Answer : Type) where
  /-- Ends, with or without an answer. -/
  | done (answer : Option Answer)
  /-- Gives up. -/
  | fail (fault : Fault)
  /-- Goes on depending on the store. -/
  | look (choose : Store → Program Store Driver Procedure Answer)
  /-- Changes the store. -/
  | update (change : Store → Store) (next : Program Store Driver Procedure Answer)
  /-- Runs a named program first. -/
  | call (procedure : Procedure) (next : Program Store Driver Procedure Answer)
  /-- Goes on only while the task may act. -/
  | check (next : Program Store Driver Procedure Answer)
  /-- Revokes the task's own permission to act. -/
  | revoke (next : Program Store Driver Procedure Answer)
  /-- Waits for the clock, before and after which the task has to be allowed to act. -/
  | pause (duration : Duration) (next : Program Store Driver Procedure Answer)
  /-- Gives a driver a new task in place of the one that it holds. -/
  | spawn (driver : Driver) (body next : Program Store Driver Procedure Answer)
  /-- Takes a driver's task from it, cancels that task and joins it. -/
  | cancel (driver : Driver) (next : Program Store Driver Procedure Answer)
  /-- Joins the tasks of the remaining drivers one after the other, each until its driver has no
  task that is not ended, and again all `drivers` as long as one of them has one. -/
  | settle (drivers remaining : List Driver) (next : Program Store Driver Procedure Answer)
  /-- Runs `body` and goes on when it ends or is cancelled. -/
  | guard (body next : Program Store Driver Procedure Answer)
  /-- Runs `body`, then `cleanup` whatever ended it. -/
  | ensure (body cleanup next : Program Store Driver Procedure Answer)

namespace Program

variable {Store Driver Procedure Answer : Type}

/-- Ends without an answer. -/
def stop : Program Store Driver Procedure Answer := .done none

/-- Ends with an answer. -/
def give (answer : Answer) : Program Store Driver Procedure Answer := .done (some answer)

/-- Waits until a driver has no task that is not ended. -/
def await (driver : Driver) (next : Program Store Driver Procedure Answer) :
    Program Store Driver Procedure Answer :=
  .settle [] [driver] next

/-- Waits until none of the drivers has a task that is not ended. -/
def settleAll (drivers : List Driver) (next : Program Store Driver Procedure Answer) :
    Program Store Driver Procedure Answer :=
  .settle drivers [] next

/-- Runs one program after another one has ended; the answer of the first is dropped. -/
def andThen (first second : Program Store Driver Procedure Answer) :
    Program Store Driver Procedure Answer :=
  match first with
  | .done _ => second
  | .fail fault => .fail fault
  | .look choose => .look fun store => (choose store).andThen second
  | .update change next => .update change (next.andThen second)
  | .call procedure next => .call procedure (next.andThen second)
  | .check next => .check (next.andThen second)
  | .revoke next => .revoke (next.andThen second)
  | .pause duration next => .pause duration (next.andThen second)
  | .spawn driver body next => .spawn driver body (next.andThen second)
  | .cancel driver next => .cancel driver (next.andThen second)
  | .settle drivers remaining next => .settle drivers remaining (next.andThen second)
  | .guard body next => .guard body (next.andThen second)
  | .ensure body cleanup next => .ensure body cleanup (next.andThen second)

@[simp] theorem done_andThen (answer : Option Answer)
    (second : Program Store Driver Procedure Answer) :
    (Program.done answer).andThen second = second := rfl

@[simp] theorem stop_andThen (second : Program Store Driver Procedure Answer) :
    stop.andThen second = second := rfl

/-- Sequencing is associative. -/
theorem andThen_assoc (first second third : Program Store Driver Procedure Answer) :
    (first.andThen second).andThen third = first.andThen (second.andThen third) := by
  induction first with
  | done _ => rfl
  | fail _ => rfl
  | look choose inductionHypothesis =>
      simp only [andThen]
      congr 1
      funext store
      exact inductionHypothesis store
  | update _ _ inductionHypothesis => simp [andThen, inductionHypothesis]
  | call _ _ inductionHypothesis => simp [andThen, inductionHypothesis]
  | check _ inductionHypothesis => simp [andThen, inductionHypothesis]
  | revoke _ inductionHypothesis => simp [andThen, inductionHypothesis]
  | pause _ _ inductionHypothesis => simp [andThen, inductionHypothesis]
  | spawn _ _ _ _ inductionHypothesis => simp [andThen, inductionHypothesis]
  | cancel _ _ inductionHypothesis => simp [andThen, inductionHypothesis]
  | settle _ _ _ inductionHypothesis => simp [andThen, inductionHypothesis]
  | guard _ _ _ inductionHypothesis => simp [andThen, inductionHypothesis]
  | ensure _ _ _ _ _ inductionHypothesis => simp [andThen, inductionHypothesis]

end Program

end Playthrough

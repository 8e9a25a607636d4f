import Playthrough.Task.Step
import Mathlib.Data.Nat.Count

/-!
Contract: a smaller world that lives in a larger one.

Owns: how the store, the drivers, the procedures and the answers of a smaller world are found in a larger one
(`Lodging`), the programs of the larger world that stand for those of the smaller one (`Program.lodged`), and
the numbers that the tasks of a lodger have among themselves (`place?`).

Does not own: what becomes of such tasks when the larger world moves on.

A lodger's programs read nothing but its own part of the store and name nothing but its own drivers. They are
therefore given as programs of the smaller world, and their places in the larger one follow from that. Tasks
are numbered by the larger world; among themselves they keep the order in which they were made.
-/

namespace Playthrough

variable {Inner Room Errand Word Store Driver Procedure Answer : Type}

/-! ## Where a lodger lives -/

/-- The place of a smaller world in a larger one. -/
structure Lodging (Inner Room Errand Word Store Driver Procedure Answer : Type) where
  /-- The lodger's part of the store. -/
  view : Store → Inner
  amend : (Inner → Inner) → Store → Store
  /-- Its drivers. -/
  door : Room → Driver
  procedure : Errand → Procedure
  answer : Word → Answer

/-- An outcome with another answer. -/
def Outcome.told (answer : Word → Answer) : Outcome Word → Outcome Answer
  | .finished word => .finished (word.map answer)
  | .cancelled => .cancelled
  | .failed fault => .failed fault

/-- A status with another answer. -/
def Status.told (answer : Word → Answer) : Status Word → Status Answer
  | .ready => .ready
  | .sleeping => .sleeping
  | .joining count => .joining count
  | .ended outcome => .ended (outcome.told answer)

section Programs

variable (lodging : Lodging Inner Room Errand Word Store Driver Procedure Answer)

/-- A lodger's program as a program of the larger world. -/
def Program.lodged : Program Inner Room Errand Word → Program Store Driver Procedure Answer
  | .done word => .done (word.map lodging.answer)
  | .fail fault => .fail fault
  | .look choose => .look fun store => (choose (lodging.view store)).lodged
  | .update change next => .update (lodging.amend change) next.lodged
  | .call errand next => .call (lodging.procedure errand) next.lodged
  | .check next => .check next.lodged
  | .revoke next => .revoke next.lodged
  | .pause duration next => .pause duration next.lodged
  | .spawn room body next => .spawn (lodging.door room) body.lodged next.lodged
  | .cancel room next => .cancel (lodging.door room) next.lodged
  | .settle rooms remaining next =>
      .settle (rooms.map lodging.door) (remaining.map lodging.door) next.lodged
  | .guard body next => .guard body.lodged next.lodged
  | .ensure body cleanup next => .ensure body.lodged cleanup.lodged next.lodged

theorem Program.lodged_andThen (first second : Program Inner Room Errand Word) :
    (first.andThen second).lodged lodging = (first.lodged lodging).andThen (second.lodged lodging) := by
  induction first with
  | done _ => rfl
  | fail _ => rfl
  | look choose inductionHypothesis =>
      simp only [andThen, lodged]
      congr 1
      funext store
      exact inductionHypothesis _
  | update _ _ inductionHypothesis => simp only [andThen, lodged, inductionHypothesis]
  | call _ _ inductionHypothesis => simp only [andThen, lodged, inductionHypothesis]
  | check _ inductionHypothesis => simp only [andThen, lodged, inductionHypothesis]
  | revoke _ inductionHypothesis => simp only [andThen, lodged, inductionHypothesis]
  | pause _ _ inductionHypothesis => simp only [andThen, lodged, inductionHypothesis]
  | spawn _ _ _ _ inductionHypothesis => simp only [andThen, lodged, inductionHypothesis]
  | cancel _ _ inductionHypothesis => simp only [andThen, lodged, inductionHypothesis]
  | settle _ _ _ inductionHypothesis => simp only [andThen, lodged, inductionHypothesis]
  | guard _ _ _ inductionHypothesis => simp only [andThen, lodged, inductionHypothesis]
  | ensure _ _ _ _ _ inductionHypothesis => simp only [andThen, lodged, inductionHypothesis]

/-- What a lodger's task goes on with. -/
def Control.lodged : Control Inner Room Errand Word → Control Store Driver Procedure Answer
  | .run program => .run (program.lodged lodging)
  | .unwind signal => .unwind signal

/-- What is still to be done around it. -/
def Frame.lodged : Frame Inner Room Errand Word → Frame Store Driver Procedure Answer
  | .guarded next => .guarded (next.lodged lodging)
  | .ensured cleanup next => .ensured (cleanup.lodged lodging) (next.lodged lodging)
  | .resumed signal => .resumed signal

/-- A lodger's task. -/
def Task.lodged (task : Task Inner Room Errand Word) : Task Store Driver Procedure Answer :=
  { owner := task.owner.map lodging.door
    control := task.control.lodged lodging
    frames := task.frames.map (Frame.lodged lodging)
    status := task.status.told lodging.answer
    cancelPending := task.cancelPending
    joiners := task.joiners }

/-- The larger world's machine carries out what the lodger's does. -/
structure Machine.Carries (machine : Machine Store Driver Procedure Answer)
    (inner : Machine Inner Room Errand Word) : Prop where
  body : ∀ errand, machine.body (lodging.procedure errand) = (inner.body errand).lodged lodging
  shown : ∀ store, machine.shown store = inner.shown (lodging.view store)

end Programs

/-! ## A lodger's tasks among themselves -/

section Places

variable (mine : TaskId → Prop) [DecidablePred mine]

/-- The number of a lodger's task among the lodger's tasks. -/
def place? (id : TaskId) : Option TaskId :=
  if mine id then some (Nat.count mine id) else none

/-- The task that a turn was asked for. -/
def Turn.task : Turn → TaskId
  | .run id => id
  | .joined id => id

/-- A turn of a lodger's task. -/
def Turn.placed? : Turn → Option Turn
  | .run id => (place? mine id).map .run
  | .joined id => (place? mine id).map .joined

/-- A wait of a lodger's task. -/
def Wait.placed? (wait : Wait) : Option Wait :=
  (place? mine wait.task).map fun id => { wait with task := id }

/-- A task that knows of nobody but the lodger's tasks. -/
def Task.placed (task : Task Store Driver Procedure Answer) : Task Store Driver Procedure Answer :=
  { task with joiners := task.joiners.filterMap (place? mine) }

variable {mine} {id other : TaskId}

theorem place?_of_mine (own : mine id) : place? mine id = some (Nat.count mine id) := if_pos own

theorem place?_of_not_mine (foreign : ¬mine id) : place? mine id = none := if_neg foreign

theorem Turn.placed?_of_mine {turn : Turn} (own : mine turn.task) :
    ∃ placed, turn.placed? mine = some placed := by
  cases turn with
  | run id => exact ⟨_, congrArg (Option.map Turn.run) (place?_of_mine own)⟩
  | joined id => exact ⟨_, congrArg (Option.map Turn.joined) (place?_of_mine own)⟩

theorem Turn.placed?_of_not_mine {turn : Turn} (foreign : ¬mine turn.task) : turn.placed? mine = none := by
  cases turn with
  | run id => exact congrArg (Option.map Turn.run) (place?_of_not_mine foreign)
  | joined id => exact congrArg (Option.map Turn.joined) (place?_of_not_mine foreign)

/-- The lodger's waits last as long as they do for everybody. -/
theorem map_duration_placed (waits : List Wait) :
    (waits.filterMap (Wait.placed? mine)).map Wait.duration =
      (waits.filter fun wait => mine wait.task).map Wait.duration := by
  induction waits with
  | nil => rfl
  | cons wait waits inductionHypothesis =>
      by_cases own : mine wait.task
      · simp [Wait.placed?, place?_of_mine own, own, inductionHypothesis]
      · simp [Wait.placed?, place?_of_not_mine own, own, inductionHypothesis]

theorem place?_eq_some {place : TaskId} :
    place? mine id = some place ↔ mine id ∧ Nat.count mine id = place := by
  simp [place?]

/-- Different tasks have different places. -/
theorem count_inj (own : mine id) (ownOther : mine other) :
    Nat.count mine id = Nat.count mine other ↔ id = other :=
  ⟨Nat.count_injective own ownOther, fun same => same ▸ rfl⟩

theorem count_succ_of_mine (own : mine id) : Nat.count mine (id + 1) = Nat.count mine id + 1 := by
  rw [Nat.count_succ, if_pos own]

theorem count_succ_of_not_mine (foreign : ¬mine id) : Nat.count mine (id + 1) = Nat.count mine id := by
  rw [Nat.count_succ, if_neg foreign, Nat.add_zero]

end Places

end Playthrough

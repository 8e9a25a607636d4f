import Playthrough.Proofs.Task.Arrival
import Playthrough.Proofs.Task.Clearance

/-!
Contract: a world in which all is over but one operation and what comes after.

Owns: when a world has nothing left of what was before in it (`World.Survives`), that it goes on as the smaller
world does in which this has never been, and how such a smaller world begins (`World.Survives.begins`).

Does not own: how a world gets there.

What is over takes no turn and waits for nothing, so only numbers tell that it was there. The tasks that go on
lodge in their own world, as it were: the smaller world has the same store and the same drivers.
-/

namespace Playthrough

variable {Store Driver Procedure Answer : Type}

/-! ## The whole of a world -/

/-- A world lodges in itself. -/
def Lodging.whole : Lodging Store Driver Procedure Answer Store Driver Procedure Answer :=
  { view := fun store => store
    amend := fun change => change
    door := fun driver => driver
    procedure := fun procedure => procedure
    answer := fun answer => answer }

@[simp] theorem Program.lodged_whole (program : Program Store Driver Procedure Answer) :
    program.lodged .whole = program := by
  induction program with
  | done word => simp [lodged, Lodging.whole]
  | fail _ => rfl
  | look choose inductionHypothesis => exact congrArg look (funext inductionHypothesis)
  | update change next inductionHypothesis => exact congrArg (update change) inductionHypothesis
  | call procedure next inductionHypothesis => exact congrArg (call procedure) inductionHypothesis
  | check next inductionHypothesis => exact congrArg check inductionHypothesis
  | revoke next inductionHypothesis => exact congrArg revoke inductionHypothesis
  | pause duration next inductionHypothesis => exact congrArg (pause duration) inductionHypothesis
  | cancel driver next inductionHypothesis => exact congrArg (cancel driver) inductionHypothesis
  | settle drivers remaining next inductionHypothesis =>
      show settle (drivers.map fun driver => driver) (remaining.map fun driver => driver) _ = _
      rw [List.map_id', List.map_id', inductionHypothesis]
  | spawn driver body next same sameNext => exact congrArg₂ (spawn driver) same sameNext
  | guard body next same sameNext => exact congrArg₂ guard same sameNext
  | ensure body cleanup next same sameCleanup sameNext =>
      simp only [lodged, same, sameCleanup, sameNext]

theorem carries_whole (machine : Machine Store Driver Procedure Answer) : machine.Carries .whole machine where
  body procedure := (Program.lodged_whole (machine.body procedure)).symm
  shown _ := rfl

theorem Outcome.told_self (outcome : Outcome Answer) : outcome.told (fun answer => answer) = outcome := by
  cases outcome with
  | finished answer => simp [told]
  | cancelled => rfl
  | failed fault => rfl

/-! ## What is not over -/

/-- A task is a certain operation, or was made since there were so many. -/
def Since (operation since : TaskId) (id : TaskId) : Prop := id = operation ∨ since ≤ id

instance (operation since : TaskId) : DecidablePred (Since operation since) :=
  fun _ => inferInstanceAs (Decidable (_ ∨ _))

namespace World

variable {etiquette : Etiquette Store Driver Procedure}
variable {world middle after : World Store Driver Procedure Answer} {operation since id : TaskId}

/-- Nobody unmakes a task. -/
theorem Leads.length_le (leads : world.Leads etiquette after) : world.tasks.length ≤ after.tasks.length := by
  rw [← length_owners, ← length_owners]
  rcases leads.owners with same | ⟨driver, -, added⟩
  · rw [same]
  · simp [added]

/-- A world goes on as a smaller one does: all is over in it but an operation and what was made since. -/
structure Survives (operation since : TaskId) (world middle : World Store Driver Procedure Answer) : Prop where
  lodges : Lodges .whole (Since operation since) world middle
  grown : since ≤ world.tasks.length
  isOver : ∀ id, ¬Since operation since id → world.isUnended id = false

namespace Survives

/-- It begins with the operation, where nothing else goes on. -/
theorem begins {program : Program Store Driver Procedure Answer} (balanced : world.Balanced)
    (decorous : world.Decorous etiquette) (timed : world.Timed) (vacant : ∀ driver, world.Vacant driver)
    (turn : world.running = some operation) (asks : world.Asks operation program)
    (alone : ∀ other, other ≠ operation → world.isUnended other = false) :
    Survives operation world.tasks.length world ((World.initial world.store).begin program).2 where
  lodges := by
    refine .moves_in balanced decorous timed vacant turn (by rwa [Program.lodged_whole]) rfl fun other inside => ?_
    simp [Since, inside]
  grown := Nat.le_refl _
  isOver other apart := alone other fun same => apart (.inl same)

theorem own (survives : Survives operation since world middle) (unended : world.isUnended id = true) :
    Since operation since id := by
  by_contra apart
  rw [survives.isOver id apart] at unended
  cases unended

theorem own_of_wait (survives : Survives operation since world middle) (balanced : world.Balanced) {wait : Wait}
    (held : wait ∈ world.waits) : Since operation since wait.task := by
  obtain ⟨task, found, sleeping⟩ := balanced.sleeping_of_wait held
  exact survives.own (by simp [isUnended, found, Task.isEnded, sleeping])

theorem own_of_turn (survives : Survives operation since world middle) (balanced : world.Balanced) {turn : Turn}
    (queued : turn ∈ world.queue) : Since operation since turn.task := by
  refine survives.own ?_
  cases turn with
  | run acting =>
      obtain ⟨task, found, ready⟩ := balanced.ready_of_queued queued
      simp [isUnended, Turn.task, found, Task.isEnded, ready]
  | joined acting =>
      obtain ⟨task, count, found, joining⟩ := balanced.joining_of_queued queued
      simp [isUnended, Turn.task, found, Task.isEnded, joining]

/-! ### What is seen in both -/

theorem store_eq (survives : Survives operation since world middle) : middle.store = world.store :=
  survives.lodges.store.symm

/-- What is over takes no turn. -/
theorem isIdle_eq (survives : Survives operation since world middle) (balanced : world.Balanced) :
    world.isIdle = middle.isIdle := by
  have running := survives.lodges.running
  have queue := survives.lodges.queue
  cases turn : world.running with
  | some acting =>
      rw [turn, Option.bind_some, place?_of_mine (survives.own (balanced.unended_of_turn turn))] at running
      simp [isIdle, turn, ← running]
  | none =>
      rw [turn, Option.bind_none] at running
      cases queued : world.queue with
      | nil =>
          rw [queued, List.filterMap_nil] at queue
          simp [isIdle, turn, ← running, queued, ← queue]
      | cons next rest =>
          obtain ⟨placed, there⟩ :=
            Turn.placed?_of_mine (survives.own_of_turn balanced (by simp [queued] : next ∈ world.queue))
          rw [queued, List.filterMap_cons_some there] at queue
          simp [isIdle, turn, ← running, queued, ← queue]

theorem outcome?_eq (survives : Survives operation since world middle) (own : Since operation since id) :
    world.outcome? id = middle.outcome? (Nat.count (Since operation since) id) := by
  have same : (Outcome.told fun answer => answer : Outcome Answer → Outcome Answer) = fun outcome => outcome :=
    funext Outcome.told_self
  rw [survives.lodges.outcome?_eq own, Lodging.whole, same, Option.map_id']

/-! ### What happens to both -/

/-- What is over stays so. -/
theorem goes_on (survives : Survives operation since world middle) {other : World Store Driver Procedure Answer}
    (lodges : Lodges .whole (Since operation since) after other) (grows : world.tasks.length ≤ after.tasks.length)
    (stays : ∀ id < world.tasks.length, world.isUnended id = false → after.isUnended id = false) :
    Survives operation since after other := by
  refine ⟨lodges, Nat.le_trans survives.grown grows, fun id apart => ?_⟩
  refine stays id ?_ (survives.isOver id apart)
  by_contra beyond
  exact apart (.inr (Nat.le_trans survives.grown (Nat.le_of_not_lt beyond)))

/-- An operation begins in both. -/
theorem begin (survives : Survives operation since world middle)
    (program : Program Store Driver Procedure Answer) :
    Survives operation since (world.begin program).2 (middle.begin program).2 := by
  have begun := survives.lodges.begin (.inr survives.grown) program
  rw [Program.lodged_whole] at begun
  refine survives.goes_on begun (by simp [World.begin]) fun id inside isOver => ?_
  have same : (world.begin program).2.tasks[id]? = world.tasks[id]? := List.getElem?_append_left inside
  rw [← isOver, isUnended, isUnended, same]

/-- A wait ends in both. -/
theorem release? (survives : Survives operation since world middle) (balanced : world.Balanced) {position : Nat}
    (ends : world.release? position = some after) :
    ∃ other, middle.release? position = some other ∧ Survives operation since after other := by
  obtain ⟨wait, found, released⟩ := release?_eq_some.mp ends
  have own : ∀ wait ∈ world.waits, Since operation since wait.task :=
    fun wait held => survives.own_of_wait balanced held
  obtain ⟨other, otherEnds, lodges⟩ := survives.lodges.release? found (own wait (List.mem_of_getElem? found)) ends
  have inside : position < world.waits.length := (List.getElem?_eq_some_iff.mp found).1
  -- all waits are of tasks that go on, so the wait stands at the same place in both
  have place : ((world.waits.take position).filterMap (Wait.placed? (Since operation since))).length = position := by
    rw [List.length_filterMap_eq_countP, List.countP_eq_length.mpr, List.length_take_of_le (Nat.le_of_lt inside)]
    intro wait member
    simp [Wait.placed?, place?_of_mine (own wait (List.mem_of_mem_take member))]
  rw [place] at otherEnds
  refine ⟨other, otherEnds, survives.goes_on lodges ?_ fun id _ isOver => ?_⟩
  · rw [← length_owners, ← length_owners, owners_of_bare (bare_release? ends)]
  · rw [isUnended_release? balanced ends, isOver]

section Steps

variable [DecidableEq Driver] {machine : Machine Store Driver Procedure Answer}

/-- Both make a step. -/
theorem step (survives : Survives operation since world middle) (balanced : world.Balanced)
    (decorous : world.Decorous etiquette) (machineDecorous : machine.Decorous etiquette) :
    Survives operation since (world.step machine) (middle.step machine) := by
  have leads := (decorous.advances machineDecorous balanced).leads
  refine survives.goes_on ?_ leads.length_le fun id inside isOver => ?_
  · cases turn : world.running with
    | some acting =>
        exact survives.lodges.step (carries_whole machine) (fun _ _ same => same) (fun _ => rfl)
          (survives.own (balanced.unended_of_turn turn)) turn fun _ => .inr survives.grown
    | none =>
        cases queued : world.queue with
        | nil =>
            have idle : world.isIdle = true := by simp [isIdle, turn, queued]
            have alsoIdle : middle.isIdle = true := by rw [← survives.isIdle_eq balanced, idle]
            rw [step_of_isIdle machine idle, step_of_isIdle machine alsoIdle]
            exact survives.lodges
        | cons next queue =>
            obtain ⟨placed, there⟩ :=
              Turn.placed?_of_mine (survives.own_of_turn balanced (by simp [queued] : next ∈ world.queue))
            exact survives.lodges.step_turn turn queued there
  · rw [leads.unended id inside fun turn => ?_, isOver]
    rw [balanced.unended_of_turn turn] at isOver
    cases isOver

end Steps

end Survives

end World

end Playthrough

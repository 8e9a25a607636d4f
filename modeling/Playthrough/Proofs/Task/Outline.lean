import Mathlib.Logic.Function.Basic
import Playthrough.Proofs.Task.Tickets
import Playthrough.Proofs.Task.Watch

/-!
Contract: a world without its calendar.

Owns: the outline of a world (what there is, what every task is in the middle of, and how those that
ended did), and what each move makes of it.

Does not own: who is called when.

The queue, the waits and what exactly a task waits for are left out. A move that only brings a task
nearer to its next turn does not show in the outline, so whatever is said of outlines is kept by it.
-/

namespace Playthrough

variable {Store Driver Procedure Answer : Type}

/-- What is seen of a world between two turns when nobody asks what tasks wait for. -/
structure Outline (Store Driver Procedure Answer : Type) where
  store : Store
  holdings : Driver → Holding
  count : Nat
  /-- The tasks that have not ended, each as if it was about to go on. -/
  tasks : TaskId → Option (Task Store Driver Procedure Answer)
  outcomes : TaskId → Option (Outcome Answer)

/-- A task that has not ended, as if it was about to go on. -/
def Task.unended? (task : Task Store Driver Procedure Answer) :
    Option (Task Store Driver Procedure Answer) :=
  if task.isEnded then none else some { task with status := .ready }

/-- The outline of a world. -/
def World.outline (world : World Store Driver Procedure Answer) :
    Outline Store Driver Procedure Answer :=
  { store := world.store
    holdings := world.holdings
    count := world.tasks.length
    tasks := fun id => world.tasks[id]?.bind Task.unended?
    outcomes := fun id => world.tasks[id]?.bind Task.outcome? }

namespace Outline

/-- A driver's slot is emptied. -/
def vacate [DecidableEq Driver] (outline : Outline Store Driver Procedure Answer) (driver : Driver) :
    Outline Store Driver Procedure Answer :=
  { outline with holdings := Function.update outline.holdings driver { slot := none, live := none } }

/-- A task is cancelled. -/
def cancel (outline : Outline Store Driver Procedure Answer) (held : TaskId) :
    Outline Store Driver Procedure Answer :=
  { outline with
    tasks := Function.update outline.tasks held
      ((outline.tasks held).map fun task => { task with cancelPending := true }) }

/-- A task is made. -/
def add (outline : Outline Store Driver Procedure Answer)
    (task : Task Store Driver Procedure Answer) : Outline Store Driver Procedure Answer :=
  { outline with
    count := outline.count + 1
    tasks := Function.update outline.tasks outline.count (some task) }

/-- A driver gets a new task. -/
def install [DecidableEq Driver] (outline : Outline Store Driver Procedure Answer) (driver : Driver)
    (body : Program Store Driver Procedure Answer) : Outline Store Driver Procedure Answer :=
  { outline.add (Task.fresh (some driver) body) with
    holdings := Function.update outline.holdings driver
      { slot := some outline.count, live := some outline.count } }

/-- A turn of a task ends before the task does. -/
def rest (outline : Outline Store Driver Procedure Answer) (id : TaskId)
    (task : Task Store Driver Procedure Answer) (store : Store) :
    Outline Store Driver Procedure Answer :=
  { outline with store := store, tasks := Function.update outline.tasks id (some task) }

/-- A task joins another one, which remembers it unless it has ended. -/
def join (outline : Outline Store Driver Procedure Answer) (id held : TaskId) :
    Outline Store Driver Procedure Answer :=
  { outline with
    tasks := Function.update outline.tasks held
      ((outline.tasks held).map fun task => { task with joiners := task.joiners ++ [id] }) }

/-- A task ends. -/
def close (outline : Outline Store Driver Procedure Answer) (id : TaskId) (store : Store)
    (outcome : Outcome Answer) : Outline Store Driver Procedure Answer :=
  { outline with
    store := store
    tasks := Function.update outline.tasks id none
    outcomes := Function.update outline.outcomes id (some outcome) }

end Outline

namespace World

variable {world : World Store Driver Procedure Answer} {id held : TaskId}
variable {task : Task Store Driver Procedure Answer} {store : Store}

/-! ## Reading an outline -/

theorem isUnended_eq : world.isUnended id = (world.outline.tasks id).isSome := by
  simp only [isUnended, outline]
  cases world.tasks[id]? with
  | none => rfl
  | some task => cases ended : task.isEnded <;> simp [Task.unended?, ended]

theorem isActive_eq (driver : Driver) :
    world.isActive driver =
      ((world.holdings driver).slot.bind world.outline.tasks).isSome := by
  simp only [isActive]
  cases (world.holdings driver).slot with
  | none => rfl
  | some held => exact isUnended_eq

theorem inside_of_found (found : world.outline.tasks id = some task) : id < world.tasks.length := by
  by_contra outside
  have nothing : world.tasks[id]? = none := List.getElem?_eq_none (Nat.le_of_not_lt outside)
  simp [outline, nothing] at found

theorem task_of_found (found : world.outline.tasks id = some task) :
    ∃ last, world.tasks[id]? = some last ∧ last.isEnded = false
      ∧ { last with status := .ready } = task := by
  obtain ⟨last, there, shown⟩ := Option.bind_eq_some_iff.mp found
  simp only [Task.unended?] at shown
  cases ended : last.isEnded with
  | true => simp [ended] at shown
  | false =>
      simp only [ended, Bool.false_eq_true, if_false, Option.some.injEq] at shown
      exact ⟨last, there, ended, shown⟩

/-- The task of a turn is seen in the outline as it is. -/
theorem found_of_ready (found : world.tasks[id]? = some task) (ready : task.status = .ready) :
    world.outline.tasks id = some task := by
  have unended : task.isEnded = false := by simp [Task.isEnded, ready]
  have same : ({ task with status := .ready } : Task Store Driver Procedure Answer) = task := by
    rw [← ready]
  simp [outline, found, Task.unended?, unended, same]

/-! ## One task changes -/

section Lists

variable {tasks : List (Task Store Driver Procedure Answer)} {Shown : Type}

theorem bind_set (inside : id < tasks.length)
    (shown : Task Store Driver Procedure Answer → Option Shown) :
    (fun other : TaskId => (tasks.set id task)[other]?.bind shown) =
      Function.update (fun other => tasks[other]?.bind shown) id (shown task) := by
  funext other
  by_cases same : other = id
  · subst same
    simp [inside]
  · simp [Function.update_of_ne same, List.getElem?_set_ne (Ne.symm same)]

theorem bind_append (shown : Task Store Driver Procedure Answer → Option Shown) :
    (fun other : TaskId => (tasks ++ [task])[other]?.bind shown) =
      Function.update (fun other => tasks[other]?.bind shown) tasks.length (shown task) := by
  funext other
  rcases Nat.lt_trichotomy other tasks.length with before | here | beyond
  · rw [Function.update_of_ne (Nat.ne_of_lt before), List.getElem?_append_left before]
  · subst here
    simp
  · have outside : (tasks ++ [task]).length ≤ other := by
      rw [List.length_append]
      exact beyond
    rw [Function.update_of_ne (Nat.ne_of_gt beyond), List.getElem?_eq_none (Nat.le_of_lt beyond),
      List.getElem?_eq_none outside]

end Lists

theorem outcome_of_unended (unended : task.isEnded = false) : task.outcome? = none := by
  cases status : task.status with
  | ended outcome => simp [Task.isEnded, status] at unended
  | ready => simp [Task.outcome?, status]
  | sleeping => simp [Task.outcome?, status]
  | joining count => simp [Task.outcome?, status]

/-- Nothing is known of the end of a task that has not ended. -/
theorem no_outcome (found : world.outline.tasks id = some task) :
    world.outline.outcomes id = none := by
  simp only [outline] at found ⊢
  cases there : world.tasks[id]? with
  | none => rfl
  | some other =>
      rw [there] at found
      cases ended : other.isEnded with
      | true => simp [Task.unended?, ended] at found
      | false => exact outcome_of_unended ended

/-- What is seen of a world in which a task was replaced. -/
theorem outline_set (inside : id < world.tasks.length) (task : Task Store Driver Procedure Answer) :
    ({ world with store := store, tasks := world.tasks.set id task } :
        World Store Driver Procedure Answer).outline =
      { world.outline with
        store := store
        tasks := Function.update world.outline.tasks id task.unended?
        outcomes := Function.update world.outline.outcomes id task.outcome? } := by
  simp only [outline, List.length_set, bind_set inside]

/-- A task that did not end was replaced by one that has not ended. -/
theorem outline_rest (found : world.outline.tasks id = some task)
    {other : Task Store Driver Procedure Answer} (unended : other.isEnded = false) :
    ({ world with store := store, tasks := world.tasks.set id other } :
        World Store Driver Procedure Answer).outline =
      world.outline.rest id { other with status := .ready } store := by
  have shown : other.unended? = some { other with status := .ready } := by
    simp [Task.unended?, unended]
  rw [outline_set (inside_of_found found), outcome_of_unended unended, shown, ← no_outcome found,
    Function.update_eq_self]
  rfl

/-! ## Moves that do not show -/

/-- A task that goes on waiting for something else looks the same. -/
theorem outline_restatus {other : Task Store Driver Procedure Answer}
    (found : world.tasks[id]? = some task) (unended : task.isEnded = false)
    (stillUnended : other.isEnded = false)
    (same : ({ other with status := .ready } : Task Store Driver Procedure Answer) =
      { task with status := .ready }) :
    ({ world with tasks := world.tasks.set id other } :
        World Store Driver Procedure Answer).outline = world.outline := by
  have seen : world.outline.tasks id = some { task with status := .ready } := by
    simp [outline, found, Task.unended?, unended]
  have replaced : ({ world with tasks := world.tasks.set id other } :
      World Store Driver Procedure Answer).outline =
        world.outline.rest id { other with status := .ready } world.store :=
    outline_rest seen stillUnended
  rw [same] at replaced
  refine replaced.trans ?_
  show ({ world.outline with tasks := Function.update world.outline.tasks id (some _) } :
    Outline Store Driver Procedure Answer) = world.outline
  rw [← seen, Function.update_eq_self]

theorem outline_noteJoined {acting : Option TaskId} (orderly : world.Orderly acting)
    (queued : .joined id ∈ world.queue) : (world.noteJoined id).outline = world.outline := by
  obtain ⟨task, count, found, status⟩ := orderly.joining_of_queued queued
  have unended : task.isEnded = false := by simp [Task.isEnded, status]
  cases count with
  | succ count =>
      rw [noteJoined_of_more found status]
      exact outline_restatus found unended rfl rfl
  | zero =>
      rw [noteJoined_of_one found status]
      exact outline_restatus found unended rfl rfl

theorem outline_release? {acting : Option TaskId} (orderly : world.Orderly acting) {position : Nat}
    {released : World Store Driver Procedure Answer}
    (oldest : world.release? position = some released) : released.outline = world.outline := by
  obtain ⟨wait, found, rfl⟩ := release?_eq_some.mp oldest
  obtain ⟨task, waiting, sleeping⟩ := orderly.sleeping_of_wait (List.mem_of_getElem? found)
  have unended : task.isEnded = false := by simp [Task.isEnded, sleeping]
  have woken : ({ world with waits := world.waits.eraseIdx position } :
      World Store Driver Procedure Answer).wake wait.task =
        { world with
          waits := world.waits.eraseIdx position
          tasks := world.tasks.set wait.task { task with status := .ready }
          queue := world.queue ++ [.run wait.task] } := by
    simp only [wake, World.modifyTask, enqueue, modify_eq_set waiting]
  rw [woken]
  exact outline_restatus waiting unended rfl rfl

/-! ## Moves that show -/

theorem outline_asleep (found : world.outline.tasks id = some task)
    (other : Task Store Driver Procedure Answer) (wait : Wait) :
    (world.asleep id other store wait).outline =
      world.outline.rest id { other with status := .ready } store :=
  outline_rest found rfl

theorem outline_closed (inside : id < world.tasks.length)
    (other : Task Store Driver Procedure Answer) (outcome : Outcome Answer) :
    (world.closed id other store outcome).outline = world.outline.close id store outcome :=
  outline_set inside _

theorem outline_vacate [DecidableEq Driver] (driver : Driver) :
    (world.setHolding driver { slot := none, live := none }).outline = world.outline.vacate driver := by
  simp only [outline, setHolding, Outline.vacate, Outline.mk.injEq, true_and, and_true]
  funext other
  by_cases same : other = driver
  · subst same
    simp
  · simp [same]

theorem outline_add (ready : task.status = .ready) :
    ({ world with tasks := world.tasks ++ [task] } : World Store Driver Procedure Answer).outline =
      world.outline.add task := by
  have unended : task.isEnded = false := by simp [Task.isEnded, ready]
  have shown : task.unended? = some task := by
    have same : ({ task with status := .ready } : Task Store Driver Procedure Answer) = task := by
      rw [← ready]
    simp [Task.unended?, unended, same]
  have nothing : world.tasks[world.tasks.length]?.bind Task.outcome? = none := by simp
  simp only [outline, Outline.add, List.length_append, List.length_singleton, bind_append, shown,
    outcome_of_unended unended, Outline.mk.injEq, true_and]
  rw [← nothing, Function.update_eq_self]

theorem outline_install [DecidableEq Driver] (driver : Driver)
    (body : Program Store Driver Procedure Answer) :
    (world.install driver body).outline = world.outline.install driver body := by
  have added : ({ world with tasks := world.tasks ++ [Task.fresh (some driver) body] } :
      World Store Driver Procedure Answer).outline = world.outline.add (.fresh (some driver) body) :=
    outline_add rfl
  have holdings : (world.install driver body).outline.holdings =
      (world.outline.install driver body).holdings := by
    funext other
    by_cases same : other = driver
    · subst same
      simp [install, Outline.install, outline, enqueue, setHolding]
    · simp [install, Outline.install, outline, enqueue, setHolding, same]
  calc (world.install driver body).outline
      = { ({ world with tasks := world.tasks ++ [Task.fresh (some driver) body] } :
            World Store Driver Procedure Answer).outline with
          holdings := (world.install driver body).outline.holdings } := rfl
    _ = world.outline.install driver body := by
        rw [added, holdings]
        rfl

theorem outline_cancelTask : (world.cancelTask held).outline = world.outline.cancel held := by
  cases found : world.tasks[held]? with
  | none =>
      have nothing : world.outline.tasks held = none := by simp [outline, found]
      have same : world.outline.cancel held = world.outline := by
        simp only [Outline.cancel, nothing, Option.map_none]
        rw [← nothing, Function.update_eq_self]
      rw [same, cancelTask, found]
  | some other =>
      cases ended : other.isEnded with
      | true =>
          have nothing : world.outline.tasks held = none := by
            simp [outline, found, Task.unended?, ended]
          have same : world.outline.cancel held = world.outline := by
            simp only [Outline.cancel, nothing, Option.map_none]
            rw [← nothing, Function.update_eq_self]
          have isEnded : world.isUnended held = false := by
            simp [isUnended, found, ended]
          rw [same, cancelTask_of_ended isEnded]
      | false =>
          have seen : world.outline.tasks held = some { other with status := .ready } := by
            simp [outline, found, Task.unended?, ended]
          have shown : world.outline.cancel held = world.outline.rest held
              { other with status := .ready, cancelPending := true } world.store := by
            simp only [Outline.cancel, seen, Option.map_some]
            rfl
          have marked : (world.modifyTask held fun task =>
              { task with cancelPending := true }).outline = world.outline.cancel held := by
            rw [shown, World.modifyTask, modify_eq_set found]
            exact outline_rest seen ended
          rw [cancelTask, found]
          cases status : other.status with
          | ended outcome => simp [Task.isEnded, status] at ended
          | ready => simpa only [status] using marked
          | joining count => simpa only [status] using marked
          | sleeping =>
              simp only [status]
              rw [shown]
              have woken : ((world.dropWait held).modifyTask held fun task =>
                  { task with cancelPending := true }).wake held =
                    { world with
                      waits := world.waits.filter fun wait => wait.task != held
                      tasks := world.tasks.set held
                        { other with status := .ready, cancelPending := true }
                      queue := world.queue ++ [.run held] } := by
                simp only [wake, World.modifyTask, enqueue, dropWait, modify_eq_set found, modify_set]
              rw [woken]
              exact outline_rest seen rfl

theorem outline_joining (found : world.outline.tasks id = some task)
    (other : Task Store Driver Procedure Answer) (different : held ≠ id) :
    (world.joining id other store held).outline =
      (world.outline.rest id { other with status := .ready } store).join id held := by
  let waiting : World Store Driver Procedure Answer :=
    { world with
      store := store
      tasks := world.tasks.set id { other with status := .joining 1 }
      running := none }
  have rested : waiting.outline = world.outline.rest id { other with status := .ready } store :=
    outline_rest found rfl
  have there : waiting.tasks[held]? = world.tasks[held]? :=
    List.getElem?_set_ne (Ne.symm different)
  have sameUnended : waiting.isUnended held = world.isUnended held := by
    rw [isUnended, there]
    rfl
  rw [← rested, joining]
  by_cases unended : world.isUnended held = true
  · simp only [unended, if_true]
    cases joined : waiting.tasks[held]? with
    | none =>
        rw [← sameUnended, isUnended, joined] at unended
        cases unended
    | some last =>
        have ended : last.isEnded = false := by
          rw [← sameUnended, isUnended, joined] at unended
          simpa using unended
        have seen : waiting.outline.tasks held = some { last with status := .ready } := by
          simp [outline, joined, Task.unended?, ended]
        have shown : waiting.outline.join id held = waiting.outline.rest held
            { last with status := .ready, joiners := last.joiners ++ [id] } waiting.store := by
          simp only [Outline.join, seen, Option.map_some]
          rfl
        rw [shown]
        show (waiting.modifyTask held _).outline = _
        rw [World.modifyTask, modify_eq_set joined]
        exact outline_rest seen ended
  · simp only [unended]
    have nothing : waiting.outline.tasks held = none := by
      rw [← sameUnended, isUnended_eq] at unended
      simpa using unended
    have same : waiting.outline.join id held = waiting.outline := by
      simp only [Outline.join, nothing, Option.map_none]
      rw [← nothing, Function.update_eq_self]
    rw [same]
    rfl

end World

end Playthrough

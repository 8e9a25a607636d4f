import Playthrough.Proofs.Task.Turn

/-!
Contract: the instructions that reach other tasks, and the moves between two turns.

Owns: what spawning, cancelling and settling make of a turn, the world that a turn ends in when its
task begins to join another one, and the beginnings of turns and of operations from outside.

Each equation says in which world the same turn goes on, or that the turn is over. The task whose
turn it is never is the one that it cancels or joins; the instruction itself sees to that.
-/

namespace Playthrough.World

variable {Store Driver Procedure Answer : Type}
variable {world : World Store Driver Procedure Answer} {id held : TaskId}
variable {task : Task Store Driver Procedure Answer} {store : Store}
variable {frames : List (Frame Store Driver Procedure Answer)}

/-- A turn that ends in joining another task. -/
def joining (world : World Store Driver Procedure Answer) (id : TaskId)
    (task : Task Store Driver Procedure Answer) (store : Store) (held : TaskId) :
    World Store Driver Procedure Answer :=
  let waiting : World Store Driver Procedure Answer :=
    { world with
      store := store
      tasks := world.tasks.set id { task with status := .joining 1 }
      running := none }
  if world.isUnended held then
    waiting.modifyTask held fun other => { other with joiners := other.joiners ++ [id] }
  else waiting.enqueue (.joined id)

@[simp] theorem running_joining : (world.joining id task store held).running = none := by
  simp only [joining]
  split <;> rfl

@[simp] theorem store_joining : (world.joining id task store held).store = store := by
  simp only [joining]
  split <;> rfl

@[simp] theorem holdings_joining : (world.joining id task store held).holdings = world.holdings := by
  simp only [joining]
  split <;> rfl

@[simp] theorem begun_joining : (world.joining id task store held).begun = world.begun := by
  simp only [joining]
  split <;> rfl

/-! ## What the changes of other tasks leave alone -/

@[simp] theorem length_tasks_cancelTask :
    (world.cancelTask held).tasks.length = world.tasks.length := by
  simp only [cancelTask]
  split
  · rfl
  · split <;> simp [wake, modifyTask, enqueue, dropWait]

@[simp] theorem begun_cancelTask : (world.cancelTask held).begun = world.begun := by
  simp only [cancelTask]
  split
  · rfl
  · split <;> rfl

@[simp] theorem holdings_cancelTask : (world.cancelTask held).holdings = world.holdings := by
  simp only [cancelTask]
  split
  · rfl
  · split <;> rfl

@[simp] theorem running_cancelTask : (world.cancelTask held).running = world.running := by
  simp only [cancelTask]
  split
  · rfl
  · split <;> rfl

theorem length_tasks_displace (world : World Store Driver Procedure Answer) (driver : Driver)
    (asking : TaskId) : (world.displace driver asking).tasks.length = world.tasks.length := by
  simp only [displace]
  split
  · split
    · rfl
    · exact length_tasks_cancelTask
  · rfl

theorem begun_displace (world : World Store Driver Procedure Answer) (driver : Driver)
    (asking : TaskId) : (world.displace driver asking).begun = world.begun := by
  simp only [displace]
  split
  · split
    · rfl
    · exact begun_cancelTask
  · rfl

theorem length_tasks_install [DecidableEq Driver] (world : World Store Driver Procedure Answer)
    (driver : Driver) (body : Program Store Driver Procedure Answer) :
    (world.install driver body).tasks.length = world.tasks.length + 1 := by
  simp only [install, enqueue, setHolding, List.length_append, List.length_singleton]

/-! ## Other tasks in the middle of a turn -/

theorem modifyTask_focus (different : held ≠ id)
    (change : Task Store Driver Procedure Answer → Task Store Driver Procedure Answer) :
    (world.focus id task store).modifyTask held change =
      (world.modifyTask held change).focus id task store := by
  simp only [modifyTask, focus, modify_set_of_ne _ _ _ different]

theorem enqueue_focus (turn : Turn) :
    (world.focus id task store).enqueue turn = (world.enqueue turn).focus id task store := rfl

theorem setHolding_focus [DecidableEq Driver] (driver : Driver) (holding : Holding) :
    (world.focus id task store).setHolding driver holding =
      (world.setHolding driver holding).focus id task store := rfl

theorem isUnended_focus (different : held ≠ id) :
    (world.focus id task store).isUnended held = world.isUnended held := by
  simp only [isUnended, task_focus_of_ne different]

theorem cancelTask_focus (different : held ≠ id) :
    (world.focus id task store).cancelTask held = (world.cancelTask held).focus id task store := by
  simp only [cancelTask, task_focus_of_ne different]
  cases world.tasks[held]? with
  | none => rfl
  | some other =>
      cases status : other.status with
      | ended outcome => simp only [status]
      | sleeping =>
          simp only [status, wake]
          rw [show (world.focus id task store).dropWait held =
            (world.dropWait held).focus id task store from rfl]
          rw [modifyTask_focus different, modifyTask_focus different, enqueue_focus]
      | ready =>
          simp only [status]
          exact modifyTask_focus different _
      | joining count =>
          simp only [status]
          exact modifyTask_focus different _

theorem displace_focus (driver : Driver) :
    (world.focus id task store).displace driver id = (world.displace driver id).focus id task store := by
  simp only [displace, holdings_focus]
  cases (world.holdings driver).slot with
  | none => rfl
  | some held =>
      by_cases same : held = id
      · simp only [same, if_true]
      · simp only [same, if_false]
        exact cancelTask_focus same

theorem install_focus [DecidableEq Driver] (inside : id < world.tasks.length) (driver : Driver)
    (body : Program Store Driver Procedure Answer) :
    (world.focus id task store).install driver body =
      (world.install driver body).focus id task store := by
  simp only [install, focus, enqueue, setHolding, List.length_set, List.set_append, inside, if_true]

theorem join_focus (different : held ≠ id) :
    ((world.focus id task store).join id held).yieldTurn = world.joining id task store held := by
  have stillUnended : ((world.focus id task store).modifyTask id fun other =>
      { other with status := .joining 1 }).isUnended held = world.isUnended held := by
    simp only [isUnended, modifyTask, focus, List.getElem?_modify, Ne.symm different,
      List.getElem?_set, if_false]
    cases world.tasks[held]? <;> rfl
  simp only [join, stillUnended]
  rw [modifyTask_focus_self]
  simp only [joining]
  by_cases unended : world.isUnended held = true
  · simp only [unended, if_true, yieldTurn]
    rw [modifyTask_focus different]
    simp only [modifyTask, focus, modify_set_of_ne _ _ _ different]
  · simp only [unended, yieldTurn]
    rfl

/-! ## Spawning, cancelling and settling -/

section Steps

variable [DecidableEq Driver] {machine : Machine Store Driver Procedure Answer}
variable {next : Program Store Driver Procedure Answer} {driver : Driver}

theorem step_spawn (inside : id < world.tasks.length)
    (body : Program Store Driver Procedure Answer) :
    (world.focus id (task.on (.run (.spawn driver body next)) frames) store).step machine =
      ((world.displace driver id).install driver body).focus id (task.on (.run next) frames)
        store := by
  have stillInside : id < (world.displace driver id).tasks.length := by
    rwa [length_tasks_displace]
  rw [step_focus inside]
  simp only [execute]
  rw [displace_focus, install_focus stillInside]
  exact proceed_focus (.run next)

theorem step_cancel_empty (inside : id < world.tasks.length)
    (empty : (world.holdings driver).slot = none) :
    (world.focus id (task.on (.run (.cancel driver next)) frames) store).step machine =
      (world.setHolding driver { slot := none, live := none }).focus id
        (task.on (.run next) frames) store := by
  rw [step_focus inside]
  simp only [execute, holdings_focus, empty]
  rw [setHolding_focus]
  exact proceed_focus (.run next)

theorem step_cancel_held (inside : id < world.tasks.length)
    (holding : (world.holdings driver).slot = some held) (different : held ≠ id) :
    (world.focus id (task.on (.run (.cancel driver next)) frames) store).step machine =
      ((world.setHolding driver { slot := none, live := none }).cancelTask held).joining id
        (task.on (.run next) frames) store held := by
  rw [step_focus inside]
  simp only [execute, holdings_focus, holding, different, if_false]
  rw [setHolding_focus, proceed_focus, cancelTask_focus different, join_focus different]
  rfl

theorem step_settle_skip (inside : id < world.tasks.length) {drivers remaining : List Driver}
    (inactive : world.isActive driver = false) (outside : (world.holdings driver).slot ≠ some id) :
    (world.focus id (task.on (.run (.settle drivers (driver :: remaining) next)) frames) store).step
        machine =
      world.focus id (task.on (.run (.settle drivers remaining next)) frames) store := by
  rw [step_focus inside]
  simp only [execute, holdings_focus]
  simp only [isActive] at inactive
  cases slot : (world.holdings driver).slot with
  | none => exact proceed_focus (.run _)
  | some held =>
      have different : held ≠ id := by
        intro same
        exact outside (by rw [slot, same])
      simp only [slot] at inactive
      simp only [isUnended_focus different, inactive]
      exact proceed_focus (.run _)

theorem step_settle_join (inside : id < world.tasks.length) {drivers remaining : List Driver}
    (holding : (world.holdings driver).slot = some held) (different : held ≠ id)
    (unended : world.isUnended held = true) :
    (world.focus id (task.on (.run (.settle drivers (driver :: remaining) next)) frames) store).step
        machine =
      world.joining id (task.on (.run (.settle drivers (driver :: remaining) next)) frames) store
        held := by
  rw [step_focus inside]
  simp only [execute, holdings_focus, holding, isUnended_focus different, unended, if_true]
  exact join_focus different

omit [DecidableEq Driver] in
theorem isActive_focus (outside : (world.holdings driver).slot ≠ some id) :
    (world.focus id task store).isActive driver = world.isActive driver := by
  simp only [isActive, holdings_focus]
  cases slot : (world.holdings driver).slot with
  | none => rfl
  | some held =>
      have different : held ≠ id := by
        intro same
        exact outside (by rw [slot, same])
      exact isUnended_focus different

theorem step_settle_again (inside : id < world.tasks.length) {drivers : List Driver}
    (outside : ∀ other, (world.holdings other).slot ≠ some id)
    (active : drivers.any world.isActive = true) :
    (world.focus id (task.on (.run (.settle drivers [] next)) frames) store).step machine =
      world.focus id (task.on (.run (.settle drivers drivers next)) frames) store := by
  rw [step_focus inside]
  have same : (world.focus id (task.on (.run (.settle drivers [] next)) frames) store).isActive =
      world.isActive := funext fun other => isActive_focus (outside other)
  simp only [execute, same, active, if_true]
  exact proceed_focus (.run _)

theorem step_settle_done (inside : id < world.tasks.length) {drivers : List Driver}
    (outside : ∀ other, (world.holdings other).slot ≠ some id)
    (inactive : drivers.any world.isActive = false) :
    (world.focus id (task.on (.run (.settle drivers [] next)) frames) store).step machine =
      world.focus id (task.on (.run next) frames) store := by
  rw [step_focus inside]
  have same : (world.focus id (task.on (.run (.settle drivers [] next)) frames) store).isActive =
      world.isActive := funext fun other => isActive_focus (outside other)
  simp only [execute, same, inactive]
  exact proceed_focus (.run next)

/-! ## Between two turns -/

/-- A task at the beginning of its turn. -/
def atTurn (task : Task Store Driver Procedure Answer) : Task Store Driver Procedure Answer :=
  if task.cancelPending then { task with control := .unwind .cancelled, cancelPending := false }
  else task

theorem step_run {queue : List Turn} (noTurn : world.running = none)
    (queued : world.queue = .run id :: queue) (found : world.tasks[id]? = some task) :
    world.step machine = { world with queue := queue }.focus id (atTurn task) world.store := by
  rw [step]
  simp only [noTurn, queued, beginTurn, modifyTask, focus]
  congr 1
  apply List.ext_getElem?
  intro place
  simp only [List.getElem?_modify, List.getElem?_set]
  by_cases same : id = place
  · subst same
    obtain ⟨inside, rfl⟩ := List.getElem?_eq_some_iff.mp found
    simp [inside, atTurn]
  · simp [same]

theorem step_joined {queue : List Turn} (noTurn : world.running = none)
    (queued : world.queue = .joined id :: queue) :
    world.step machine = { world with queue := queue }.noteJoined id := by
  rw [step]
  simp only [noTurn, queued]

omit [DecidableEq Driver] in
theorem begin_eq_focus (operation : Program Store Driver Procedure Answer) :
    (world.begin operation).2 =
      { world with tasks := world.tasks ++ [Task.fresh none operation] }.focus world.tasks.length
        (Task.fresh none operation) world.store := by
  simp [World.begin, focus]

omit [DecidableEq Driver] in
theorem release?_eq_some {position : Nat} {released : World Store Driver Procedure Answer} :
    world.release? position = some released ↔
      ∃ wait, world.waits[position]? = some wait ∧
        { world with waits := world.waits.eraseIdx position }.wake wait.task = released := by
  simp only [release?]
  cases world.waits[position]? <;> simp

end Steps

end Playthrough.World

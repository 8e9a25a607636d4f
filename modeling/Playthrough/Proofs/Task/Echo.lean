import Mathlib.Data.List.InsertIdx
import Playthrough.Proofs.Task.Exchange

/-!
Contract: worlds that differ in what is over.

Owns: the relation between a world and one that holds the same tasks, turns and waits under other
numbers (`Echoes`), after tasks and waits that the other one never had, and its preservation by every
change that a task can make.

Does not own: what the tasks do; the stores of the two worlds may be any.

Tasks are numbered in the order in which they were made, so a world that goes on after others have ended
gives later numbers. Nothing else tells it from a world that has just been made.
-/

namespace Playthrough

variable {Store Driver Procedure Answer : Type}

/-! ## Later numbers -/

/-- A turn of a task with a later number. -/
def Turn.moved (base : Nat) : Turn → Turn
  | .run id => .run (base + id)
  | .joined id => .joined (base + id)

/-- A wait of a task with a later number. -/
def Wait.moved (base : Nat) (wait : Wait) : Wait := { wait with task := base + wait.task }

/-- A driver's hold on a task with a later number. -/
def Holding.moved (base : Nat) (holding : Holding) : Holding :=
  { slot := holding.slot.map (base + ·), live := holding.live.map (base + ·) }

/-- A task that tasks with later numbers join. -/
def Task.moved (base : Nat) (task : Task Store Driver Procedure Answer) :
    Task Store Driver Procedure Answer :=
  { task with joiners := task.joiners.map (base + ·) }

@[simp] theorem Task.isEnded_moved (base : Nat) (task : Task Store Driver Procedure Answer) :
    (task.moved base).isEnded = task.isEnded := rfl

@[simp] theorem Task.moved_fresh (base : Nat) (owner : Option Driver)
    (program : Program Store Driver Procedure Answer) :
    (Task.fresh owner program).moved base = Task.fresh owner program := rfl

theorem map_modify {α β : Type} {shown : α → β} {change : β → β} {otherChange : α → α}
    (same : ∀ item, change (shown item) = shown (otherChange item)) (items : List α) (place : Nat) :
    (items.map shown).modify place change = (items.modify place otherChange).map shown := by
  apply List.ext_getElem?
  intro other
  simp only [List.getElem?_modify, List.getElem?_map]
  cases items[other]? with
  | none => rfl
  | some item => by_cases here : place = other <;> simp [here, same]

namespace World

/-- A world holds what another one holds, with later numbers, after tasks and waits of its own. -/
structure Echoes (gone : List (Task Store Driver Procedure Answer)) (past : List Wait)
    (world other : World Store Driver Procedure Answer) : Prop where
  tasks : world.tasks = gone ++ other.tasks.map (Task.moved gone.length)
  holdings : ∀ driver, world.holdings driver = (other.holdings driver).moved gone.length
  queue : world.queue = other.queue.map (Turn.moved gone.length)
  waits : world.waits = other.waits.map (Wait.moved gone.length)
  begun : world.begun = past ++ other.begun.map (Wait.moved gone.length)
  running : world.running = other.running.map (gone.length + ·)

variable {gone : List (Task Store Driver Procedure Answer)} {past : List Wait}
variable {world other : World Store Driver Procedure Answer} {id held : TaskId}
variable {task : Task Store Driver Procedure Answer}

namespace Echoes

/-! ## What is seen in both -/

theorem task_eq (echoes : Echoes gone past world other) (id : TaskId) :
    world.tasks[gone.length + id]? = other.tasks[id]?.map (Task.moved gone.length) := by
  rw [echoes.tasks, List.getElem?_append_right (Nat.le_add_right _ _), Nat.add_sub_cancel_left,
    List.getElem?_map]

theorem length_eq (echoes : Echoes gone past world other) :
    world.tasks.length = gone.length + other.tasks.length := by
  rw [echoes.tasks, List.length_append, List.length_map]

theorem isUnended_eq (echoes : Echoes gone past world other) (id : TaskId) :
    world.isUnended (gone.length + id) = other.isUnended id := by
  simp only [isUnended, echoes.task_eq]
  cases other.tasks[id]? <;> rfl

theorem outcome?_eq (echoes : Echoes gone past world other) (id : TaskId) :
    world.outcome? (gone.length + id) = other.outcome? id := by
  simp only [outcome?, echoes.task_eq]
  cases other.tasks[id]? <;> rfl

theorem isActive_eq (echoes : Echoes gone past world other) (driver : Driver) :
    world.isActive driver = other.isActive driver := by
  simp only [isActive, echoes.holdings driver, Holding.moved]
  cases (other.holdings driver).slot with
  | none => rfl
  | some held => exact echoes.isUnended_eq held

theorem isIdle_eq (echoes : Echoes gone past world other) : world.isIdle = other.isIdle := by
  simp only [isIdle, echoes.running, echoes.queue]
  cases other.running <;> cases other.queue <;> rfl

theorem mayAct_eq (echoes : Echoes gone past world other) (id : TaskId)
    (task : Task Store Driver Procedure Answer) :
    world.mayAct (gone.length + id) (task.moved gone.length) = other.mayAct id task := by
  simp only [mayAct, Task.moved]
  cases task.owner with
  | none => rfl
  | some driver =>
      simp only [echoes.holdings driver, Holding.moved]
      cases (other.holdings driver).live with
      | none => rfl
      | some live =>
          rw [Option.map_some, Bool.eq_iff_iff, beq_iff_eq, beq_iff_eq, Option.some.injEq,
            Option.some.injEq]
          exact Nat.add_left_cancel_iff

/-! ## What tasks change -/

/-- Neither world's store is looked at. -/
theorem withStore (echoes : Echoes gone past world other) (store otherStore : Store) :
    Echoes gone past { world with store := store } { other with store := otherStore } :=
  ⟨echoes.tasks, echoes.holdings, echoes.queue, echoes.waits, echoes.begun, echoes.running⟩

theorem modifyTask (echoes : Echoes gone past world other)
    {change otherChange : Task Store Driver Procedure Answer → Task Store Driver Procedure Answer}
    (same : ∀ task, change (task.moved gone.length) = (otherChange task).moved gone.length) :
    Echoes gone past (world.modifyTask (gone.length + id) change) (other.modifyTask id otherChange) where
  tasks := by
    show world.tasks.modify (gone.length + id) change = _
    rw [echoes.tasks, List.modify, List.modifyTailIdx_add]
    exact congrArg (gone ++ ·) (map_modify same other.tasks id)
  holdings := echoes.holdings
  queue := echoes.queue
  waits := echoes.waits
  begun := echoes.begun
  running := echoes.running

theorem proceed (echoes : Echoes gone past world other) (control : Control Store Driver Procedure Answer)
    (frames : List (Frame Store Driver Procedure Answer)) :
    Echoes gone past (world.proceed (gone.length + id) control frames) (other.proceed id control frames) :=
  echoes.modifyTask fun _ => rfl

theorem enqueue (echoes : Echoes gone past world other) (turn : Turn) :
    Echoes gone past (world.enqueue (turn.moved gone.length)) (other.enqueue turn) :=
  { echoes with
    queue := by
      show world.queue ++ _ = (other.queue ++ _).map _
      rw [echoes.queue, List.map_append]
      rfl }

theorem yieldTurn (echoes : Echoes gone past world other) :
    Echoes gone past world.yieldTurn other.yieldTurn :=
  { echoes with running := rfl }

theorem wake (echoes : Echoes gone past world other) :
    Echoes gone past (world.wake (gone.length + id)) (other.wake id) := by
  have ready : Echoes gone past
      (world.modifyTask (gone.length + id) fun task => { task with status := .ready })
      (other.modifyTask id fun task => { task with status := .ready }) := echoes.modifyTask fun _ => rfl
  exact ready.enqueue (.run id)

theorem dropWait (echoes : Echoes gone past world other) :
    Echoes gone past (world.dropWait (gone.length + id)) (other.dropWait id) :=
  { echoes with
    waits := by
      show world.waits.filter _ = (other.waits.filter _).map _
      rw [echoes.waits, List.filter_map]
      refine congrArg (List.map _) (List.filter_congr ?_)
      intro wait _
      rw [Function.comp_apply, Bool.eq_iff_iff, bne_iff_ne, bne_iff_ne]
      exact not_congr Nat.add_left_cancel_iff }

theorem cancelTask (echoes : Echoes gone past world other) :
    Echoes gone past (world.cancelTask (gone.length + held)) (other.cancelTask held) := by
  have marked : ∀ {before otherBefore : World Store Driver Procedure Answer},
      Echoes gone past before otherBefore →
      Echoes gone past
        (before.modifyTask (gone.length + held) fun task => { task with cancelPending := true })
        (otherBefore.modifyTask held fun task => { task with cancelPending := true }) :=
    fun before => before.modifyTask fun _ => rfl
  simp only [World.cancelTask, echoes.task_eq]
  cases other.tasks[held]? with
  | none => exact echoes
  | some task =>
      obtain ⟨owner, control, frames, status, cancelPending, joiners⟩ := task
      cases status with
      | ended outcome => exact echoes
      | ready => exact marked echoes
      | joining count => exact marked echoes
      | sleeping => exact (marked echoes.dropWait).wake

theorem join (echoes : Echoes gone past world other) :
    Echoes gone past (world.join (gone.length + id) (gone.length + held)) (other.join id held) := by
  have waiting : Echoes gone past
      (world.modifyTask (gone.length + id) fun task => { task with status := .joining 1 })
      (other.modifyTask id fun task => { task with status := .joining 1 }) :=
    echoes.modifyTask fun _ => rfl
  simp only [World.join, waiting.isUnended_eq held]
  split
  · refine waiting.modifyTask ?_
    intro task
    simp [Task.moved]
  · exact waiting.enqueue (.joined id)

theorem finish (echoes : Echoes gone past world other) (joiners : List TaskId) (outcome : Outcome Answer) :
    Echoes gone past (world.finish (gone.length + id) (joiners.map (gone.length + ·)) outcome)
      (other.finish id joiners outcome) := by
  have ended : Echoes gone past
      (world.modifyTask (gone.length + id) fun task => { task with status := .ended outcome })
      (other.modifyTask id fun task => { task with status := .ended outcome }) :=
    echoes.modifyTask fun _ => rfl
  refine { ended.yieldTurn with queue := ?_ }
  show world.queue ++ _ = (other.queue ++ _).map _
  rw [echoes.queue, List.map_append, List.map_map, List.map_map]
  rfl

theorem sleep (echoes : Echoes gone past world other) {machine : Machine Store Driver Procedure Answer}
    (shown : machine.shown world.store = machine.shown other.store) (duration : Duration) :
    Echoes gone past (world.sleep machine (gone.length + id) duration)
      (other.sleep machine id duration) := by
  have asleep : Echoes gone past
      (world.modifyTask (gone.length + id) fun task => { task with status := .sleeping })
      (other.modifyTask id fun task => { task with status := .sleeping }) :=
    echoes.modifyTask fun _ => rfl
  refine { asleep.yieldTurn with waits := ?_, begun := ?_ }
  · show world.waits ++ _ = (other.waits ++ _).map _
    rw [echoes.waits, List.map_append, shown]
    rfl
  · show world.begun ++ _ = past ++ (other.begun ++ _).map _
    rw [echoes.begun, List.map_append, List.append_assoc, shown]
    rfl

theorem displace (echoes : Echoes gone past world other) (driver : Driver) :
    Echoes gone past (world.displace driver (gone.length + id)) (other.displace driver id) := by
  simp only [World.displace, echoes.holdings driver, Holding.moved]
  cases (other.holdings driver).slot with
  | none => exact echoes
  | some held =>
      simp only [Option.map_some, Nat.add_left_cancel_iff]
      split
      · exact echoes
      · exact echoes.cancelTask

section Drivers

variable [DecidableEq Driver]

theorem setHolding (echoes : Echoes gone past world other) (driver : Driver) (holding : Holding) :
    Echoes gone past (world.setHolding driver (holding.moved gone.length))
      (other.setHolding driver holding) :=
  { echoes with
    holdings := by
      intro another
      simp only [World.setHolding]
      split
      · rfl
      · exact echoes.holdings another }

theorem vacate (echoes : Echoes gone past world other) (driver : Driver) :
    Echoes gone past (world.setHolding driver { slot := none, live := none })
      (other.setHolding driver { slot := none, live := none }) :=
  echoes.setHolding driver { slot := none, live := none }

theorem revoke (echoes : Echoes gone past world other) (driver : Driver) :
    Echoes gone past (world.revoke driver) (other.revoke driver) := by
  rw [World.revoke, echoes.holdings driver]
  exact echoes.setHolding driver { other.holdings driver with live := none }

theorem install (echoes : Echoes gone past world other) (driver : Driver)
    (body : Program Store Driver Procedure Answer) :
    Echoes gone past (world.install driver body) (other.install driver body) := by
  have added : Echoes gone past
      { world with tasks := world.tasks ++ [Task.fresh (some driver) body] }
      { other with tasks := other.tasks ++ [Task.fresh (some driver) body] } :=
    { echoes with
      tasks := by
        show world.tasks ++ _ = _
        rw [echoes.tasks, List.map_append, List.append_assoc]
        rfl }
  have held := added.setHolding driver
    { slot := some other.tasks.length, live := some other.tasks.length }
  have called := held.enqueue (.run other.tasks.length)
  simp only [Holding.moved, Turn.moved, Option.map_some, ← echoes.length_eq] at called
  exact called

end Drivers

/-! ## Between two turns -/

theorem beginTurn (echoes : Echoes gone past world other) :
    Echoes gone past (world.beginTurn (gone.length + id)) (other.beginTurn id) := by
  have started : Echoes gone past { world with running := some (gone.length + id) }
      { other with running := some id } := { echoes with running := rfl }
  refine started.modifyTask ?_
  intro task
  obtain ⟨owner, control, frames, status, cancelPending, joiners⟩ := task
  cases cancelPending <;> rfl

theorem noteJoined (echoes : Echoes gone past world other) :
    Echoes gone past (world.noteJoined (gone.length + id)) (other.noteJoined id) := by
  simp only [World.noteJoined, echoes.task_eq]
  cases other.tasks[id]? with
  | none => exact echoes
  | some task =>
      obtain ⟨owner, control, frames, status, cancelPending, joiners⟩ := task
      cases status with
      | ready => exact echoes
      | sleeping => exact echoes
      | ended outcome => exact echoes
      | joining count =>
          match count with
          | 0 => exact echoes.wake
          | 1 => exact echoes.wake
          | count + 2 => exact echoes.modifyTask fun _ => rfl

/-- A turn is taken from the queue of both. -/
theorem take (echoes : Echoes gone past world other) (queue : List Turn) :
    Echoes gone past { world with queue := queue.map (Turn.moved gone.length) }
      { other with queue := queue } :=
  { echoes with queue := rfl }

/-- The same wait ends in both. -/
theorem release? (echoes : Echoes gone past world other) (position : Nat) :
    Option.Rel (Echoes gone past) (world.release? position) (other.release? position) := by
  simp only [World.release?, echoes.waits, List.getElem?_map]
  cases other.waits[position]? with
  | none => exact .none
  | some wait =>
      have dropped : Echoes gone past
          { world with waits := (other.waits.map (Wait.moved gone.length)).eraseIdx position }
          { other with waits := other.waits.eraseIdx position } :=
        { echoes with waits := List.eraseIdx_map _ _ _ }
      exact .some dropped.wake

theorem begin (echoes : Echoes gone past world other)
    (operation : Program Store Driver Procedure Answer) :
    Echoes gone past (world.begin operation).2 (other.begin operation).2 where
  tasks := by
    show world.tasks ++ _ = _
    rw [echoes.tasks, List.append_assoc]
    show _ = gone ++ (other.tasks ++ [Task.fresh none operation]).map _
    rw [List.map_append]
    rfl
  holdings := echoes.holdings
  queue := echoes.queue
  waits := echoes.waits
  begun := echoes.begun
  running := congrArg some echoes.length_eq

end Echoes

/-- A world in which everything is over is like one that was just made. -/
theorem echoes_initial (isOver : world.queue = []) (silent : world.waits = [])
    (noTurn : world.running = none)
    (vacant : ∀ driver, world.holdings driver = { slot := none, live := none }) (store : Store) :
    Echoes world.tasks world.begun world (World.initial store) where
  tasks := (List.append_nil _).symm
  holdings := vacant
  queue := isOver
  waits := silent
  begun := (List.append_nil _).symm
  running := noTurn

end World

end Playthrough

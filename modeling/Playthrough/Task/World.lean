import Playthrough.Task.Program

/-!
Contract: the tasks, the drivers and the clock at one moment.

Owns: the state of a task, the slots and permissions of drivers, the queue of turns, the waits that
the clock holds, and the changes that one task can make to another: to wake it, to cancel it and to
join it.

Does not own: how a program moves on; that is in `Task.Step`.

Turns are taken in the order in which they were asked for. A task that joins another one is woken in
two turns: the first tells it that the other one has ended, the second lets it go on.
-/

namespace Playthrough

/-- Tasks are numbered in the order in which they were made. -/
abbrev TaskId := Nat

/-- What ends a program before it is done. -/
inductive Signal where
  /-- The task was cancelled. -/
  | cancelled
  /-- The task is not allowed to act. -/
  | superseded
  | fault (fault : Fault)
deriving DecidableEq, Repr

/-- What a task goes on with. -/
inductive Control (Store Driver Procedure Answer : Type) where
  | run (program : Program Store Driver Procedure Answer)
  | unwind (signal : Signal)

/-- What is still to be done around the program that runs. -/
inductive Frame (Store Driver Procedure Answer : Type) where
  /-- After a guarded program. -/
  | guarded (next : Program Store Driver Procedure Answer)
  /-- After a program with a cleanup. -/
  | ensured (cleanup next : Program Store Driver Procedure Answer)
  /-- After a cleanup that a signal had started. -/
  | resumed (signal : Signal)

/-- How a task ended. -/
inductive Outcome (Answer : Type) where
  | finished (answer : Option Answer)
  | cancelled
  | failed (fault : Fault)
deriving DecidableEq, Repr

/-- What a task is waiting for. -/
inductive Status (Answer : Type) where
  /-- A turn, or nothing while it runs. -/
  | ready
  /-- The clock. -/
  | sleeping
  /-- The end of so many tasks. -/
  | joining (count : Nat)
  | ended (outcome : Outcome Answer)
deriving DecidableEq, Repr

/-- A task. -/
structure Task (Store Driver Procedure Answer : Type) where
  /-- The driver that made it, none for an operation from outside. -/
  owner : Option Driver
  control : Control Store Driver Procedure Answer
  frames : List (Frame Store Driver Procedure Answer)
  status : Status Answer
  /-- Whether a cancellation waits for its next turn. -/
  cancelPending : Bool
  /-- Who joins it, in the order in which they began to. -/
  joiners : List TaskId

namespace Task

variable {Store Driver Procedure Answer : Type}

/-- A task that has not had a turn yet. -/
def fresh (owner : Option Driver) (program : Program Store Driver Procedure Answer) :
    Task Store Driver Procedure Answer :=
  { owner := owner
    control := .run program
    frames := []
    status := .ready
    cancelPending := false
    joiners := [] }

/-- Whether a task has ended. -/
def isEnded (task : Task Store Driver Procedure Answer) : Bool :=
  match task.status with
  | .ended _ => true
  | _ => false

/-- How a task ended, none while it has not. -/
def outcome? (task : Task Store Driver Procedure Answer) : Option (Outcome Answer) :=
  match task.status with
  | .ended outcome => some outcome
  | _ => none

@[simp] theorem status_fresh (owner : Option Driver)
    (program : Program Store Driver Procedure Answer) : (fresh owner program).status = .ready := rfl

@[simp] theorem isEnded_fresh (owner : Option Driver)
    (program : Program Store Driver Procedure Answer) : (fresh owner program).isEnded = false := rfl

end Task

/-- What a driver holds: the task in its slot, ended or not, and the task that may act. -/
structure Holding where
  slot : Option TaskId
  live : Option TaskId
deriving DecidableEq, Repr, Inhabited

/-- A turn that was asked for. -/
inductive Turn where
  /-- A task goes on. -/
  | run (task : TaskId)
  /-- A task learns that one of those that it joins has ended. -/
  | joined (task : TaskId)
deriving DecidableEq, Repr

/-- What a scene shows while it is held up. -/
inductive Indicator where
  | typing
  | thinking
deriving DecidableEq, Repr, Inhabited

/-- The name of an indicator. -/
def Indicator.name : Indicator → String
  | .typing => "typing"
  | .thinking => "thinking"

/-- A wait that a task began, with what was shown at that moment. -/
structure Wait where
  task : TaskId
  duration : Duration
  shown : List Indicator
deriving DecidableEq, Repr

/-- The programs that can be called, and what the store shows. -/
structure Machine (Store Driver Procedure Answer : Type) where
  body : Procedure → Program Store Driver Procedure Answer
  shown : Store → List Indicator

/-- Everything at one moment. -/
structure World (Store Driver Procedure Answer : Type) where
  store : Store
  holdings : Driver → Holding
  tasks : List (Task Store Driver Procedure Answer)
  /-- The turns that were asked for, the oldest first. -/
  queue : List Turn
  /-- The waits that the clock holds, the oldest first. -/
  waits : List Wait
  /-- Every wait that was ever begun, the oldest first. -/
  begun : List Wait
  /-- The task whose turn it is. -/
  running : Option TaskId

namespace World

variable {Store Driver Procedure Answer : Type}

/-- A world without tasks. -/
def initial (store : Store) : World Store Driver Procedure Answer :=
  { store := store
    holdings := fun _ => { slot := none, live := none }
    tasks := []
    queue := []
    waits := []
    begun := []
    running := none }

/-- Whether nothing moves on by itself. -/
def isIdle (world : World Store Driver Procedure Answer) : Bool :=
  world.running.isNone && world.queue.isEmpty

/-- Changes one task. -/
def modifyTask (world : World Store Driver Procedure Answer) (id : TaskId)
    (change : Task Store Driver Procedure Answer → Task Store Driver Procedure Answer) :
    World Store Driver Procedure Answer :=
  { world with tasks := world.tasks.modify id change }

/-- Whether a task exists and has not ended. -/
def isUnended (world : World Store Driver Procedure Answer) (id : TaskId) : Bool :=
  match world.tasks[id]? with
  | some task => !task.isEnded
  | none => false

/-- How a task ended, none while it has not. -/
def outcome? (world : World Store Driver Procedure Answer) (id : TaskId) :
    Option (Outcome Answer) :=
  world.tasks[id]?.bind Task.outcome?

/-- Whether the task in a driver's slot has not ended. -/
def isActive (world : World Store Driver Procedure Answer) (driver : Driver) : Bool :=
  match (world.holdings driver).slot with
  | some id => world.isUnended id
  | none => false

/-- The fault by which the task in a driver's slot ended. -/
def crash? (world : World Store Driver Procedure Answer) (driver : Driver) : Option Fault :=
  match (world.holdings driver).slot.bind world.outcome? with
  | some (.failed fault) => some fault
  | _ => none

/-- Asks for a turn. -/
def enqueue (world : World Store Driver Procedure Answer) (turn : Turn) :
    World Store Driver Procedure Answer :=
  { world with queue := world.queue ++ [turn] }

/-- Lets a task go on when its turn comes. -/
def wake (world : World Store Driver Procedure Answer) (id : TaskId) :
    World Store Driver Procedure Answer :=
  (world.modifyTask id fun task => { task with status := .ready }).enqueue (.run id)

/-- Takes a task's wait from the clock. -/
def dropWait (world : World Store Driver Procedure Answer) (id : TaskId) :
    World Store Driver Procedure Answer :=
  { world with waits := world.waits.filter fun wait => wait.task != id }

/-- Cancels a task. A sleeping task loses its wait and is woken; any other one that has not ended
learns of it at its next turn. A task that joins others has left the slot of its driver, so nothing
cancels it any more. -/
def cancelTask (world : World Store Driver Procedure Answer) (id : TaskId) :
    World Store Driver Procedure Answer :=
  match world.tasks[id]? with
  | none => world
  | some task =>
      match task.status with
      | .ended _ => world
      | .sleeping =>
          World.wake
            ((world.dropWait id).modifyTask id fun task => { task with cancelPending := true }) id
      | _ => world.modifyTask id fun task => { task with cancelPending := true }

/-- Lets one task join another one. A task that has ended answers with the next free turn. -/
def join (world : World Store Driver Procedure Answer) (joiner joined : TaskId) :
    World Store Driver Procedure Answer :=
  let waiting := world.modifyTask joiner fun task => { task with status := .joining 1 }
  if waiting.isUnended joined then
    waiting.modifyTask joined fun task => { task with joiners := task.joiners ++ [joiner] }
  else waiting.enqueue (.joined joiner)

/-- Lets the oldest wait but `position` end. -/
def release? (world : World Store Driver Procedure Answer) (position : Nat) :
    Option (World Store Driver Procedure Answer) :=
  match world.waits[position]? with
  | none => none
  | some wait =>
      some ({ world with waits := world.waits.eraseIdx position }.wake wait.task)

/-- Changes what a driver holds. -/
def setHolding [DecidableEq Driver] (world : World Store Driver Procedure Answer) (driver : Driver)
    (holding : Holding) : World Store Driver Procedure Answer :=
  { world with
    holdings := fun other => if other = driver then holding else world.holdings other }

/-! ## What the changes leave alone -/

@[simp] theorem store_modifyTask (world : World Store Driver Procedure Answer) (id : TaskId)
    (change : Task Store Driver Procedure Answer → Task Store Driver Procedure Answer) :
    (world.modifyTask id change).store = world.store := rfl

@[simp] theorem store_enqueue (world : World Store Driver Procedure Answer) (turn : Turn) :
    (world.enqueue turn).store = world.store := rfl

@[simp] theorem store_wake (world : World Store Driver Procedure Answer) (id : TaskId) :
    (world.wake id).store = world.store := rfl

@[simp] theorem store_dropWait (world : World Store Driver Procedure Answer) (id : TaskId) :
    (world.dropWait id).store = world.store := rfl

@[simp] theorem store_cancelTask (world : World Store Driver Procedure Answer) (id : TaskId) :
    (world.cancelTask id).store = world.store := by
  unfold cancelTask
  split
  · rfl
  · split <;> rfl

@[simp] theorem store_join (world : World Store Driver Procedure Answer) (joiner joined : TaskId) :
    (world.join joiner joined).store = world.store := by
  simp only [join]
  split <;> rfl

@[simp] theorem store_setHolding [DecidableEq Driver]
    (world : World Store Driver Procedure Answer) (driver : Driver) (holding : Holding) :
    (world.setHolding driver holding).store = world.store := rfl

@[simp] theorem holdings_setHolding_self [DecidableEq Driver]
    (world : World Store Driver Procedure Answer) (driver : Driver) (holding : Holding) :
    (world.setHolding driver holding).holdings driver = holding := by
  simp [setHolding]

theorem holdings_setHolding_of_ne [DecidableEq Driver]
    (world : World Store Driver Procedure Answer) {driver other : Driver} (holding : Holding)
    (different : other ≠ driver) :
    (world.setHolding driver holding).holdings other = world.holdings other := by
  simp [setHolding, different]

end World

end Playthrough

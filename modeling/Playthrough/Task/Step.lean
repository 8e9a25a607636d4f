import Playthrough.Task.World

/-!
Contract: how the world moves on.

Owns: the effect of one instruction of a program, of one unwinding step and of one turn, the runs
made of them, and the ways in which an operation from outside is carried out.

Does not own: which operations there are.

`step` is one instruction of the task whose turn it is, or the beginning of the next turn. Nothing
moves in an idle world. Runs are bounded by a count of steps; a run that reaches an idle world, or
the end of the operation that it is for, stops there.
-/

namespace Playthrough.World

variable {Store Driver Procedure Answer : Type}

/-- Goes on with a control and frames in the same turn. -/
def proceed (world : World Store Driver Procedure Answer) (id : TaskId)
    (control : Control Store Driver Procedure Answer)
    (frames : List (Frame Store Driver Procedure Answer)) : World Store Driver Procedure Answer :=
  world.modifyTask id fun task => { task with control := control, frames := frames }

/-- Ends the turn. -/
def yieldTurn (world : World Store Driver Procedure Answer) : World Store Driver Procedure Answer :=
  { world with running := none }

/-- Ends a task and tells those that join it. -/
def finish (world : World Store Driver Procedure Answer) (id : TaskId) (joiners : List TaskId)
    (outcome : Outcome Answer) : World Store Driver Procedure Answer :=
  let ended := (world.modifyTask id fun task => { task with status := .ended outcome }).yieldTurn
  { ended with queue := ended.queue ++ joiners.map Turn.joined }

/-- Whether a task may act: it is its driver's live task, or an operation from outside. -/
def mayAct (world : World Store Driver Procedure Answer) (id : TaskId)
    (task : Task Store Driver Procedure Answer) : Bool :=
  match task.owner with
  | none => true
  | some driver => (world.holdings driver).live == some id

/-- Takes the permission to act from a driver's task. -/
def revoke [DecidableEq Driver] (world : World Store Driver Procedure Answer) (driver : Driver) :
    World Store Driver Procedure Answer :=
  world.setHolding driver { world.holdings driver with live := none }

/-- Begins a wait. -/
def sleep (machine : Machine Store Driver Procedure Answer)
    (world : World Store Driver Procedure Answer) (id : TaskId) (duration : Duration) :
    World Store Driver Procedure Answer :=
  let wait : Wait := { task := id, duration := duration, shown := machine.shown world.store }
  let sleeping := world.modifyTask id fun task => { task with status := .sleeping }
  { sleeping with waits := sleeping.waits ++ [wait], begun := sleeping.begun ++ [wait] }.yieldTurn

/-- Cancels the task in a driver's slot unless it is the one that asks. -/
def displace (world : World Store Driver Procedure Answer) (driver : Driver) (asking : TaskId) :
    World Store Driver Procedure Answer :=
  match (world.holdings driver).slot with
  | some id => if id = asking then world else world.cancelTask id
  | none => world

/-- Makes a task for a driver, which becomes both the one in its slot and the one that may act. -/
def install [DecidableEq Driver] (world : World Store Driver Procedure Answer) (driver : Driver)
    (body : Program Store Driver Procedure Answer) : World Store Driver Procedure Answer :=
  let id := world.tasks.length
  let added := { world with tasks := world.tasks ++ [Task.fresh (some driver) body] }
  (added.setHolding driver { slot := some id, live := some id }).enqueue (.run id)

/-- One instruction of a task. -/
def execute [DecidableEq Driver] (machine : Machine Store Driver Procedure Answer)
    (world : World Store Driver Procedure Answer) (id : TaskId)
    (task : Task Store Driver Procedure Answer) (program : Program Store Driver Procedure Answer) :
    World Store Driver Procedure Answer :=
  match program with
  | .done answer =>
      match task.frames with
      | [] => world.finish id task.joiners (.finished answer)
      | .guarded next :: frames => world.proceed id (.run next) frames
      | .ensured cleanup next :: frames => world.proceed id (.run (cleanup.andThen next)) frames
      | .resumed signal :: frames => world.proceed id (.unwind signal) frames
  | .fail fault => world.proceed id (.unwind (.fault fault)) task.frames
  | .look choose => world.proceed id (.run (choose world.store)) task.frames
  | .update change next =>
      { world with store := change world.store }.proceed id (.run next) task.frames
  | .call procedure next =>
      world.proceed id (.run ((machine.body procedure).andThen next)) task.frames
  | .check next =>
      if world.mayAct id task then world.proceed id (.run next) task.frames
      else world.proceed id (.unwind .superseded) task.frames
  | .revoke next =>
      let revoked :=
        match task.owner with
        | some driver => if world.mayAct id task then world.revoke driver else world
        | none => world
      revoked.proceed id (.run next) task.frames
  | .pause duration next =>
      if world.mayAct id task then
        (world.proceed id (.run (.check next)) task.frames).sleep machine id duration
      else world.proceed id (.unwind .superseded) task.frames
  | .spawn driver body next =>
      ((world.displace driver id).install driver body).proceed id (.run next) task.frames
  | .cancel driver next =>
      let taken := (world.setHolding driver { slot := none, live := none }).proceed id (.run next)
        task.frames
      match (world.holdings driver).slot with
      | none => taken
      | some held =>
          if held = id then taken
          else ((taken.cancelTask held).join id held).yieldTurn
  | .settle drivers [] next =>
      if drivers.any world.isActive then
        world.proceed id (.run (.settle drivers drivers next)) task.frames
      else world.proceed id (.run next) task.frames
  | .settle drivers (driver :: remaining) next =>
      match (world.holdings driver).slot with
      | some held =>
          if world.isUnended held then (world.join id held).yieldTurn
          else world.proceed id (.run (.settle drivers remaining next)) task.frames
      | none => world.proceed id (.run (.settle drivers remaining next)) task.frames
  | .guard body next => world.proceed id (.run body) (.guarded next :: task.frames)
  | .ensure body cleanup next =>
      world.proceed id (.run body) (.ensured cleanup next :: task.frames)

/-- One step of a signal out through the frames of a task. A task that is not allowed to act any
more just ends. -/
def unwind (world : World Store Driver Procedure Answer) (id : TaskId)
    (task : Task Store Driver Procedure Answer) (signal : Signal) :
    World Store Driver Procedure Answer :=
  match task.frames with
  | [] =>
      match signal with
      | .cancelled => world.finish id task.joiners .cancelled
      | .superseded => world.finish id task.joiners (.finished none)
      | .fault fault => world.finish id task.joiners (.failed fault)
  | .guarded next :: frames =>
      if signal = .cancelled then world.proceed id (.run next) frames
      else world.proceed id (.unwind signal) frames
  | .ensured cleanup _ :: frames => world.proceed id (.run cleanup) (.resumed signal :: frames)
  | .resumed _ :: frames => world.proceed id (.unwind signal) frames

/-- Begins the turn of a task. A cancellation that waited for it takes effect. -/
def beginTurn (world : World Store Driver Procedure Answer) (id : TaskId) :
    World Store Driver Procedure Answer :=
  let started := { world with running := some id }
  started.modifyTask id fun task =>
    if task.cancelPending then { task with control := .unwind .cancelled, cancelPending := false }
    else task

/-- Tells a task that one of those that it joins has ended. -/
def noteJoined (world : World Store Driver Procedure Answer) (id : TaskId) :
    World Store Driver Procedure Answer :=
  match world.tasks[id]? with
  | some { status := .joining (count + 2), .. } =>
      world.modifyTask id fun task => { task with status := .joining (count + 1) }
  | some { status := .joining _, .. } => world.wake id
  | _ => world

/-- One instruction, or the beginning of the next turn. -/
def step [DecidableEq Driver] (machine : Machine Store Driver Procedure Answer)
    (world : World Store Driver Procedure Answer) : World Store Driver Procedure Answer :=
  match world.running with
  | some id =>
      match world.tasks[id]? with
      | none => world.yieldTurn
      | some task =>
          match task.control with
          | .run program => world.execute machine id task program
          | .unwind signal => world.unwind id task signal
  | none =>
      match world.queue with
      | [] => world
      | turn :: queue =>
          let taken := { world with queue := queue }
          match turn with
          | .run id => taken.beginTurn id
          | .joined id => taken.noteJoined id

/-- Nothing moves in an idle world. -/
theorem step_of_isIdle [DecidableEq Driver] (machine : Machine Store Driver Procedure Answer)
    {world : World Store Driver Procedure Answer} (idle : world.isIdle = true) :
    world.step machine = world := by
  simp only [isIdle, Bool.and_eq_true, Option.isNone_iff_eq_none, List.isEmpty_iff] at idle
  simp [step, idle.1, idle.2]

/-! ## Runs -/

/-- Lets every task run until nothing moves by itself, at most so many steps. -/
def drain [DecidableEq Driver] (machine : Machine Store Driver Procedure Answer) :
    Nat → World Store Driver Procedure Answer → World Store Driver Procedure Answer
  | 0, world => world
  | fuel + 1, world =>
      if world.isIdle then world else drain machine fuel (world.step machine)

/-- Runs until a task has ended. Whenever nothing moves by itself the oldest wait is released;
without one the run stops. -/
def runUntilEnded [DecidableEq Driver] (machine : Machine Store Driver Procedure Answer)
    (id : TaskId) :
    Nat → World Store Driver Procedure Answer → World Store Driver Procedure Answer
  | 0, world => world
  | fuel + 1, world =>
      if (world.outcome? id).isSome then world
      else if world.isIdle then
        match world.release? 0 with
        | some released => runUntilEnded machine id fuel released
        | none => world
      else runUntilEnded machine id fuel (world.step machine)

/-! ## Operations from outside -/

/-- Begins an operation at once, before every turn that was asked for. Its task is the first of the
pair. -/
def begin (world : World Store Driver Procedure Answer)
    (operation : Program Store Driver Procedure Answer) :
    TaskId × World Store Driver Procedure Answer :=
  let id := world.tasks.length
  (id, { world with tasks := world.tasks ++ [Task.fresh none operation], running := some id })

/-- Asks for the turns of several operations, in order. Their tasks are the first of the pair. -/
def beginAll (world : World Store Driver Procedure Answer) :
    List (Program Store Driver Procedure Answer) →
      List TaskId × World Store Driver Procedure Answer
  | [] => ([], world)
  | operation :: rest =>
      let id := world.tasks.length
      let added := { world with tasks := world.tasks ++ [Task.fresh none operation] }
      let (ids, begun) := (added.enqueue (.run id)).beginAll rest
      (id :: ids, begun)

/-- A task that joins the given ones, which have not had a turn yet. -/
def beginJoin (world : World Store Driver Procedure Answer) (joined : List TaskId) :
    TaskId × World Store Driver Procedure Answer :=
  let id := world.tasks.length
  let joiner : Task Store Driver Procedure Answer :=
    { Task.fresh none .stop with status := .joining joined.length }
  let added := { world with tasks := world.tasks ++ [joiner] }
  let told := joined.foldl
    (fun reached other => reached.modifyTask other fun task =>
      { task with joiners := task.joiners ++ [id] }) added
  if joined.isEmpty then (id, told.wake id) else (id, told)

end Playthrough.World

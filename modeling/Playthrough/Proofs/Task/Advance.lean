import Playthrough.Proofs.Task.Permission

/-!
Contract: what one step can make of a driver's world.

Owns: how much a task has still to do at most (`Task.effort`), operations from outside that come to their end
whatever happens to others (`Courteous`), and every step of a driver's world, told once (`Advances`).

Does not own: runs, and who waits for whom.

Programs of a driver neither look at the store nor call others, so every instruction leaves less to do. Only an
operation that waits for the driver's task may have to do so again, after a task has ended.
-/

namespace Playthrough

variable {Store Driver Procedure Answer : Type}

/-! ## What is left to do -/

/-- How much there is to do in a program; what depends on the store is not counted. -/
def Program.cost : Program Store Driver Procedure Answer → Nat
  | .done _ => 1
  | .fail _ => 2
  | .look _ => 1
  | .call _ _ => 1
  | .update _ next => next.cost + 1
  | .check next => next.cost + 1
  | .revoke next => next.cost + 1
  | .pause _ next => next.cost + 2
  | .spawn _ body next => body.cost + next.cost + 1
  | .cancel _ next => next.cost + 1
  | .settle _ remaining next => remaining.length + next.cost + 1
  | .guard body next => body.cost + next.cost + 2
  | .ensure body cleanup next => body.cost + cleanup.cost + next.cost + 3

theorem Program.cost_pos (program : Program Store Driver Procedure Answer) : 0 < program.cost := by
  cases program <;> simp [cost]

theorem Program.cost_andThen_le (first second : Program Store Driver Procedure Answer) :
    (first.andThen second).cost ≤ first.cost + second.cost := by
  induction first with
  | done _ => simp [andThen]
  | fail _ => simp [andThen, cost]
  | look _ _ => simp [andThen, cost]
  | call _ _ _ => simp [andThen, cost]
  | update _ _ inductionHypothesis | check _ inductionHypothesis | revoke _ inductionHypothesis
  | pause _ _ inductionHypothesis | cancel _ _ inductionHypothesis
  | settle _ _ _ inductionHypothesis =>
      simp only [andThen, cost]
      omega
  | spawn _ _ _ _ inductionHypothesis | guard _ _ _ inductionHypothesis
  | ensure _ _ _ _ _ inductionHypothesis =>
      simp only [andThen, cost]
      omega

/-- How much there is to do for a task that goes on. -/
def Control.cost : Control Store Driver Procedure Answer → Nat
  | .run program => program.cost
  | .unwind _ => 1

/-- How much there is to do around a program. -/
def Frame.cost : Frame Store Driver Procedure Answer → Nat
  | .guarded next => next.cost + 1
  | .ensured cleanup next => cleanup.cost + next.cost + 2
  | .resumed _ => 1

/-- How much a task has still to do. -/
def Task.effort (task : Task Store Driver Procedure Answer) : Nat :=
  task.control.cost + (task.frames.map Frame.cost).sum

theorem Control.cost_pos (control : Control Store Driver Procedure Answer) : 0 < control.cost := by
  cases control with
  | run program => exact program.cost_pos
  | unwind _ => exact Nat.zero_lt_one

theorem Task.effort_pos (task : Task Store Driver Procedure Answer) : 0 < task.effort :=
  Nat.add_pos_left task.control.cost_pos _

/-! ## What is left of other tasks -/

namespace World

variable {world : World Store Driver Procedure Answer} {id held other : TaskId}
variable {task : Task Store Driver Procedure Answer}

theorem found_modifyTask_of_ne (different : held ≠ id)
    (change : Task Store Driver Procedure Answer → Task Store Driver Procedure Answer) :
    (world.modifyTask held change).tasks[id]? = world.tasks[id]? := by
  simp [modifyTask, different]

theorem found_proceed (found : world.tasks[id]? = some task)
    (control : Control Store Driver Procedure Answer)
    (frames : List (Frame Store Driver Procedure Answer)) :
    (world.proceed id control frames).tasks[id]? = some (task.on control frames) := by
  simp [proceed, modifyTask, found, Task.on]

theorem found_cancelTask_of_ne (different : held ≠ id) :
    (world.cancelTask held).tasks[id]? = world.tasks[id]? := by
  simp only [cancelTask]
  split
  · rfl
  · split
    · rfl
    · exact (found_modifyTask_of_ne different _).trans (found_modifyTask_of_ne different _)
    · exact found_modifyTask_of_ne different _

theorem found_displace_of_ne {driver : Driver} {asking : TaskId}
    (unheld : asking = id ∨ (world.holdings driver).slot ≠ some id) :
    (world.displace driver asking).tasks[id]? = world.tasks[id]? := by
  simp only [displace]
  split
  · next held holding =>
      split
      · rfl
      · next other =>
          refine found_cancelTask_of_ne ?_
          rintro rfl
          rcases unheld with rfl | unheld
          · exact other rfl
          · exact unheld holding
  · rfl

theorem found_install [DecidableEq Driver] (inside : id < world.tasks.length) (driver : Driver)
    (body : Program Store Driver Procedure Answer) :
    (world.install driver body).tasks[id]? = world.tasks[id]? :=
  List.getElem?_append_left inside

theorem found_join_of_ne (joiner : other ≠ id) (joined : held ≠ id) :
    (world.join other held).tasks[id]? = world.tasks[id]? := by
  simp only [join]
  split
  · exact (found_modifyTask_of_ne joined _).trans (found_modifyTask_of_ne joiner _)
  · exact found_modifyTask_of_ne joiner _

theorem found_join_self (found : world.tasks[id]? = some task) (different : held ≠ id) :
    (world.join id held).tasks[id]? = some { task with status := .joining 1 } := by
  have waits : (world.modifyTask id fun task => { task with status := .joining 1 }).tasks[id]? =
      some { task with status := .joining 1 } := by
    simp [modifyTask, found]
  simp only [join]
  split
  · exact (found_modifyTask_of_ne different _).trans waits
  · exact waits

end World

namespace Script

variable {ledger : Ledger} {world after : Setting} {id : TaskId} {task : Task Log Unit Empty Unit}

/-! ## Operations from outside -/

/-- A program that comes to its end without an answer, whatever happens to others: it only changes the log,
gives the driver a task, cancels it or waits for it. -/
def Unfailing : Plan → Prop
  | .done answer => answer = none
  | .update _ next => Unfailing next
  | .spawn _ _ next => Unfailing next
  | .cancel _ next => Unfailing next
  | .settle _ _ next => Unfailing next
  | _ => False

theorem Request.unfailing_plan (request : Request) : Unfailing request.plan := by
  cases request <;> trivial

/-- A task that comes to its end whatever happens to others. -/
structure Courteous (task : Task Log Unit Empty Unit) : Prop where
  alone : task.frames = []
  unfailing : ∃ program, task.control = .run program ∧ Unfailing program

/-! ## Every step -/

/-- What a step can make of a driver's world. -/
inductive Advances (world : Setting) : Setting → Prop where
  /-- Nothing moves. -/
  | rests (idle : world.isIdle = true) : Advances world world
  /-- The acting task goes on, perhaps after it has changed the log or revoked its permission. -/
  | goesOn (log : Log) (holdings : Unit → Holding) {id : TaskId} {task : Task Log Unit Empty Unit}
      {control : Control Log Unit Empty Unit} {frames : List (Frame Log Unit Empty Unit)}
      (turn : world.running = some id) (found : world.tasks[id]? = some task)
      (sameSlot : (holdings ()).slot = (world.holdings ()).slot)
      (cheaper : (task.on control frames).effort < task.effort)
      (courteous : Courteous task → Courteous (task.on control frames)) :
      Advances world
        (({ world with store := log, holdings := holdings } : Setting).proceed id control frames)
  /-- The acting task ends. -/
  | ends {id : TaskId} {task : Task Log Unit Empty Unit} {outcome : Outcome Unit}
      (turn : world.running = some id) (found : world.tasks[id]? = some task)
      (courteous : Courteous task → outcome = .finished none) :
      Advances world (world.finish id task.joiners outcome)
  /-- The acting task begins a wait. -/
  | sleeps {id : TaskId} {task : Task Log Unit Empty Unit} {duration : Duration} {next : Plan}
      (turn : world.running = some id) (found : world.tasks[id]? = some task)
      (running : task.control = .run (.pause duration next)) (owned : task.owner = some ()) :
      Advances world
        ((world.proceed id (.run (.check next)) task.frames).sleep machine id duration)
  /-- The acting task gives the driver a new one. -/
  | spawns {id : TaskId} {task : Task Log Unit Empty Unit} {body next : Plan}
      (turn : world.running = some id) (found : world.tasks[id]? = some task)
      (running : task.control = .run (.spawn () body next)) :
      Advances world (((world.displace () id).install () body).proceed id (.run next) task.frames)
  /-- The acting task cancels the driver, which has no task or just that one. -/
  | vacates {id : TaskId} {task : Task Log Unit Empty Unit} {next : Plan}
      (turn : world.running = some id) (found : world.tasks[id]? = some task)
      (running : task.control = .run (.cancel () next))
      (alone : ∀ held, (world.holdings ()).slot = some held → held = id) :
      Advances world
        ((world.setHolding () { slot := none, live := none }).proceed id (.run next) task.frames)
  /-- The acting task takes another one from the driver, cancels it and joins it. -/
  | cancels {id held : TaskId} {task : Task Log Unit Empty Unit} {next : Plan}
      (turn : world.running = some id) (found : world.tasks[id]? = some task)
      (running : task.control = .run (.cancel () next))
      (holding : (world.holdings ()).slot = some held) (different : held ≠ id) :
      Advances world
        ((((world.setHolding () { slot := none, live := none }).proceed id (.run next)
          task.frames).cancelTask held).join id held).yieldTurn
  /-- An operation from outside joins the driver's task. -/
  | joins {id held : TaskId} {task : Task Log Unit Empty Unit} {drivers remaining : List Unit} {next : Plan}
      (turn : world.running = some id) (found : world.tasks[id]? = some task)
      (running : task.control = .run (.settle drivers remaining next)) (outside : task.owner = none)
      (holding : (world.holdings ()).slot = some held) (unended : world.isUnended held = true) :
      Advances world (world.join id held).yieldTurn
  /-- The turn of a task begins. -/
  | takes {id : TaskId} {queue : List Turn} (noTurn : world.running = none)
      (queued : world.queue = .run id :: queue) :
      Advances world (({ world with queue := queue } : Setting).beginTurn id)
  /-- A task learns that another one has ended. -/
  | learns {id : TaskId} {queue : List Turn} (noTurn : world.running = none)
      (queued : world.queue = .joined id :: queue) :
      Advances world (({ world with queue := queue } : Setting).noteJoined id)

theorem Courteous.proceed {next : Plan} (courteous : Courteous task)
    (goesOn : ∀ program, task.control = .run program → Unfailing program → Unfailing next) :
    Courteous (task.on (.run next) task.frames) := by
  obtain ⟨program, running, unfailing⟩ := courteous.unfailing
  exact ⟨courteous.alone, next, rfl, goesOn program running unfailing⟩

/-- A task that comes to its end runs no program that can fail. -/
theorem Courteous.not_of {program : Plan} (courteous : Courteous task)
    (running : task.control = .run program) (fails : ¬Unfailing program) : False := by
  obtain ⟨other, same, unfailing⟩ := courteous.unfailing
  rw [running] at same
  cases same
  exact fails unfailing

/-- An instruction of the acting task. -/
theorem advances_execute (regular : Regular ledger world) (turn : world.running = some id)
    (found : world.tasks[id]? = some task) {program : Plan} (running : task.control = .run program) :
    Advances world (world.execute machine id task program) := by
  obtain ⟨stance, keeps⟩ := regular.keep id _ (found_bare found)
  have abides : Abides stance program := by
    have abides := keeps.control
    rwa [show task.bare.control = .run program from running] at abides
  have effort : ∀ control frames, (task.on control frames).effort < task.effort ↔
      control.cost + (frames.map Frame.cost).sum < program.cost + (task.frames.map Frame.cost).sum := by
    intro control frames
    rw [Task.effort, Task.effort, running]
    rfl
  have cheaper : ∀ {control : Control Log Unit Empty Unit}, control.cost < program.cost →
      (task.on control task.frames).effort < task.effort :=
    fun less => (effort _ _).mpr (Nat.add_lt_add_right less _)
  have proceeds : ∀ {next : Plan}, next.cost < program.cost → (Unfailing program → Unfailing next) →
      Advances world (world.proceed id (.run next) task.frames) := by
    intro next less unfailing
    refine .goesOn world.store world.holdings turn found rfl (cheaper less) ?_
    intro courteous
    refine courteous.proceed ?_
    intro other same
    rw [running] at same
    cases same
    exact unfailing
  have unwinds : ∀ signal, 1 < program.cost → ¬Unfailing program →
      Advances world (world.proceed id (.unwind signal) task.frames) := by
    intro signal less fails
    exact .goesOn world.store world.holdings turn found rfl (cheaper less)
      fun courteous => (courteous.not_of running fails).elim
  cases program with
  | look _ => exact abides.elim
  | call procedure _ => exact procedure.elim
  | done answer =>
      simp only [World.execute]
      cases around : task.frames with
      | nil =>
          refine .ends turn found ?_
          intro courteous
          obtain ⟨other, same, unfailing⟩ := courteous.unfailing
          rw [running] at same
          cases same
          rw [show answer = none from unfailing]
      | cons frame rest =>
          have crowded : Courteous task → False := by
            intro courteous
            rw [courteous.alone] at around
            cases around
          have passes : ∀ {control : Control Log Unit Empty Unit}, control.cost < frame.cost + 1 →
              Advances world (world.proceed id control rest) := by
            intro control less
            refine .goesOn world.store world.holdings turn found rfl ?_
              fun courteous => (crowded courteous).elim
            rw [effort, around, List.map_cons, List.sum_cons, Program.cost]
            omega
          cases frame with
          | guarded next => exact passes (by simp only [Control.cost, Frame.cost]; omega)
          | resumed signal => exact passes (by simp only [Control.cost, Frame.cost]; omega)
          | ensured cleanup next =>
              have less := Program.cost_andThen_le cleanup next
              exact passes (by simp only [Control.cost, Frame.cost]; omega)
  | fail fault => exact unwinds _ (by simp [Program.cost]) not_false
  | update change next =>
      refine .goesOn (change world.store) world.holdings turn found rfl (cheaper (Nat.lt_succ_self _)) ?_
      intro courteous
      refine courteous.proceed ?_
      intro other same unfailing
      rw [running] at same
      cases same
      exact unfailing
  | check next =>
      simp only [World.execute]
      split
      · exact proceeds (Nat.lt_succ_self _) False.elim
      · exact unwinds _ (Nat.succ_lt_succ next.cost_pos) not_false
  | revoke next =>
      have revoked : ∀ holdings : Unit → Holding, (holdings ()).slot = (world.holdings ()).slot →
          Advances world (({ world with holdings := holdings } : Setting).proceed id (.run next)
            task.frames) := by
        intro holdings sameSlot
        exact .goesOn world.store holdings turn found sameSlot (cheaper (Nat.lt_succ_self _))
          fun courteous => (courteous.not_of running not_false).elim
      simp only [World.execute]
      split
      · split
        · refine revoked _ ?_
          simp
        · exact revoked world.holdings rfl
      · exact revoked world.holdings rfl
  | pause duration next =>
      simp only [World.execute]
      split
      · exact .sleeps turn found running (keeps.owned abides.1)
      · exact unwinds _ (by simp only [Program.cost]; omega) not_false
  | spawn driver body next => exact .spawns turn found running
  | cancel driver next =>
      simp only [World.execute]
      split
      · next empty =>
          refine .vacates turn found running ?_
          intro held holding
          rw [show (world.holdings ()).slot = none from empty] at holding
          cases holding
      · next held holding =>
          split
          · next same =>
              refine .vacates turn found running ?_
              intro other others
              rw [← same]
              exact Option.some.inj (others.symm.trans holding)
          · next different => exact .cancels turn found running holding different
  | settle drivers remaining next =>
      obtain ⟨outside, nobody, -⟩ := abides
      subst nobody
      cases remaining with
      | nil =>
          simp only [World.execute, List.any_nil, Bool.false_eq_true, if_false]
          exact proceeds (by simp [Program.cost]) fun unfailing => unfailing
      | cons driver remaining =>
          have onward : Advances world
              (world.proceed id (.run (.settle [] remaining next)) task.frames) :=
            proceeds (by simp [Program.cost]) fun unfailing => unfailing
          simp only [World.execute]
          split
          · next held holding =>
              split
              · next unended =>
                  exact .joins turn found running (keeps.origin.mp outside) holding unended
              · exact onward
          · exact onward
  | guard body next =>
      refine .goesOn world.store world.holdings turn found rfl ?_
        fun courteous => (courteous.not_of running not_false).elim
      rw [effort, List.map_cons, List.sum_cons]
      simp only [Control.cost, Frame.cost, Program.cost]
      omega
  | ensure body cleanup next =>
      refine .goesOn world.store world.holdings turn found rfl ?_
        fun courteous => (courteous.not_of running not_false).elim
      rw [effort, List.map_cons, List.sum_cons]
      simp only [Control.cost, Frame.cost, Program.cost]
      omega

/-- A signal on its way out. -/
theorem advances_unwind (turn : world.running = some id) (found : world.tasks[id]? = some task)
    {signal : Signal} (unwinding : task.control = .unwind signal) :
    Advances world (world.unwind id task signal) := by
  have rude : Courteous task → False := by
    intro courteous
    obtain ⟨program, running, -⟩ := courteous.unfailing
    rw [unwinding] at running
    cases running
  have goesOn : ∀ {control : Control Log Unit Empty Unit} {frames : List (Frame Log Unit Empty Unit)},
      control.cost + (frames.map Frame.cost).sum < 1 + (task.frames.map Frame.cost).sum →
      Advances world (world.proceed id control frames) := by
    intro control frames less
    refine .goesOn world.store world.holdings turn found rfl ?_
      fun courteous => (rude courteous).elim
    rw [Task.effort, Task.effort, unwinding]
    exact less
  simp only [World.unwind]
  cases around : task.frames with
  | nil => cases signal <;> exact .ends turn found fun courteous => (rude courteous).elim
  | cons frame rest =>
      rw [around] at goesOn
      simp only [List.map_cons, List.sum_cons] at goesOn
      cases frame with
      | resumed _ => exact goesOn (by simp only [Control.cost, Frame.cost]; omega)
      | guarded next =>
          simp only
          split
          · exact goesOn (by simp only [Control.cost, Frame.cost]; omega)
          · exact goesOn (by simp only [Control.cost, Frame.cost]; omega)
      | ensured cleanup next =>
          refine goesOn ?_
          simp only [Control.cost, Frame.cost, List.map_cons, List.sum_cons]
          omega

/-- Every step of a driver's world is one of these. -/
theorem Regular.advances (regular : Regular ledger world) : Advances world (world.step machine) := by
  cases turn : world.running with
  | some id =>
      have orderly : world.Orderly (some id) := by
        rw [← turn]
        exact regular.balanced
      obtain ⟨task, found, -⟩ := orderly.acts
      cases control : task.control with
      | run program =>
          simp only [World.step, turn, found, control]
          exact advances_execute regular turn found control
      | unwind signal =>
          simp only [World.step, turn, found, control]
          exact advances_unwind turn found control
  | none =>
      cases queued : world.queue with
      | nil =>
          have idle : world.isIdle = true := by simp [World.isIdle, turn, queued]
          rw [World.step_of_isIdle machine idle]
          exact .rests idle
      | cons next queue =>
          cases next with
          | run id =>
              simp only [World.step, turn, queued]
              exact .takes turn queued
          | joined id =>
              rw [World.step_joined turn queued]
              exact .learns turn queued

end Script

end Playthrough

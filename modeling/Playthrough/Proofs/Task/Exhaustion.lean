import Mathlib.Logic.Function.Iterate
import Playthrough.Proofs.Task.Advance
import Playthrough.Proofs.Task.Attendance

/-!
Contract: a driver's world that is left to itself comes to rest.

Owns: how much there is to do in a world (`World.effort`), the account that every step lowers, and that letting
everything run ends, with no wait released.

Does not own: what is over when nothing moves any more.

Every instruction leaves less to do. A step that leaves as much, the beginning of a turn, the news of an end and
the beginning of a join, leaves fewer turns to be taken.
-/

namespace Playthrough

variable {Store Driver Procedure Answer : Type}

/-! ## What is left to do in a world -/

/-- How much a task has still to do, nothing once it has ended. -/
def Task.toil (task : Task Store Driver Procedure Answer) : Nat :=
  if task.isEnded then 0 else task.effort

theorem Task.toil_of_unended {task : Task Store Driver Procedure Answer} (unended : task.isEnded = false) :
    task.toil = task.effort := by
  simp [toil, unended]

theorem Task.toil_of_ready {task : Task Store Driver Procedure Answer} (ready : task.status = .ready) :
    task.toil = task.effort :=
  task.toil_of_unended (by simp [isEnded, ready])

theorem Task.toil_le (task : Task Store Driver Procedure Answer) : task.toil ≤ task.effort := by
  unfold toil
  split
  · exact Nat.zero_le _
  · exact Nat.le_refl _

namespace World

/-- How much there is still to do. -/
def effort (world : World Store Driver Procedure Answer) : Nat := (world.tasks.map Task.toil).sum

/-- How many turns are still to be taken; one that goes on counts as half of one. -/
def bustle (world : World Store Driver Procedure Answer) : Nat :=
  2 * world.calls + if world.running.isSome then 1 else 0

variable {world : World Store Driver Procedure Answer} {id held : TaskId}
variable {task : Task Store Driver Procedure Answer}
variable {change : Task Store Driver Procedure Answer → Task Store Driver Procedure Answer}

theorem effort_modifyTask (found : world.tasks[id]? = some task)
    (change : Task Store Driver Procedure Answer → Task Store Driver Procedure Answer) :
    (world.modifyTask id change).effort + task.toil = world.effort + (change task).toil := by
  rw [effort, modifyTask, modify_eq_set found]
  exact sum_map_set Task.toil found _

theorem effort_modifyTask_eq (same : ∀ task, world.tasks[id]? = some task → (change task).toil = task.toil) :
    (world.modifyTask id change).effort = world.effort := by
  cases found : world.tasks[id]? with
  | none =>
      have unchanged : world.tasks.modify id change = world.tasks :=
        List.modify_eq_self (List.getElem?_eq_none_iff.mp found)
      rw [effort, modifyTask, unchanged]
      rfl
  | some task =>
      have account := effort_modifyTask found change
      rw [same task found] at account
      exact Nat.add_right_cancel account

/-- A task that has not ended has as much to do whatever it waits for. -/
theorem effort_restatus {status : Status Answer}
    (unended : ∀ task, world.tasks[id]? = some task → task.isEnded = false)
    (goesOn : ∀ outcome, status ≠ .ended outcome) :
    (world.modifyTask id fun task => { task with status := status }).effort = world.effort := by
  refine effort_modifyTask_eq ?_
  intro task found
  rw [Task.toil_of_unended (unended task found)]
  refine Task.toil_of_unended ?_
  cases status with
  | ended outcome => exact absurd rfl (goesOn outcome)
  | ready => rfl
  | sleeping => rfl
  | joining _ => rfl

theorem effort_wake (unended : ∀ task, world.tasks[id]? = some task → task.isEnded = false) :
    (world.wake id).effort = world.effort :=
  effort_restatus unended (by simp)

theorem effort_cancelTask : (world.cancelTask held).effort = world.effort := by
  have marks : ∀ marked : World Store Driver Procedure Answer,
      (marked.modifyTask held fun task => { task with cancelPending := true }).effort = marked.effort :=
    fun marked => effort_modifyTask_eq fun _ _ => rfl
  simp only [cancelTask]
  split
  · rfl
  · next task found =>
      split
      · rfl
      · next sleeping =>
          refine (effort_wake ?_).trans (marks _)
          intro other there
          simp only [modifyTask, dropWait, List.getElem?_modify_eq, found] at there
          cases there
          simp [Task.isEnded, sleeping]
      · exact marks world

theorem effort_displace (driver : Driver) : (world.displace driver id).effort = world.effort := by
  simp only [displace]
  split
  · split
    · rfl
    · exact effort_cancelTask
  · rfl

theorem effort_join (unended : ∀ task, world.tasks[id]? = some task → task.isEnded = false) :
    (world.join id held).effort = world.effort := by
  have waits : (world.modifyTask id fun task => { task with status := .joining 1 }).effort = world.effort :=
    effort_restatus unended (by simp)
  simp only [join]
  split
  · refine Eq.trans ?_ waits
    exact effort_modifyTask_eq fun _ _ => rfl
  · exact waits

theorem effort_noteJoined : (world.noteJoined id).effort = world.effort := by
  have goesOn : ∀ {joining : Task Store Driver Procedure Answer} {count : Nat},
      world.tasks[id]? = some joining → joining.status = .joining count →
      ∀ task, world.tasks[id]? = some task → task.isEnded = false := by
    intro joining count found status task there
    rw [found] at there
    cases there
    simp [Task.isEnded, status]
  simp only [noteJoined]
  split
  · next found => exact effort_restatus (goesOn found rfl) (by simp)
  · next found => exact effort_wake (goesOn found rfl)
  · rfl

theorem effort_install [DecidableEq Driver] (driver : Driver)
    (body : Program Store Driver Procedure Answer) :
    (world.install driver body).effort = world.effort + body.cost := by
  simp [effort, install, enqueue, setHolding, Task.toil, Task.effort, Task.fresh, Task.isEnded,
    Control.cost]

/-- The acting task goes on. -/
theorem effort_proceed (found : world.tasks[id]? = some task) (ready : task.status = .ready)
    (control : Control Store Driver Procedure Answer)
    (frames : List (Frame Store Driver Procedure Answer)) :
    (world.proceed id control frames).effort + task.effort =
      world.effort + (task.on control frames).effort := by
  have account := effort_modifyTask found fun task => task.on control frames
  rwa [task.toil_of_ready ready, Task.toil_of_ready (show (task.on control frames).status = .ready from ready)]
    at account

end World

/-! ## Every step leaves less -/

namespace Script

variable {ledger : Ledger} {world after : Setting} {id held : TaskId} {task : Task Log Unit Empty Unit}

/-- There is less to do, or as much with fewer turns to be taken. -/
def Lessens (world after : Setting) : Prop :=
  after.effort < world.effort ∨ after.effort ≤ world.effort ∧ after.bustle < world.bustle

/-- The acting task goes on with less to do than is added meanwhile. -/
theorem effort_lt_of_proceed {changed : Setting} {control : Control Log Unit Empty Unit}
    {frames : List (Frame Log Unit Empty Unit)} {more : Nat} (found : changed.tasks[id]? = some task)
    (ready : task.status = .ready) (same : changed.effort = world.effort + more)
    (cheaper : (task.on control frames).effort + more < task.effort) :
    (changed.proceed id control frames).effort < world.effort := by
  have account := World.effort_proceed found ready control frames
  omega

/-- Every step of a driver's world leaves less. -/
theorem lessens_of_advances (balanced : world.Balanced) (advances : Advances world after)
    (busy : world.isIdle = false) : Lessens world after := by
  have ready : ∀ {id : TaskId} {task : Task Log Unit Empty Unit}, world.running = some id →
      world.tasks[id]? = some task → task.status = .ready := by
    intro id task turn found
    have acting : world.Orderly (some id) := by
      rw [← turn]
      exact balanced
    exact acting.ready_of_acting found
  have unended : ∀ {other : Setting} {id : TaskId} {task : Task Log Unit Empty Unit},
      task.status = .ready → other.tasks[id]? = some task →
      ∀ someone, other.tasks[id]? = some someone → someone.isEnded = false := by
    intro other id task ready found someone there
    rw [found] at there
    cases there
    simp [Task.isEnded, ready]
  have cheaper : ∀ {task : Task Log Unit Empty Unit} {program : Plan}, task.control = .run program →
      ∀ next : Plan, (task.on (.run next) task.frames).effort + program.cost =
        task.effort + next.cost := by
    intro task program running next
    rw [Task.effort, Task.effort, running]
    simp only [Task.on, Control.cost]
    omega
  cases advances with
  | rests idle =>
      rw [busy] at idle
      cases idle
  | @goesOn log holdings id task control frames turn found sameSlot less courteous =>
      exact .inl (effort_lt_of_proceed found (ready turn found) (Nat.add_zero _).symm less)
  | @ends id task outcome turn found courteous =>
      have account := World.effort_modifyTask found fun task => { task with status := .ended outcome }
      have nothingLeft : ({ task with status := .ended outcome } : Task Log Unit Empty Unit).toil = 0 := rfl
      have spent := task.effort_pos
      rw [task.toil_of_ready (ready turn found), nothingLeft] at account
      refine .inl ?_
      show (world.modifyTask id fun task => { task with status := .ended outcome }).effort < world.effort
      omega
  | @sleeps id task duration next turn found running owned =>
      have less : (task.on (.run (.check next)) task.frames).effort + 0 < task.effort := by
        have account := cheaper running (.check next)
        simp only [Program.cost] at account
        omega
      have goesOn : (world.proceed id (.run (.check next)) task.frames).effort < world.effort :=
        effort_lt_of_proceed found (ready turn found) (Nat.add_zero _).symm less
      have acting : task.status = .ready := ready turn found
      have awake : (task.on (.run (.check next)) task.frames).status = .ready := acting
      have asleep : ((world.proceed id (.run (.check next)) task.frames).modifyTask id fun task =>
          { task with status := .sleeping }).effort = _ :=
        World.effort_restatus (unended awake (World.found_proceed found _ _)) (by simp)
      exact .inl (lt_of_eq_of_lt asleep goesOn)
  | @spawns id task body next turn found running =>
      have inside : id < (world.displace () id).tasks.length := by
        rw [World.length_tasks_displace]
        exact (List.getElem?_eq_some_iff.mp found).1
      refine .inl (effort_lt_of_proceed ?_ (ready turn found)
        ((World.effort_install () body).trans (congrArg (· + body.cost) (World.effort_displace ()))) ?_)
      · rw [World.found_install inside, World.found_displace_of_ne (.inl rfl)]
        exact found
      · have account := cheaper running next
        simp only [Program.cost] at account
        omega
  | @vacates id task next turn found running alone =>
      refine .inl (effort_lt_of_proceed found (ready turn found) (Nat.add_zero _).symm ?_)
      have account := cheaper running next
      simp only [Program.cost] at account
      omega
  | @cancels id held task next turn found running holding different =>
      let taken := (world.setHolding () { slot := none, live := none }).proceed id (.run next) task.frames
      have less : taken.effort < world.effort := by
        refine effort_lt_of_proceed found (ready turn found) (Nat.add_zero _).symm ?_
        have account := cheaper running next
        simp only [Program.cost] at account
        omega
      have there : (taken.cancelTask held).tasks[id]? = some (task.on (.run next) task.frames) := by
        rw [World.found_cancelTask_of_ne different]
        exact World.found_proceed found _ _
      have acting : task.status = .ready := ready turn found
      have awake : (task.on (.run next) task.frames).status = .ready := acting
      have joined : ((taken.cancelTask held).join id held).effort = taken.effort :=
        (World.effort_join (unended awake there)).trans World.effort_cancelTask
      exact .inl (lt_of_eq_of_lt joined less)
  | @joins id held task drivers remaining next turn found running outside holding goesOn =>
      refine .inr ⟨Nat.le_of_eq (World.effort_join (unended (ready turn found) found)), ?_⟩
      have still : (world.modifyTask id fun task => { task with status := .joining 1 }).isUnended held =
          true := by
        refine Eq.trans ?_ goesOn
        refine World.isUnended_of_change (World.tasks_modifyTask _ _ _) fun task there => .ite ?_
        rintro rfl
        rw [found] at there
        cases there
        exact ⟨by simp [Task.isEnded, ready turn found], fun pending => pending, fun joiners => joiners⟩
      have calls : (world.join id held).calls = world.calls := by
        simp only [World.join, still, if_true]
        rfl
      show 2 * (world.join id held).calls + 0 < 2 * world.calls + if world.running.isSome then 1 else 0
      rw [calls, turn]
      exact Nat.lt_succ_self _
  | @takes id queue noTurn queued =>
      refine .inr ⟨?_, ?_⟩
      · obtain ⟨task, found, acting⟩ := World.Orderly.ready_of_queued balanced
          (show Turn.run id ∈ world.queue by simp [queued])
        let turned : Task Log Unit Empty Unit :=
          if task.cancelPending then { task with control := .unwind .cancelled, cancelPending := false }
          else task
        let taken : Setting := { world with queue := queue, running := some id }
        have there : taken.tasks[id]? = some task := found
        have account : (({ world with queue := queue } : Setting).beginTurn id).effort + task.toil =
            world.effort + turned.toil := World.effort_modifyTask there _
        have fewer : turned.toil ≤ task.toil := by
          rw [task.toil_of_ready acting]
          refine Nat.le_trans turned.toil_le ?_
          simp only [turned]
          split
          · exact Nat.add_le_add_right task.control.cost_pos _
          · exact Nat.le_refl _
        omega
      · show 2 * (2 * world.waits.length + (queue.map Turn.weight).sum) + 1 < _
        rw [World.bustle, World.calls, queued, noTurn, List.map_cons, List.sum_cons]
        simp only [Turn.weight, Option.isSome_none, Bool.false_eq_true, if_false]
        omega
  | @learns id queue noTurn queued =>
      refine .inr ⟨Nat.le_of_eq World.effort_noteJoined, ?_⟩
      have fewer := World.calls_noteJoined queued
      have still : (({ world with queue := queue } : Setting).noteJoined id).running = none := by
        simp only [World.noteJoined]
        split <;> exact noTurn
      have nobody : (if world.running.isSome then 1 else 0) = 0 := by
        rw [noTurn]
        rfl
      rw [World.bustle, World.bustle, still, nobody]
      exact Nat.add_lt_add_right (Nat.mul_lt_mul_of_pos_left fewer Nat.two_pos) 0

/-! ## Rest -/

/-- A driver's world comes to rest by itself. The induction is on how much there is to do, and then on how
many turns are to be taken. -/
theorem Regular.comes_to_rest (regular : Regular ledger world) :
    ∃ count, ((World.step machine)^[count] world).isIdle = true := by
  induction toil : world.effort using Nat.strongRecOn generalizing ledger world with
  | ind _ lessToil =>
  induction bustle : world.bustle using Nat.strongRecOn generalizing ledger world with
  | ind _ lessBustle =>
  subst toil bustle
  cases idle : world.isIdle with
  | true => exact ⟨0, idle⟩
  | false =>
      obtain ⟨count, rests⟩ : ∃ count, ((World.step machine)^[count] (world.step machine)).isIdle = true := by
        rcases lessens_of_advances regular.balanced regular.advances idle with less | ⟨noMore, less⟩
        · exact lessToil _ less regular.step rfl
        · rcases Nat.lt_or_eq_of_le noMore with less' | same
          · exact lessToil _ less' regular.step rfl
          · exact lessBustle _ less regular.step same rfl
      exact ⟨count + 1, rests⟩

/-- Letting everything run is making steps, since no step leads out of a world at rest. -/
theorem drain_eq_steps (fuel : Nat) (world : Setting) :
    world.drain machine fuel = (World.step machine)^[fuel] world := by
  induction fuel generalizing world with
  | zero => rfl
  | succ fuel inductionHypothesis =>
      rw [World.drain, Function.iterate_succ_apply]
      split
      · next idle =>
          rw [World.step_of_isIdle machine idle, Function.iterate_fixed (World.step_of_isIdle machine idle)]
      · exact inductionHypothesis _

/-- Letting everything run long enough leads to rest. -/
theorem Regular.drains (regular : Regular ledger world) :
    ∃ enough, ∀ fuel, enough ≤ fuel → (world.drain machine fuel).isIdle = true := by
  obtain ⟨enough, idle⟩ := regular.comes_to_rest
  refine ⟨enough, ?_⟩
  intro fuel large
  obtain ⟨more, rfl⟩ := Nat.exists_eq_add_of_le large
  rw [drain_eq_steps, Nat.add_comm, Function.iterate_add_apply,
    Function.iterate_fixed (World.step_of_isIdle machine idle)]
  exact idle

end Script

end Playthrough

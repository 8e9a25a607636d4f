import Mathlib.Algebra.Ring.Nat
import Mathlib.Data.List.Count
import Mathlib.Data.List.Perm.Basic
import Playthrough.Proofs.Task.Exchange

/-!
Contract: who is still to be called.

Owns: the account of turns, waits and joins of a world (`Orderly`), and its preservation by every step,
by every wait that ends and by every operation that begins.

Does not own: which programs there are.

Every task that has not ended is owed exactly what its status says: a turn, the end of a wait, or so
many ends of other tasks. The account is stated as equations between counts, so that each move is a
matter of arithmetic. While a task acts, its own turn has been taken from the queue already.
-/

namespace Playthrough

variable {Store Driver Procedure Answer : Type}

/-! ## What tasks are owed -/

namespace Status

/-- The turns that a status asks for. -/
def turns : Status Answer → Nat
  | .ready => 1
  | _ => 0

/-- The waits that a status asks for. -/
def sleeps : Status Answer → Nat
  | .sleeping => 1
  | _ => 0

/-- The ends of other tasks that a status asks for. -/
def awaits : Status Answer → Nat
  | .joining count => count
  | _ => 0

end Status

/-- How often a task has promised to tell another one of its end. -/
def Task.pledge (task : Task Store Driver Procedure Answer) (id : TaskId) : Nat :=
  if task.isEnded then 0 else task.joiners.count id

/-- What the status of a task asks for, nothing for a task that does not exist. -/
def owed (tasks : List (Task Store Driver Procedure Answer)) (measure : Status Answer → Nat)
    (id : TaskId) : Nat :=
  match tasks[id]? with
  | some task => measure task.status
  | none => 0

/-- How often tasks have promised to tell a task of their end. -/
def pledges (tasks : List (Task Store Driver Procedure Answer)) (id : TaskId) : Nat :=
  (tasks.map fun task => task.pledge id).sum

section Accounts

variable {tasks : List (Task Store Driver Procedure Answer)} {id other : TaskId}
variable {task old : Task Store Driver Procedure Answer}

theorem owed_of_found (found : tasks[id]? = some task) (measure : Status Answer → Nat) :
    owed tasks measure id = measure task.status := by
  simp [owed, found]

theorem owed_set (found : tasks[id]? = some old) (task : Task Store Driver Procedure Answer)
    (measure : Status Answer → Nat) (other : TaskId) :
    owed (tasks.set id task) measure other =
      if other = id then measure task.status else owed tasks measure other := by
  obtain ⟨inside, -⟩ := List.getElem?_eq_some_iff.mp found
  by_cases same : other = id
  · subst same
    simp [owed, inside]
  · simp [owed, same, Ne.symm same]

theorem owed_append (task : Task Store Driver Procedure Answer) (measure : Status Answer → Nat)
    (other : TaskId) :
    owed (tasks ++ [task]) measure other =
      if other = tasks.length then measure task.status else owed tasks measure other := by
  by_cases same : other = tasks.length
  · subst same
    simp [owed]
  · by_cases inside : other < tasks.length
    · simp [owed, same, List.getElem?_append_left inside]
    · have beyond : tasks.length < other := by
        rcases Nat.lt_trichotomy other tasks.length with less | equal | more
        · exact absurd less inside
        · exact absurd equal same
        · exact more
      have nothing : tasks.length ≤ other := Nat.le_of_lt beyond
      have nothingAppended : (tasks ++ [task]).length ≤ other := by
        rw [List.length_append]
        exact beyond
      simp [owed, same, List.getElem?_eq_none nothing, List.getElem?_eq_none nothingAppended]

/-- A sum over items of which one is changed. -/
theorem sum_map_set {α : Type} {items : List α} {position : Nat} {old : α} (weigh : α → Nat)
    (found : items[position]? = some old) (item : α) :
    ((items.set position item).map weigh).sum + weigh old = (items.map weigh).sum + weigh item := by
  induction items generalizing position with
  | nil => simp at found
  | cons first rest inductionHypothesis =>
      cases position with
      | zero =>
          simp only [List.getElem?_cons_zero, Option.some.injEq] at found
          subst found
          simp only [List.set_cons_zero, List.map_cons, List.sum_cons]
          omega
      | succ position =>
          have kept := inductionHypothesis (show rest[position]? = some old by simpa using found)
          simp only [List.set_cons_succ, List.map_cons, List.sum_cons] at kept ⊢
          omega

theorem pledges_set (found : tasks[id]? = some old) (task : Task Store Driver Procedure Answer)
    (other : TaskId) :
    pledges (tasks.set id task) other + old.pledge other =
      pledges tasks other + task.pledge other :=
  sum_map_set (fun task => task.pledge other) found task

theorem pledges_append (task : Task Store Driver Procedure Answer) (other : TaskId) :
    pledges (tasks ++ [task]) other = pledges tasks other + task.pledge other := by
  simp [pledges]

end Accounts

theorem modify_eq_set {α : Type} {items : List α} {position : Nat} {item : α}
    (found : items[position]? = some item) (change : α → α) :
    items.modify position change = items.set position (change item) := by
  apply List.ext_getElem?
  intro other
  obtain ⟨inside, rfl⟩ := List.getElem?_eq_some_iff.mp found
  simp only [List.getElem?_modify, List.getElem?_set]
  by_cases same : position = other
  · subst same
    simp [inside]
  · simp [same]

/-- What is left of a turn that was asked for. -/
def Turn.weight : Turn → Nat
  | .run _ => 1
  | .joined _ => 2

/-- What is left of all turns and waits. -/
def World.calls (world : World Store Driver Procedure Answer) : Nat :=
  2 * world.waits.length + (world.queue.map Turn.weight).sum

/-! ## The account -/

/-- Every task is called as often as it is owed, and is owed something as long as it has not ended;
the acting task has been called already. -/
structure World.Orderly (world : World Store Driver Procedure Answer) (acting : Option TaskId) :
    Prop where
  runs : ∀ id, world.queue.count (.run id) + (if acting = some id then 1 else 0) =
    owed world.tasks Status.turns id
  sleeps : ∀ id, (world.waits.map Wait.task).count id = owed world.tasks Status.sleeps id
  joins : ∀ id, world.queue.count (.joined id) + pledges world.tasks id =
    owed world.tasks Status.awaits id
  asks : ∀ (id : TaskId) (task : Task Store Driver Procedure Answer), world.tasks[id]? = some task →
    task.status ≠ .joining 0

namespace World

variable {world : World Store Driver Procedure Answer} {id held : TaskId}
variable {task old : Task Store Driver Procedure Answer} {acting : Option TaskId}

theorem orderly_initial (store : Store) :
    (World.initial store : World Store Driver Procedure Answer).Orderly none := by
  refine ⟨?_, ?_, ?_, ?_⟩ <;> intro id <;> simp [World.initial, owed, pledges]

theorem status_eq_ready {status : Status Answer} (asks : 0 < status.turns) : status = .ready := by
  cases status with
  | ready => rfl
  | sleeping => simp [Status.turns] at asks
  | joining count => simp [Status.turns] at asks
  | ended outcome => simp [Status.turns] at asks

theorem found_of_owed {tasks : List (Task Store Driver Procedure Answer)}
    {measure : Status Answer → Nat} (asks : 0 < owed tasks measure id) :
    ∃ task, tasks[id]? = some task ∧ 0 < measure task.status := by
  simp only [owed] at asks
  cases found : tasks[id]? with
  | none => simp [found] at asks
  | some task =>
      rw [found] at asks
      exact ⟨task, rfl, asks⟩

theorem noteJoined_of_more {count : Nat} (found : world.tasks[id]? = some task)
    (status : task.status = .joining (count + 2)) :
    world.noteJoined id =
      { world with
        tasks := world.tasks.set id { task with status := .joining (count + 1) } } := by
  obtain ⟨owner, control, frames, _, cancelPending, joiners⟩ := task
  simp only at status
  subst status
  simp only [noteJoined, found, modifyTask, modify_eq_set found]

theorem noteJoined_of_one (found : world.tasks[id]? = some task)
    (status : task.status = .joining 1) :
    world.noteJoined id =
      { world with
        tasks := world.tasks.set id { task with status := .ready }
        queue := world.queue ++ [.run id] } := by
  obtain ⟨owner, control, frames, _, cancelPending, joiners⟩ := task
  simp only at status
  subst status
  simp only [noteJoined, found, wake, modifyTask, enqueue, modify_eq_set found]

/-- A wait that ends leaves less to be called. -/
theorem calls_release? {position : Nat} {released : World Store Driver Procedure Answer}
    (wait : world.release? position = some released) : released.calls < world.calls := by
  obtain ⟨wait, found, rfl⟩ := release?_eq_some.mp wait
  obtain ⟨inside, -⟩ := List.getElem?_eq_some_iff.mp found
  have fewer : (world.waits.eraseIdx position).length = world.waits.length - 1 :=
    List.length_eraseIdx_of_lt inside
  simp only [calls, wake, enqueue, World.modifyTask, List.map_append, List.sum_append, List.map_cons,
    List.map_nil, List.sum_cons, List.sum_nil, Turn.weight, fewer]
  omega

/-- A task that learns of the end of another one leaves less to be called. -/
theorem calls_noteJoined {queue : List Turn} (queued : world.queue = .joined id :: queue) :
    (({ world with queue := queue } : World Store Driver Procedure Answer).noteJoined id).calls <
      world.calls := by
  simp only [calls, noteJoined, queued, List.map_cons, List.sum_cons, Turn.weight]
  split
  · simp only [World.modifyTask]
    omega
  · simp only [wake, enqueue, World.modifyTask, List.map_append, List.sum_append, List.map_cons,
      List.map_nil, List.sum_cons, List.sum_nil, Turn.weight]
    omega
  · simp only
    omega

namespace Orderly

/-- The acting task is ready. -/
theorem acts (orderly : world.Orderly (some id)) :
    ∃ task, world.tasks[id]? = some task ∧ task.status = .ready := by
  have account := orderly.runs id
  have asks : 0 < owed world.tasks Status.turns id := by
    rw [if_pos rfl] at account
    omega
  obtain ⟨task, found, ready⟩ := found_of_owed asks
  exact ⟨task, found, status_eq_ready ready⟩

theorem ready_of_acting (orderly : world.Orderly (some id))
    (found : world.tasks[id]? = some task) : task.status = .ready := by
  obtain ⟨same, found', ready⟩ := orderly.acts
  rw [found] at found'
  cases found'
  exact ready

/-- Whoever has a turn in the queue is ready. -/
theorem ready_of_queued (orderly : world.Orderly acting) (queued : .run id ∈ world.queue) :
    ∃ task, world.tasks[id]? = some task ∧ task.status = .ready := by
  have account := orderly.runs id
  have present : 0 < world.queue.count (.run id) := List.count_pos_iff.mpr queued
  obtain ⟨task, found, ready⟩ : ∃ task, world.tasks[id]? = some task ∧ 0 < task.status.turns :=
    found_of_owed (by omega)
  exact ⟨task, found, status_eq_ready ready⟩

/-- Where nothing moves, whoever has not ended and is not held by the clock waits for somebody else. -/
theorem awaits_somebody (orderly : world.Orderly none) (quiet : world.queue = [])
    (silent : ∀ wait ∈ world.waits, wait.task ≠ id) (found : world.tasks[id]? = some task)
    (unended : task.isEnded = false) :
    ∃ (other : TaskId) (someone : Task Store Driver Procedure Answer),
      world.tasks[other]? = some someone ∧ someone.isEnded = false ∧ id ∈ someone.joiners := by
  have runs := orderly.runs id
  have sleeps := orderly.sleeps id
  have joins := orderly.joins id
  have unheld : (world.waits.map Wait.task).count id = 0 := by
    refine List.count_eq_zero.mpr ?_
    intro member
    obtain ⟨wait, there, same⟩ := List.mem_map.mp member
    exact silent wait there same
  rw [quiet, owed_of_found found] at runs joins
  rw [unheld, owed_of_found found] at sleeps
  have pledged : 0 < pledges world.tasks id := by
    cases status : task.status with
    | ready => simp [status, Status.turns] at runs
    | sleeping => simp [status, Status.sleeps] at sleeps
    | ended outcome => simp [Task.isEnded, status] at unended
    | joining count =>
        have positive : count ≠ 0 := by
          intro zero
          exact orderly.asks id task found (by rw [status, zero])
        simp only [status, Status.awaits, List.count_nil] at joins
        omega
  obtain ⟨pledge, member, positive⟩ : ∃ pledge ∈ world.tasks.map fun task => task.pledge id,
      0 < pledge := by
    by_contra nothing
    simp only [not_exists, not_and] at nothing
    have zero : pledges world.tasks id = 0 := by
      refine List.sum_eq_zero_iff_forall_eq_nat.mpr ?_
      intro pledge member
      exact Nat.eq_zero_of_not_pos (nothing pledge member)
    omega
  obtain ⟨someone, there, rfl⟩ := List.mem_map.mp member
  obtain ⟨other, inside, same⟩ := List.getElem_of_mem there
  refine ⟨other, someone, by rw [List.getElem?_eq_getElem inside, same], ?_⟩
  simp only [Task.pledge] at positive
  split at positive
  · exact absurd positive (Nat.lt_irrefl 0)
  · next goesOn => exact ⟨by simpa using goesOn, List.count_pos_iff.mp positive⟩

/-- Whoever is to be told of the end of a task waits for it. -/
theorem joining_of_joiner (orderly : world.Orderly acting) (found : world.tasks[held]? = some task)
    (unended : task.isEnded = false) (member : id ∈ task.joiners) :
    ∃ joiner count, world.tasks[id]? = some joiner ∧ joiner.status = .joining (count + 1) := by
  have account := orderly.joins id
  have owes : 0 < owed world.tasks Status.awaits id := by
    by_contra nothing
    have nobody : pledges world.tasks id = 0 := by omega
    have none : task.pledge id = 0 := by
      refine List.sum_eq_zero_iff_forall_eq_nat.mp nobody _ ?_
      exact List.mem_map_of_mem (List.mem_of_getElem? found)
    have more : 0 < task.joiners.count id := List.count_pos_iff.mpr member
    rw [Task.pledge, if_neg (by simp [unended])] at none
    omega
  obtain ⟨joiner, there, asks⟩ := found_of_owed owes
  cases status : joiner.status with
  | joining count =>
      cases count with
      | zero => simp [status, Status.awaits] at asks
      | succ count => exact ⟨joiner, count, there, status⟩
  | ready => simp [status, Status.awaits] at asks
  | sleeping => simp [status, Status.awaits] at asks
  | ended outcome => simp [status, Status.awaits] at asks

/-- Nobody is asked to tell a task of its end that is about to have a turn. -/
theorem not_awaited (orderly : world.Orderly acting) (queued : .run id ∈ world.queue)
    {other : TaskId} (found : world.tasks[other]? = some task) (unended : task.isEnded = false) :
    id ∉ task.joiners := by
  intro member
  obtain ⟨acting, there, ready⟩ := orderly.ready_of_queued queued
  obtain ⟨joiner, count, same, joining⟩ := orderly.joining_of_joiner found unended member
  rw [there] at same
  cases same
  rw [ready] at joining
  cases joining

/-- Whoever the clock holds a wait for is asleep. -/
theorem sleeping_of_wait {wait : Wait} (orderly : world.Orderly acting)
    (member : wait ∈ world.waits) :
    ∃ task, world.tasks[wait.task]? = some task ∧ task.status = .sleeping := by
  have account := orderly.sleeps wait.task
  have present : 0 < (world.waits.map Wait.task).count wait.task :=
    List.count_pos_iff.mpr (List.mem_map_of_mem member)
  obtain ⟨task, found, asleep⟩ := found_of_owed (account ▸ present)
  refine ⟨task, found, ?_⟩
  cases status : task.status with
  | sleeping => rfl
  | ready => simp [status, Status.sleeps] at asleep
  | joining count => simp [status, Status.sleeps] at asleep
  | ended outcome => simp [status, Status.sleeps] at asleep

/-- A task that learns of the end of another one was owed that. -/
theorem joining_of_queued (orderly : world.Orderly acting) (queued : .joined id ∈ world.queue) :
    ∃ task count, world.tasks[id]? = some task ∧ task.status = .joining (count + 1) := by
  have account := orderly.joins id
  have present : 0 < world.queue.count (.joined id) := List.count_pos_iff.mpr queued
  obtain ⟨task, found, owes⟩ : ∃ task, world.tasks[id]? = some task ∧ 0 < task.status.awaits :=
    found_of_owed (by omega)
  cases status : task.status with
  | joining count =>
      cases count with
      | zero => simp [status, Status.awaits] at owes
      | succ count => exact ⟨task, count, found, status⟩
  | ready => simp [status, Status.awaits] at owes
  | sleeping => simp [status, Status.awaits] at owes
  | ended outcome => simp [status, Status.awaits] at owes

/-! ### One task changes -/

/-- The account depends on nothing but tasks, turns and waits. -/
theorem of_same {other : World Store Driver Procedure Answer} (orderly : world.Orderly acting)
    (sameTasks : other.tasks = world.tasks) (sameQueue : other.queue = world.queue)
    (sameWaits : other.waits = world.waits) : other.Orderly acting := by
  refine ⟨?_, ?_, ?_, ?_⟩
  · rw [sameTasks, sameQueue]
    exact orderly.runs
  · rw [sameTasks, sameWaits]
    exact orderly.sleeps
  · rw [sameTasks, sameQueue]
    exact orderly.joins
  · rw [sameTasks]
    exact orderly.asks

/-- One task changes, with the queue and the waits; the account stays right if what is owed changes
by as much as what is there. -/
theorem of_set {after : World Store Driver Procedure Answer} {actingAfter : Option TaskId}
    (orderly : world.Orderly acting) (found : world.tasks[id]? = some old)
    (tasks : after.tasks = world.tasks.set id task) (asks : task.status ≠ .joining 0)
    (runs : ∀ other,
      after.queue.count (.run other) + (if actingAfter = some other then 1 else 0)
          + (if other = id then old.status.turns else 0) =
        world.queue.count (.run other) + (if acting = some other then 1 else 0)
          + (if other = id then task.status.turns else 0))
    (sleeps : ∀ other,
      (after.waits.map Wait.task).count other + (if other = id then old.status.sleeps else 0) =
        (world.waits.map Wait.task).count other + (if other = id then task.status.sleeps else 0))
    (joins : ∀ other,
      after.queue.count (.joined other) + task.pledge other
          + (if other = id then old.status.awaits else 0) =
        world.queue.count (.joined other) + old.pledge other
          + (if other = id then task.status.awaits else 0)) :
    after.Orderly actingAfter := by
  have before : ∀ (measure : Status Answer → Nat) (other : TaskId),
      owed after.tasks measure other + (if other = id then measure old.status else 0) =
        owed world.tasks measure other + (if other = id then measure task.status else 0) := by
    intro measure other
    rw [tasks, owed_set found]
    by_cases same : other = id
    · rw [if_pos same, if_pos same, if_pos same, same, owed_of_found found]
      omega
    · rw [if_neg same, if_neg same, if_neg same]
  refine ⟨?_, ?_, ?_, ?_⟩
  · intro other
    have account := orderly.runs other
    have change := runs other
    have owes := before Status.turns other
    omega
  · intro other
    have account := orderly.sleeps other
    have change := sleeps other
    have owes := before Status.sleeps other
    omega
  · intro other
    have account := orderly.joins other
    have change := joins other
    have owes := before Status.awaits other
    have promises := pledges_set found task other
    rw [← tasks] at promises
    omega
  · intro other someone there
    rw [tasks, List.getElem?_set] at there
    by_cases same : id = other
    · obtain ⟨inside, -⟩ := List.getElem?_eq_some_iff.mp found
      rw [if_pos same, if_pos inside] at there
      cases there
      exact asks
    · rw [if_neg same] at there
      exact orderly.asks other someone there

/-- A task may change what it does without changing what it waits for. -/
theorem modifyTask (orderly : world.Orderly acting) (id : TaskId)
    {change : Task Store Driver Procedure Answer → Task Store Driver Procedure Answer}
    (sameStatus : ∀ task, (change task).status = task.status)
    (sameJoiners : ∀ task, (change task).joiners = task.joiners) :
    (world.modifyTask id change).Orderly acting := by
  cases found : world.tasks[id]? with
  | none =>
      refine orderly.of_same ?_ rfl rfl
      exact List.modify_eq_self (List.getElem?_eq_none_iff.mp found)
  | some old =>
      have sameEnd : (change old).isEnded = old.isEnded := by
        rw [Task.isEnded, Task.isEnded, sameStatus]
      have samePledge : ∀ other, (change old).pledge other = old.pledge other := by
        intro other
        rw [Task.pledge, Task.pledge, sameEnd, sameJoiners]
      refine orderly.of_set found (modify_eq_set found change) ?_ ?_ ?_ ?_
      · rw [sameStatus]
        exact orderly.asks id old found
      · intro other
        rw [sameStatus]
        rfl
      · intro other
        rw [sameStatus]
        rfl
      · intro other
        rw [sameStatus, samePledge]
        rfl

/-- A task that is made asks for one turn, and nobody joins it yet. -/
theorem of_append {after : World Store Driver Procedure Answer} {actingAfter : Option TaskId}
    (orderly : world.Orderly acting) (tasks : after.tasks = world.tasks ++ [task])
    (ready : task.status = .ready) (nobodyJoins : task.joiners = [])
    (runs : ∀ other,
      after.queue.count (.run other) + (if actingAfter = some other then 1 else 0) =
        world.queue.count (.run other) + (if acting = some other then 1 else 0)
          + (if other = world.tasks.length then 1 else 0))
    (joins : ∀ other, after.queue.count (.joined other) = world.queue.count (.joined other))
    (sameWaits : after.waits = world.waits) : after.Orderly actingAfter := by
  have nobody : ∀ measure : Status Answer → Nat,
      owed world.tasks measure world.tasks.length = 0 := by
    intro measure
    simp [owed]
  have noPledge : ∀ other, task.pledge other = 0 := by
    intro other
    simp [Task.pledge, nobodyJoins]
  have owes : ∀ (measure : Status Answer → Nat) (other : TaskId),
      owed after.tasks measure other = owed world.tasks measure other
        + (if other = world.tasks.length then measure .ready else 0) := by
    intro measure other
    rw [tasks, owed_append, ready]
    by_cases same : other = world.tasks.length
    · rw [if_pos same, if_pos same, same, nobody, Nat.zero_add]
    · rw [if_neg same, if_neg same, Nat.add_zero]
  refine ⟨?_, ?_, ?_, ?_⟩
  · intro other
    rw [runs, owes, orderly.runs]
    rfl
  · intro other
    rw [sameWaits, owes, orderly.sleeps]
    split <;> rfl
  · intro other
    rw [joins, tasks, pledges_append, noPledge, ← tasks, owes]
    rw [Nat.add_zero, orderly.joins]
    split <;> rfl
  · intro other someone there
    rw [tasks] at there
    rcases List.mem_append.mp (List.mem_of_getElem? there) with before | new
    · obtain ⟨place, found⟩ := List.getElem?_of_mem before
      exact orderly.asks place someone found
    · rw [List.mem_singleton.mp new, ready]
      simp

/-! ### Between two turns -/

/-- The first turn in the queue is that of a ready task, which acts then. -/
theorem take_run {queue : List Turn} (orderly : world.Orderly none)
    (queued : world.queue = .run id :: queue) :
    ({ world with queue := queue } : World Store Driver Procedure Answer).Orderly (some id) := by
  refine ⟨?_, orderly.sleeps, ?_, orderly.asks⟩
  · intro other
    have account := orderly.runs other
    rw [queued, List.count_cons] at account
    rw [← account]
    by_cases same : id = other <;> simp [same]
  · intro other
    have account := orderly.joins other
    rw [queued, List.count_cons] at account
    simpa using account

/-- A task learns of the end of another one, and is woken by the last of those that it awaits. -/
theorem noteJoined {queue : List Turn} (orderly : world.Orderly none)
    (queued : world.queue = .joined id :: queue) :
    (({ world with queue := queue } : World Store Driver Procedure Answer).noteJoined id).Orderly
      none := by
  obtain ⟨task, count, found, status⟩ : ∃ task count, world.tasks[id]? = some task
      ∧ task.status = .joining (count + 1) := orderly.joining_of_queued (by simp [queued])
  have taken : ({ world with queue := queue } : World Store Driver Procedure Answer).tasks[id]? =
      some task := found
  cases count with
  | succ count =>
      rw [noteJoined_of_more taken status]
      refine orderly.of_set found rfl (by simp) ?_ ?_ ?_
      · intro other
        simp [queued, status, Status.turns]
      · intro other
        simp [status, Status.sleeps]
      · intro other
        simp only [queued, List.count_cons, status, Task.pledge, Task.isEnded, Status.awaits]
        by_cases same : other = id
        · subst same
          simp
          omega
        · simp [same, Ne.symm same]
  | zero =>
      rw [noteJoined_of_one taken status]
      refine orderly.of_set found rfl (by simp) ?_ ?_ ?_
      · intro other
        rw [queued, List.count_cons, List.count_append, status]
        by_cases same : other = id
        · subst same
          simp [Status.turns]
        · simp [same, Ne.symm same]
      · intro other
        simp [status, Status.sleeps]
      · intro other
        simp only [queued, List.count_cons, List.count_append, status, Task.pledge, Task.isEnded,
          Status.awaits]
        by_cases same : other = id
        · subst same
          simp
          omega
        · simp [same, Ne.symm same]

/-- A sleeping task whose waits are taken from the clock and that is woken. -/
theorem wake {waits : List Wait} {change : Task Store Driver Procedure Answer →
      Task Store Driver Procedure Answer} (orderly : world.Orderly acting)
    (found : world.tasks[id]? = some old) (sleeping : old.status = .sleeping) (sameJoiners : (change old).joiners = old.joiners)
    (counts : ∀ other, (waits.map Wait.task).count other + (if other = id then 1 else 0) =
      (world.waits.map Wait.task).count other) :
    ((({ world with waits := waits } : World Store Driver Procedure Answer).modifyTask id
      change).wake id).Orderly acting := by
  have tasks : (({ world with waits := waits } : World Store Driver Procedure Answer).modifyTask id
      change |>.wake id).tasks = world.tasks.set id { change old with status := .ready } := by
    show (world.tasks.modify id change).modify id _ = _
    rw [modify_eq_set found, modify_set]
  refine orderly.of_set found tasks (by simp) ?_ ?_ ?_
  · intro other
    show (world.queue ++ [Turn.run id]).count (Turn.run other) + _ + _ = _
    rw [List.count_append, sleeping]
    by_cases same : other = id
    · subst same
      simp [Status.turns]
      omega
    · simp [same, Ne.symm same]
  · intro other
    show (waits.map Wait.task).count other + _ = _
    have count := counts other
    by_cases same : other = id
    · rw [if_pos same] at count ⊢
      rw [if_pos same, sleeping]
      exact count
    · rw [if_neg same] at count ⊢
      rw [if_neg same]
      exact count
  · intro other
    show (world.queue ++ [Turn.run id]).count (Turn.joined other) + _ + _ = _
    simp [sleeping, sameJoiners, Task.pledge, Task.isEnded, Status.awaits]

/-- A wait ends. -/
theorem release? {position : Nat} {released : World Store Driver Procedure Answer}
    (orderly : world.Orderly acting) (oldest : world.release? position = some released) :
    released.Orderly acting := by
  obtain ⟨wait, found, rfl⟩ := release?_eq_some.mp oldest
  obtain ⟨task, waiting, sleeping⟩ := orderly.sleeping_of_wait (List.mem_of_getElem? found)
  obtain ⟨inside, rfl⟩ := List.getElem?_eq_some_iff.mp found
  have woken : ((({ world with waits := world.waits.eraseIdx position } :
      World Store Driver Procedure Answer).modifyTask world.waits[position].task fun task =>
        task).wake world.waits[position].task).Orderly acting := by
    refine orderly.wake waiting sleeping rfl ?_
    intro other
    have split := (List.getElem_cons_eraseIdx_perm inside).map Wait.task
    rw [← split.count_eq other, List.map_cons, List.count_cons]
    by_cases same : other = world.waits[position].task
    · simp [same]
    · simp [same, Ne.symm same]
  refine woken.of_same ?_ rfl rfl
  show world.tasks.modify _ _ = (world.tasks.modify _ _).modify _ _
  rw [modify_eq_set waiting, modify_eq_set waiting, modify_set]

/-- An operation begins at once. -/
theorem begin (orderly : world.Orderly none) (operation : Program Store Driver Procedure Answer) :
    (world.begin operation).2.Orderly (some world.tasks.length) := by
  refine orderly.of_append rfl rfl rfl ?_ (fun _ => rfl) rfl
  intro other
  show world.queue.count (Turn.run other) + _ = _
  by_cases same : other = world.tasks.length
  · simp [same]
  · simp [same, Ne.symm same]

/-- The turns of operations are asked for. -/
theorem beginAll (orderly : world.Orderly acting)
    (operations : List (Program Store Driver Procedure Answer)) :
    (world.beginAll operations).2.Orderly acting := by
  induction operations generalizing world with
  | nil => exact orderly
  | cons operation rest inductionHypothesis =>
      refine inductionHypothesis (orderly.of_append rfl rfl rfl ?_ ?_ rfl)
      · intro other
        show (world.queue ++ [Turn.run world.tasks.length]).count (Turn.run other) + _ = _
        rw [List.count_append]
        by_cases same : other = world.tasks.length
        · simp [same]
          omega
        · simp [same, Ne.symm same]
      · intro other
        show (world.queue ++ [Turn.run world.tasks.length]).count (Turn.joined other) = _
        simp

/-! ### In a turn -/

theorem proceed (orderly : world.Orderly acting) (control : Control Store Driver Procedure Answer)
    (frames : List (Frame Store Driver Procedure Answer)) :
    (world.proceed id control frames).Orderly acting :=
  orderly.modifyTask id (fun _ => rfl) fun _ => rfl

theorem setHolding [DecidableEq Driver] (orderly : world.Orderly acting) (driver : Driver)
    (holding : Holding) : (world.setHolding driver holding).Orderly acting :=
  orderly.of_same rfl rfl rfl

theorem sleep (orderly : world.Orderly (some id)) (machine : Machine Store Driver Procedure Answer)
    (duration : Duration) : (world.sleep machine id duration).Orderly none := by
  obtain ⟨old, found, ready⟩ := orderly.acts
  refine orderly.of_set found (modify_eq_set found _) (by simp) ?_ ?_ ?_
  · intro other
    show world.queue.count (Turn.run other) + _ + _ = _
    by_cases same : other = id
    · simp [same, ready, Status.turns]
    · simp [same, Ne.symm same]
  · intro other
    show ((world.waits ++ [_]).map Wait.task).count other + _ = _
    by_cases same : other = id
    · simp [same, ready, Status.sleeps]
    · simp [same, Ne.symm same]
  · intro other
    show world.queue.count (Turn.joined other) + _ + _ = _
    simp [ready, Task.pledge, Task.isEnded, Status.awaits]

/-- The acting task ends, and those that join it learn of it. -/
theorem finish (orderly : world.Orderly (some id)) (found : world.tasks[id]? = some task)
    (outcome : Outcome Answer) : (world.finish id task.joiners outcome).Orderly none := by
  have ready := orderly.ready_of_acting found
  have none_run : ∀ other, (task.joiners.map Turn.joined).count (Turn.run other) = 0 := by
    intro other
    exact List.count_eq_zero.mpr (by simp)
  have told : ∀ other, (task.joiners.map Turn.joined).count (Turn.joined other) =
      task.joiners.count other := by
    intro other
    exact List.count_map_of_injective _ _ (fun first second same => by simpa using same) other
  refine orderly.of_set found (modify_eq_set found _) (by simp) ?_ ?_ ?_
  · intro other
    show (world.queue ++ task.joiners.map Turn.joined).count (Turn.run other) + _ + _ = _
    rw [List.count_append, none_run]
    by_cases same : other = id
    · simp [same, ready, Status.turns]
    · simp [same, Ne.symm same]
  · intro other
    show (world.waits.map Wait.task).count other + _ = _
    simp [ready, Status.sleeps]
  · intro other
    show (world.queue ++ task.joiners.map Turn.joined).count (Turn.joined other) + _ + _ = _
    rw [List.count_append, told]
    simp [ready, Task.pledge, Task.isEnded, Status.awaits]

/-- Another task is cancelled. -/
theorem cancelTask (orderly : world.Orderly acting) (held : TaskId) :
    (world.cancelTask held).Orderly acting := by
  simp only [World.cancelTask]
  cases found : world.tasks[held]? with
  | none => exact orderly
  | some task =>
      cases status : task.status with
      | ended outcome => simpa only [status] using orderly
      | ready =>
          simp only [status]
          exact orderly.modifyTask held (fun _ => rfl) fun _ => rfl
      | joining count =>
          simp only [status]
          exact orderly.modifyTask held (fun _ => rfl) fun _ => rfl
      | sleeping =>
          simp only [status]
          refine orderly.wake found status rfl ?_
          intro other
          have account := orderly.sleeps held
          rw [owed_of_found found, status] at account
          by_cases same : other = held
          · subst same
            rw [if_pos rfl, account]
            have gone : ((world.waits.filter fun wait => wait.task != other).map Wait.task).count
                other = 0 := by
              refine List.count_eq_zero.mpr ?_
              simp
            rw [gone]
            rfl
          · rw [if_neg same, Nat.add_zero]
            have kept : ((world.waits.map Wait.task).filter fun id => id != held).count other =
                (world.waits.map Wait.task).count other :=
              List.count_filter (by simpa using same)
            rw [← kept, List.filter_map]
            rfl

/-- The acting task joins another one. -/
theorem join (orderly : world.Orderly (some id)) (held : TaskId) :
    (world.join id held).Orderly none := by
  obtain ⟨task, found, ready⟩ := orderly.acts
  let waiting := world.modifyTask id fun task => { task with status := .joining 1 }
  have told : (waiting.enqueue (.joined id)).Orderly none := by
    refine orderly.of_set found (modify_eq_set found _) (by simp) ?_ ?_ ?_
    · intro other
      show (world.queue ++ [Turn.joined id]).count (Turn.run other) + _ + _ = _
      by_cases same : other = id
      · simp [same, ready, Status.turns]
      · simp [same, Ne.symm same]
    · intro other
      show (world.waits.map Wait.task).count other + _ = _
      simp [ready, Status.sleeps]
    · intro other
      show (world.queue ++ [Turn.joined id]).count (Turn.joined other) + _ + _ = _
      by_cases same : other = id
      · simp [same, ready, Task.pledge, Task.isEnded, Status.awaits]
        omega
      · simp [same, Ne.symm same, ready, Task.pledge, Task.isEnded]
  simp only [World.join]
  by_cases unended : waiting.isUnended held = true
  · rw [if_pos unended]
    cases there : waiting.tasks[held]? with
    | none => simp [isUnended, there] at unended
    | some joined =>
        have isUnended : joined.isEnded = false := by
          simpa [World.isUnended, there] using unended
        have stillUnended : ({ joined with joiners := joined.joiners ++ [id] } :
            Task Store Driver Procedure Answer).isEnded = false := isUnended
        refine told.of_set there (modify_eq_set there _) (told.asks held joined there) ?_ ?_ ?_
        · intro other
          show waiting.queue.count _ + _ + _ = (waiting.queue ++ [Turn.joined id]).count _ + _ + _
          simp
        · intro other
          rfl
        · intro other
          show waiting.queue.count _ + _ + _ = (waiting.queue ++ [Turn.joined id]).count _ + _ + _
          rw [Task.pledge, Task.pledge, isUnended, stillUnended, List.count_append]
          simp only [Bool.false_eq_true, if_false, List.count_append]
          by_cases same : other = id
          · simp [same]
            omega
          · simp [Ne.symm same]
  · rw [if_neg unended]
    exact told

/-- A task is made for a driver, and its first turn is asked for. -/
theorem install [DecidableEq Driver] (orderly : world.Orderly acting) (driver : Driver)
    (body : Program Store Driver Procedure Answer) :
    (world.install driver body).Orderly acting := by
  refine orderly.of_append rfl rfl rfl ?_ ?_ rfl
  · intro other
    show (world.queue ++ [Turn.run world.tasks.length]).count (Turn.run other) + _ = _
    rw [List.count_append]
    by_cases same : other = world.tasks.length
    · simp [same]
      omega
    · simp [same, Ne.symm same]
  · intro other
    show (world.queue ++ [Turn.run world.tasks.length]).count (Turn.joined other) = _
    simp

theorem displace (orderly : world.Orderly acting) (driver : Driver) (asking : TaskId) :
    (world.displace driver asking).Orderly acting := by
  simp only [World.displace]
  split
  · split
    · exact orderly
    · exact orderly.cancelTask _
  · exact orderly

end Orderly

/-! ## Every step -/

/-- Every task is called as often as it is owed. -/
def Balanced (world : World Store Driver Procedure Answer) : Prop :=
  world.Orderly world.running

/-- After a turn nobody acts. -/
theorem Orderly.yieldTurn (orderly : world.Orderly none) : world.yieldTurn.Balanced :=
  orderly.of_same rfl rfl rfl

theorem Orderly.balanced (orderly : world.Orderly acting) (running : world.running = acting) :
    world.Balanced := by
  rw [Balanced, running]
  exact orderly

@[simp] theorem running_displace (driver : Driver) (asking : TaskId) :
    (world.displace driver asking).running = world.running := by
  simp only [displace]
  split
  · split
    · rfl
    · exact running_cancelTask
  · rfl

variable [DecidableEq Driver]

/-- An instruction of the acting task keeps the account. -/
theorem balanced_execute (machine : Machine Store Driver Procedure Answer)
    (orderly : world.Orderly (some id)) (turn : world.running = some id)
    (found : world.tasks[id]? = some task) (program : Program Store Driver Procedure Answer) :
    (world.execute machine id task program).Balanced := by
  have goesOn : ∀ control frames, (world.proceed id control frames).Balanced := by
    intro control frames
    exact (orderly.proceed control frames).balanced turn
  cases program with
  | done answer =>
      simp only [execute]
      split
      · exact (orderly.finish found _).balanced rfl
      · exact goesOn _ _
      · exact goesOn _ _
      · exact goesOn _ _
  | fail fault => exact goesOn _ _
  | look choose => exact goesOn _ _
  | update change next =>
      have changed : ({ world with store := change world.store } :
          World Store Driver Procedure Answer).Orderly (some id) := orderly.of_same rfl rfl rfl
      exact (changed.proceed _ _).balanced turn
  | call procedure next => exact goesOn _ _
  | check next =>
      simp only [execute]
      split
      · exact goesOn _ _
      · exact goesOn _ _
  | revoke next =>
      have revoked : ∀ driver, ((world.revoke driver).proceed id (.run next) task.frames).Balanced := by
        intro driver
        exact ((orderly.setHolding _ _).proceed _ _).balanced turn
      simp only [execute]
      split
      · split
        · exact revoked _
        · exact goesOn _ _
      · exact goesOn _ _
  | pause duration next =>
      simp only [execute]
      split
      · exact ((orderly.proceed _ _).sleep machine duration).balanced rfl
      · exact goesOn _ _
  | spawn driver body next =>
      exact (((orderly.displace driver id).install driver body).proceed _ _).balanced
        ((running_displace driver id).trans turn)
  | cancel driver next =>
      have taken : ((world.setHolding driver { slot := none, live := none }).proceed id (.run next)
          task.frames).Orderly (some id) := (orderly.setHolding driver _).proceed _ _
      simp only [execute]
      split
      · exact taken.balanced turn
      · split
        · exact taken.balanced turn
        · exact ((taken.cancelTask _).join _).yieldTurn
  | settle drivers remaining next =>
      cases remaining with
      | nil =>
          simp only [execute]
          split
          · exact goesOn _ _
          · exact goesOn _ _
      | cons driver remaining =>
          simp only [execute]
          split
          · split
            · exact (orderly.join _).yieldTurn
            · exact goesOn _ _
          · exact goesOn _ _
  | guard body next => exact goesOn _ _
  | ensure body cleanup next => exact goesOn _ _

omit [DecidableEq Driver] in
/-- A signal on its way out keeps the account. -/
theorem balanced_unwind (orderly : world.Orderly (some id)) (turn : world.running = some id)
    (found : world.tasks[id]? = some task) (signal : Signal) :
    (world.unwind id task signal).Balanced := by
  have goesOn : ∀ control frames, (world.proceed id control frames).Balanced := by
    intro control frames
    exact (orderly.proceed control frames).balanced turn
  simp only [unwind]
  split
  · cases signal <;> exact (orderly.finish found _).balanced rfl
  · split <;> exact goesOn _ _
  · exact goesOn _ _
  · exact goesOn _ _

/-- No step loses a call, and none calls a task twice. -/
theorem Balanced.step (machine : Machine Store Driver Procedure Answer) (balanced : world.Balanced) :
    (world.step machine).Balanced := by
  cases turn : world.running with
  | some id =>
      have orderly : world.Orderly (some id) := by
        rw [← turn]
        exact balanced
      obtain ⟨task, found, -⟩ := orderly.acts
      simp only [World.step, turn, found]
      split
      · exact balanced_execute machine orderly turn found _
      · exact balanced_unwind orderly turn found _
  | none =>
      have orderly : world.Orderly none := by
        rw [← turn]
        exact balanced
      cases queued : world.queue with
      | nil =>
          rw [step_of_isIdle machine (by simp [isIdle, turn, queued])]
          exact balanced
      | cons next queue =>
          cases next with
          | run id =>
              have stepped : world.step machine =
                  ({ world with queue := queue } : World Store Driver Procedure Answer).beginTurn id := by
                simp only [World.step, turn, queued]
              have taken : ({ world with queue := queue, running := some id } :
                  World Store Driver Procedure Answer).Orderly (some id) :=
                (orderly.take_run queued).of_same rfl rfl rfl
              rw [stepped]
              refine (taken.modifyTask id ?_ ?_).balanced rfl
              · intro task
                split <;> rfl
              · intro task
                split <;> rfl
          | joined id =>
              rw [step_joined turn queued]
              refine (orderly.noteJoined queued).balanced ?_
              simp only [noteJoined]
              split <;> exact turn

omit [DecidableEq Driver] in
theorem Balanced.release? {position : Nat} {released : World Store Driver Procedure Answer}
    (balanced : world.Balanced) (oldest : world.release? position = some released) :
    released.Balanced := by
  have orderly := Orderly.release? balanced oldest
  obtain ⟨wait, -, rfl⟩ := release?_eq_some.mp oldest
  exact orderly.balanced rfl

omit [DecidableEq Driver] in
theorem Balanced.begin (balanced : world.Balanced) (noTurn : world.running = none)
    (operation : Program Store Driver Procedure Answer) : (world.begin operation).2.Balanced := by
  rw [Balanced, noTurn] at balanced
  exact (Orderly.begin balanced operation).balanced rfl

omit [DecidableEq Driver] in
theorem running_beginAll (operations : List (Program Store Driver Procedure Answer)) :
    (world.beginAll operations).2.running = world.running := by
  induction operations generalizing world with
  | nil => rfl
  | cons _ _ inductionHypothesis => exact inductionHypothesis

omit [DecidableEq Driver] in
theorem beginAll_eq (operations : List (Program Store Driver Procedure Answer)) :
    (world.beginAll operations).2 =
      { world with
        tasks := world.tasks ++ operations.map (Task.fresh none)
        queue := world.queue ++ (List.range' world.tasks.length operations.length).map Turn.run } := by
  induction operations generalizing world with
  | nil => simp [World.beginAll]
  | cons operation rest inductionHypothesis =>
      simp [World.beginAll, World.enqueue, inductionHypothesis, List.range'_succ]

omit [DecidableEq Driver] in
theorem Balanced.beginAll (balanced : world.Balanced)
    (operations : List (Program Store Driver Procedure Answer)) :
    (world.beginAll operations).2.Balanced :=
  (Orderly.beginAll balanced operations).balanced (running_beginAll operations)

end World

end Playthrough

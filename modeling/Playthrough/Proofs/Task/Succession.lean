import Mathlib.Data.List.Nodup
import Playthrough.Proofs.Task.Decorum

/-!
Contract: how the tasks of a driver follow one another.

Owns: the order in which tasks are about to go on (`World.line`), tasks that are about to end without doing
anything more (`World.CalledOff`), that each task of a driver but its newest is called off and goes before
all later ones (`World.InOrder`), and that every move of a world of decorous tasks keeps this.

Does not own: which programs there are.

A task that takes the place of another one does not wait for it to end. It goes on later, however, so
nobody ever acts for a driver while an earlier task of that driver has not ended.
-/

namespace Playthrough

variable {Store Driver Procedure Answer : Type}

/-- The task that a turn lets go on. -/
def Turn.goesOn? : Turn → Option TaskId
  | .run id => some id
  | .joined _ => none

namespace World

variable {etiquette : Etiquette Store Driver Procedure}
variable {world after : World Store Driver Procedure Answer} {id held other : TaskId}
variable {task : Task Store Driver Procedure Answer} {driver : Driver}

/-! ## The order of turns -/

/-- The tasks that are about to go on, from the one whose turn it is. -/
def line (world : World Store Driver Procedure Answer) : List TaskId :=
  world.running.toList ++ world.queue.filterMap Turn.goesOn?

theorem line_of_running (turn : world.running = some id) :
    world.line = id :: world.queue.filterMap Turn.goesOn? := by
  rw [line, turn]
  rfl

theorem line_of_noTurn (noTurn : world.running = none) :
    world.line = world.queue.filterMap Turn.goesOn? := by
  rw [line, noTurn]
  rfl

theorem count_goesOn (queue : List Turn) (id : TaskId) :
    (queue.filterMap Turn.goesOn?).count id = queue.count (.run id) := by
  induction queue with
  | nil => rfl
  | cons turn queue inductionHypothesis =>
      cases turn with
      | run other => simp [Turn.goesOn?, List.count_cons, inductionHypothesis]
      | joined other =>
          have skipped : (Turn.joined other :: queue).count (.run id) = queue.count (.run id) :=
            List.count_cons_of_ne (by simp)
          rw [skipped]
          exact inductionHypothesis

theorem Balanced.count_line (balanced : world.Balanced) (id : TaskId) :
    world.line.count id = owed world.tasks Status.turns id := by
  rw [← balanced.runs id, line, List.count_append, count_goesOn, Nat.add_comm]
  congr 1
  cases world.running with
  | none => rfl
  | some acting => simp [List.count_singleton]

/-- Nobody is in the line twice. -/
theorem Balanced.nodup_line (balanced : world.Balanced) : world.line.Nodup := by
  refine List.nodup_iff_count_le_one.mpr ?_
  intro id
  rw [balanced.count_line, owed]
  cases world.tasks[id]? with
  | none => exact Nat.zero_le 1
  | some task =>
      simp only
      cases task.status <;> simp [Status.turns]

/-- Whoever is ready is in the line. -/
theorem Balanced.mem_line (balanced : world.Balanced) (found : world.tasks[id]? = some task)
    (ready : task.status = .ready) : id ∈ world.line := by
  refine List.count_pos_iff.mp ?_
  rw [balanced.count_line, owed_of_found found, ready]
  exact Nat.one_pos

/-- Whoever is in the line has not ended. -/
theorem Balanced.unended_of_line (balanced : world.Balanced) (member : id ∈ world.line) :
    world.isUnended id = true := by
  have present : 0 < world.line.count id := List.count_pos_iff.mpr member
  rw [balanced.count_line] at present
  obtain ⟨task, found, ready⟩ := found_of_owed present
  simp [isUnended, found, Task.isEnded, status_eq_ready ready]

/-! ## Tasks that follow one another -/

/-- A task is about to go on and ends then without doing anything more. -/
structure CalledOff (world : World Store Driver Procedure Answer) (id : TaskId) : Prop where
  inLine : id ∈ world.line
  leaves : ∃ task, world.tasks[id]? = some task
    ∧ if world.running = some id then task.Leaves else task.cancelPending = true

/-- Somebody is told when a task ends. -/
def Awaited (world : World Store Driver Procedure Answer) (id : TaskId) : Prop :=
  ∃ task, world.tasks[id]? = some task ∧ task.joiners ≠ []

/-- A task of a driver has not ended. -/
structure Serves (world : World Store Driver Procedure Answer) (driver : Driver) (id : TaskId) : Prop where
  own : world.owners[id]? = some (some driver)
  unended : world.isUnended id = true

/-- A driver holds its newest task, any other one of it is called off and goes before all later ones, and
where a driver holds none somebody is told when its last task ends. -/
structure InOrder (world : World Store Driver Procedure Answer) : Prop where
  newest : ∀ driver held id, (world.holdings driver).slot = some held →
    world.owners[id]? = some (some driver) → id ≤ held
  younger : ∀ driver elder younger, world.Serves driver elder →
    world.owners[younger]? = some (some driver) → elder < younger →
      world.CalledOff elder ∧ [elder, younger].Sublist world.line
  vacant : ∀ driver id, (world.holdings driver).slot = none → world.Serves driver id →
    world.CalledOff id ∧ ∃ last, id ≤ last ∧ world.Serves driver last ∧ world.Awaited last

theorem CalledOff.pending (calledOff : world.CalledOff id) (idle : world.running ≠ some id)
    (found : world.tasks[id]? = some task) : task.cancelPending = true := by
  obtain ⟨same, there, pending⟩ := calledOff.leaves
  rw [found] at there
  cases there
  rwa [if_neg idle] at pending

theorem CalledOff.leaving (calledOff : world.CalledOff id) (turn : world.running = some id)
    (found : world.tasks[id]? = some task) : task.Leaves := by
  obtain ⟨same, there, leaves⟩ := calledOff.leaves
  rw [found] at there
  cases there
  rwa [if_pos turn] at leaves

namespace InOrder

theorem initial (store : Store) : (World.initial store : World Store Driver Procedure Answer).InOrder where
  newest := by
    intro driver held id holding
    cases holding
  younger := by
    intro driver elder younger serves
    cases serves.own
  vacant := by
    intro driver id empty serves
    cases serves.own

/-- A task that a driver holds, or none where it holds none, is its last. -/
theorem calledOff_of_held (inOrder : world.InOrder) (serves : world.Serves driver id)
    (last : ∀ held, (world.holdings driver).slot = some held → world.owners[held]? = some (some driver)
      ∧ (world.isUnended held = true → world.CalledOff held)) : world.CalledOff id := by
  cases slot : (world.holdings driver).slot with
  | none => exact (inOrder.vacant driver id slot serves).1
  | some held =>
      obtain ⟨own, calledOff⟩ := last held slot
      rcases Nat.eq_or_lt_of_le (inOrder.newest driver held id slot serves.own) with rfl | earlier
      · exact calledOff serves.unended
      · exact (inOrder.younger driver id held serves own earlier).1

/-- Nobody acts for a driver while an earlier task of it has not ended. -/
theorem not_acting (inOrder : world.InOrder) (balanced : world.Balanced) (turn : world.running = some id)
    (own : world.owners[id]? = some (some driver)) (serves : world.Serves driver other) : ¬other < id := by
  intro earlier
  have before := (inOrder.younger driver other id serves own earlier).2
  have once := balanced.nodup_line
  rw [line_of_running turn] at before once
  have later := before.of_cons_of_ne (Nat.ne_of_lt earlier)
  exact (List.nodup_cons.mp once).1 (later.subset (by simp))

/-- Whoever is called off stays so, goes on in the same order, and whoever is told of an end still is. -/
theorem of_kept (inOrder : world.InOrder) (balanced : after.Balanced) (owners : after.owners = world.owners)
    (slots : ∀ driver, (after.holdings driver).slot = (world.holdings driver).slot
      ∨ (after.holdings driver).slot = none ∧ ∀ held, (world.holdings driver).slot = some held →
        world.owners[held]? = some (some driver)
          ∧ (after.isUnended held = true → after.CalledOff held ∧ after.Awaited held))
    (unended : ∀ id, after.isUnended id = true → world.isUnended id = true)
    (kept : ∀ driver id, after.Serves driver id → world.CalledOff id →
      after.CalledOff id ∧ ∀ next, [id, next].Sublist world.line → [id, next].Sublist after.line)
    (awaited : ∀ driver id last, id ≤ last → after.Serves driver id → world.Serves driver last →
      world.Awaited last → after.isUnended last = true ∧ after.Awaited last) : after.InOrder := by
  have served : ∀ {driver id}, after.Serves driver id → world.Serves driver id :=
    fun serves => ⟨by rw [← owners]; exact serves.own, unended _ serves.unended⟩
  have younger : ∀ driver elder younger, after.Serves driver elder →
      after.owners[younger]? = some (some driver) → elder < younger →
        after.CalledOff elder ∧ [elder, younger].Sublist after.line := by
    intro driver elder younger serves own earlier
    rw [owners] at own
    obtain ⟨calledOff, inLine⟩ := inOrder.younger driver elder younger (served serves) own earlier
    obtain ⟨still, sameOrder⟩ := kept driver elder serves calledOff
    exact ⟨still, sameOrder _ inLine⟩
  have vacant : ∀ driver id, (world.holdings driver).slot = none → after.Serves driver id →
      after.CalledOff id ∧ ∃ last, id ≤ last ∧ after.Serves driver last ∧ after.Awaited last := by
    intro driver id empty serves
    obtain ⟨calledOff, last, later, serving, told⟩ := inOrder.vacant driver id empty (served serves)
    obtain ⟨goesOn, stillTold⟩ := awaited driver id last later serves serving told
    exact ⟨(kept driver id serves calledOff).1, last, later, ⟨by rw [owners]; exact serving.own, goesOn⟩,
      stillTold⟩
  refine ⟨?_, younger, ?_⟩
  · intro driver held id holding own
    rw [owners] at own
    rcases slots driver with same | ⟨empty, -⟩
    · exact inOrder.newest driver held id (by rw [← same, holding]) own
    · rw [empty] at holding
      cases holding
  · intro driver id empty serves
    rcases slots driver with same | ⟨-, emptied⟩
    · exact vacant driver id (by rw [← same, empty]) serves
    · cases before : (world.holdings driver).slot with
      | none => exact vacant driver id before serves
      | some held =>
          obtain ⟨own, leaves⟩ := emptied held before
          have late := inOrder.newest driver held id before (served serves).own
          rcases Nat.eq_or_lt_of_le late with rfl | earlier
          · obtain ⟨calledOff, told⟩ := leaves serves.unended
            exact ⟨calledOff, id, Nat.le_refl id, serves, told⟩
          · have ownAfter : after.owners[held]? = some (some driver) := by rw [owners]; exact own
            obtain ⟨calledOff, inLine⟩ := younger driver id held serves ownAfter earlier
            have goesOn := balanced.unended_of_line (inLine.subset (by simp : held ∈ [id, held]))
            exact ⟨calledOff, held, late, ⟨ownAfter, goesOn⟩, (leaves goesOn).2⟩

end InOrder

/-- Only tasks and turns tell who is called off. -/
theorem CalledOff.of_same (calledOff : world.CalledOff id) (tasks : after.tasks = world.tasks)
    (line : after.line = world.line) (running : after.running = world.running) : after.CalledOff id where
  inLine := by
    rw [line]
    exact calledOff.inLine
  leaves := by
    rw [tasks, running]
    exact calledOff.leaves

/-- Neither the store nor the clock has to do with the order. -/
theorem InOrder.of_same (inOrder : world.InOrder) (tasks : after.tasks = world.tasks)
    (holdings : after.holdings = world.holdings) (line : after.line = world.line)
    (running : after.running = world.running) : after.InOrder := by
  have owners : after.owners = world.owners := by rw [owners, bare, tasks, ← bare, ← World.owners]
  have unended : ∀ id, after.isUnended id = world.isUnended id := by
    intro id
    simp only [isUnended, tasks]
  have served : ∀ {driver id}, after.Serves driver id → world.Serves driver id :=
    fun serves => ⟨by rw [← owners]; exact serves.own, by rw [← unended]; exact serves.unended⟩
  refine ⟨?_, ?_, ?_⟩
  · rw [holdings, owners]
    exact inOrder.newest
  · intro driver elder younger serves own earlier
    rw [owners] at own
    obtain ⟨calledOff, inLine⟩ := inOrder.younger driver elder younger (served serves) own earlier
    exact ⟨calledOff.of_same tasks line running, by rw [line]; exact inLine⟩
  · intro driver id empty serves
    rw [holdings] at empty
    obtain ⟨calledOff, last, later, serving, told⟩ := inOrder.vacant driver id empty (served serves)
    refine ⟨calledOff.of_same tasks line running, last, later, ⟨?_, ?_⟩, ?_⟩
    · rw [owners]
      exact serving.own
    · rw [unended]
      exact serving.unended
    · rwa [Awaited, tasks]

/-! ## Changes of tasks -/

/-- What a driver's other tasks depend on stays as it was. -/
structure Lasts (task changed : Task Store Driver Procedure Answer) : Prop where
  isEnded : changed.isEnded = task.isEnded
  pending : task.cancelPending = true → changed.cancelPending = true
  joiners : task.joiners ≠ [] → changed.joiners ≠ []

theorem Lasts.refl (task : Task Store Driver Procedure Answer) : Lasts task task :=
  ⟨rfl, fun pending => pending, fun joiners => joiners⟩

theorem Lasts.trans {first second third : Task Store Driver Procedure Answer} (former : Lasts first second)
    (latter : Lasts second third) : Lasts first third where
  isEnded := latter.isEnded.trans former.isEnded
  pending pending := latter.pending (former.pending pending)
  joiners joiners := latter.joiners (former.joiners joiners)

theorem Lasts.ite {changed : Task Store Driver Procedure Answer} {changes : Prop} [Decidable changes]
    (lasts : changes → Lasts task changed) : Lasts task (if changes then changed else task) := by
  split
  · next holds => exact lasts holds
  · exact .refl task

section Changes

variable {change : TaskId → Task Store Driver Procedure Answer → Task Store Driver Procedure Answer}

theorem found_of_change (tasks : ∀ other, after.tasks[other]? = world.tasks[other]?.map (change other))
    (found : world.tasks[id]? = some task) : after.tasks[id]? = some (change id task) := by
  rw [tasks, found]
  rfl

theorem owners_of_change (tasks : ∀ other, after.tasks[other]? = world.tasks[other]?.map (change other))
    (same : ∀ other task, (change other task).owner = task.owner) : after.owners = world.owners := by
  apply List.ext_getElem?
  intro other
  simp only [owners, bare, List.getElem?_map, tasks, Option.map_map]
  cases world.tasks[other]? with
  | none => rfl
  | some task => exact congrArg some (same other task)

theorem isUnended_of_change (tasks : ∀ other, after.tasks[other]? = world.tasks[other]?.map (change other))
    (lasts : ∀ task, world.tasks[id]? = some task → Lasts task (change id task)) :
    after.isUnended id = world.isUnended id := by
  simp only [isUnended, tasks]
  cases found : world.tasks[id]? with
  | none => rfl
  | some task => simp only [Option.map_some, (lasts task found).isEnded]

theorem Awaited.of_change (awaited : world.Awaited id)
    (tasks : ∀ other, after.tasks[other]? = world.tasks[other]?.map (change other))
    (lasts : ∀ task, world.tasks[id]? = some task → task.joiners ≠ [] → (change id task).joiners ≠ []) :
    after.Awaited id := by
  obtain ⟨task, found, told⟩ := awaited
  exact ⟨_, found_of_change tasks found, lasts task found told⟩

/-- Within a turn, or between two turns. -/
theorem CalledOff.of_change (calledOff : world.CalledOff id)
    (tasks : ∀ other, after.tasks[other]? = world.tasks[other]?.map (change other))
    (lasts : ∀ task, world.tasks[id]? = some task → Lasts task (change id task))
    (leaves : ∀ task, world.tasks[id]? = some task → world.running = some id → task.Leaves →
      (change id task).Leaves)
    (inLine : id ∈ after.line) (turn : after.running = some id ↔ world.running = some id) :
    after.CalledOff id := by
  obtain ⟨task, found, before⟩ := calledOff.leaves
  refine ⟨inLine, _, found_of_change tasks found, ?_⟩
  by_cases acting : world.running = some id
  · rw [if_pos acting] at before
    rw [if_pos (turn.mpr acting)]
    exact leaves task found acting before
  · rw [if_neg acting] at before
    rw [if_neg (mt turn.mp acting)]
    exact (lasts task found).pending before

theorem goesOn_joined (joiners : List TaskId) :
    (joiners.map Turn.joined).filterMap Turn.goesOn? = [] := by
  induction joiners with
  | nil => rfl
  | cons joiner joiners inductionHypothesis => exact inductionHypothesis

theorem line_enqueue (turn : Turn) : (world.enqueue turn).line = world.line ++ turn.goesOn?.toList := by
  simp only [line, enqueue, List.filterMap_append, List.append_assoc]
  cases turn <;> rfl

namespace InOrder

/-- Tasks change while nobody's turn begins or ends. -/
theorem of_change (inOrder : world.InOrder) (balanced : after.Balanced)
    (tasks : ∀ other, after.tasks[other]? = world.tasks[other]?.map (change other))
    (holdings : after.holdings = world.holdings) (running : after.running = world.running)
    (line : world.line.Sublist after.line)
    (owner : ∀ other task, (change other task).owner = task.owner)
    (lasts : ∀ other task, world.tasks[other]? = some task → Lasts task (change other task))
    (leaves : ∀ other task, world.tasks[other]? = some task → world.running = some other → task.Leaves →
      (change other task).Leaves) : after.InOrder := by
  have sameUnended : ∀ other, after.isUnended other = world.isUnended other := fun other =>
    isUnended_of_change tasks (lasts other)
  refine inOrder.of_kept balanced (owners_of_change tasks owner) ?_ ?_ ?_ ?_
  · intro driver
    rw [holdings]
    exact .inl rfl
  · intro other unended
    rwa [← sameUnended]
  · intro driver other serves calledOff
    refine ⟨?_, fun next inLine => inLine.trans line⟩
    refine calledOff.of_change tasks (lasts other) (leaves other)
      (line.subset calledOff.inLine) ?_
    rw [running]
  · intro driver other last later serves serving told
    rw [sameUnended]
    exact ⟨serving.unended, told.of_change tasks fun task found => (lasts last task found).joiners⟩

/-- The acting task ends its turn, and others change at most. -/
theorem of_turn (inOrder : world.InOrder) (before : world.Balanced) (balanced : after.Balanced)
    (turn : world.running = some id) (noTurn : after.running = none)
    (tasks : ∀ other, after.tasks[other]? = world.tasks[other]?.map (change other))
    (slots : ∀ driver, (after.holdings driver).slot = (world.holdings driver).slot)
    (line : after.line = world.queue.filterMap Turn.goesOn?)
    (owner : ∀ other task, (change other task).owner = task.owner)
    (lasts : ∀ other task, other ≠ id → world.tasks[other]? = some task → Lasts task (change other task))
    (ends : after.isUnended id = true → world.isUnended id = true)
    (stays : ∀ driver, after.Serves driver id → ¬world.CalledOff id)
    (told : ∀ driver, after.Serves driver id → world.Awaited id → after.Awaited id) :
    after.InOrder := by
  have sameOwners := owners_of_change tasks owner
  have unended : ∀ other, after.isUnended other = true → world.isUnended other = true := by
    intro other unended
    by_cases same : other = id
    · subst same
      exact ends unended
    · rwa [← isUnended_of_change tasks fun task => lasts other task same]
  refine inOrder.of_kept balanced sameOwners (fun driver => .inl (slots driver)) unended ?_ ?_
  · intro driver other serves calledOff
    have different : other ≠ id := by
      rintro rfl
      exact stays driver serves calledOff
    have goesOn : ∀ next, [other, next].Sublist world.line → [other, next].Sublist after.line := by
      intro next inLine
      rw [line_of_running turn] at inLine
      rw [line]
      exact inLine.of_cons_of_ne different
    have inLine : other ∈ after.line := by
      have member := calledOff.inLine
      rw [line_of_running turn] at member
      rw [line]
      exact (List.mem_cons.mp member).resolve_left different
    refine ⟨calledOff.of_change tasks (fun task => lasts other task different) ?_ inLine ?_, goesOn⟩
    · intro task found acting
      rw [turn] at acting
      exact absurd (Option.some.inj acting).symm different
    · rw [noTurn, turn]
      exact ⟨nofun, fun same => absurd (Option.some.inj same).symm different⟩
  · intro driver other last later serves serving awaited
    by_cases same : last = id
    · subst same
      by_cases goesOn : after.isUnended last = true
      · have still : after.Serves driver last := ⟨by rw [sameOwners]; exact serving.own, goesOn⟩
        exact ⟨goesOn, told driver still awaited⟩
      · -- whoever comes before it has ended already
        have different : other ≠ last := by
          rintro rfl
          exact goesOn serves.unended
        have served : world.Serves driver other :=
          ⟨by rw [← sameOwners]; exact serves.own, unended other serves.unended⟩
        exact absurd (Nat.lt_of_le_of_ne later different)
          (inOrder.not_acting before turn serving.own served)
    · rw [isUnended_of_change tasks fun task => lasts last task same]
      exact ⟨serving.unended, awaited.of_change tasks fun task found =>
        (lasts last task same found).joiners⟩

end InOrder

end Changes

/-! ## In a turn -/

/-- One task changes. -/
theorem tasks_modifyTask (world : World Store Driver Procedure Answer) (id : TaskId)
    (change : Task Store Driver Procedure Answer → Task Store Driver Procedure Answer) (other : TaskId) :
    (world.modifyTask id change).tasks[other]? =
      world.tasks[other]?.map fun task => if id = other then change task else task := by
  rw [modifyTask, List.getElem?_modify]
  rfl

/-- Two tasks change, one after the other. -/
theorem tasks_modifyTask_twice (world : World Store Driver Procedure Answer) (id held : TaskId)
    (first second : Task Store Driver Procedure Answer → Task Store Driver Procedure Answer)
    (other : TaskId) : ((world.modifyTask id first).modifyTask held second).tasks[other]? =
      world.tasks[other]?.map fun task =>
        (fun task => if held = other then second task else task) (if id = other then first task else task) := by
  rw [tasks_modifyTask, tasks_modifyTask, Option.map_map]
  rfl

/-- The task that joins waits, and the one that is joined knows whom to tell, unless it has ended. -/
theorem tasks_join (world : World Store Driver Procedure Answer) (id held other : TaskId) :
    (world.join id held).tasks[other]? = world.tasks[other]?.map fun task =>
      (fun task => if held = other ∧ (world.modifyTask id fun task =>
          { task with status := .joining 1 }).isUnended held = true
        then { task with joiners := task.joiners ++ [id] } else task)
      (if id = other then { task with status := .joining 1 } else task) := by
  simp only [World.join]
  split
  · next unended =>
      rw [tasks_modifyTask_twice]
      simp only [unended, and_true]
  · next ended =>
      simp only [ended, Bool.false_eq_true, and_false, if_false]
      exact tasks_modifyTask _ _ _ other

theorem lasts_join (different : other ≠ id) (task : Task Store Driver Procedure Answer) :
    Lasts task ((fun task => if held = other ∧ (world.modifyTask id fun task =>
        { task with status := .joining 1 }).isUnended held = true
      then { task with joiners := task.joiners ++ [id] } else task)
    (if id = other then { task with status := .joining 1 } else task)) := by
  refine (Lasts.ite fun same => absurd same.symm different).trans (.ite fun _ => ?_)
  exact ⟨rfl, fun pending => pending, fun _ => by simp⟩

theorem line_join : (world.join id held).yieldTurn.line = world.queue.filterMap Turn.goesOn? := by
  rw [line_of_noTurn rfl]
  simp only [World.join]
  split
  · rfl
  · show (world.queue ++ [Turn.joined id]).filterMap Turn.goesOn? = _
    rw [List.filterMap_append]
    exact List.append_nil _

/-- A task that is cancelled learns of it, and nothing else changes. -/
theorem changes_cancelTask (world : World Store Driver Procedure Answer) (held : TaskId) :
    ∃ change : TaskId → Task Store Driver Procedure Answer → Task Store Driver Procedure Answer,
      (∀ other, (world.cancelTask held).tasks[other]? = world.tasks[other]?.map (change other))
        ∧ (∀ other task, (change other task).bare = task.bare)
        ∧ ∀ other task, world.tasks[other]? = some task → Lasts task (change other task) := by
  have marks : ∀ task : Task Store Driver Procedure Answer,
      Lasts task { task with cancelPending := true } :=
    fun task => ⟨rfl, fun _ => rfl, fun joiners => joiners⟩
  have unchanged : ∃ change : TaskId → Task Store Driver Procedure Answer →
      Task Store Driver Procedure Answer,
      (∀ other, world.tasks[other]? = world.tasks[other]?.map (change other))
        ∧ (∀ other task, (change other task).bare = task.bare)
        ∧ ∀ other task, world.tasks[other]? = some task → Lasts task (change other task) :=
    ⟨fun _ task => task, fun _ => by simp, fun _ _ => rfl, fun _ task _ => .refl task⟩
  simp only [World.cancelTask]
  cases found : world.tasks[held]? with
  | none => exact unchanged
  | some task =>
      cases status : task.status with
      | ended outcome => simpa only [status] using unchanged
      | sleeping =>
          simp only [status]
          refine ⟨_, tasks_modifyTask_twice (world.dropWait held) held held _ _, ?_, ?_⟩
          · intro other task
            dsimp only
            split <;> rfl
          · intro other task there
            refine (Lasts.ite fun _ => marks task).trans (.ite ?_)
            rintro rfl
            rw [found] at there
            cases there
            simp only [if_true]
            exact ⟨by simp [Task.isEnded, status], fun pending => pending, fun joiners => joiners⟩
      | ready =>
          simp only [status]
          refine ⟨_, tasks_modifyTask _ _ _, ?_, fun other task _ => .ite fun _ => marks task⟩
          intro other task
          split <;> rfl
      | joining count =>
          simp only [status]
          refine ⟨_, tasks_modifyTask _ _ _, ?_, fun other task _ => .ite fun _ => marks task⟩
          intro other task
          split <;> rfl

theorem line_cancelTask : world.line.Sublist (world.cancelTask held).line := by
  simp only [World.cancelTask]
  split
  · exact List.Sublist.refl _
  · split
    · exact List.Sublist.refl _
    · rw [World.wake, line_enqueue]
      exact List.sublist_append_left _ _
    · exact List.Sublist.refl _

namespace InOrder

theorem proceed {control : Control Store Driver Procedure Answer}
    {frames : List (Frame Store Driver Procedure Answer)} (inOrder : world.InOrder)
    (balanced : world.Balanced) (leaves : ∀ task, world.tasks[id]? = some task → task.Leaves →
      (task.on control frames).Leaves) : (world.proceed id control frames).InOrder := by
  refine inOrder.of_change (Orderly.proceed balanced control frames) (tasks_modifyTask _ _ _) rfl rfl
    (List.Sublist.refl _) ?_ (fun other task _ => .ite fun _ => ⟨rfl, fun pending => pending, fun joiners => joiners⟩) ?_
  · intro other task
    split <;> rfl
  · intro other task found acting leaving
    split
    · next same =>
        subst same
        exact leaves task found leaving
    · exact leaving

theorem finish {outcome : Outcome Answer} (inOrder : world.InOrder) (balanced : world.Balanced)
    (turn : world.running = some id) (found : world.tasks[id]? = some task) :
    (world.finish id task.joiners outcome).InOrder := by
  have orderly : world.Orderly (some id) := by
    rw [← turn]
    exact balanced
  have ended : (world.finish id task.joiners outcome).isUnended id = false := by
    simp [World.finish, isUnended, yieldTurn, modifyTask, found, Task.isEnded]
  refine inOrder.of_turn balanced ((orderly.finish found outcome).balanced rfl) turn rfl
    (tasks_modifyTask _ _ _) (fun _ => rfl) ?_ ?_ ?_ ?_ ?_ ?_
  · rw [line_of_noTurn rfl]
    show (world.queue ++ task.joiners.map Turn.joined).filterMap Turn.goesOn? = _
    rw [List.filterMap_append, goesOn_joined, List.append_nil]
  · intro other task
    split <;> rfl
  · exact fun other task different _ => .ite fun same => absurd same.symm different
  · intro unended
    rw [ended] at unended
    cases unended
  · intro driver serves
    have unended := serves.unended
    rw [ended] at unended
    cases unended
  · intro driver serves
    have unended := serves.unended
    rw [ended] at unended
    cases unended

theorem sleep {machine : Machine Store Driver Procedure Answer} {duration : Duration}
    (inOrder : world.InOrder) (balanced : world.Balanced) (turn : world.running = some id)
    (stays : ∀ task, world.tasks[id]? = some task → ¬task.Leaves) :
    (world.sleep machine id duration).InOrder := by
  have orderly : world.Orderly (some id) := by
    rw [← turn]
    exact balanced
  obtain ⟨task, found, ready⟩ := orderly.acts
  refine inOrder.of_turn balanced ((orderly.sleep machine duration).balanced rfl) turn rfl
    (tasks_modifyTask _ _ _) (fun _ => rfl) (line_of_noTurn rfl) ?_ ?_ ?_ ?_ ?_
  · intro other task
    split <;> rfl
  · exact fun other task different _ => .ite fun same => absurd same.symm different
  · intro unended
    simp [isUnended, found, Task.isEnded, ready]
  · intro driver serves calledOff
    exact stays task found (calledOff.leaving turn found)
  · intro driver serves told
    exact told.of_change (tasks_modifyTask _ _ _) fun task _ joiners => by split <;> exact joiners

/-- An operation joins another task. -/
theorem join (inOrder : world.InOrder) (balanced : world.Balanced) (turn : world.running = some id)
    (outside : world.owners[id]? = some none) : (world.join id held).yieldTurn.InOrder := by
  have orderly : world.Orderly (some id) := by
    rw [← turn]
    exact balanced
  obtain ⟨task, found, ready⟩ := orderly.acts
  have notServing : ∀ {driver}, ¬(world.join id held).yieldTurn.Serves driver id := by
    intro driver serves
    have own := serves.own
    rw [owners_of_bare (bare_yieldTurn.trans bare_join), outside] at own
    cases own
  refine inOrder.of_turn balanced (orderly.join held).yieldTurn turn rfl (tasks_join world id held)
    (fun driver => by rw [World.yieldTurn, holdings_join]) line_join ?_ ?_ ?_
    (fun _ serves => absurd serves notServing) (fun _ serves => absurd serves notServing)
  · intro other task
    dsimp only
    split <;> split <;> rfl
  · exact fun other task different _ => lasts_join different task
  · intro _
    simp [isUnended, found, Task.isEnded, ready]

/-- A task is cancelled. -/
theorem cancelTask (inOrder : world.InOrder) (balanced : world.Balanced) :
    (world.cancelTask held).InOrder := by
  obtain ⟨change, tasks, bare, lasts⟩ := changes_cancelTask world held
  have cancelled : (world.cancelTask held).Balanced :=
    (Orderly.cancelTask balanced held).balanced running_cancelTask
  refine inOrder.of_change cancelled tasks holdings_cancelTask running_cancelTask line_cancelTask ?_ lasts ?_
  · intro other task
    have same := congrArg Task.owner (bare other task)
    exact same
  · intro other task _ _ leaves
    have leaving : task.bare.Leaves := leaves
    rw [← bare other task] at leaving
    exact leaving

end InOrder

/-- A driver's task that is cancelled is called off. -/
theorem calledOff_cancelTask (balanced : world.Balanced) (decorous : world.Decorous etiquette)
    (own : world.owners[held]? = some (some driver)) (idle : world.running ≠ some held)
    (unended : (world.cancelTask held).isUnended held = true) : (world.cancelTask held).CalledOff held := by
  have cancelled : (world.cancelTask held).Balanced :=
    (Orderly.cancelTask balanced held).balanced running_cancelTask
  have still : (world.cancelTask held).running ≠ some held := by rwa [running_cancelTask]
  have steady : ∀ task ∈ (world.cancelTask held).tasks, task.Steady := (decorous.cancelTask own).steady
  simp only [World.cancelTask] at cancelled unended still steady ⊢
  cases found : world.tasks[held]? with
  | none => simp [found, isUnended] at unended
  | some task =>
      rw [owner_of_found found, Option.some.injEq] at own
      cases status : task.status with
      | ended outcome => simp [found, status, isUnended, Task.isEnded] at unended
      | joining count =>
          have free := decorous.steady task (List.mem_of_getElem? found)
          simp only [Task.Steady, own] at free
          exact absurd status (free count)
      | ready =>
          simp only [found, status] at cancelled still ⊢
          have marked := tasks_modifyTask world held (fun task => { task with cancelPending := true }) held
          rw [found, Option.map_some, if_pos rfl] at marked
          exact ⟨cancelled.mem_line marked status, _, marked, by rw [if_neg still]⟩
      | sleeping =>
          simp only [found, status] at cancelled still ⊢
          have woken := tasks_modifyTask_twice (world.dropWait held) held held
            (fun task => { task with cancelPending := true }) (fun task => { task with status := .ready })
            held
          have there : (world.dropWait held).tasks[held]? = some task := found
          simp only [there, Option.map_some, if_true] at woken
          exact ⟨cancelled.mem_line woken rfl, _, woken, by rw [if_neg still]⟩

/-- Whoever is joined stays called off, and there is somebody to be told. -/
theorem calledOff_join (calledOff : world.CalledOff held) (turn : world.running = some id)
    (unended : world.isUnended held = true) (different : held ≠ id) :
    (world.join id held).yieldTurn.CalledOff held ∧ (world.join id held).yieldTurn.Awaited held := by
  obtain ⟨task, found, -⟩ := calledOff.leaves
  have elsewhere : world.running ≠ some held := by
    rw [turn]
    exact fun same => different (Option.some.inj same).symm
  refine ⟨calledOff.of_change (tasks_join world id held) (fun task _ => lasts_join different task) ?_ ?_ ?_,
    ?_⟩
  · exact fun _ _ acting => absurd acting elsewhere
  · have member := calledOff.inLine
    rw [line_of_running turn] at member
    rw [line_join]
    exact (List.mem_cons.mp member).resolve_left different
  · exact ⟨nofun, fun acting => absurd acting elsewhere⟩
  · have goesOn : (world.modifyTask id fun task => { task with status := .joining 1 }).isUnended held =
        true := by
      rw [isUnended_of_change (tasks_modifyTask _ _ _) fun _ _ =>
        .ite fun same => absurd same.symm different]
      exact unended
    refine ⟨_, found_of_change (tasks_join world id held) found, ?_⟩
    simp only [goesOn, and_self, if_true]
    exact List.append_ne_nil_of_right_ne_nil _ nofun

theorem InOrder.displace (inOrder : world.InOrder) (balanced : world.Balanced) :
    (world.displace driver id).InOrder := by
  simp only [World.displace]
  split
  · split
    · exact inOrder
    · exact inOrder.cancelTask balanced
  · exact inOrder

theorem holdings_displace : (world.displace driver id).holdings = world.holdings := by
  simp only [displace]
  split
  · split
    · rfl
    · exact holdings_cancelTask
  · rfl

/-- Whoever gives a driver a new task calls off the one before it. -/
theorem calledOff_displace (balanced : world.Balanced) (decorous : world.Decorous etiquette)
    (turn : world.running = some id) (outside : world.owners[id]? ≠ some (some driver)) :
    ∀ held, ((world.displace driver id).holdings driver).slot = some held →
      (world.displace driver id).owners[held]? = some (some driver)
        ∧ ((world.displace driver id).isUnended held = true → (world.displace driver id).CalledOff held) := by
  intro held holding
  rw [holdings_displace] at holding
  have own := decorous.slots driver held holding
  have different : held ≠ id := by
    rintro rfl
    exact outside own
  rw [owners_of_bare (bare_displace driver)]
  simp only [displace, holding, different, if_false]
  refine ⟨own, calledOff_cancelTask balanced decorous own ?_⟩
  rw [turn]
  exact fun same => different (Option.some.inj same).symm

theorem isUnended_beginTurn : (world.beginTurn id).isUnended other = world.isUnended other := by
  simp only [isUnended, beginTurn, tasks_modifyTask]
  cases world.tasks[other]? with
  | none => rfl
  | some task =>
      simp only [Option.map_some]
      split
      · split <;> rfl
      · rfl

namespace InOrder

/-- A driver's slot is emptied. -/
theorem vacate [DecidableEq Driver] (inOrder : world.InOrder) (balanced : world.Balanced)
    (leaves : ∀ held, (world.holdings driver).slot = some held → world.owners[held]? = some (some driver)
      ∧ (world.isUnended held = true → world.CalledOff held ∧ world.Awaited held)) :
    (world.setHolding driver { slot := none, live := none }).InOrder := by
  refine inOrder.of_kept (Orderly.setHolding balanced driver _) rfl ?_ (fun _ unended => unended)
    (fun _ _ _ calledOff => ⟨calledOff.of_same rfl rfl rfl, fun _ inLine => inLine⟩)
    (fun _ _ _ _ _ serving told => ⟨serving.unended, told⟩)
  intro other
  by_cases same : other = driver
  · subst same
    refine .inr ⟨by rw [holdings_setHolding_self], ?_⟩
    intro held holding
    obtain ⟨own, calledOff⟩ := leaves held holding
    exact ⟨own, fun unended => ⟨(calledOff unended).1.of_same rfl rfl rfl, (calledOff unended).2⟩⟩
  · exact .inl (by rw [holdings_setHolding_of_ne _ _ same])

/-- A driver gets a new task. -/
theorem install [DecidableEq Driver] {body : Program Store Driver Procedure Answer}
    (inOrder : world.InOrder)
    (leaves : ∀ held, (world.holdings driver).slot = some held → world.owners[held]? = some (some driver)
      ∧ (world.isUnended held = true → world.CalledOff held)) : (world.install driver body).InOrder := by
  have lineAfter : (world.install driver body).line = world.line ++ [world.tasks.length] :=
    line_enqueue (.run world.tasks.length)
  have foundAfter : ∀ {id}, id < world.tasks.length →
      (world.install driver body).tasks[id]? = world.tasks[id]? := fun inside =>
    List.getElem?_append_left inside
  have ownAfter : ∀ {id} {other : Driver}, (world.install driver body).owners[id]? = some (some other) →
      world.owners[id]? = some (some other) ∧ id < world.tasks.length
        ∨ id = world.tasks.length ∧ other = driver := by
    intro id other own
    rw [Decorous.owners_install, List.getElem?_append] at own
    split at own
    · next inside =>
        rw [length_owners] at inside
        exact .inl ⟨own, inside⟩
    · next outside =>
        rw [length_owners] at outside own
        have new := List.mem_singleton.mp (List.mem_of_getElem? own)
        obtain ⟨last, -⟩ := List.getElem?_eq_some_iff.mp own
        rw [List.length_singleton] at last
        exact .inr ⟨by omega, by simpa using new⟩
  have servesBefore : ∀ {other : Driver} {id}, id < world.tasks.length →
      (world.install driver body).Serves other id → world.Serves other id := by
    intro other id inside serves
    refine ⟨?_, ?_⟩
    · rcases ownAfter serves.own with ⟨own, -⟩ | ⟨new, -⟩
      · exact own
      · omega
    · have unended := serves.unended
      rwa [isUnended, foundAfter inside] at unended
  have goesOn : ∀ {id}, id < world.tasks.length → world.isUnended id = true →
      (world.install driver body).isUnended id = true := by
    intro id inside unended
    rwa [isUnended, foundAfter inside]
  have stillCalledOff : ∀ {id}, world.CalledOff id → (world.install driver body).CalledOff id := by
    intro id calledOff
    obtain ⟨task, found, leaves⟩ := calledOff.leaves
    refine ⟨by rw [lineAfter]; exact List.mem_append_left _ calledOff.inLine, task, ?_, leaves⟩
    rw [foundAfter (List.getElem?_eq_some_iff.mp found).1, found]
  refine ⟨?_, ?_, ?_⟩
  · intro other held id holding own
    simp only [World.install, enqueue, World.setHolding] at holding
    split at holding
    · cases holding
      rcases ownAfter own with ⟨-, inside⟩ | ⟨new, -⟩
      · exact Nat.le_of_lt inside
      · exact Nat.le_of_eq new
    · next different =>
        rcases ownAfter own with ⟨own, -⟩ | ⟨-, same⟩
        · exact inOrder.newest other held id holding own
        · exact absurd same different
  · intro other elder younger serves own earlier
    rcases ownAfter own with ⟨own, inside⟩ | ⟨rfl, rfl⟩
    · have served := servesBefore (Nat.lt_trans earlier inside) serves
      obtain ⟨calledOff, inLine⟩ := inOrder.younger other elder younger served own earlier
      exact ⟨stillCalledOff calledOff, by rw [lineAfter]; exact inLine.trans (List.sublist_append_left _ _)⟩
    · have calledOff := inOrder.calledOff_of_held (servesBefore earlier serves) leaves
      refine ⟨stillCalledOff calledOff, ?_⟩
      rw [lineAfter]
      exact (List.singleton_sublist.mpr calledOff.inLine).append (List.Sublist.refl _)
  · intro other id empty serves
    simp only [World.install, enqueue, World.setHolding] at empty
    split at empty
    · cases empty
    · next different =>
        rcases ownAfter serves.own with ⟨-, inside⟩ | ⟨-, same⟩
        · obtain ⟨calledOff, last, later, serving, task, found, told⟩ :=
            inOrder.vacant other id empty (servesBefore inside serves)
          have lastInside : last < world.tasks.length := (List.getElem?_eq_some_iff.mp found).1
          refine ⟨stillCalledOff calledOff, last, later, ⟨?_, goesOn lastInside serving.unended⟩, task, ?_, told⟩
          · rw [Decorous.owners_install, List.getElem?_append_left (by rwa [length_owners])]
            exact serving.own
          · rw [foundAfter lastInside, found]
        · exact absurd same different

/-- The turn of a task begins. -/
theorem beginTurn {queue : List Turn} (inOrder : world.InOrder) (noTurn : world.running = none)
    (queued : world.queue = .run id :: queue)
    (balanced : (({ world with queue := queue } : World Store Driver Procedure Answer).beginTurn id).Balanced) :
    (({ world with queue := queue } : World Store Driver Procedure Answer).beginTurn id).InOrder := by
  have sameLine : (({ world with queue := queue } : World Store Driver Procedure Answer).beginTurn id).line =
      world.line := by
    rw [line_of_noTurn noTurn, queued, line_of_running rfl]
    rfl
  have tasks := tasks_modifyTask ({ world with queue := queue, running := some id }) id fun task =>
    if task.cancelPending then { task with control := .unwind .cancelled, cancelPending := false } else task
  refine inOrder.of_kept balanced Decorous.owners_beginTurn (fun _ => .inl rfl) ?_ ?_ ?_
  · intro other unended
    rwa [isUnended_beginTurn] at unended
  · intro driver other serves calledOff
    refine ⟨?_, fun next inLine => by rwa [sameLine]⟩
    obtain ⟨task, found, -⟩ := calledOff.leaves
    have pending := calledOff.pending (by simp [noTurn]) found
    refine ⟨by rw [sameLine]; exact calledOff.inLine, _, found_of_change tasks found, ?_⟩
    by_cases same : id = other
    · subst same
      have acting : (({ world with queue := queue } : World Store Driver Procedure Answer).beginTurn
          id).running = some id := rfl
      rw [if_pos acting, if_pos rfl, if_pos pending]
      exact trivial
    · have idle : (({ world with queue := queue } : World Store Driver Procedure Answer).beginTurn
          id).running ≠ some other := fun acting => same (Option.some.inj acting)
      rw [if_neg idle, if_neg same]
      exact pending
  · intro driver other last later serves serving told
    refine ⟨by rw [isUnended_beginTurn]; exact serving.unended, told.of_change tasks ?_⟩
    intro task found joiners
    split
    · split <;> exact joiners
    · exact joiners

/-- A task that waits is woken. -/
theorem wake (inOrder : world.InOrder) (balanced : (world.wake id).Balanced)
    (waits : ∀ task, world.tasks[id]? = some task → task.isEnded = false) : (world.wake id).InOrder := by
  refine inOrder.of_change balanced (tasks_modifyTask _ _ _) rfl rfl ?_ ?_ ?_ ?_
  · rw [World.wake, line_enqueue]
    exact List.sublist_append_left _ _
  · intro other task
    split <;> rfl
  · intro other task found
    refine .ite ?_
    rintro rfl
    exact ⟨by rw [waits task found]; rfl, fun pending => pending, fun joiners => joiners⟩
  · intro other task _ _ leaves
    split <;> exact leaves

/-- A task learns that one that it joins has ended. -/
theorem noteJoined (inOrder : world.InOrder) (balanced : (world.noteJoined id).Balanced) :
    (world.noteJoined id).InOrder := by
  simp only [World.noteJoined] at balanced ⊢
  split at balanced
  · next found =>
      refine inOrder.of_change balanced (tasks_modifyTask _ _ _) rfl rfl (List.Sublist.refl _) ?_ ?_ ?_
      · intro other task
        split <;> rfl
      · intro other task there
        refine .ite ?_
        rintro rfl
        rw [found] at there
        cases there
        exact ⟨rfl, fun pending => pending, fun joiners => joiners⟩
      · intro other task _ _ leaves
        split <;> exact leaves
  · next found =>
      refine inOrder.wake balanced ?_
      intro task there
      rw [found] at there
      cases there
      rfl
  · exact inOrder

/-- A wait ends. -/
theorem release? {position : Nat} {released : World Store Driver Procedure Answer}
    (inOrder : world.InOrder) (balanced : world.Balanced)
    (wait : world.release? position = some released) : released.InOrder := by
  have releasedBalanced := balanced.release? wait
  obtain ⟨held, found, rfl⟩ := release?_eq_some.mp wait
  obtain ⟨task, there, sleeping⟩ := balanced.sleeping_of_wait (List.mem_of_getElem? found)
  have left : ({ world with waits := world.waits.eraseIdx position } :
      World Store Driver Procedure Answer).InOrder := inOrder.of_same rfl rfl rfl rfl
  refine left.wake releasedBalanced ?_
  intro same again
  rw [show ({ world with waits := world.waits.eraseIdx position } :
    World Store Driver Procedure Answer).tasks = world.tasks from rfl, there] at again
  cases again
  simp [Task.isEnded, sleeping]

/-- An operation begins. -/
theorem begin {operation : Program Store Driver Procedure Answer} (inOrder : world.InOrder)
    (noTurn : world.running = none) : (world.begin operation).2.InOrder := by
  have lineAfter : (world.begin operation).2.line = world.tasks.length :: world.line := by
    rw [line_of_running rfl, line_of_noTurn noTurn]
    rfl
  have ownersAfter : (world.begin operation).2.owners = world.owners ++ [none] := by
    simp [owners, bare, World.begin, Task.fresh, Task.bare]
  have foundAfter : ∀ {id}, id < world.tasks.length →
      (world.begin operation).2.tasks[id]? = world.tasks[id]? := fun inside =>
    List.getElem?_append_left inside
  have ownBefore : ∀ {id} {driver : Driver}, (world.begin operation).2.owners[id]? = some (some driver) →
      world.owners[id]? = some (some driver) ∧ id < world.tasks.length := by
    intro id driver own
    rw [ownersAfter, List.getElem?_append] at own
    split at own
    · next inside =>
        rw [length_owners] at inside
        exact ⟨own, inside⟩
    · cases List.mem_singleton.mp (List.mem_of_getElem? own)
  have servesBefore : ∀ {driver : Driver} {id}, (world.begin operation).2.Serves driver id →
      world.Serves driver id := by
    intro driver id serves
    obtain ⟨own, inside⟩ := ownBefore serves.own
    have unended := serves.unended
    rw [isUnended, foundAfter inside] at unended
    exact ⟨own, unended⟩
  have stillCalledOff : ∀ {id}, world.CalledOff id → (world.begin operation).2.CalledOff id := by
    intro id calledOff
    obtain ⟨task, found, -⟩ := calledOff.leaves
    have pending := calledOff.pending (by simp [noTurn]) found
    have inside : id < world.tasks.length := (List.getElem?_eq_some_iff.mp found).1
    have idle : (world.begin operation).2.running ≠ some id := by
      intro acting
      exact Nat.ne_of_lt inside (Option.some.inj acting).symm
    refine ⟨by rw [lineAfter]; exact List.mem_cons_of_mem _ calledOff.inLine, task, ?_, ?_⟩
    · rw [foundAfter inside, found]
    · rw [if_neg idle]
      exact pending
  refine ⟨?_, ?_, ?_⟩
  · intro driver held id holding own
    exact inOrder.newest driver held id holding (ownBefore own).1
  · intro driver elder younger serves own earlier
    obtain ⟨calledOff, inLine⟩ :=
      inOrder.younger driver elder younger (servesBefore serves) (ownBefore own).1 earlier
    refine ⟨stillCalledOff calledOff, ?_⟩
    rw [lineAfter]
    exact inLine.trans (List.sublist_cons_self _ _)
  · intro driver id empty serves
    obtain ⟨calledOff, last, later, serving, task, found, told⟩ :=
      inOrder.vacant driver id empty (servesBefore serves)
    have inside : last < world.tasks.length := (List.getElem?_eq_some_iff.mp found).1
    refine ⟨stillCalledOff calledOff, last, later, ⟨?_, ?_⟩, task, ?_, told⟩
    · rw [ownersAfter, List.getElem?_append_left (by rwa [length_owners])]
      exact serving.own
    · have unended := serving.unended
      rwa [isUnended, foundAfter inside]
    · rw [foundAfter inside, found]

section Steps

variable [DecidableEq Driver] {machine : Machine Store Driver Procedure Answer}

theorem setHolding_proceed (holding : Holding) (control : Control Store Driver Procedure Answer)
    (frames : List (Frame Store Driver Procedure Answer)) :
    (world.proceed id control frames).setHolding driver holding =
      (world.setHolding driver holding).proceed id control frames := rfl

theorem setHolding_cancelTask (holding : Holding) :
    (world.setHolding driver holding).cancelTask held =
      (world.cancelTask held).setHolding driver holding := by
  simp only [World.cancelTask]
  cases found : world.tasks[held]? with
  | none => simp only [setHolding, found]
  | some task =>
      simp only [setHolding, found]
      cases task.status <;> rfl

theorem setHolding_join (holding : Holding) :
    ((world.setHolding driver holding).join id held).yieldTurn =
      (world.join id held).yieldTurn.setHolding driver holding := by
  have same : ((world.setHolding driver holding).modifyTask id fun task =>
      { task with status := .joining 1 }).isUnended held =
        (world.modifyTask id fun task => { task with status := .joining 1 }).isUnended held := rfl
  simp only [World.join, same]
  split <;> rfl

/-- No step brings the tasks of a driver out of order. -/
theorem of_advances (inOrder : world.InOrder) (balanced : world.Balanced)
    (decorous : world.Decorous etiquette) (advances : Advances etiquette machine world after)
    (balancedAfter : after.Balanced) : after.InOrder := by
  have proceeds : ∀ {changed : World Store Driver Procedure Answer} {id : TaskId}
      {task : Task Store Driver Procedure Answer} {control : Control Store Driver Procedure Answer},
      changed.InOrder → changed.Balanced → changed.bare[id]? = some task.bare → ¬task.Leaves →
      (changed.proceed id control task.frames).InOrder := by
    intro changed id task control inOrder balanced found stays
    refine inOrder.proceed balanced ?_
    intro same there leaves
    rw [bare, List.getElem?_map, there, Option.map_some, Option.some.injEq] at found
    have leaving : same.bare.Leaves := leaves
    rw [found] at leaving
    exact absurd leaving stays
  cases advances with
  | rests => exact inOrder
  | @goesOn id task store control frames turn found writes onward leaves =>
      have changed : ({ world with store := store } : World Store Driver Procedure Answer).InOrder :=
        inOrder.of_same rfl rfl rfl rfl
      refine changed.proceed (Orderly.of_same balanced rfl rfl rfl) ?_
      intro same there
      have before : world.tasks[id]? = some same := there
      rw [found] at before
      cases before
      exact leaves
  | ends turn found => exact inOrder.finish balanced turn found
  | @sleeps id task duration next turn found owned onward stays =>
      refine (proceeds inOrder balanced (bare_of_found found) stays).sleep (Orderly.proceed balanced _ _) turn ?_
      intro same there
      rw [World.proceed, tasks_modifyTask, found, Option.map_some, if_pos rfl] at there
      cases there
      exact Task.not_leaves rfl (by rintro ⟨⟩) (by rintro _ ⟨⟩)
  | @hands id task driver body control turn found allowed new onward stays =>
      have outside : world.owners[id]? ≠ some (some driver) := by
        rw [owner_of_found found]
        intro own
        rw [Option.some.inj own] at allowed
        exact etiquette.hands_other driver allowed
      have displaced : (world.displace driver id).Balanced :=
        (Orderly.displace balanced driver id).balanced (running_displace driver id)
      have installed : ((world.displace driver id).install driver body).InOrder :=
        (inOrder.displace balanced).install (calledOff_displace balanced decorous turn outside)
      refine proceeds installed ((Orderly.install displaced driver body).balanced rfl) ?_ stays
      rw [bare_install, bare_displace]
      exact (List.getElem?_append_left (by
        rw [bare, List.length_map]; exact (List.getElem?_eq_some_iff.mp found).1)).trans (bare_of_found found)
  | passes turn found outside empty onward stays =>
      refine proceeds (inOrder.vacate balanced ?_) (Orderly.setHolding balanced _ _)
        (bare_of_found found) stays
      intro held holding
      rw [empty] at holding
      cases holding
  | @cancels id held task driver control turn found outside holding onward stays =>
      have own := decorous.slots driver held holding
      have different : held ≠ id := by
        rintro rfl
        rw [owner_of_found found, outside] at own
        cases own
      have sameOwners : (world.proceed id control task.frames).owners = world.owners :=
        owners_proceed control task.frames
      have proceeded : (world.proceed id control task.frames).InOrder :=
        proceeds inOrder balanced (bare_of_found found) stays
      have proceededBalanced : (world.proceed id control task.frames).Balanced :=
        Orderly.proceed balanced control task.frames
      have proceededDecorous : (world.proceed id control task.frames).Decorous etiquette :=
        decorous.proceed (owner_of_found found) onward.control onward.frames
      have cancelled : ((world.proceed id control task.frames).cancelTask held).Balanced :=
        (Orderly.cancelTask proceededBalanced held).balanced running_cancelTask
      have sameTurn : ((world.proceed id control task.frames).cancelTask held).running = some id :=
        running_cancelTask.trans turn
      have outsider : ((world.proceed id control task.frames).cancelTask held).owners[id]? = some none := by
        rw [owners_of_bare bare_cancelTask, sameOwners, owner_of_found found, outside]
      have joined : (((world.proceed id control task.frames).cancelTask held).join id
          held).yieldTurn.InOrder :=
        (proceeded.cancelTask proceededBalanced).join cancelled sameTurn outsider
      have orderly : ((world.proceed id control task.frames).cancelTask held).Orderly (some id) := by
        rw [← sameTurn]
        exact cancelled
      rw [← setHolding_proceed, setHolding_cancelTask, setHolding_join]
      refine joined.vacate (orderly.join held).yieldTurn ?_
      intro other holds
      have same : other = held := by
        rw [World.yieldTurn, holdings_join, holdings_cancelTask] at holds
        have before : (world.holdings driver).slot = some other := holds
        rw [holding] at before
        exact (Option.some.inj before).symm
      subst same
      refine ⟨?_, ?_⟩
      · rw [owners_of_bare (bare_yieldTurn.trans (bare_join.trans bare_cancelTask)), sameOwners]
        exact own
      · intro unended
        have before : ((world.proceed id control task.frames).cancelTask other).isUnended other = true := by
          have kept := isUnended_of_change (tasks_join ((world.proceed id control task.frames).cancelTask
            other) id other) fun task _ => lasts_join different task
          rwa [← kept]
        have idle : (world.proceed id control task.frames).running ≠ some other := by
          intro acting
          exact different (Option.some.inj (acting.symm.trans turn))
        have calledOff := calledOff_cancelTask proceededBalanced proceededDecorous
          (by rw [sameOwners]; exact own) idle before
        exact calledOff_join calledOff sameTurn before different
  | joins turn found outside holding =>
      exact inOrder.join balanced turn (by rw [owner_of_found found, outside])
  | takes noTurn queued => exact inOrder.beginTurn noTurn queued balancedAfter
  | @learns id queue noTurn queued =>
      have before : world.line = queue.filterMap Turn.goesOn? := by
        rw [line_of_noTurn noTurn, queued]
        rfl
      have taken : ({ world with queue := queue } : World Store Driver Procedure Answer).InOrder :=
        inOrder.of_same rfl rfl (Eq.trans (by exact line_of_noTurn noTurn) before.symm) rfl
      exact taken.noteJoined balancedAfter

end Steps

end InOrder

end World

end Playthrough

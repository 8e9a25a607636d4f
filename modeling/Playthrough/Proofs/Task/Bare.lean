import Playthrough.Proofs.Task.Tickets

/-!
Contract: what tasks are about to do, whatever others do to them.

Owns: tasks without their status, their joiners and the cancellations that wait for them
(`World.bare`), what each change of a world leaves of these, and the instruction that is carried out
next.

Does not own: which programs there are.
-/

namespace Playthrough

variable {Store Driver Procedure Answer : Type}

/-! ## What tasks are about to do -/

/-- A task without what others have done to it. -/
def Task.bare (task : Task Store Driver Procedure Answer) : Task Store Driver Procedure Answer :=
  { task with status := .ready, cancelPending := false, joiners := [] }

namespace World

variable {world : World Store Driver Procedure Answer} {id held : TaskId}
variable {task : Task Store Driver Procedure Answer} {acting : Option TaskId}

/-- What the tasks of a world are about to do. -/
def bare (world : World Store Driver Procedure Answer) : List (Task Store Driver Procedure Answer) :=
  world.tasks.map Task.bare

/-- Who made the tasks of a world. -/
def owners (world : World Store Driver Procedure Answer) : List (Option Driver) :=
  world.bare.map Task.owner

/-- The instruction that is carried out next, with the task that it belongs to. -/
def instruction? (world : World Store Driver Procedure Answer) :
    Option (TaskId × Program Store Driver Procedure Answer) :=
  world.running.bind fun id =>
    world.tasks[id]?.bind fun task =>
      match task.control with
      | .run program => some (id, program)
      | .unwind _ => none

theorem acting_of_instruction? {program : Program Store Driver Procedure Answer}
    (called : world.instruction? = some (id, program)) :
    ∃ task, world.running = some id ∧ world.tasks[id]? = some task ∧ task.control = .run program := by
  obtain ⟨acting, turn, rest⟩ := Option.bind_eq_some_iff.mp called
  obtain ⟨task, found, last⟩ := Option.bind_eq_some_iff.mp rest
  cases control : task.control with
  | unwind signal => simp [control] at last
  | run instruction =>
      simp only [control, Option.some.injEq, Prod.mk.injEq] at last
      obtain ⟨rfl, rfl⟩ := last
      exact ⟨task, turn, found, control⟩

theorem length_owners : world.owners.length = world.tasks.length := by
  simp [owners, bare]

/-- Changes that others make to a task do not show. -/
theorem bare_modifyTask {change : Task Store Driver Procedure Answer → Task Store Driver Procedure Answer}
    (same : ∀ task, (change task).bare = task.bare) : (world.modifyTask id change).bare = world.bare := by
  apply List.ext_getElem?
  intro place
  simp only [bare, modifyTask, List.getElem?_map, List.getElem?_modify]
  cases world.tasks[place]? with
  | none => simp
  | some task => by_cases here : id = place <;> simp [here, same]

theorem bare_wake : (world.wake id).bare = world.bare :=
  bare_modifyTask fun _ => rfl

theorem bare_cancelTask : (world.cancelTask held).bare = world.bare := by
  simp only [cancelTask]
  split
  · rfl
  · split
    · rfl
    · rw [bare_wake]
      exact bare_modifyTask fun _ => rfl
    · exact bare_modifyTask fun _ => rfl

theorem bare_join : (world.join id held).bare = world.bare := by
  simp only [join]
  split
  · exact (bare_modifyTask (by intro _; rfl)).trans (bare_modifyTask (by intro _; rfl))
  · exact bare_modifyTask fun _ => rfl

theorem bare_displace (driver : Driver) : (world.displace driver id).bare = world.bare := by
  simp only [displace]
  split
  · split
    · rfl
    · exact bare_cancelTask
  · rfl

theorem bare_yieldTurn : world.yieldTurn.bare = world.bare := rfl

theorem bare_finish (joiners : List TaskId) (outcome : Outcome Answer) :
    (world.finish id joiners outcome).bare = world.bare :=
  bare_modifyTask fun _ => rfl

theorem bare_noteJoined : (world.noteJoined id).bare = world.bare := by
  simp only [noteJoined]
  split
  · exact bare_modifyTask fun _ => rfl
  · exact bare_wake
  · rfl

theorem bare_release? {position : Nat} {released : World Store Driver Procedure Answer}
    (wait : world.release? position = some released) : released.bare = world.bare := by
  obtain ⟨wait, -, rfl⟩ := release?_eq_some.mp wait
  exact bare_wake

theorem bare_sleep (machine : Machine Store Driver Procedure Answer) (duration : Duration) :
    (world.sleep machine id duration).bare = world.bare :=
  bare_modifyTask fun _ => rfl

theorem bare_proceed (control : Control Store Driver Procedure Answer)
    (frames : List (Frame Store Driver Procedure Answer)) :
    (world.proceed id control frames).bare =
      world.bare.modify id fun task => task.on control frames := by
  apply List.ext_getElem?
  intro place
  simp only [bare, proceed, modifyTask, List.getElem?_map, List.getElem?_modify]
  cases world.tasks[place]? with
  | none => simp
  | some task => by_cases here : id = place <;> simp [here, Task.bare, Task.on]

theorem bare_install [DecidableEq Driver] (driver : Driver)
    (body : Program Store Driver Procedure Answer) :
    (world.install driver body).bare = world.bare ++ [Task.fresh (some driver) body] := by
  simp only [bare, install, enqueue, setHolding, List.map_append]
  rfl

theorem owners_of_bare {other : World Store Driver Procedure Answer} (same : other.bare = world.bare) :
    other.owners = world.owners := by
  rw [owners, same, owners]

theorem owners_proceed (control : Control Store Driver Procedure Answer)
    (frames : List (Frame Store Driver Procedure Answer)) :
    (world.proceed id control frames).owners = world.owners := by
  apply List.ext_getElem?
  intro place
  simp only [owners, bare_proceed, List.getElem?_map, List.getElem?_modify]
  cases world.bare[place]? with
  | none => simp
  | some task => by_cases here : id = place <;> simp [here]

theorem holdings_join : (world.join id held).holdings = world.holdings := by
  simp only [join]
  split <;> rfl

theorem waits_join : (world.join id held).waits = world.waits := by
  simp only [join]
  split <;> rfl

theorem begun_join : (world.join id held).begun = world.begun := by
  simp only [join]
  split <;> rfl

theorem store_displace (driver : Driver) : (world.displace driver id).store = world.store := by
  simp only [displace]
  split
  · split
    · rfl
    · exact store_cancelTask world _
  · rfl

theorem store_noteJoined : (world.noteJoined id).store = world.store := by
  simp only [noteJoined]
  split <;> rfl

theorem begun_noteJoined : (world.noteJoined id).begun = world.begun := by
  simp only [noteJoined]
  split <;> rfl

theorem holdings_noteJoined : (world.noteJoined id).holdings = world.holdings := by
  simp only [noteJoined]
  split <;> rfl

theorem waits_noteJoined : (world.noteJoined id).waits = world.waits := by
  simp only [noteJoined]
  split <;> rfl

/-- A cancelled task has no wait any more. -/
theorem Orderly.wait_of_cancelTask {wait : Wait} (orderly : world.Orderly acting)
    (member : wait ∈ (world.cancelTask held).waits) : wait ∈ world.waits ∧ wait.task ≠ held := by
  have awake : wait ∈ world.waits → (∀ task, world.tasks[held]? = some task → task.status ≠ .sleeping) →
      wait.task ≠ held := by
    rintro waits others rfl
    obtain ⟨task, found, asleep⟩ := orderly.sleeping_of_wait waits
    exact others task found asleep
  simp only [World.cancelTask] at member
  cases found : world.tasks[held]? with
  | none =>
      simp only [found] at member
      exact ⟨member, awake member (by simp [found])⟩
  | some task =>
      simp only [found] at member
      have only : task.status ≠ .sleeping → ∀ other, world.tasks[held]? = some other →
          other.status ≠ .sleeping := by
        intro status other there
        rw [found] at there
        cases there
        exact status
      cases status : task.status with
      | sleeping =>
          simp only [status] at member
          have kept := List.mem_filter.mp (show wait ∈ world.waits.filter _ from member)
          exact ⟨kept.1, by simpa using kept.2⟩
      | ended outcome =>
          simp only [status] at member
          exact ⟨member, awake member (only (by simp [status]))⟩
      | ready =>
          simp only [status] at member
          exact ⟨member, awake member (only (by simp [status]))⟩
      | joining count =>
          simp only [status] at member
          exact ⟨member, awake member (only (by simp [status]))⟩

/-- The task whose turn it is has no wait. -/
theorem Orderly.ne_of_wait {wait : Wait} (orderly : world.Orderly (some id))
    (member : wait ∈ world.waits) : wait.task ≠ id := by
  rintro rfl
  obtain ⟨task, found, asleep⟩ := orderly.sleeping_of_wait member
  rw [orderly.ready_of_acting found] at asleep
  cases asleep

end World

end Playthrough

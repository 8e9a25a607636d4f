import Playthrough.Proofs.Task.Tickets

/-!
Contract: tasks that cannot fail.

Owns: programs that do not fail in stores of which something holds, and which keep that (`Program.Sturdy`),
worlds of such programs (`World.Sturdy`), and that every move keeps them.

Does not own: which programs there are.

A task fails when a fault has left the last of its frames. Where no program gives up there is no fault, in
whichever order the tasks take turns and whatever they do to one another.
-/

namespace Playthrough

variable {Store Driver Procedure Answer : Type} {kept : Store → Prop}

/-! ## Sturdy programs -/

/-- A program does not fail in stores of which something holds, and keeps that. -/
def Program.Sturdy (kept : Store → Prop) : Program Store Driver Procedure Answer → Prop
  | .done _ => True
  | .fail _ => False
  | .look choose => ∀ store, kept store → (choose store).Sturdy kept
  | .update change next => (∀ store, kept store → kept (change store)) ∧ next.Sturdy kept
  | .call _ next => next.Sturdy kept
  | .check next => next.Sturdy kept
  | .revoke next => next.Sturdy kept
  | .pause _ next => next.Sturdy kept
  | .spawn _ body next => body.Sturdy kept ∧ next.Sturdy kept
  | .cancel _ next => next.Sturdy kept
  | .settle _ _ next => next.Sturdy kept
  | .guard body next => body.Sturdy kept ∧ next.Sturdy kept
  | .ensure body cleanup next => body.Sturdy kept ∧ cleanup.Sturdy kept ∧ next.Sturdy kept

theorem Program.Sturdy.andThen {first second : Program Store Driver Procedure Answer}
    (sturdy : first.Sturdy kept) (goesOn : second.Sturdy kept) : (first.andThen second).Sturdy kept := by
  induction first with
  | done _ => exact goesOn
  | fail _ => exact sturdy.elim
  | look choose inductionHypothesis =>
      exact fun store holds => inductionHypothesis store (sturdy store holds)
  | update _ _ inductionHypothesis => exact ⟨sturdy.1, inductionHypothesis sturdy.2⟩
  | call _ _ inductionHypothesis => exact inductionHypothesis sturdy
  | check _ inductionHypothesis => exact inductionHypothesis sturdy
  | revoke _ inductionHypothesis => exact inductionHypothesis sturdy
  | pause _ _ inductionHypothesis => exact inductionHypothesis sturdy
  | spawn _ _ _ _ inductionHypothesis => exact ⟨sturdy.1, inductionHypothesis sturdy.2⟩
  | cancel _ _ inductionHypothesis => exact inductionHypothesis sturdy
  | settle _ _ _ inductionHypothesis => exact inductionHypothesis sturdy
  | guard _ _ _ inductionHypothesis => exact ⟨sturdy.1, inductionHypothesis sturdy.2⟩
  | ensure _ _ _ _ _ inductionHypothesis =>
      exact ⟨sturdy.1, sturdy.2.1, inductionHypothesis sturdy.2.2⟩

/-- Every program that can be called is sturdy. -/
def Machine.Sturdy (kept : Store → Prop) (machine : Machine Store Driver Procedure Answer) : Prop :=
  ∀ procedure, (machine.body procedure).Sturdy kept

/-! ## Sturdy tasks -/

/-- A signal that is no fault. -/
def Signal.Harmless (signal : Signal) : Prop := ∀ fault, signal ≠ .fault fault

/-- What a task goes on with does not fail. -/
def Control.Sturdy (kept : Store → Prop) : Control Store Driver Procedure Answer → Prop
  | .run program => program.Sturdy kept
  | .unwind signal => signal.Harmless

/-- What is still to be done around a program does not fail. -/
def Frame.Sturdy (kept : Store → Prop) : Frame Store Driver Procedure Answer → Prop
  | .guarded next => next.Sturdy kept
  | .ensured cleanup next => cleanup.Sturdy kept ∧ next.Sturdy kept
  | .resumed signal => signal.Harmless

/-- A task has not failed, and nothing that it has still to do does. -/
structure Task.Sturdy (kept : Store → Prop) (task : Task Store Driver Procedure Answer) : Prop where
  control : task.control.Sturdy kept
  frames : ∀ frame ∈ task.frames, frame.Sturdy kept
  sound : ∀ fault, task.status ≠ .ended (.failed fault)

theorem Task.Sturdy.fresh {program : Program Store Driver Procedure Answer}
    (sturdy : program.Sturdy kept) (owner : Option Driver) : (Task.fresh owner program).Sturdy kept :=
  ⟨sturdy, by simp [Task.fresh], by simp [Task.fresh]⟩

namespace World

variable {world after : World Store Driver Procedure Answer} {id held : TaskId}
variable {task : Task Store Driver Procedure Answer}

/-- Something holds of the store, no task has failed, and none can. -/
structure Sturdy (kept : Store → Prop) (world : World Store Driver Procedure Answer) : Prop where
  store : kept world.store
  tasks : ∀ task ∈ world.tasks, task.Sturdy kept

namespace Sturdy

theorem found (sturdy : world.Sturdy kept) (there : world.tasks[id]? = some task) : task.Sturdy kept :=
  sturdy.tasks task (List.mem_of_getElem? there)

/-- No task has failed. -/
theorem not_failed (sturdy : world.Sturdy kept) (id : TaskId) (fault : Fault) :
    world.outcome? id ≠ some (.failed fault) := by
  intro failed
  obtain ⟨task, there, outcome⟩ := Option.bind_eq_some_iff.mp failed
  cases status : task.status with
  | ended last =>
      simp only [Task.outcome?, status, Option.some.injEq] at outcome
      rw [outcome] at status
      exact (sturdy.found there).sound fault status
  | _ => simp [Task.outcome?, status] at outcome

/-- A world with the same tasks and of whose store the same holds. -/
theorem of_tasks (sturdy : world.Sturdy kept) (tasks : after.tasks = world.tasks) (store : kept after.store) :
    after.Sturdy kept :=
  ⟨store, tasks ▸ sturdy.tasks⟩

theorem modifyTask {change : Task Store Driver Procedure Answer → Task Store Driver Procedure Answer}
    (sturdy : world.Sturdy kept) (own : ∀ task, task.Sturdy kept → (change task).Sturdy kept) :
    (world.modifyTask id change).Sturdy kept := by
  refine ⟨sturdy.store, fun task member => ?_⟩
  obtain ⟨position, there⟩ := List.getElem?_of_mem member
  simp only [World.modifyTask, List.getElem?_modify, Option.map_eq_map, Option.map_eq_some_iff] at there
  obtain ⟨before, found, rfl⟩ := there
  have still := sturdy.found found
  split
  · exact own before still
  · exact still

theorem proceed {control : Control Store Driver Procedure Answer}
    {frames : List (Frame Store Driver Procedure Answer)} (sturdy : world.Sturdy kept)
    (goesOn : control.Sturdy kept) (around : ∀ frame ∈ frames, frame.Sturdy kept) :
    (world.proceed id control frames).Sturdy kept :=
  sturdy.modifyTask fun _ still => ⟨goesOn, around, still.sound⟩

/-- A task goes on in another way, or ends without having failed. -/
theorem restatus {status : Status Answer} (sturdy : world.Sturdy kept)
    (sound : ∀ fault, status ≠ .ended (.failed fault)) :
    (world.modifyTask id fun task => { task with status := status }).Sturdy kept :=
  sturdy.modifyTask fun _ still => ⟨still.control, still.frames, sound⟩

theorem wake (sturdy : world.Sturdy kept) : (world.wake id).Sturdy kept := by
  have ready : (world.modifyTask id fun task => { task with status := .ready }).Sturdy kept :=
    sturdy.restatus fun _ impossible => by cases impossible
  exact ready.of_tasks rfl ready.store

theorem cancelTask (sturdy : world.Sturdy kept) : (world.cancelTask held).Sturdy kept := by
  have marks : ∀ {marked : World Store Driver Procedure Answer}, marked.Sturdy kept →
      (marked.modifyTask held fun task => { task with cancelPending := true }).Sturdy kept :=
    fun still => still.modifyTask fun _ still => ⟨still.control, still.frames, still.sound⟩
  simp only [World.cancelTask]
  split
  · exact sturdy
  · split
    · exact sturdy
    · have dropped : (world.dropWait held).Sturdy kept := sturdy.of_tasks rfl sturdy.store
      exact (marks dropped).wake
    · exact marks sturdy

theorem join (sturdy : world.Sturdy kept) : (world.join id held).Sturdy kept := by
  have waiting : (world.modifyTask id fun task => { task with status := .joining 1 }).Sturdy kept :=
    sturdy.restatus fun _ impossible => by cases impossible
  simp only [World.join]
  split
  · exact waiting.modifyTask fun _ still => ⟨still.control, still.frames, still.sound⟩
  · exact waiting.of_tasks rfl sturdy.store

theorem displace (sturdy : world.Sturdy kept) (driver : Driver) : (world.displace driver id).Sturdy kept := by
  simp only [World.displace]
  split
  · split
    · exact sturdy
    · exact sturdy.cancelTask
  · exact sturdy

/-- A task is added. -/
theorem append (sturdy : world.Sturdy kept) (new : task.Sturdy kept) (store : after.store = world.store)
    (tasks : after.tasks = world.tasks ++ [task]) : after.Sturdy kept := by
  refine ⟨store ▸ sturdy.store, fun other member => ?_⟩
  rw [tasks, List.mem_append, List.mem_singleton] at member
  rcases member with earlier | rfl
  · exact sturdy.tasks other earlier
  · exact new

theorem finish {outcome : Outcome Answer} (sturdy : world.Sturdy kept) (joiners : List TaskId)
    (sound : ∀ fault, outcome ≠ .failed fault) : (world.finish id joiners outcome).Sturdy kept := by
  have ended : (world.modifyTask id fun task => { task with status := .ended outcome }).Sturdy kept :=
    sturdy.restatus fun fault failed => sound fault (Status.ended.inj failed)
  exact ended.of_tasks rfl sturdy.store

/-- A signal that is no fault is still none on its way out. -/
theorem unwind {signal : Signal} (sturdy : world.Sturdy kept) (acting : task.Sturdy kept)
    (harmless : signal.Harmless) : (world.unwind id task signal).Sturdy kept := by
  simp only [World.unwind]
  cases around : task.frames with
  | nil =>
      cases signal with
      | cancelled => exact sturdy.finish _ fun _ impossible => by cases impossible
      | superseded => exact sturdy.finish _ fun _ impossible => by cases impossible
      | fault fault => exact absurd rfl (harmless fault)
  | cons frame rest =>
      have frames := acting.frames
      rw [around] at frames
      obtain ⟨inner, outer⟩ := List.forall_mem_cons.mp frames
      cases frame with
      | resumed _ => exact sturdy.proceed harmless outer
      | guarded next =>
          simp only
          split
          · exact sturdy.proceed inner outer
          · exact sturdy.proceed harmless outer
      | ensured cleanup next =>
          exact sturdy.proceed inner.1 (List.forall_mem_cons.mpr ⟨harmless, outer⟩)

theorem beginTurn (sturdy : world.Sturdy kept) : (world.beginTurn id).Sturdy kept := by
  have started : ({ world with running := some id } : World Store Driver Procedure Answer).Sturdy kept :=
    sturdy.of_tasks rfl sturdy.store
  refine started.modifyTask fun task still => ?_
  split
  · exact ⟨nofun, still.frames, still.sound⟩
  · exact still

theorem noteJoined (sturdy : world.Sturdy kept) : (world.noteJoined id).Sturdy kept := by
  simp only [World.noteJoined]
  split
  · exact sturdy.restatus fun _ impossible => by cases impossible
  · exact sturdy.wake
  · exact sturdy

variable [DecidableEq Driver] {machine : Machine Store Driver Procedure Answer}

theorem install {body : Program Store Driver Procedure Answer} (sturdy : world.Sturdy kept) (driver : Driver)
    (new : body.Sturdy kept) : (world.install driver body).Sturdy kept :=
  sturdy.append (Task.Sturdy.fresh new (some driver)) rfl rfl

/-- An instruction of a sturdy program. -/
theorem execute {program : Program Store Driver Procedure Answer} (machineSturdy : machine.Sturdy kept)
    (sturdy : world.Sturdy kept) (acting : task.Sturdy kept) (goesOn : program.Sturdy kept) :
    (world.execute machine id task program).Sturdy kept := by
  have around := acting.frames
  cases program with
  | fail _ => exact goesOn.elim
  | done answer =>
      cases frames : task.frames with
      | nil =>
          simp only [World.execute, frames]
          exact sturdy.finish _ fun _ impossible => by cases impossible
      | cons frame rest =>
          rw [frames] at around
          obtain ⟨inner, outer⟩ := List.forall_mem_cons.mp around
          simp only [World.execute, frames]
          cases frame with
          | guarded next => exact sturdy.proceed inner outer
          | ensured cleanup next => exact sturdy.proceed (inner.1.andThen inner.2) outer
          | resumed signal => exact sturdy.proceed inner outer
  | look choose => exact sturdy.proceed (goesOn _ sturdy.store) around
  | update change next =>
      have changed : ({ world with store := change world.store } :
          World Store Driver Procedure Answer).Sturdy kept :=
        sturdy.of_tasks rfl (goesOn.1 _ sturdy.store)
      exact changed.proceed goesOn.2 around
  | call procedure next => exact sturdy.proceed ((machineSturdy procedure).andThen goesOn) around
  | check next =>
      simp only [World.execute]
      split
      · exact sturdy.proceed goesOn around
      · exact sturdy.proceed (fun _ impossible => by cases impossible) around
  | revoke next =>
      simp only [World.execute]
      refine Sturdy.proceed ?_ goesOn around
      split
      · split
        · exact sturdy.of_tasks rfl sturdy.store
        · exact sturdy
      · exact sturdy
  | pause duration next =>
      simp only [World.execute]
      split
      · have checked : (world.proceed id (.run (.check next)) task.frames).Sturdy kept :=
          sturdy.proceed goesOn around
        have sleeping : ((world.proceed id (.run (.check next)) task.frames).modifyTask id fun task =>
            { task with status := .sleeping }).Sturdy kept :=
          checked.restatus fun _ impossible => by cases impossible
        exact sleeping.of_tasks rfl sleeping.store
      · exact sturdy.proceed (fun _ impossible => by cases impossible) around
  | spawn driver body next => exact ((sturdy.displace driver).install driver goesOn.1).proceed goesOn.2 around
  | cancel driver next =>
      have vacated : (world.setHolding driver { slot := none, live := none }).Sturdy kept :=
        sturdy.of_tasks rfl sturdy.store
      have taken : ((world.setHolding driver { slot := none, live := none }).proceed id (.run next)
          task.frames).Sturdy kept := vacated.proceed goesOn around
      simp only [World.execute]
      split
      · exact taken
      · split
        · exact taken
        · exact taken.cancelTask.join.of_tasks rfl taken.cancelTask.join.store
  | settle drivers remaining next =>
      cases remaining with
      | nil =>
          simp only [World.execute]
          split
          · exact sturdy.proceed goesOn around
          · exact sturdy.proceed goesOn around
      | cons driver remaining =>
          simp only [World.execute]
          split
          · split
            · exact sturdy.join.of_tasks rfl sturdy.join.store
            · exact sturdy.proceed goesOn around
          · exact sturdy.proceed goesOn around
  | guard body next =>
      exact sturdy.proceed goesOn.1 (List.forall_mem_cons.mpr ⟨goesOn.2, around⟩)
  | ensure body cleanup next =>
      exact sturdy.proceed goesOn.1 (List.forall_mem_cons.mpr ⟨goesOn.2, around⟩)

theorem step (machineSturdy : machine.Sturdy kept) (sturdy : world.Sturdy kept) :
    (world.step machine).Sturdy kept := by
  have taken : ∀ queue, ({ world with queue := queue } : World Store Driver Procedure Answer).Sturdy kept :=
    fun _ => sturdy.of_tasks rfl sturdy.store
  simp only [World.step]
  split
  · split
    · exact sturdy.of_tasks rfl sturdy.store
    · next there =>
        have acting := sturdy.found there
        have goesOn := acting.control
        split
        · next running =>
            rw [running] at goesOn
            exact sturdy.execute machineSturdy acting goesOn
        · next unwinding =>
            rw [unwinding] at goesOn
            exact sturdy.unwind acting goesOn
  · split
    · exact sturdy
    · next queue _ =>
        split
        · exact (taken queue).beginTurn
        · exact (taken queue).noteJoined

omit [DecidableEq Driver] in
theorem begin {operation : Program Store Driver Procedure Answer} (sturdy : world.Sturdy kept)
    (new : operation.Sturdy kept) : (world.begin operation).2.Sturdy kept :=
  sturdy.append (Task.Sturdy.fresh new none) rfl rfl

omit [DecidableEq Driver] in
theorem release? {position : Nat} (sturdy : world.Sturdy kept) (wait : world.release? position = some after) :
    after.Sturdy kept := by
  obtain ⟨_, _, rfl⟩ := World.release?_eq_some.mp wait
  exact Sturdy.wake (sturdy.of_tasks rfl sturdy.store)

end Sturdy

end World

end Playthrough

import Playthrough.Proofs.Task.Bare

/-!
Contract: programs that know their place.

Owns: what tasks may do, by who made them (`Etiquette`), programs that do nothing else
(`Program.Decorous`), tasks on their way out (`Task.Leaves`), and everything that a step can be in a world
of such tasks (`World.Advances`).

Does not own: the order in which tasks of a driver follow one another.

Operations from outside wait for tasks and never for the clock, tasks of drivers wait for the clock and
never for tasks. A driver's task has at most one change of the store to clean up after a wait, so a signal
that is on its way out ends the task in the same turn.
-/

namespace Playthrough

variable {Store Driver Procedure Answer : Type}

/-! ## Decorous programs -/

/-- What tasks may do that a driver made, and, where there is none, operations from outside. -/
structure Etiquette (Store Driver Procedure : Type) where
  writes : Option Driver → (Store → Store) → Prop
  calls : Option Driver → Procedure → Prop
  /-- For which drivers tasks may be made. -/
  hands : Option Driver → Driver → Prop
  hands_other : ∀ driver, ¬hands (some driver) driver

variable {etiquette : Etiquette Store Driver Procedure}

/-- A program does what it may do. -/
def Program.Decorous (etiquette : Etiquette Store Driver Procedure) :
    Option Driver → Program Store Driver Procedure Answer → Prop
  | _, .done _ => True
  | _, .fail _ => True
  | owner, .look choose => ∀ store, (choose store).Decorous etiquette owner
  | owner, .update change next => etiquette.writes owner change ∧ next.Decorous etiquette owner
  | owner, .call procedure next => etiquette.calls owner procedure ∧ next.Decorous etiquette owner
  | owner, .check next => next.Decorous etiquette owner
  | _, .revoke _ => False
  | owner, .pause _ next => owner ≠ none ∧ next.Decorous etiquette owner
  | owner, .spawn driver body next => etiquette.hands owner driver
      ∧ body.Decorous etiquette (some driver) ∧ next.Decorous etiquette owner
  | owner, .cancel _ next => owner = none ∧ next.Decorous etiquette owner
  | owner, .settle _ _ next => owner = none ∧ next.Decorous etiquette owner
  | _, .guard _ _ => False
  | owner, .ensure body cleanup next => body.Decorous etiquette owner
      ∧ (∃ change, etiquette.writes owner change ∧ cleanup = .update change .stop)
      ∧ next.Decorous etiquette owner

theorem Program.Decorous.andThen {owner : Option Driver}
    {first second : Program Store Driver Procedure Answer} (decorous : first.Decorous etiquette owner)
    (goesOn : second.Decorous etiquette owner) : (first.andThen second).Decorous etiquette owner := by
  induction first with
  | done _ => exact goesOn
  | fail _ => trivial
  | look _ inductionHypothesis => exact fun store => inductionHypothesis store (decorous store)
  | update _ _ inductionHypothesis => exact ⟨decorous.1, inductionHypothesis decorous.2⟩
  | call _ _ inductionHypothesis => exact ⟨decorous.1, inductionHypothesis decorous.2⟩
  | check _ inductionHypothesis => exact inductionHypothesis decorous
  | revoke _ _ => exact decorous.elim
  | pause _ _ inductionHypothesis => exact ⟨decorous.1, inductionHypothesis decorous.2⟩
  | spawn _ _ _ _ next => exact ⟨decorous.1, decorous.2.1, next decorous.2.2⟩
  | cancel _ _ inductionHypothesis => exact ⟨decorous.1, inductionHypothesis decorous.2⟩
  | settle _ _ _ inductionHypothesis => exact ⟨decorous.1, inductionHypothesis decorous.2⟩
  | guard _ _ _ _ => exact decorous.elim
  | ensure _ _ _ _ _ next => exact ⟨decorous.1, decorous.2.1, next decorous.2.2⟩

/-- What can be called does what whoever calls it may do. -/
def Machine.Decorous (machine : Machine Store Driver Procedure Answer)
    (etiquette : Etiquette Store Driver Procedure) : Prop :=
  ∀ owner procedure, etiquette.calls owner procedure → (machine.body procedure).Decorous etiquette owner

/-! ## Decorous tasks -/

/-- What a task goes on with is decorous. -/
def Control.Decorous (etiquette : Etiquette Store Driver Procedure) (owner : Option Driver) :
    Control Store Driver Procedure Answer → Prop
  | .run program => program.Decorous etiquette owner
  | .unwind _ => True

/-- What is still to be done around a program is decorous. -/
def Frame.Decorous (etiquette : Etiquette Store Driver Procedure) (owner : Option Driver) :
    Frame Store Driver Procedure Answer → Prop
  | .guarded _ => False
  | .ensured cleanup next => (∃ change, etiquette.writes owner change ∧ cleanup = .update change .stop)
      ∧ next.Decorous etiquette owner
  | .resumed _ => True

/-- What a task has still to do is decorous. -/
structure Task.Decorous (etiquette : Etiquette Store Driver Procedure)
    (task : Task Store Driver Procedure Answer) : Prop where
  control : task.control.Decorous etiquette task.owner
  frames : ∀ frame ∈ task.frames, frame.Decorous etiquette task.owner

/-- A signal is on its way out through a task, or what it makes the task clean up. -/
def Task.Leaves (task : Task Store Driver Procedure Answer) : Prop :=
  match task.control with
  | .unwind _ => True
  | .run program => (∃ signal frames, task.frames = .resumed signal :: frames)
      ∧ (program = .stop ∨ ∃ change, program = .update change .stop)

/-- Operations are not cancelled, and tasks of drivers wait for nobody. -/
def Task.Steady (task : Task Store Driver Procedure Answer) : Prop :=
  match task.owner with
  | none => task.cancelPending = false
  | some _ => ∀ count, task.status ≠ .joining count

section Tasks

variable {task : Task Store Driver Procedure Answer}

theorem Task.Decorous.fresh {owner : Option Driver} {program : Program Store Driver Procedure Answer}
    (decorous : program.Decorous etiquette owner) : (Task.fresh owner program).Decorous etiquette :=
  ⟨decorous, by simp [Task.fresh]⟩

theorem Task.Decorous.on (decorous : task.Decorous etiquette)
    {control : Control Store Driver Procedure Answer} (goesOn : control.Decorous etiquette task.owner) :
    (task.on control task.frames).Decorous etiquette :=
  ⟨goesOn, decorous.frames⟩

/-- A task that runs anything else is not on its way out. -/
theorem Task.not_leaves {program : Program Store Driver Procedure Answer}
    (running : task.control = .run program) (goesOn : program ≠ .stop)
    (wide : ∀ change, program ≠ .update change .stop) : ¬task.Leaves := by
  simp only [Task.Leaves, running]
  rintro ⟨-, rfl | ⟨change, rfl⟩⟩
  · exact goesOn rfl
  · exact wide change rfl

theorem Task.Steady.restatus {status : Status Answer} (steady : task.Steady)
    (free : (∀ count, task.status ≠ .joining count) → ∀ count, status ≠ .joining count) :
    ({ task with status := status } : Task Store Driver Procedure Answer).Steady := by
  simp only [Task.Steady] at steady ⊢
  cases own : task.owner with
  | none =>
      rw [own] at steady
      exact steady
  | some driver =>
      rw [own] at steady
      exact free steady

theorem Task.steady_fresh (owner : Option Driver) (program : Program Store Driver Procedure Answer) :
    (Task.fresh owner program).Steady := by
  cases owner with
  | none => rfl
  | some driver => exact fun _ same => nomatch same

end Tasks

namespace World

variable {world after : World Store Driver Procedure Answer} {id held : TaskId}
variable {task : Task Store Driver Procedure Answer} {driver : Driver}

/-- All tasks of a world are decorous, and drivers hold tasks of their own. -/
structure Decorous (etiquette : Etiquette Store Driver Procedure)
    (world : World Store Driver Procedure Answer) : Prop where
  programs : ∀ task ∈ world.bare, task.Decorous etiquette
  steady : ∀ task ∈ world.tasks, task.Steady
  slots : ∀ driver held, (world.holdings driver).slot = some held →
    world.owners[held]? = some (some driver)

theorem bare_of_found (found : world.tasks[id]? = some task) : world.bare[id]? = some task.bare := by
  rw [bare, List.getElem?_map, found]
  rfl

theorem owner_of_found (found : world.tasks[id]? = some task) : world.owners[id]? = some task.owner := by
  simp only [owners, bare, List.getElem?_map, found]
  rfl

theorem Decorous.of_found (decorous : world.Decorous etiquette) (found : world.tasks[id]? = some task) :
    task.Decorous etiquette := by
  have bare : task.bare ∈ world.bare := List.mem_map_of_mem (List.mem_of_getElem? found)
  exact ⟨(decorous.programs _ bare).control, (decorous.programs _ bare).frames⟩

/-! ## Everything that a step can be -/

section Steps

variable [DecidableEq Driver]

/-- What a step can make of a world of decorous tasks. -/
inductive Advances (etiquette : Etiquette Store Driver Procedure)
    (machine : Machine Store Driver Procedure Answer) (world : World Store Driver Procedure Answer) :
    World Store Driver Procedure Answer → Prop where
  /-- Nothing moves. -/
  | rests : Advances etiquette machine world world
  /-- The acting task goes on, perhaps after it has changed the store. -/
  | goesOn {id : TaskId} {task : Task Store Driver Procedure Answer} {store : Store}
      {control : Control Store Driver Procedure Answer}
      {frames : List (Frame Store Driver Procedure Answer)} (turn : world.running = some id)
      (found : world.tasks[id]? = some task)
      (writes : store = world.store
        ∨ ∃ change, etiquette.writes task.owner change ∧ store = change world.store)
      (decorous : (task.on control frames).Decorous etiquette)
      (leaves : task.Leaves → (task.on control frames).Leaves) :
      Advances etiquette machine world ({ world with store := store }.proceed id control frames)
  /-- The acting task ends. -/
  | ends {id : TaskId} {task : Task Store Driver Procedure Answer} {outcome : Outcome Answer}
      (turn : world.running = some id) (found : world.tasks[id]? = some task) :
      Advances etiquette machine world (world.finish id task.joiners outcome)
  /-- A driver's task begins a wait. -/
  | sleeps {id : TaskId} {task : Task Store Driver Procedure Answer} {duration : Duration}
      {next : Program Store Driver Procedure Answer} (turn : world.running = some id)
      (found : world.tasks[id]? = some task) (owned : task.owner ≠ none)
      (decorous : (task.on (.run (.check next)) task.frames).Decorous etiquette)
      (stays : ¬task.Leaves) :
      Advances etiquette machine world
        ((world.proceed id (.run (.check next)) task.frames).sleep machine id duration)
  /-- The acting task makes one for another driver. -/
  | hands {id : TaskId} {task : Task Store Driver Procedure Answer} {driver : Driver}
      {body : Program Store Driver Procedure Answer} {control : Control Store Driver Procedure Answer}
      (turn : world.running = some id) (found : world.tasks[id]? = some task)
      (allowed : etiquette.hands task.owner driver) (new : body.Decorous etiquette (some driver))
      (decorous : (task.on control task.frames).Decorous etiquette) (stays : ¬task.Leaves) :
      Advances etiquette machine world
        (((world.displace driver id).install driver body).proceed id control task.frames)
  /-- An operation finds the slot of a driver empty. -/
  | passes {id : TaskId} {task : Task Store Driver Procedure Answer} {driver : Driver}
      {control : Control Store Driver Procedure Answer} (turn : world.running = some id)
      (found : world.tasks[id]? = some task) (outside : task.owner = none)
      (empty : (world.holdings driver).slot = none)
      (decorous : (task.on control task.frames).Decorous etiquette) (stays : ¬task.Leaves) :
      Advances etiquette machine world
        ((world.setHolding driver { slot := none, live := none }).proceed id control task.frames)
  /-- An operation takes a task from its driver, cancels it and joins it. -/
  | cancels {id held : TaskId} {task : Task Store Driver Procedure Answer} {driver : Driver}
      {control : Control Store Driver Procedure Answer} (turn : world.running = some id)
      (found : world.tasks[id]? = some task) (outside : task.owner = none)
      (holding : (world.holdings driver).slot = some held)
      (decorous : (task.on control task.frames).Decorous etiquette) (stays : ¬task.Leaves) :
      Advances etiquette machine world
        ((((world.setHolding driver { slot := none, live := none }).proceed id control
          task.frames).cancelTask held).join id held).yieldTurn
  /-- An operation joins the task of a driver. -/
  | joins {id held : TaskId} {task : Task Store Driver Procedure Answer} {driver : Driver}
      (turn : world.running = some id) (found : world.tasks[id]? = some task)
      (outside : task.owner = none) (holding : (world.holdings driver).slot = some held) :
      Advances etiquette machine world (world.join id held).yieldTurn
  /-- The turn of a task begins. -/
  | takes {id : TaskId} {queue : List Turn} (noTurn : world.running = none)
      (queued : world.queue = .run id :: queue) :
      Advances etiquette machine world ({ world with queue := queue }.beginTurn id)
  /-- A task learns that one that it joins has ended. -/
  | learns {id : TaskId} {queue : List Turn} (noTurn : world.running = none)
      (queued : world.queue = .joined id :: queue) :
      Advances etiquette machine world ({ world with queue := queue }.noteJoined id)

variable {machine : Machine Store Driver Procedure Answer}

/-- An instruction is one of these. -/
theorem Decorous.advances_execute (decorous : world.Decorous etiquette)
    (machineDecorous : machine.Decorous etiquette) (turn : world.running = some id)
    (found : world.tasks[id]? = some task) {program : Program Store Driver Procedure Answer}
    (running : task.control = .run program) :
    Advances etiquette machine world (world.execute machine id task program) := by
  have acting := decorous.of_found found
  have keeps : program.Decorous etiquette task.owner := by
    have control := acting.control
    rwa [running] at control
  have proceeds : ∀ {control : Control Store Driver Procedure Answer},
      control.Decorous etiquette task.owner → ¬task.Leaves →
      Advances etiquette machine world (world.proceed id control task.frames) :=
    fun control stays => .goesOn turn found (.inl rfl) (acting.on control) fun leaves =>
      absurd leaves stays
  have notOwn : ∀ {driver : Driver}, etiquette.hands task.owner driver → task.owner ≠ some driver := by
    intro driver hands own
    rw [own] at hands
    exact etiquette.hands_other driver hands
  have different : ∀ {driver : Driver} {held : TaskId}, task.owner = none →
      (world.holdings driver).slot = some held → held ≠ id := by
    rintro driver held outside holding rfl
    have own := decorous.slots driver held holding
    rw [owner_of_found found, outside] at own
    cases own
  cases program with
  | done answer =>
      simp only [execute]
      cases around : task.frames with
      | nil => exact .ends turn found
      | cons frame rest =>
          have inner := acting.frames
          rw [around] at inner
          obtain ⟨inner, outer⟩ := List.forall_mem_cons.mp inner
          cases frame with
          | guarded next => exact inner.elim
          | resumed signal => exact .goesOn turn found (.inl rfl) ⟨trivial, outer⟩ fun _ => trivial
          | ensured cleanup next =>
              obtain ⟨⟨change, writes, rfl⟩, next⟩ := inner
              refine .goesOn turn found (.inl rfl) ⟨⟨writes, next⟩, outer⟩ ?_
              -- what is cleaned up after a wait that ended is no way out
              intro leaves
              simp only [Task.Leaves, running, around] at leaves
              obtain ⟨⟨_, _, impossible⟩, -⟩ := leaves
              cases impossible
  | fail fault => exact .goesOn turn found (.inl rfl) (acting.on trivial) fun _ => trivial
  | look choose => exact proceeds (keeps world.store) (Task.not_leaves running (by rintro ⟨⟩) (by rintro _ ⟨⟩))
  | update change next =>
      refine .goesOn turn found (.inr ⟨change, keeps.1, rfl⟩) (acting.on keeps.2) ?_
      intro leaves
      simp only [Task.Leaves, running] at leaves
      obtain ⟨around, impossible | ⟨_, same⟩⟩ := leaves
      · cases impossible
      · cases same
        exact ⟨around, .inl rfl⟩
  | call procedure next =>
      exact proceeds ((machineDecorous _ _ keeps.1).andThen keeps.2)
        (Task.not_leaves running (by rintro ⟨⟩) (by rintro _ ⟨⟩))
  | check next =>
      have stays : ¬task.Leaves := Task.not_leaves running (by rintro ⟨⟩) (by rintro _ ⟨⟩)
      simp only [execute]
      split
      · exact proceeds keeps stays
      · exact proceeds trivial stays
  | revoke next => exact keeps.elim
  | pause duration next =>
      have stays : ¬task.Leaves := Task.not_leaves running (by rintro ⟨⟩) (by rintro _ ⟨⟩)
      simp only [execute]
      split
      · have waits : (Control.run (.check next)).Decorous etiquette task.owner := keeps.2
        exact .sleeps turn found keeps.1 (acting.on waits) stays
      · exact proceeds trivial stays
  | spawn driver body next =>
      have onward : (Control.run next).Decorous etiquette task.owner := keeps.2.2
      exact .hands turn found keeps.1 keeps.2.1 (acting.on onward) (Task.not_leaves running (by rintro ⟨⟩) (by rintro _ ⟨⟩))
  | cancel driver next =>
      have stays : ¬task.Leaves := Task.not_leaves running (by rintro ⟨⟩) (by rintro _ ⟨⟩)
      have onward : (Control.run next).Decorous etiquette task.owner := keeps.2
      simp only [execute]
      cases holding : (world.holdings driver).slot with
      | none => exact .passes turn found keeps.1 holding (acting.on onward) stays
      | some held =>
          simp only [different keeps.1 holding, if_false]
          exact .cancels turn found keeps.1 holding (acting.on onward) stays
  | settle drivers remaining next =>
      have stays : ¬task.Leaves := Task.not_leaves running (by rintro ⟨⟩) (by rintro _ ⟨⟩)
      have again : ∀ others, (Control.run (.settle drivers others next)).Decorous etiquette task.owner :=
        fun _ => keeps
      have onward : (Control.run next).Decorous etiquette task.owner := keeps.2
      cases remaining with
      | nil =>
          simp only [execute]
          split
          · exact proceeds (again _) stays
          · exact proceeds onward stays
      | cons driver remaining =>
          simp only [execute]
          cases holding : (world.holdings driver).slot with
          | none => exact proceeds (again _) stays
          | some held =>
              simp only
              split
              · exact .joins turn found keeps.1 holding
              · exact proceeds (again _) stays
  | guard body next => exact keeps.elim
  | ensure body cleanup next =>
      refine .goesOn turn found (.inl rfl) ⟨keeps.1, ?_⟩ fun leaves =>
        absurd leaves (Task.not_leaves running (by rintro ⟨⟩) (by rintro _ ⟨⟩))
      exact List.forall_mem_cons.mpr ⟨⟨keeps.2.1, keeps.2.2⟩, acting.frames⟩

/-- A step is one of these. -/
theorem Decorous.advances (decorous : world.Decorous etiquette)
    (machineDecorous : machine.Decorous etiquette) (balanced : world.Balanced) :
    Advances etiquette machine world (world.step machine) := by
  cases turn : world.running with
  | some id =>
      have orderly : world.Orderly (some id) := by
        rw [← turn]
        exact balanced
      obtain ⟨task, found, -⟩ := orderly.acts
      have acting := decorous.of_found found
      cases control : task.control with
      | run program =>
          simp only [World.step, turn, found, control]
          exact decorous.advances_execute machineDecorous turn found control
      | unwind signal =>
          simp only [World.step, turn, found, control, unwind]
          cases around : task.frames with
          | nil => cases signal <;> exact .ends turn found
          | cons frame rest =>
              have inner := acting.frames
              rw [around] at inner
              obtain ⟨inner, outer⟩ := List.forall_mem_cons.mp inner
              cases frame with
              | guarded next => exact inner.elim
              | resumed _ => exact .goesOn turn found (.inl rfl) ⟨trivial, outer⟩ fun _ => trivial
              | ensured cleanup next =>
                  obtain ⟨⟨change, writes, rfl⟩, -⟩ := inner
                  refine .goesOn turn found (.inl rfl)
                    ⟨⟨writes, trivial⟩, List.forall_mem_cons.mpr ⟨trivial, outer⟩⟩ ?_
                  exact fun _ => ⟨⟨signal, rest, rfl⟩, .inr ⟨change, rfl⟩⟩
  | none =>
      cases queued : world.queue with
      | nil =>
          simp only [World.step, turn, queued]
          exact .rests
      | cons next queue =>
          cases next with
          | run id =>
              simp only [World.step, turn, queued]
              rw [← turn]
              exact .takes turn queued
          | joined id =>
              simp only [World.step, turn, queued]
              rw [← turn]
              exact .learns turn queued

end Steps

/-! ## Decorum is kept -/

theorem steady_modifyTask {change : Task Store Driver Procedure Answer → Task Store Driver Procedure Answer}
    (steady : ∀ task ∈ world.tasks, task.Steady)
    (keeps : ∀ task, world.tasks[id]? = some task → (change task).Steady) :
    ∀ task ∈ (world.modifyTask id change).tasks, task.Steady := by
  intro task member
  obtain ⟨place, found⟩ := List.getElem?_of_mem member
  simp only [modifyTask, List.getElem?_modify] at found
  by_cases here : id = place
  · subst here
    simp only [if_true, Option.map_eq_map, Option.map_eq_some_iff] at found
    obtain ⟨before, there, rfl⟩ := found
    exact keeps before there
  · simp only [here, if_false, id_map'] at found
    exact steady task (List.mem_of_getElem? found)

namespace Decorous

/-- Changes of neither what the tasks do nor what the drivers hold. -/
theorem of_same (decorous : world.Decorous etiquette) (bare : after.bare = world.bare)
    (steady : ∀ task ∈ after.tasks, task.Steady) (holdings : after.holdings = world.holdings) :
    after.Decorous etiquette where
  programs := by
    rw [bare]
    exact decorous.programs
  steady := steady
  slots := by
    rw [holdings, owners_of_bare bare]
    exact decorous.slots

theorem initial (store : Store) :
    (World.initial store : World Store Driver Procedure Answer).Decorous etiquette :=
  ⟨nofun, nofun, fun _ _ holding => by cases holding⟩

theorem proceed {owner : Option Driver} {control : Control Store Driver Procedure Answer}
    {frames : List (Frame Store Driver Procedure Answer)} (decorous : world.Decorous etiquette)
    (own : world.owners[id]? = some owner) (goesOn : control.Decorous etiquette owner)
    (around : ∀ frame ∈ frames, frame.Decorous etiquette owner) :
    (world.proceed id control frames).Decorous etiquette where
  programs := by
    intro task member
    rw [bare_proceed] at member
    obtain ⟨place, found⟩ := List.getElem?_of_mem member
    rw [List.getElem?_modify] at found
    by_cases here : id = place
    · simp only [here, if_true, Option.map_eq_map, Option.map_eq_some_iff] at found
      obtain ⟨before, there, rfl⟩ := found
      have same : before.owner = owner := by
        rw [owners, List.getElem?_map, here, there] at own
        exact Option.some.inj own
      exact ⟨by rw [← same] at goesOn; exact goesOn, by rw [← same] at around; exact around⟩
    · simp only [here, if_false, id_map'] at found
      exact decorous.programs task (List.mem_of_getElem? found)
  steady := steady_modifyTask decorous.steady fun task found => by
    exact decorous.steady task (List.mem_of_getElem? found)
  slots := by
    rw [owners_proceed]
    exact decorous.slots

/-- A driver's task is cancelled. -/
theorem cancelTask (decorous : world.Decorous etiquette) (own : world.owners[held]? = some (some driver)) :
    (world.cancelTask held).Decorous etiquette := by
  refine decorous.of_same bare_cancelTask ?_ holdings_cancelTask
  have marked : ∀ {before : World Store Driver Procedure Answer}, before.tasks = world.tasks →
      ∀ task ∈ (before.modifyTask held fun task => { task with cancelPending := true }).tasks,
        task.Steady := by
    intro before same
    refine steady_modifyTask (by rw [same]; exact decorous.steady) ?_
    intro task found
    rw [same] at found
    have steady := decorous.steady task (List.mem_of_getElem? found)
    rw [owner_of_found found, Option.some.injEq] at own
    simp only [Task.Steady, own] at steady ⊢
    exact steady
  simp only [World.cancelTask]
  split
  · exact decorous.steady
  · split
    · exact decorous.steady
    · refine steady_modifyTask (marked rfl) ?_
      intro task found
      exact (marked rfl task (List.mem_of_getElem? found)).restatus fun _ => by simp
    · exact marked rfl

theorem displace (decorous : world.Decorous etiquette) (driver : Driver) :
    (world.displace driver id).Decorous etiquette := by
  simp only [World.displace]
  split
  · next holding =>
      split
      · exact decorous
      · exact decorous.cancelTask (decorous.slots _ _ holding)
  · exact decorous

/-- An operation joins another task. -/
theorem join (decorous : world.Decorous etiquette) (outside : world.owners[id]? = some none) :
    (world.join id held).Decorous etiquette := by
  refine decorous.of_same bare_join ?_ holdings_join
  have waiting : ∀ task ∈ (world.modifyTask id fun task => { task with status := .joining 1 }).tasks,
      task.Steady := by
    refine steady_modifyTask decorous.steady ?_
    intro task found
    have steady := decorous.steady task (List.mem_of_getElem? found)
    rw [owner_of_found found, Option.some.injEq] at outside
    simp only [Task.Steady, outside] at steady ⊢
    exact steady
  simp only [World.join]
  split
  · exact steady_modifyTask waiting fun task found => by
      exact waiting task (List.mem_of_getElem? found)
  · exact waiting

/-- A task comes to a status in which it waits for nobody. -/
theorem restatus {status : Status Answer} (decorous : world.Decorous etiquette)
    (free : ∀ count, status ≠ .joining count) :
    (world.modifyTask id fun task => { task with status := status }).Decorous etiquette := by
  refine decorous.of_same (bare_modifyTask fun _ => rfl) ?_ rfl
  exact steady_modifyTask decorous.steady fun task found =>
    (decorous.steady task (List.mem_of_getElem? found)).restatus fun _ => free

theorem wake (decorous : world.Decorous etiquette) : (world.wake id).Decorous etiquette :=
  have ready : (world.modifyTask id fun task => { task with status := .ready }).Decorous etiquette :=
    decorous.restatus fun _ => by simp
  ready.of_same rfl ready.steady rfl

theorem noteJoined (decorous : world.Decorous etiquette) : (world.noteJoined id).Decorous etiquette := by
  simp only [World.noteJoined]
  split
  · next found =>
      refine decorous.of_same (bare_modifyTask fun _ => rfl) ?_ rfl
      refine steady_modifyTask decorous.steady ?_
      intro task there
      rw [found] at there
      cases there
      exact (decorous.steady _ (List.mem_of_getElem? found)).restatus fun free => absurd rfl (free _)
  · exact decorous.wake
  · exact decorous

theorem owners_beginTurn : (world.beginTurn id).owners = world.owners := by
  apply List.ext_getElem?
  intro place
  simp only [owners, bare, World.beginTurn, modifyTask, List.getElem?_map, List.getElem?_modify]
  cases world.tasks[place]? with
  | none => rfl
  | some task =>
      simp only [Option.map_eq_map, Option.map_some]
      split
      · split <;> rfl
      · rfl

theorem beginTurn (decorous : world.Decorous etiquette) : (world.beginTurn id).Decorous etiquette where
  programs := by
    intro task member
    obtain ⟨before, there, rfl⟩ := List.mem_map.mp member
    obtain ⟨place, found⟩ := List.getElem?_of_mem there
    simp only [World.beginTurn, modifyTask, List.getElem?_modify, Option.map_eq_map,
      Option.map_eq_some_iff] at found
    obtain ⟨old, found, rfl⟩ := found
    have kept := decorous.of_found found
    split
    · split
      · exact ⟨trivial, kept.frames⟩
      · exact ⟨kept.control, kept.frames⟩
    · exact ⟨kept.control, kept.frames⟩
  steady := by
    refine steady_modifyTask decorous.steady ?_
    intro task found
    have steady := decorous.steady task (List.mem_of_getElem? found)
    split
    · simp only [Task.Steady] at steady ⊢
      cases own : task.owner with
      | none => trivial
      | some driver =>
          rw [own] at steady
          exact steady
    · exact steady
  slots := by
    rw [owners_beginTurn]
    exact decorous.slots

theorem release? {position : Nat} {released : World Store Driver Procedure Answer}
    (decorous : world.Decorous etiquette) (wait : world.release? position = some released) :
    released.Decorous etiquette := by
  obtain ⟨held, -, rfl⟩ := release?_eq_some.mp wait
  have left : ({ world with waits := world.waits.eraseIdx position } :
      World Store Driver Procedure Answer).Decorous etiquette :=
    decorous.of_same rfl decorous.steady rfl
  exact left.wake

theorem begin {operation : Program Store Driver Procedure Answer} (decorous : world.Decorous etiquette)
    (allowed : operation.Decorous etiquette none) : (world.begin operation).2.Decorous etiquette where
  programs := by
    have added : (world.begin operation).2.bare = world.bare ++ [Task.fresh none operation] :=
      List.map_append
    intro task member
    rw [added, List.mem_append, List.mem_singleton] at member
    rcases member with earlier | rfl
    · exact decorous.programs task earlier
    · exact .fresh allowed
  steady := by
    intro task member
    rcases List.mem_append.mp member with earlier | new
    · exact decorous.steady task earlier
    · rw [List.mem_singleton.mp new]
      exact Task.steady_fresh _ _
  slots := by
    intro driver held holding
    have own := decorous.slots driver held holding
    have added : (world.begin operation).2.owners = world.owners ++ [none] := by
      simp [owners, bare, World.begin, Task.fresh, Task.bare]
    rw [added, List.getElem?_append_left (List.getElem?_eq_some_iff.mp own).1]
    exact own

section Drivers

variable [DecidableEq Driver]

theorem owners_install (driver : Driver) (body : Program Store Driver Procedure Answer) :
    (world.install driver body).owners = world.owners ++ [some driver] := by
  rw [owners, bare_install, List.map_append]
  rfl

theorem install {body : Program Store Driver Procedure Answer} (decorous : world.Decorous etiquette)
    (new : body.Decorous etiquette (some driver)) : (world.install driver body).Decorous etiquette where
  programs := by
    intro task member
    rw [bare_install, List.mem_append, List.mem_singleton] at member
    rcases member with earlier | rfl
    · exact decorous.programs task earlier
    · exact .fresh new
  steady := by
    intro task member
    rcases List.mem_append.mp member with earlier | new
    · exact decorous.steady task earlier
    · rw [List.mem_singleton.mp new]
      exact Task.steady_fresh _ _
  slots := by
    intro other held holding
    rw [owners_install]
    simp only [World.install, enqueue, World.setHolding] at holding
    split at holding
    · next same =>
        cases holding
        rw [← length_owners, List.getElem?_concat_length, same]
    · have own := decorous.slots other held holding
      rw [List.getElem?_append_left (List.getElem?_eq_some_iff.mp own).1]
      exact own

/-- A driver's slot is emptied. -/
theorem vacate (decorous : world.Decorous etiquette) (driver : Driver) :
    (world.setHolding driver { slot := none, live := none }).Decorous etiquette where
  programs := decorous.programs
  steady := decorous.steady
  slots := by
    intro other held holding
    simp only [World.setHolding] at holding
    split at holding
    · cases holding
    · exact decorous.slots other held holding

/-- No step is out of place. -/
theorem of_advances {machine : Machine Store Driver Procedure Answer} (decorous : world.Decorous etiquette)
    (advances : Advances etiquette machine world after) : after.Decorous etiquette := by
  cases advances with
  | rests => exact decorous
  | goesOn turn found writes onward leaves =>
      have changed : ∀ store, ({ world with store := store } :
          World Store Driver Procedure Answer).Decorous etiquette := fun store =>
        decorous.of_same rfl decorous.steady rfl
      exact (changed _).proceed (owner_of_found found) onward.control onward.frames
  | @ends id task outcome turn found =>
      have ended : (world.modifyTask id fun task => { task with status := .ended outcome }).Decorous
          etiquette := decorous.restatus fun _ => by simp
      exact ended.of_same rfl ended.steady rfl
  | @sleeps id task duration next turn found owned onward stays =>
      have proceeds : (world.proceed id (.run (.check next)) task.frames).Decorous etiquette :=
        decorous.proceed (owner_of_found found) onward.control onward.frames
      have asleep : ((world.proceed id (.run (.check next)) task.frames).modifyTask id fun task =>
          { task with status := .sleeping }).Decorous etiquette := proceeds.restatus fun _ => by simp
      exact asleep.of_same rfl asleep.steady rfl
  | @hands id task driver body control turn found allowed new onward stays =>
      have displaced : (world.displace driver id).Decorous etiquette := decorous.displace driver
      refine (displaced.install new).proceed ?_ onward.control onward.frames
      have own := owner_of_found found
      rw [owners_install, owners_of_bare (bare_displace driver),
        List.getElem?_append_left (List.getElem?_eq_some_iff.mp own).1]
      exact own
  | passes turn found outside empty onward stays =>
      exact (decorous.vacate _).proceed (owner_of_found found) onward.control onward.frames
  | @cancels id held task driver control turn found outside holding onward stays =>
      have own := owner_of_found found
      have taken : ((world.setHolding driver { slot := none, live := none }).proceed id control
          task.frames).Decorous etiquette :=
        (decorous.vacate driver).proceed own onward.control onward.frames
      have sameOwners : ((world.setHolding driver { slot := none, live := none }).proceed id control
          task.frames).owners = world.owners := owners_proceed _ _
      have cancelled := taken.cancelTask (by rw [sameOwners]; exact decorous.slots _ _ holding)
      have outsider : (((world.setHolding driver { slot := none, live := none }).proceed id control
          task.frames).cancelTask held).owners[id]? = some none := by
        rw [owners_of_bare bare_cancelTask, sameOwners, own, outside]
      exact (cancelled.join outsider).of_same rfl (cancelled.join outsider).steady rfl
  | @joins id held task driver turn found outside holding =>
      have outsider : world.owners[id]? = some none := by rw [owner_of_found found, outside]
      exact (decorous.join outsider).of_same rfl (decorous.join outsider).steady rfl
  | @takes id queue noTurn queued =>
      have taken : ({ world with queue := queue } : World Store Driver Procedure Answer).Decorous
          etiquette := decorous.of_same rfl decorous.steady rfl
      exact taken.beginTurn
  | @learns id queue noTurn queued =>
      have taken : ({ world with queue := queue } : World Store Driver Procedure Answer).Decorous
          etiquette := decorous.of_same rfl decorous.steady rfl
      exact taken.noteJoined

end Drivers

end Decorous

end World

end Playthrough

import Playthrough.Proofs.Task.Attendance

/-!
Contract: what an operation undertakes to do while others act beside it.

Owns: the terms on which an operation acts (`Pact`), the programs that uphold them whatever others do while
they wait (`Program.Upholds`), the operation that goes on with a program (`World.Asks`), and that an
operation which others leave alone upholds its terms from step to step (`World.Commits`).

Does not own: which terms and which programs there are.

An operation is interrupted only while it waits for tasks of drivers. Whatever it knew of the store before
such a wait is what others leave of it; between two waits it knows the store as it is. What it knows of
drivers is written down in what a pact calls its knowledge.
-/

namespace Playthrough

variable {Store Driver Procedure Answer Knowledge : Type}

/-! ## Terms -/

/-- The terms on which an operation acts. -/
structure Pact (Store Driver Procedure Answer Knowledge : Type) where
  /-- What is true of the store all the time. -/
  sane : Store → Prop
  /-- What others make of the store while the operation waits. -/
  drift : Store → Store → Prop
  /-- What a call makes of knowledge and store. -/
  calls : Procedure → Knowledge → Store → Knowledge → Store → Prop
  /-- To which drivers tasks are given. -/
  lends : Driver → Prop
  /-- What is known after a driver was given a task. -/
  spawned : Driver → Knowledge → Knowledge
  /-- What is known after a driver's task was cancelled. -/
  cancelled : Driver → Knowledge → Knowledge
  /-- With which answers the operation may end. -/
  good : Option Answer → Knowledge → Store → Prop

variable {pact : Pact Store Driver Procedure Answer Knowledge}
variable {known : Knowledge} {store : Store}

/-- A program ends well from here on, whatever others do while it waits. -/
def Program.Upholds (pact : Pact Store Driver Procedure Answer Knowledge) :
    Program Store Driver Procedure Answer → Knowledge → Store → Prop
  | .done answer, known, store => pact.good answer known store
  | .look choose, known, store => (choose store).Upholds pact known store
  | .update change next, known, store =>
      pact.sane (change store) ∧ next.Upholds pact known (change store)
  | .call procedure next, known, store => ∀ later reached, pact.sane reached →
      pact.calls procedure known store later reached → next.Upholds pact later reached
  | .spawn driver _ next, known, store =>
      pact.lends driver ∧ next.Upholds pact (pact.spawned driver known) store
  | .cancel driver next, known, store => ∀ reached, pact.sane reached → pact.drift store reached →
      next.Upholds pact (pact.cancelled driver known) reached
  | .settle _ _ next, known, store => ∀ reached, pact.sane reached → pact.drift store reached →
      next.Upholds pact known reached
  | .fail _, _, _ => False
  | .check _, _, _ => False
  | .revoke _, _, _ => False
  | .pause _ _, _, _ => False
  | .guard _ _, _, _ => False
  | .ensure _ _ _, _, _ => False

/-- What operations may call does what the terms say of it. -/
def Machine.Honours (machine : Machine Store Driver Procedure Answer)
    (etiquette : Etiquette Store Driver Procedure) (pact : Pact Store Driver Procedure Answer Knowledge) :
    Prop :=
  ∀ procedure, etiquette.calls none procedure → ∀ next known store, pact.sane store →
    (Program.call procedure next).Upholds pact known store →
      ((machine.body procedure).andThen next).Upholds pact known store

/-! ## Operations that go on -/

namespace World

variable {world after : World Store Driver Procedure Answer} {id : TaskId}
variable {program next : Program Store Driver Procedure Answer}

/-- An operation goes on with a program. -/
structure Asks (world : World Store Driver Procedure Answer) (id : TaskId)
    (program : Program Store Driver Procedure Answer) : Prop where
  program : world.bare[id]? = some (.fresh none program)
  goesOn : world.isUnended id = true

/-- In its first turn an operation goes on with another program. -/
theorem proceed_begin (world : World Store Driver Procedure Answer)
    (program next : Program Store Driver Procedure Answer) :
    (world.begin program).2.proceed world.tasks.length (.run next) [] = (world.begin next).2 := by
  have modified : (world.tasks ++ [Task.fresh none program]).modify world.tasks.length
      (fun task => { task with control := .run next, frames := [] }) =
        world.tasks ++ [Task.fresh none next] := by
    rw [modify_eq_set List.getElem?_concat_length]
    simp [Task.fresh]
  simp only [World.begin, World.proceed, World.modifyTask, modified]

namespace Asks

theorem found (asks : world.Asks id program) : ∃ task, world.tasks[id]? = some task
    ∧ task.owner = none ∧ task.control = .run program ∧ task.frames = [] := by
  have there := asks.program
  rw [World.bare, List.getElem?_map, Option.map_eq_some_iff] at there
  obtain ⟨task, found, same⟩ := there
  exact ⟨task, found, congrArg Task.owner same, congrArg Task.control same, congrArg Task.frames same⟩

theorem inside (asks : world.Asks id program) : id < world.tasks.length := by
  obtain ⟨task, found, -⟩ := asks.found
  exact (List.getElem?_eq_some_iff.mp found).1

theorem own (asks : world.Asks id program) : world.owners[id]? = some none := by
  obtain ⟨task, found, owner, -⟩ := asks.found
  rw [owner_of_found found, owner]

theorem different {other : TaskId} {driver : Driver} (asks : world.Asks id program)
    (own : world.owners[other]? = some (some driver)) : other ≠ id := by
  rintro rfl
  rw [asks.own] at own
  cases own

/-- What it goes on with keeps to the manners of its world. -/
theorem decorous {etiquette : Etiquette Store Driver Procedure} (asks : world.Asks id program)
    (decorous : world.Decorous etiquette) : program.Decorous etiquette none := by
  obtain ⟨task, found, owner, control, -⟩ := asks.found
  have keeps := (decorous.of_found found).control
  rwa [control, owner] at keeps

theorem no_outcome (asks : world.Asks id program) : world.outcome? id = none := by
  obtain ⟨task, found, -⟩ := asks.found
  have goesOn := asks.goesOn
  simp only [isUnended, found] at goesOn
  simp only [World.outcome?, found, Option.bind_some, Task.outcome?]
  cases status : task.status <;> simp [Task.isEnded, status] at goesOn ⊢

/-- It goes on in every world in which nobody has touched it. -/
theorem of_same (asks : world.Asks id program) (bare : after.bare[id]? = world.bare[id]?)
    (goesOn : after.isUnended id = world.isUnended id) : after.Asks id program :=
  ⟨bare.trans asks.program, goesOn.trans asks.goesOn⟩

/-- It goes on with the next program. -/
theorem proceed (asks : world.Asks id program) (changed : World Store Driver Procedure Answer)
    (same : changed.tasks = world.tasks) : (changed.proceed id (.run next) []).Asks id next := by
  have bare : changed.bare = world.bare := congrArg (List.map Task.bare) same
  refine ⟨?_, ?_⟩
  · rw [bare_proceed, List.getElem?_modify_eq, bare, asks.program]
    rfl
  · rw [isUnended_proceed, isUnended, same]
    exact asks.goesOn

/-- An operation that begins goes on with its program. -/
theorem begin (world : World Store Driver Procedure Answer)
    (program : Program Store Driver Procedure Answer) :
    (world.begin program).2.Asks world.tasks.length program := by
  refine ⟨?_, ?_⟩
  · simp [World.begin, World.bare, Task.fresh, Task.bare]
  · simp [World.begin, isUnended, Task.fresh, Task.isEnded]

/-- The end of the operation. -/
theorem outcome?_finish (asks : world.Asks id program) (joiners : List TaskId) (outcome : Outcome Answer) :
    (world.finish id joiners outcome).outcome? id = some outcome := by
  obtain ⟨task, found, -⟩ := asks.found
  show ((world.modifyTask id fun task => { task with status := .ended outcome }).outcome? id) = _
  rw [outcome?, tasks_modifyTask, found]
  simp [Task.outcome?]

/-- It waits with the program that it has. -/
theorem join (asks : world.Asks id program) (held : TaskId) :
    (world.join id held).yieldTurn.Asks id program := by
  refine ⟨?_, ?_⟩
  · rw [bare_yieldTurn, bare_join]
    exact asks.program
  · exact isUnended_join_self asks.goesOn

/-- Other operations begin beside it. -/
theorem beside (asks : world.Asks id program) (operation : Program Store Driver Procedure Answer) :
    (world.begin operation).2.Asks id program := by
  have same : (world.begin operation).2.tasks[id]? = world.tasks[id]? :=
    List.getElem?_append_left asks.inside
  refine asks.of_same ?_ ?_
  · rw [World.bare, World.bare, List.getElem?_map, List.getElem?_map, same]
  · rw [isUnended, isUnended, same]

/-- While it waits for others its program stays as it is. -/
theorem of_leads {etiquette : Etiquette Store Driver Procedure} (asks : world.Asks id program)
    (decorous : world.Decorous etiquette) (leads : world.Leads etiquette after)
    (idle : world.running ≠ some id) : after.Asks id program := by
  obtain ⟨task, found, outside, -⟩ := asks.found
  have steady : task.cancelPending = false := by
    have steady := decorous.steady task (List.mem_of_getElem? found)
    rwa [Task.Steady, outside] at steady
  have bare : world.bare[id]? = some task.bare := bare_of_found found
  refine asks.of_same ?_ (leads.unended id asks.inside idle)
  rw [leads.programs id task found idle steady, bare]

section Acting

variable [DecidableEq Driver] {driver : Driver} {body : Program Store Driver Procedure Answer} {held : TaskId}

/-- After the driver has its task it goes on. -/
theorem spawn (asks : world.Asks id (.spawn driver body next)) :
    (((world.displace driver id).install driver body).proceed id (.run next) []).Asks id next := by
  have inside : id < world.bare.length := by
    rw [World.bare, List.length_map]
    exact asks.inside
  refine ⟨?_, ?_⟩
  · rw [bare_proceed, bare_install, bare_displace, List.getElem?_modify_eq,
      List.getElem?_append_left inside, asks.program]
    rfl
  · rw [isUnended_proceed, isUnended_install (by rw [length_tasks_displace]; exact asks.inside),
      isUnended_displace]
    exact asks.goesOn

/-- It goes on after a task that it has taken from a driver. -/
theorem cancel (asks : world.Asks id (.cancel driver next)) (held : TaskId) :
    ((((world.setHolding driver { slot := none, live := none }).proceed id (.run next) []).cancelTask
      held).join id held).yieldTurn.Asks id next := by
  have goesOn : ((world.setHolding driver { slot := none, live := none }).proceed id (.run next) []).Asks id
      next := asks.proceed _ rfl
  refine ⟨?_, ?_⟩
  · rw [bare_yieldTurn, bare_join, bare_cancelTask]
    exact goesOn.program
  · refine isUnended_join_self ?_
    rw [isUnended_cancelTask]
    exact goesOn.goesOn

variable (machine : Machine Store Driver Procedure Answer)

/-- When it acts, its program goes on. -/
theorem step (asks : world.Asks id program) (turn : world.running = some id) :
    ∃ task, task.frames = [] ∧ world.step machine = world.execute machine id task program := by
  obtain ⟨task, found, -, control, frames⟩ := asks.found
  refine ⟨task, frames, ?_⟩
  simp only [World.step, turn, found, control]

theorem step_done {answer : Option Answer} (asks : world.Asks id (.done answer))
    (turn : world.running = some id) :
    ∃ joiners, world.step machine = world.finish id joiners (.finished answer) := by
  obtain ⟨task, frames, stepped⟩ := asks.step machine turn
  refine ⟨task.joiners, ?_⟩
  rw [stepped]
  simp only [execute, frames]

theorem step_look {choose : Store → Program Store Driver Procedure Answer}
    (asks : world.Asks id (.look choose)) (turn : world.running = some id) :
    world.step machine = world.proceed id (.run (choose world.store)) [] := by
  obtain ⟨task, frames, stepped⟩ := asks.step machine turn
  simp only [stepped, execute, frames]

theorem step_update {change : Store → Store} (asks : world.Asks id (.update change next))
    (turn : world.running = some id) :
    world.step machine = { world with store := change world.store }.proceed id (.run next) [] := by
  obtain ⟨task, frames, stepped⟩ := asks.step machine turn
  simp only [stepped, execute, frames]

theorem step_call {procedure : Procedure} (asks : world.Asks id (.call procedure next))
    (turn : world.running = some id) :
    world.step machine = world.proceed id (.run ((machine.body procedure).andThen next)) [] := by
  obtain ⟨task, frames, stepped⟩ := asks.step machine turn
  simp only [stepped, execute, frames]

theorem step_spawn (asks : world.Asks id (.spawn driver body next)) (turn : world.running = some id) :
    world.step machine = ((world.displace driver id).install driver body).proceed id (.run next) [] := by
  obtain ⟨task, frames, stepped⟩ := asks.step machine turn
  simp only [stepped, execute, frames]

theorem step_cancel (asks : world.Asks id (.cancel driver next)) (turn : world.running = some id)
    (empty : (world.holdings driver).slot = none) :
    world.step machine =
      (world.setHolding driver { slot := none, live := none }).proceed id (.run next) [] := by
  obtain ⟨task, frames, stepped⟩ := asks.step machine turn
  simp only [stepped, execute, frames, empty]

theorem step_cancel_held (asks : world.Asks id (.cancel driver next)) (turn : world.running = some id)
    (holding : (world.holdings driver).slot = some held) (different : held ≠ id) :
    world.step machine =
      ((((world.setHolding driver { slot := none, live := none }).proceed id (.run next) []).cancelTask
        held).join id held).yieldTurn := by
  obtain ⟨task, frames, stepped⟩ := asks.step machine turn
  simp only [stepped, execute, frames, holding, different, if_false]

/-- Waiting for drivers either goes on in the same turn or gives it up. -/
theorem step_settle {drivers remaining : List Driver} (asks : world.Asks id (.settle drivers remaining next))
    (turn : world.running = some id) :
    (∃ goesOn, (goesOn = next ∨ ∃ rest, goesOn = .settle drivers rest next)
      ∧ world.step machine = world.proceed id (.run goesOn) [])
    ∨ ∃ held, world.step machine = (world.join id held).yieldTurn := by
  obtain ⟨task, frames, stepped⟩ := asks.step machine turn
  rw [stepped]
  cases remaining with
  | nil =>
      simp only [execute, frames]
      split
      · exact .inl ⟨_, .inr ⟨drivers, rfl⟩, rfl⟩
      · exact .inl ⟨next, .inl rfl, rfl⟩
  | cons driver remaining =>
      simp only [execute, frames]
      cases (world.holdings driver).slot with
      | none => exact .inl ⟨_, .inr ⟨remaining, rfl⟩, rfl⟩
      | some held =>
          dsimp only
          split
          · exact .inr ⟨held, rfl⟩
          · exact .inl ⟨_, .inr ⟨remaining, rfl⟩, rfl⟩

end Acting

end Asks

/-! ## Operations beside others -/

/-- An operation goes on with a program that upholds a pact: from the store as it is while it acts, and
from whatever store there may be when its next turn comes. -/
def Commits (pact : Pact Store Driver Procedure Answer Unit) (id : TaskId)
    (world : World Store Driver Procedure Answer) : Prop :=
  ∃ program, world.Asks id program
    ∧ (world.running = some id → program.Upholds pact () world.store)
    ∧ (world.running ≠ some id → ∀ store, pact.sane store → program.Upholds pact () store)

namespace Commits

variable {pact : Pact Store Driver Procedure Answer Unit} {etiquette : Etiquette Store Driver Procedure}

theorem begin {program : Program Store Driver Procedure Answer}
    (upholds : program.Upholds pact () world.store) :
    (world.begin program).2.Commits pact world.tasks.length :=
  ⟨program, .begin world program, fun _ => upholds, fun idle => absurd rfl idle⟩

/-- While it waits it keeps its program, and it finds a sane store when it goes on. -/
theorem of_asks (commits : world.Commits pact id) (idle : world.running ≠ some id)
    (sane : pact.sane after.store)
    (asks : ∀ {program : Program Store Driver Procedure Answer}, world.Asks id program →
      after.Asks id program) : after.Commits pact id := by
  obtain ⟨program, goesOn, -, waits⟩ := commits
  exact ⟨program, asks goesOn, fun _ => waits idle _ sane, fun _ => waits idle⟩

/-- When it acts it leaves a sane store, and goes on or ends well. -/
theorem step [DecidableEq Driver] {machine : Machine Store Driver Procedure Answer}
    (commits : world.Commits pact id) (decorous : world.Decorous etiquette)
    (honours : machine.Honours etiquette pact) (free : ∀ before after, pact.drift before after)
    (sane : pact.sane world.store) (turn : world.running = some id) :
    pact.sane (world.step machine).store
      ∧ ((world.step machine).Commits pact id
        ∨ ∃ answer, (world.step machine).outcome? id = some (.finished answer)
          ∧ pact.good answer () (world.step machine).store) := by
  obtain ⟨program, asks, acts, -⟩ := commits
  have upholds := acts turn
  have proceeds : ∀ {next : Program Store Driver Procedure Answer}
      {changed : World Store Driver Procedure Answer},
      changed.tasks = world.tasks → changed.running = some id →
      next.Upholds pact () changed.store → (changed.proceed id (.run next) []).Commits pact id :=
    fun same running goesOn =>
      ⟨_, asks.proceed _ same, fun _ => goesOn, fun idle => absurd running idle⟩
  cases program with
  | done answer =>
      obtain ⟨joiners, stepped⟩ := asks.step_done machine turn
      rw [stepped]
      exact ⟨sane, .inr ⟨answer, asks.outcome?_finish joiners _, upholds⟩⟩
  | look choose =>
      rw [asks.step_look machine turn]
      exact ⟨sane, .inl (proceeds rfl turn upholds)⟩
  | update change next =>
      rw [asks.step_update machine turn]
      exact ⟨upholds.1, .inl (proceeds rfl turn upholds.2)⟩
  | call procedure next =>
      rw [asks.step_call machine turn]
      have allowed := (asks.decorous decorous).1
      exact ⟨sane, .inl (proceeds rfl turn (honours procedure allowed next () _ sane upholds))⟩
  | spawn driver body next =>
      have store : (world.displace driver id).store = world.store := store_displace driver
      rw [asks.step_spawn machine turn]
      refine ⟨?_, .inl ⟨next, asks.spawn, fun _ => ?_, fun idle => absurd ?_ idle⟩⟩
      · show pact.sane (world.displace driver id).store
        rwa [store]
      · show next.Upholds pact () (world.displace driver id).store
        rw [store]
        exact upholds.2
      · show (world.displace driver id).running = some id
        rw [running_displace, turn]
  | cancel driver next =>
      have goesOn : ∀ store, pact.sane store → next.Upholds pact () store :=
        fun store sane => upholds store sane (free _ _)
      cases holding : (world.holdings driver).slot with
      | none =>
          rw [asks.step_cancel machine turn holding]
          exact ⟨sane, .inl ⟨next, asks.proceed _ rfl, fun _ => goesOn _ sane, fun _ => goesOn⟩⟩
      | some held =>
          have different := asks.different (decorous.slots driver held holding)
          rw [asks.step_cancel_held machine turn holding different]
          refine ⟨?_, .inl ⟨next, asks.cancel held, fun _ => goesOn _ ?_, fun _ => goesOn⟩⟩ <;>
            rwa [yieldTurn, store_join, store_cancelTask]
  | settle drivers remaining next =>
      have goesOn : ∀ store, pact.sane store → next.Upholds pact () store :=
        fun store sane => upholds store sane (free _ _)
      obtain ⟨later, same, stepped⟩ | ⟨held, stepped⟩ :=
        asks.step_settle machine turn
      · rw [stepped]
        refine ⟨sane, .inl (proceeds rfl turn ?_)⟩
        rcases same with rfl | ⟨rest, rfl⟩
        · exact goesOn _ sane
        · exact upholds
      · rw [stepped]
        have kept : (world.join id held).yieldTurn.store = world.store := store_join _ _ _
        refine ⟨by rwa [kept], .inl ⟨_, asks.join held, ?_, ?_⟩⟩
        · exact fun _ reached sane _ => goesOn reached sane
        · exact fun _ _ _ reached sane _ => goesOn reached sane
  | fail fault => exact upholds.elim
  | check next => exact upholds.elim
  | revoke next => exact upholds.elim
  | pause duration next => exact upholds.elim
  | guard body next => exact upholds.elim
  | ensure body cleanup next => exact upholds.elim

end Commits

/-- A balanced world of decorous tasks, with a sane store, in which every operation that goes on is committed.
-/
structure Obliged (etiquette : Etiquette Store Driver Procedure)
    (pact : Pact Store Driver Procedure Answer Unit)
    (world : World Store Driver Procedure Answer) : Prop where
  balanced : world.Balanced
  decorous : world.Decorous etiquette
  sane : pact.sane world.store
  commits : ∀ id, world.owners[id]? = some none → world.isUnended id = true → world.Commits pact id

namespace Obliged

variable {pact : Pact Store Driver Procedure Answer Unit} {etiquette : Etiquette Store Driver Procedure}

theorem initial {store : Store} (sane : pact.sane store) :
    (World.initial store : World Store Driver Procedure Answer).Obliged etiquette pact :=
  ⟨(orderly_initial store).balanced rfl, .initial store, sane, fun _ own => by cases own⟩

theorem begin {operation : Program Store Driver Procedure Answer} (obliged : world.Obliged etiquette pact)
    (noTurn : world.running = none) (allowed : operation.Decorous etiquette none)
    (upholds : operation.Upholds pact () world.store) :
    (world.begin operation).2.Obliged etiquette pact := by
  refine ⟨obliged.balanced.begin noTurn operation, obliged.decorous.begin allowed, obliged.sane, ?_⟩
  intro id own goesOn
  rcases begin_cases own with ⟨before, same⟩ | ⟨rfl, -⟩
  · rw [isUnended, same] at goesOn
    exact (obliged.commits id before goesOn).of_asks (by simp [noTurn]) obliged.sane
      fun asks => asks.beside operation
  · exact .begin upholds

theorem release? {position : Nat} {released : World Store Driver Procedure Answer}
    (obliged : world.Obliged etiquette pact) (noTurn : world.running = none)
    (wait : world.release? position = some released) : released.Obliged etiquette pact := by
  have bare := bare_release? wait
  have unended : ∀ id, released.isUnended id = world.isUnended id :=
    fun _ => isUnended_release? obliged.balanced wait
  have store : released.store = world.store := by
    obtain ⟨held, -, rfl⟩ := release?_eq_some.mp wait
    rfl
  refine ⟨obliged.balanced.release? wait, obliged.decorous.release? wait, store ▸ obliged.sane, ?_⟩
  intro id own goesOn
  rw [owners_of_bare bare] at own
  rw [unended] at goesOn
  exact (obliged.commits id own goesOn).of_asks (by simp [noTurn]) (store ▸ obliged.sane)
    fun asks => asks.of_same (congrArg (fun tasks => tasks[id]?) bare) (unended id)

/-- The store is changed from outside, but stays sane. -/
theorem restore {store : Store} (obliged : world.Obliged etiquette pact) (noTurn : world.running = none)
    (sane : pact.sane store) :
    ({ world with store := store } : World Store Driver Procedure Answer).Obliged etiquette pact := by
  refine ⟨obliged.balanced.restore store, obliged.decorous.restore store, sane, fun id own goesOn => ?_⟩
  exact (obliged.commits id own goesOn).of_asks (by simp [noTurn]) sane fun asks =>
    asks.of_same rfl rfl

/-- A step keeps every commitment, if no driver does anything that is not sane. -/
theorem step [DecidableEq Driver] {machine : Machine Store Driver Procedure Answer}
    (obliged : world.Obliged etiquette pact) (machineDecorous : machine.Decorous etiquette)
    (honours : machine.Honours etiquette pact) (free : ∀ before after, pact.drift before after)
    (drivers : ∀ {driver change}, etiquette.writes (some driver) change → ∀ store, pact.sane store →
      pact.sane (change store)) : (world.step machine).Obliged etiquette pact := by
  have advances := obliged.decorous.advances machineDecorous obliged.balanced
  have leads := advances.leads
  have sane : pact.sane (world.step machine).store := by
    rcases leads.store with same | ⟨id, owner, change, turn, own, writes, changed⟩
    · rw [same]
      exact obliged.sane
    · cases owner with
      | none =>
          have commits := obliged.commits id own (obliged.balanced.unended_of_turn turn)
          exact (commits.step obliged.decorous honours free obliged.sane turn).1
      | some driver =>
          rw [changed]
          exact drivers writes _ obliged.sane
  refine ⟨obliged.balanced.step machine, obliged.decorous.of_advances advances, sane, ?_⟩
  intro id own goesOn
  have before := leads.outside_before own
  by_cases turn : world.running = some id
  · have commits := obliged.commits id before (obliged.balanced.unended_of_turn turn)
    obtain ⟨-, onward | ⟨answer, isOver, -⟩⟩ := commits.step obliged.decorous honours free obliged.sane turn
    · exact onward
    · exact absurd goesOn (by simp [isUnended_of_outcome isOver])
  · have inside : id < world.tasks.length := by
      rw [← length_owners]
      exact (List.getElem?_eq_some_iff.mp before).1
    rw [leads.unended id inside turn] at goesOn
    exact (obliged.commits id before goesOn).of_asks turn sane fun asks =>
      asks.of_leads obliged.decorous leads turn

end Obliged

end World

end Playthrough

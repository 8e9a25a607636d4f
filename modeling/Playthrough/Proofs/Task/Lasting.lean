import Playthrough.Proofs.Task.Bare
import Playthrough.Proofs.Task.Pursuit

/-!
Contract: what lasts while nothing more is asked for.

Owns: how programs look at a store and change it (`Manner`), that whatever goes on follows a manner for
good once it does, the moves of a world that is left to itself (`Unattended`), and relations that a store
stays within.

Does not own: which programs there are.

Only the programs of tasks that have not ended matter. A task that has ended has no turn any more.
-/

namespace Playthrough

variable {Store Driver Procedure Answer : Type}

/-! ## Programs that follow a manner -/

/-- How programs look at a store and change it. -/
structure Manner (Store Driver Procedure Answer : Type) where
  reads : (Store → Program Store Driver Procedure Answer) → Prop
  writes : (Store → Store) → Prop
  /-- A program that goes on with another one looks at the store as before. -/
  reads_andThen : ∀ {choose} (second : Program Store Driver Procedure Answer), reads choose →
    reads fun store => (choose store).andThen second

/-- A program looks at the store and changes it in a manner. -/
def Program.Follows (manner : Manner Store Driver Procedure Answer) :
    Program Store Driver Procedure Answer → Prop
  | .done _ => True
  | .fail _ => True
  | .look choose => manner.reads choose ∧ ∀ store, (choose store).Follows manner
  | .update change next => manner.writes change ∧ next.Follows manner
  | .call _ next => next.Follows manner
  | .check next => next.Follows manner
  | .revoke next => next.Follows manner
  | .pause _ next => next.Follows manner
  | .spawn _ body next => body.Follows manner ∧ next.Follows manner
  | .cancel _ next => next.Follows manner
  | .settle _ _ next => next.Follows manner
  | .guard body next => body.Follows manner ∧ next.Follows manner
  | .ensure body cleanup next => body.Follows manner ∧ cleanup.Follows manner ∧ next.Follows manner

variable {manner : Manner Store Driver Procedure Answer}

theorem Program.Follows.andThen {first second : Program Store Driver Procedure Answer}
    (follows : first.Follows manner) (goesOn : second.Follows manner) :
    (first.andThen second).Follows manner := by
  induction first with
  | done _ => exact goesOn
  | fail _ => trivial
  | look choose inductionHypothesis =>
      exact ⟨manner.reads_andThen second follows.1, fun store =>
        inductionHypothesis store (follows.2 store)⟩
  | update _ _ inductionHypothesis => exact ⟨follows.1, inductionHypothesis follows.2⟩
  | call _ _ inductionHypothesis => exact inductionHypothesis follows
  | check _ inductionHypothesis => exact inductionHypothesis follows
  | revoke _ inductionHypothesis => exact inductionHypothesis follows
  | pause _ _ inductionHypothesis => exact inductionHypothesis follows
  | spawn _ _ _ _ inductionHypothesis => exact ⟨follows.1, inductionHypothesis follows.2⟩
  | cancel _ _ inductionHypothesis => exact inductionHypothesis follows
  | settle _ _ _ inductionHypothesis => exact inductionHypothesis follows
  | guard _ _ _ inductionHypothesis => exact ⟨follows.1, inductionHypothesis follows.2⟩
  | ensure _ _ _ _ _ inductionHypothesis =>
      exact ⟨follows.1, follows.2.1, inductionHypothesis follows.2.2⟩

/-- Every program that can be called follows a manner. -/
def Machine.Follows (machine : Machine Store Driver Procedure Answer)
    (manner : Manner Store Driver Procedure Answer) : Prop :=
  ∀ procedure, (machine.body procedure).Follows manner

/-- Every change is as a relation has it. -/
def Manner.within (kept : Store → Store → Prop) : Manner Store Driver Procedure Answer where
  reads _ := True
  writes change := ∀ store, kept store (change store)
  reads_andThen _ _ := trivial

/-! ## Tasks that follow a manner -/

/-- What a task goes on with follows a manner. -/
def Control.Follows (manner : Manner Store Driver Procedure Answer) : Control Store Driver Procedure Answer → Prop
  | .run program => program.Follows manner
  | .unwind _ => True

/-- What is still to be done around a program follows a manner. -/
def Frame.Follows (manner : Manner Store Driver Procedure Answer) : Frame Store Driver Procedure Answer → Prop
  | .guarded next => next.Follows manner
  | .ensured cleanup next => cleanup.Follows manner ∧ next.Follows manner
  | .resumed _ => True

/-- What a task has still to do, if it has not ended, follows a manner. -/
structure Task.Follows (manner : Manner Store Driver Procedure Answer) (task : Task Store Driver Procedure Answer) :
    Prop where
  control : task.control.Follows manner
  frames : ∀ frame ∈ task.frames, frame.Follows manner

theorem Task.Follows.fresh {program : Program Store Driver Procedure Answer}
    (follows : program.Follows manner) (owner : Option Driver) :
    (Task.fresh owner program).Follows manner :=
  ⟨follows, by simp [Task.fresh]⟩

namespace World

variable {world after : World Store Driver Procedure Answer} {id held : TaskId}
variable {task : Task Store Driver Procedure Answer}

/-- Whatever goes on follows a manner. -/
def Follows (manner : Manner Store Driver Procedure Answer) (world : World Store Driver Procedure Answer) : Prop :=
  ∀ (id : TaskId) (task : Task Store Driver Procedure Answer), world.tasks[id]? = some task →
    task.isEnded = false → task.Follows manner

/-- What the task whose turn it is has still to do follows a manner. -/
def Acts (manner : Manner Store Driver Procedure Answer) (world : World Store Driver Procedure Answer) (id : TaskId) :
    Prop :=
  ∀ task, world.bare[id]? = some task → task.Follows manner

namespace Acts

theorem follows (acts : world.Acts manner id) (found : world.tasks[id]? = some task) :
    task.Follows manner := by
  have bare : world.bare[id]? = some task.bare := by
    rw [World.bare, List.getElem?_map, found]
    rfl
  exact ⟨(acts _ bare).control, (acts _ bare).frames⟩

theorem of_follows (found : world.tasks[id]? = some task) (follows : task.Follows manner) :
    world.Acts manner id := by
  intro bare there
  rw [World.bare, List.getElem?_map, found] at there
  cases there
  exact ⟨follows.control, follows.frames⟩

theorem proceed (world : World Store Driver Procedure Answer)
    {control : Control Store Driver Procedure Answer}
    {frames : List (Frame Store Driver Procedure Answer)} (goesOn : control.Follows manner)
    (around : ∀ frame ∈ frames, frame.Follows manner) : (world.proceed id control frames).Acts manner id := by
  intro task found
  rw [World.bare_proceed, List.getElem?_modify_eq, Option.map_eq_map, Option.map_eq_some_iff] at found
  obtain ⟨before, -, rfl⟩ := found
  exact ⟨goesOn, around⟩

theorem cancelTask (acts : world.Acts manner id) : (world.cancelTask held).Acts manner id := by
  intro task found
  rw [World.bare_cancelTask] at found
  exact acts task found

end Acts

namespace Follows

theorem of_outline (follows : ∀ id task, world.outline.tasks id = some task → task.Follows manner) :
    world.Follows manner := by
  intro id task found unended
  have shown : world.outline.tasks id = some { task with status := .ready } := by
    simp [outline, found, Task.unended?, unended]
  exact ⟨(follows id _ shown).control, (follows id _ shown).frames⟩

variable {change : Task Store Driver Procedure Answer → Task Store Driver Procedure Answer}

/-- One task changes. -/
theorem modifyTask (follows : world.Follows manner)
    (own : ∀ task, world.tasks[id]? = some task → (change task).isEnded = false →
      (change task).Follows manner) : (world.modifyTask id change).Follows manner := by
  intro other task found unended
  simp only [World.modifyTask, List.getElem?_modify] at found
  by_cases same : id = other
  · subst same
    simp only [if_true, Option.map_eq_map, Option.map_eq_some_iff] at found
    obtain ⟨before, there, rfl⟩ := found
    exact own before there unended
  · simp only [same, if_false, id_map'] at found
    exact follows other task found unended

/-- An operation begins. -/
theorem begin {operation : Program Store Driver Procedure Answer} (follows : world.Follows manner)
    (goesOn : operation.Follows manner) : (world.begin operation).2.Follows manner := by
  intro id task found unended
  simp only [World.begin] at found
  rw [List.getElem?_append] at found
  split at found
  · exact follows id task found unended
  · obtain rfl := List.mem_singleton.mp (List.mem_of_getElem? found)
    exact .fresh goesOn _

/-- The acting task goes on. -/
theorem proceed {control : Control Store Driver Procedure Answer}
    {frames : List (Frame Store Driver Procedure Answer)} (follows : world.Follows manner)
    (goesOn : control.Follows manner) (around : ∀ frame ∈ frames, frame.Follows manner) :
    (world.proceed id control frames).Follows manner :=
  follows.modifyTask fun _ _ _ => ⟨goesOn, around⟩

/-- A task whose turn it is ends its turn before it ends. -/
theorem restatus {status : Status Answer} (follows : world.Follows manner) (acts : world.Acts manner id) :
    (world.modifyTask id fun task => { task with status := status }).Follows manner :=
  follows.modifyTask fun task there _ =>
    have still : task.Follows manner := acts.follows there
    ⟨still.control, still.frames⟩

theorem cancelTask (follows : world.Follows manner) : (world.cancelTask held).Follows manner := by
  simp only [World.cancelTask]
  cases found : world.tasks[held]? with
  | none => exact follows
  | some task =>
      have marks : ∀ {marked : World Store Driver Procedure Answer}, marked.tasks = world.tasks →
          (marked.modifyTask held fun task => { task with cancelPending := true }).Follows manner := by
        intro marked same
        have still : marked.Follows manner := by
          intro id task there
          rw [same] at there
          exact follows id task there
        refine still.modifyTask ?_
        intro other there unended
        have keeps := still held other there unended
        exact ⟨keeps.control, keeps.frames⟩
      cases status : task.status with
      | ended outcome => simpa only [status] using follows
      | ready =>
          simp only [status]
          exact marks rfl
      | joining count =>
          simp only [status]
          exact marks rfl
      | sleeping =>
          simp only [status]
          have unended : task.isEnded = false := by simp [Task.isEnded, status]
          have marked : ((world.dropWait held).modifyTask held fun task =>
              { task with cancelPending := true }).Follows manner := marks rfl
          refine marked.restatus ?_
          have same : ((world.dropWait held).modifyTask held fun task =>
              { task with cancelPending := true }).bare = world.bare := World.bare_modifyTask fun _ => rfl
          intro bare there
          rw [same] at there
          exact Acts.of_follows found (follows held task found unended) bare there

/-- A task that goes on joins another one. -/
theorem join (follows : world.Follows manner)
    (acts : world.Acts manner id) : (world.join id held).Follows manner := by
  have waiting : (world.modifyTask id fun task => { task with status := .joining 1 }).Follows manner :=
    follows.restatus acts
  simp only [World.join]
  split
  · refine waiting.modifyTask ?_
    intro task there unended
    have keeps := waiting held task there unended
    exact ⟨keeps.control, keeps.frames⟩
  · exact waiting

theorem displace (follows : world.Follows manner) (driver : Driver) :
    (world.displace driver id).Follows manner := by
  simp only [World.displace]
  split
  · split
    · exact follows
    · exact follows.cancelTask
  · exact follows

theorem install [DecidableEq Driver] {body : Program Store Driver Procedure Answer}
    (follows : world.Follows manner) (driver : Driver) (keeps : body.Follows manner) :
    (world.install driver body).Follows manner := by
  intro id task found unended
  simp only [World.install, enqueue, setHolding] at found
  rw [List.getElem?_append] at found
  split at found
  · exact follows id task found unended
  · obtain rfl := List.mem_singleton.mp (List.mem_of_getElem? found)
    exact .fresh keeps _

theorem finish (follows : world.Follows manner) (joiners : List TaskId) (outcome : Outcome Answer) :
    (world.finish id joiners outcome).Follows manner := by
  have ended : (world.modifyTask id fun task => { task with status := .ended outcome }).Follows manner :=
    follows.modifyTask fun task _ unended => by simp [Task.isEnded] at unended
  exact ended

/-- A signal on its way out leaves everything in its manner. -/
theorem unwind {signal : Signal} (follows : world.Follows manner) (acting : task.Follows manner) :
    (world.unwind id task signal).Follows manner := by
  simp only [World.unwind]
  cases around : task.frames with
  | nil => cases signal <;> exact follows.finish _ _
  | cons frame rest =>
      have frames := acting.frames
      rw [around] at frames
      have inner := frames frame List.mem_cons_self
      have outer : ∀ frame ∈ rest, frame.Follows manner := fun frame member =>
        frames frame (List.mem_cons_of_mem _ member)
      cases frame with
      | resumed _ => exact follows.proceed trivial outer
      | guarded next =>
          simp only
          split
          · exact follows.proceed inner outer
          · exact follows.proceed trivial outer
      | ensured cleanup next =>
          exact follows.proceed inner.1 (List.forall_mem_cons.mpr ⟨trivial, outer⟩)

theorem beginTurn (follows : world.Follows manner) (acts : world.Acts manner id) :
    (world.beginTurn id).Follows manner := by
  have started : ({ world with running := some id } : World Store Driver Procedure Answer).Follows manner :=
    follows
  refine started.modifyTask ?_
  intro task there unended
  have still : task.Follows manner := acts.follows there
  split
  · exact ⟨trivial, still.frames⟩
  · exact still

theorem noteJoined (follows : world.Follows manner) : (world.noteJoined id).Follows manner := by
  have waits : ∀ {count : Nat} {task : Task Store Driver Procedure Answer},
      world.tasks[id]? = some task → task.status = .joining count → world.Acts manner id := by
    intro count task found status
    exact .of_follows found (follows id task found (by simp [Task.isEnded, status]))
  simp only [World.noteJoined]
  split
  · next found => exact follows.restatus (waits found rfl)
  · next found => exact follows.restatus (waits found rfl)
  · exact follows

variable [DecidableEq Driver] {machine : Machine Store Driver Procedure Answer}

/-- An instruction of a program that follows a manner leaves everything in it. -/
theorem execute {program : Program Store Driver Procedure Answer} (machineFollows : machine.Follows manner)
    (follows : world.Follows manner) (found : world.tasks[id]? = some task)
    (running : task.control = .run program) (acting : task.Follows manner) :
    (world.execute machine id task program).Follows manner := by
  have keeps : program.Follows manner := by
    have control := acting.control
    rwa [running] at control
  have goesOn : ∀ {changed : World Store Driver Procedure Answer}
      {control : Control Store Driver Procedure Answer}, changed.Follows manner → control.Follows manner →
      (changed.proceed id control task.frames).Follows manner :=
    fun changed control => changed.proceed control acting.frames
  cases program with
  | done answer =>
      simp only [World.execute]
      cases around : task.frames with
      | nil => exact follows.finish _ _
      | cons frame rest =>
          have frames := acting.frames
          rw [around] at frames
          have inner := frames frame List.mem_cons_self
          have outer : ∀ frame ∈ rest, frame.Follows manner := fun frame member =>
            frames frame (List.mem_cons_of_mem _ member)
          cases frame with
          | guarded next => exact follows.proceed inner outer
          | resumed signal => exact follows.proceed trivial outer
          | ensured cleanup next => exact follows.proceed (inner.1.andThen inner.2) outer
  | fail fault => exact goesOn follows trivial
  | look choose => exact goesOn follows (keeps.2 world.store)
  | update change next =>
      have changed : ({ world with store := change world.store } :
          World Store Driver Procedure Answer).Follows manner := follows
      exact goesOn changed keeps.2
  | call procedure next => exact goesOn follows ((machineFollows procedure).andThen keeps)
  | check next =>
      simp only [World.execute]
      split
      · exact goesOn follows keeps
      · exact goesOn follows trivial
  | revoke next =>
      simp only [World.execute]
      refine goesOn ?_ keeps
      split
      · split
        · exact follows
        · exact follows
      · exact follows
  | pause duration next =>
      have waits : (Control.run (.check next)).Follows manner := keeps
      simp only [World.execute]
      split
      · exact (goesOn follows waits).restatus (.proceed _ waits acting.frames)
      · exact goesOn follows trivial
  | spawn driver body next =>
      exact goesOn ((follows.displace driver).install driver keeps.1) keeps.2
  | cancel driver next =>
      have onward : (Control.run next).Follows manner := keeps
      have emptied : (world.setHolding driver { slot := none, live := none }).Follows manner := follows
      have taken : ((world.setHolding driver { slot := none, live := none }).proceed id (.run next)
          task.frames).Follows manner := goesOn emptied onward
      simp only [World.execute]
      split
      · exact taken
      · split
        · exact taken
        · exact taken.cancelTask.join (Acts.proceed _ onward acting.frames).cancelTask
  | settle drivers remaining next =>
      cases remaining with
      | nil =>
          simp only [World.execute]
          split
          · exact goesOn follows keeps
          · exact goesOn follows keeps
      | cons driver remaining =>
          simp only [World.execute]
          split
          · split
            · exact follows.join (.of_follows found acting)
            · exact goesOn follows keeps
          · exact goesOn follows keeps
  | guard body next =>
      exact follows.proceed keeps.1 (List.forall_mem_cons.mpr ⟨keeps.2, acting.frames⟩)
  | ensure body cleanup next =>
      exact follows.proceed keeps.1 (List.forall_mem_cons.mpr ⟨keeps.2, acting.frames⟩)

/-- No step leads out of a manner. -/
theorem step (machineFollows : machine.Follows manner) (balanced : world.Balanced)
    (follows : world.Follows manner) : (world.step machine).Follows manner := by
  cases turn : world.running with
  | some id =>
      have orderly : world.Orderly (some id) := by
        rw [← turn]
        exact balanced
      obtain ⟨task, found, ready⟩ := orderly.acts
      have acting : task.Follows manner := follows id task found (by simp [Task.isEnded, ready])
      cases control : task.control with
      | run program =>
          simp only [World.step, turn, found, control]
          exact follows.execute machineFollows found control acting
      | unwind signal =>
          simp only [World.step, turn, found, control]
          exact follows.unwind acting
  | none =>
      cases queued : world.queue with
      | nil =>
          simp only [World.step, turn, queued]
          exact follows
      | cons next queue =>
          have taken : ({ world with queue := queue, running := none } :
              World Store Driver Procedure Answer).Follows manner := follows
          cases next with
          | run id =>
              obtain ⟨task, found, ready⟩ :=
                balanced.ready_of_queued (show Turn.run id ∈ world.queue by simp [queued])
              have acting : task.Follows manner := follows id task found (by simp [Task.isEnded, ready])
              simp only [World.step, turn, queued]
              exact taken.beginTurn (.of_follows found acting)
          | joined id =>
              simp only [World.step, turn, queued]
              exact taken.noteJoined

omit [DecidableEq Driver] in
theorem release? {position : Nat} {released : World Store Driver Procedure Answer}
    (balanced : world.Balanced) (follows : world.Follows manner)
    (wait : world.release? position = some released) : released.Follows manner := by
  obtain ⟨held, found, rfl⟩ := release?_eq_some.mp wait
  obtain ⟨task, there, sleeping⟩ := balanced.sleeping_of_wait (List.mem_of_getElem? found)
  have acting : task.Follows manner := follows held.task task there (by simp [Task.isEnded, sleeping])
  have left : ({ world with waits := world.waits.eraseIdx position } :
      World Store Driver Procedure Answer).Follows manner := follows
  exact left.restatus (.of_follows there acting)

end Follows

/-! ## What changes of the store -/

section Changes

variable [DecidableEq Driver] {machine : Machine Store Driver Procedure Answer}
variable {kept : Store → Store → Prop}

/-- An instruction changes the store only if it is the change of a program. -/
theorem kept_execute {program : Program Store Driver Procedure Answer}
    (reflexive : ∀ store, kept store store) (follows : program.Follows (.within kept)) :
    kept world.store (world.execute machine id task program).store := by
  have same : ∀ {later : World Store Driver Procedure Answer}, later.store = world.store →
      kept world.store later.store := by
    intro later same
    rw [same]
    exact reflexive _
  cases program with
  | update change next => exact follows.1 world.store
  | done answer =>
      simp only [execute]
      split <;> exact same rfl
  | check next =>
      simp only [execute]
      split <;> exact same rfl
  | revoke next =>
      simp only [execute]
      refine same ?_
      split
      · split <;> rfl
      · rfl
  | pause duration next =>
      simp only [execute]
      split <;> exact same rfl
  | spawn driver body next => exact same (store_displace driver)
  | cancel driver next =>
      simp only [execute]
      split
      · exact same rfl
      · split
        · exact same rfl
        · exact same ((store_join _ _ _).trans (store_cancelTask _ _))
  | settle drivers remaining next =>
      cases remaining with
      | nil =>
          simp only [execute]
          split <;> exact same rfl
      | cons driver remaining =>
          simp only [execute]
          split
          · split
            · exact same (store_join _ _ _)
            · exact same rfl
          · exact same rfl
  | fail fault => exact same rfl
  | look choose => exact same rfl
  | call procedure next => exact same rfl
  | guard body next => exact same rfl
  | ensure body cleanup next => exact same rfl

omit [DecidableEq Driver] in
theorem store_unwind (signal : Signal) : (world.unwind id task signal).store = world.store := by
  simp only [unwind]
  split
  · cases signal <;> rfl
  · split <;> rfl
  · rfl
  · rfl

/-- A step makes no change of the store, or one of a program that goes on. -/
theorem kept_step (reflexive : ∀ store, kept store store) (balanced : world.Balanced)
    (follows : world.Follows (.within kept)) : kept world.store (world.step machine).store := by
  cases turn : world.running with
  | some id =>
      have orderly : world.Orderly (some id) := by
        rw [← turn]
        exact balanced
      obtain ⟨task, found, ready⟩ := orderly.acts
      have acting : task.Follows (.within kept) := follows id task found (by simp [Task.isEnded, ready])
      cases control : task.control with
      | run program =>
          have keeps : program.Follows (.within kept) := by
            have goesOn := acting.control
            rwa [control] at goesOn
          simp only [step, turn, found, control]
          exact kept_execute reflexive keeps
      | unwind signal =>
          simp only [step, turn, found, control, store_unwind]
          exact reflexive _
  | none =>
      have same : (world.step machine).store = world.store := by
        cases queued : world.queue with
        | nil => simp only [step, turn, queued]
        | cons next queue =>
            cases next with
            | run id => simp only [step, turn, queued, beginTurn, store_modifyTask]
            | joined id => simp only [step, turn, queued, store_noteJoined]
      rw [same]
      exact reflexive _

omit [DecidableEq Driver] in
/-- A program that nobody stops comes to an end that its changes lead to, where they are all as a
relation has it. -/
theorem finale_of_runs {Entry : Type} {observer : Observer Store Entry}
    {terms : Terms Store Driver Procedure Answer} {program : Program Store Driver Procedure Answer}
    {frames : List (Frame Store Driver Procedure Answer)} {store : Store} {entries : List Entry}
    (reflexive : ∀ store, kept store store)
    (transitive : ∀ first second third, kept first second → kept second third → kept first third)
    (machineFollows : machine.Follows (.within kept))
    (runs : Runs machine observer terms program frames store entries)
    (follows : program.Follows (.within kept)) (around : ∀ frame ∈ frames, frame.Follows (.within kept)) :
    ∃ final finale, terms.post final finale ∧ kept store final := by
  induction runs with
  | done _ post => exact ⟨_, _, post, reflexive _⟩
  | fail _ post => exact ⟨_, _, post, reflexive _⟩
  | handOver _ _ post => exact ⟨_, _, post, reflexive _⟩
  | resume _ inductionHypothesis =>
      obtain ⟨inner, outer⟩ := List.forall_mem_cons.mp around
      exact inductionHypothesis (inner.1.andThen inner.2) outer
  | look _ inductionHypothesis => exact inductionHypothesis (follows.2 _) around
  | @update change next frames store entries _ _ inductionHypothesis =>
      obtain ⟨final, finale, post, leads⟩ := inductionHypothesis follows.2 around
      exact ⟨final, finale, post, transitive _ _ _ (follows.1 store) leads⟩
  | call _ inductionHypothesis => exact inductionHypothesis ((machineFollows _).andThen follows) around
  | check _ inductionHypothesis => exact inductionHypothesis follows around
  | ensure _ inductionHypothesis =>
      exact inductionHypothesis follows.1 (List.forall_mem_cons.mpr ⟨follows.2, around⟩)
  -- nobody else has to do anything while it waits
  | pause _ _ inductionHypothesis => exact inductionHypothesis _ (terms.drift_refl _) follows around

end Changes

/-! ## A world that is left to itself -/

/-- The moves of a world in which nothing more is asked for: steps, and ends of waits between them. -/
inductive Unattended [DecidableEq Driver] (machine : Machine Store Driver Procedure Answer) :
    World Store Driver Procedure Answer → World Store Driver Procedure Answer → Prop where
  | here (world : World Store Driver Procedure Answer) : Unattended machine world world
  | step {world after : World Store Driver Procedure Answer}
      (rest : Unattended machine (world.step machine) after) : Unattended machine world after
  | release {world released after : World Store Driver Procedure Answer} (position : Nat)
      (wait : world.release? position = some released) (rest : Unattended machine released after) :
      Unattended machine world after

section Unattended

variable [DecidableEq Driver] {machine : Machine Store Driver Procedure Answer}
variable {kept : Store → Store → Prop}

/-- Letting every task run asks for nothing. -/
theorem unattended_drain (fuel : Nat) (world : World Store Driver Procedure Answer) :
    Unattended machine world (world.drain machine fuel) := by
  induction fuel generalizing world with
  | zero => exact .here world
  | succ fuel inductionHypothesis =>
      rw [drain]
      split
      · exact .here world
      · exact .step (inductionHypothesis _)

/-- Carrying out an operation asks for nothing more. -/
theorem Pursues.unattended (pursues : Pursues machine id world after) : Unattended machine world after := by
  induction pursues with
  | here world => exact .here world
  | step _ _ _ inductionHypothesis => exact .step inductionHypothesis
  | release _ _ oldest _ inductionHypothesis => exact .release 0 oldest inductionHypothesis

/-- Whatever goes on in a manner does so for good. -/
theorem Unattended.follows {manner : Manner Store Driver Procedure Answer}
    (unattended : Unattended machine world after) (machineFollows : machine.Follows manner)
    (balanced : world.Balanced) (follows : world.Follows manner) : after.Follows manner := by
  induction unattended with
  | here world => exact follows
  | step _ inductionHypothesis =>
      exact inductionHypothesis (balanced.step machine) (follows.step machineFollows balanced)
  | release position wait _ inductionHypothesis =>
      exact inductionHypothesis (balanced.release? wait) (follows.release? balanced wait)

/-- Whatever goes on within a relation leaves the store within it for good. -/
theorem Unattended.stays (unattended : Unattended machine world after)
    (reflexive : ∀ store, kept store store)
    (transitive : ∀ first second third, kept first second → kept second third → kept first third)
    (machineFollows : machine.Follows (.within kept)) (balanced : world.Balanced)
    (follows : world.Follows (.within kept)) :
    kept world.store after.store := by
  induction unattended with
  | here world => exact reflexive _
  | step _ inductionHypothesis =>
      exact transitive _ _ _ (kept_step reflexive balanced follows)
        (inductionHypothesis (balanced.step machine) (follows.step machineFollows balanced))
  | @release world released after position wait _ inductionHypothesis =>
      have goesOn : kept released.store after.store :=
        inductionHypothesis (balanced.release? wait) (follows.release? balanced wait)
      obtain ⟨held, -, rfl⟩ := release?_eq_some.mp wait
      exact goesOn

end Unattended

end World

end Playthrough

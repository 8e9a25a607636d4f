import Playthrough.Proofs.Task.Solo

/-!
Contract: a world that is left to itself, watched to its rest.

Owns: the run that lets every task go on and every wait end until nothing is left, what an observer
writes down meanwhile, and that run for a world in which one task is busy.

Does not own: operations that begin before the world has come to rest.

`watch` is the run with a bound on its steps, `ToRest` the same run as a path. A path is found by
`watch` with every bound that is large enough.
-/

namespace Playthrough.World

variable {Store Driver Procedure Answer Entry : Type}

/-- Lets everything run, and the oldest wait end whenever nothing else moves, at most so many steps.
The first of the pair is what was written down. -/
def watch [DecidableEq Driver] (machine : Machine Store Driver Procedure Answer)
    (observer : Observer Store Entry) :
    Nat → World Store Driver Procedure Answer → List Entry × World Store Driver Procedure Answer
  | 0, world => ([], world)
  | fuel + 1, world =>
      if world.isIdle then
        match world.release? 0 with
        | none => ([], world)
        | some released => watch machine observer fuel released
      else
        let (entries, reached) := watch machine observer fuel (world.step machine)
        (noticed observer world (world.step machine) ++ entries, reached)

variable [DecidableEq Driver] {machine : Machine Store Driver Procedure Answer}
variable {observer : Observer Store Entry}

/-- The way of a world that is left to itself to its rest, where nothing moves and nothing waits. -/
inductive ToRest (machine : Machine Store Driver Procedure Answer)
    (observer : Observer Store Entry) :
    World Store Driver Procedure Answer → List Entry → World Store Driver Procedure Answer → Prop
  where
  | here {world : World Store Driver Procedure Answer} (idle : world.isIdle = true)
      (nothing : world.waits = []) : ToRest machine observer world [] world
  | release {world released after : World Store Driver Procedure Answer} {entries : List Entry}
      (idle : world.isIdle = true) (oldest : world.release? 0 = some released)
      (rest : ToRest machine observer released entries after) :
      ToRest machine observer world entries after
  | step {world after : World Store Driver Procedure Answer} {entries : List Entry}
      (busy : world.isIdle = false)
      (rest : ToRest machine observer (world.step machine) entries after) :
      ToRest machine observer world
        (noticed observer world (world.step machine) ++ entries) after

/-- Every large enough bound lets a world come to its rest. -/
theorem watch_of_toRest {world after : World Store Driver Procedure Answer} {entries : List Entry}
    (way : ToRest machine observer world entries after) :
    ∃ enough, ∀ fuel, enough ≤ fuel → watch machine observer fuel world = (entries, after) := by
  induction way with
  | @here world idle nothing =>
      refine ⟨0, ?_⟩
      intro fuel _
      have empty : world.release? 0 = none := by simp [release?, nothing]
      cases fuel with
      | zero => rfl
      | succ fuel => simp only [watch, idle, if_true, empty]
  | release idle oldest _ inductionHypothesis =>
      obtain ⟨enough, found⟩ := inductionHypothesis
      refine ⟨enough + 1, ?_⟩
      intro fuel large
      obtain ⟨less, rfl⟩ : ∃ less, fuel = less + 1 := ⟨fuel - 1, by omega⟩
      simp only [watch, idle, if_true, oldest]
      exact found less (by omega)
  | step busy _ inductionHypothesis =>
      obtain ⟨enough, found⟩ := inductionHypothesis
      refine ⟨enough + 1, ?_⟩
      intro fuel large
      obtain ⟨less, rfl⟩ : ∃ less, fuel = less + 1 := ⟨fuel - 1, by omega⟩
      simp only [watch, busy, Bool.false_eq_true, if_false, found less (by omega)]

/-- A turn, and then the way to the rest. -/
theorem ToRest.of_turn {world between after : World Store Driver Procedure Answer}
    {first second : List Entry} (turn : ToTurnEnd machine observer world first between)
    (rest : ToRest machine observer between second after) :
    ToRest machine observer world (first ++ second) after := by
  induction turn with
  | here _ => exact rest
  | step running _ inductionHypothesis =>
      rw [List.append_assoc]
      refine .step ?_ (inductionHypothesis rest)
      simp [isIdle, running]

/-- A move between two turns of which nothing is written down, and then the way to the rest. -/
theorem ToRest.of_move {world between after : World Store Driver Procedure Answer}
    {entries : List Entry} (busy : world.queue ≠ []) (moved : world.step machine = between)
    (sameStore : between.store = world.store) (sameBegun : between.begun = world.begun)
    (rest : ToRest machine observer between entries after) :
    ToRest machine observer world entries after := by
  subst moved
  have way : ToRest machine observer world
      (noticed observer world (world.step machine) ++ entries) after := by
    refine .step ?_ rest
    simp [isIdle, busy]
  rwa [noticed_of_same observer sameStore sameBegun] at way

/-- A step in the middle of a turn, and then the way to the rest. -/
theorem ToRest.focus_step {world before after : World Store Driver Procedure Answer} {id : TaskId}
    {task other : Task Store Driver Procedure Answer} {store changed : Store}
    {entries : List Entry}
    (stepped : (world.focus id task store).step machine = before.focus id other changed)
    (sameBegun : before.begun = world.begun)
    (rest : ToRest machine observer (before.focus id other changed) entries after) :
    ToRest machine observer (world.focus id task store)
      (observer.change store changed ++ entries) after := by
  rw [← noticed_step stepped sameBegun]
  rw [← stepped] at rest
  exact .step rfl rest

theorem ToRest.focus_skip {world before after : World Store Driver Procedure Answer} {id : TaskId}
    {task other : Task Store Driver Procedure Answer} {store : Store} {entries : List Entry}
    (stepped : (world.focus id task store).step machine = before.focus id other store)
    (sameBegun : before.begun = world.begun)
    (rest : ToRest machine observer (before.focus id other store) entries after) :
    ToRest machine observer (world.focus id task store) entries after := by
  have way := ToRest.focus_step stepped sameBegun rest
  rwa [observer.change_self, List.nil_append] at way

/-- A world at rest in which a task came to its end. -/
structure Rested (world after : World Store Driver Procedure Answer) (id : TaskId) (final : Store) :
    Prop where
  noTurn : after.running = none
  nothingQueued : after.queue = []
  nothingWaits : after.waits = []
  store_eq : after.store = final
  sameHoldings : after.holdings = world.holdings
  sameLength : after.tasks.length = world.tasks.length
  isEnded : after.isUnended id = false
  others : ∀ other, other ≠ id → after.tasks[other]? = world.tasks[other]?

omit [DecidableEq Driver] in
theorem rested_closed {world : World Store Driver Procedure Answer} {id : TaskId}
    {task : Task Store Driver Procedure Answer} (inside : id < world.tasks.length)
    (nobodyJoins : task.joiners = []) (quiet : world.queue = []) (silent : world.waits = [])
    (final : Store) (outcome : Outcome Answer) :
    Rested world (world.closed id task final outcome) id final where
  noTurn := rfl
  nothingQueued := by simp [closed, quiet, nobodyJoins]
  nothingWaits := silent
  store_eq := rfl
  sameHoldings := rfl
  sameLength := by simp [closed]
  isEnded := by simp [isUnended, closed, inside, Task.isEnded]
  others := by
    intro other different
    simp [closed, Ne.symm different]

omit [DecidableEq Driver] in
theorem Rested.toRest {machine : Machine Store Driver Procedure Answer}
    [DecidableEq Driver] {observer : Observer Store Entry}
    {world after : World Store Driver Procedure Answer} {id : TaskId} {final : Store}
    (rested : Rested world after id final) : ToRest machine observer after [] after := by
  refine .here ?_ rested.nothingWaits
  simp [isIdle, rested.noTurn, rested.nothingQueued]

/-- A turn that ends in a wait of the only busy task, and the beginning of its next turn. -/
theorem ToRest.of_asleep {world after : World Store Driver Procedure Answer} {id : TaskId}
    {task : Task Store Driver Procedure Answer} {store : Store} {wait : Wait}
    {entries : List Entry} (inside : id < world.tasks.length) (mine : wait.task = id)
    (quiet : world.queue = []) (silent : world.waits = []) (kept : task.cancelPending = false)
    (ready : task.status = .ready)
    (rest : ToRest machine observer
      ({ world with begun := world.begun ++ [wait] }.focus id task store) entries after) :
    ToRest machine observer (world.asleep id task store wait) entries after := by
  have released : (world.asleep id task store wait).release? 0 =
      some ({ world with
        store := store
        tasks := world.tasks.set id task
        queue := [.run id]
        waits := []
        begun := world.begun ++ [wait]
        running := none }) := by
    have awake : ({ task with status := .ready } : Task Store Driver Procedure Answer) = task := by
      rw [← ready]
    simp only [release?, asleep, silent, List.nil_append, List.getElem?_cons_zero, wake, mine,
      modifyTask, modify_set, awake, enqueue, quiet, List.eraseIdx_cons_zero]
  refine .release (by simp [isIdle, asleep, quiet]) released ?_
  have found : (world.tasks.set id task)[id]? = some task := by simp [inside]
  refine .of_move (by simp) (step_run rfl rfl found) rfl rfl ?_
  have begins : atTurn task = task := by simp [atTurn, kept]
  rw [begins]
  have same : ({ world with
        store := store
        tasks := world.tasks.set id task
        queue := []
        waits := []
        begun := world.begun ++ [wait]
        running := none } : World Store Driver Procedure Answer).focus id task store =
      { world with begun := world.begun ++ [wait] }.focus id task store := by
    simp [focus, quiet, silent]
  rw [same]
  exact rest

variable {terms : Terms Store Driver Procedure Answer}

/-- A world in which one task is busy comes to rest at the end of that task, if the task's program
comes to its end and leaves nothing behind. -/
theorem toRest_of_runs {world : World Store Driver Procedure Answer} {id : TaskId}
    {task : Task Store Driver Procedure Answer} (inside : id < world.tasks.length)
    (allowed : world.mayAct id task = true) (quiet : world.queue = []) (silent : world.waits = [])
    (kept : task.cancelPending = false) (ready : task.status = .ready)
    (nobodyJoins : task.joiners = [])
    (alone : ∀ store driver body, ¬ terms.post store (.handedOver driver body))
    {program : Program Store Driver Procedure Answer}
    {frames : List (Frame Store Driver Procedure Answer)} {store : Store} {entries : List Entry}
    (runs : Runs machine observer terms program frames store entries) :
    ∃ after final finale,
      ToRest machine observer (world.focus id (task.on (.run program) frames) store) entries after
        ∧ Rested world after id final ∧ terms.post final finale := by
  induction runs generalizing world with
  | @done answer store post =>
      have rested := rested_closed inside
        (show (task.on (.run (.done answer)) []).joiners = [] from nobodyJoins) quiet silent store
        (.finished answer)
      exact ⟨_, store, .done,
        .of_turn (.focus_last (step_done inside answer) rfl rfl rfl) rested.toRest, rested, post⟩
  | @fail fault store post =>
      have rested := rested_closed inside
        (show (task.on (.unwind (.fault fault)) []).joiners = [] from nobodyJoins) quiet silent store
        (.failed fault)
      exact ⟨_, store, .failed fault, .of_turn (.focus_skip (step_fail inside fault) rfl
        (.focus_last (step_unwind inside (.fault fault)) rfl rfl rfl)) rested.toRest, rested, post⟩
  | handOver driver body post => exact absurd post (alone _ driver body)
  | resume _ inductionHypothesis =>
      obtain ⟨after, final, finale, way, rest⟩ := inductionHypothesis inside allowed quiet silent
      exact ⟨after, final, finale, .focus_skip (step_done_ensured inside _ _) rfl way, rest⟩
  | look _ inductionHypothesis =>
      obtain ⟨after, final, finale, way, rest⟩ := inductionHypothesis inside allowed quiet silent
      exact ⟨after, final, finale, .focus_skip (step_look inside _) rfl way, rest⟩
  | update _ _ inductionHypothesis =>
      obtain ⟨after, final, finale, way, rest⟩ := inductionHypothesis inside allowed quiet silent
      exact ⟨after, final, finale, .focus_step (step_update inside _) rfl way, rest⟩
  | call _ inductionHypothesis =>
      obtain ⟨after, final, finale, way, rest⟩ := inductionHypothesis inside allowed quiet silent
      exact ⟨after, final, finale, .focus_skip (step_call inside _) rfl way, rest⟩
  | check _ inductionHypothesis =>
      obtain ⟨after, final, finale, way, rest⟩ := inductionHypothesis inside allowed quiet silent
      exact ⟨after, final, finale, .focus_skip (step_check inside allowed) rfl way, rest⟩
  | ensure _ inductionHypothesis =>
      obtain ⟨after, final, finale, way, rest⟩ := inductionHypothesis inside allowed quiet silent
      exact ⟨after, final, finale, .focus_skip (step_ensure inside _ _) rfl way, rest⟩
  | @pause duration next frames store entries waiting rest inductionHypothesis =>
      let wait : Wait := { task := id, duration := duration, shown := machine.shown store }
      let later : World Store Driver Procedure Answer :=
        { world with begun := world.begun ++ [wait] }
      have laterInside : id < later.tasks.length := inside
      have laterAllowed : later.mayAct id task = true := allowed
      obtain ⟨after, final, finale, way, rested, post⟩ :=
        inductionHypothesis store (terms.drift_refl store) laterInside laterAllowed quiet silent
      have resumed : ToRest machine observer
          (later.focus id (task.on (.run (.check next)) frames) store) entries after :=
        .focus_skip (step_check laterInside laterAllowed) rfl way
      have asleep : (world.focus id (task.on (.run (.pause duration next)) frames) store).step
          machine = world.asleep id (task.on (.run (.check next)) frames) store wait :=
        step_pause inside allowed duration
      have way : ToRest machine observer
          (world.focus id (task.on (.run (.pause duration next)) frames) store)
          (noticed observer (world.focus id (task.on (.run (.pause duration next)) frames) store)
            ((world.focus id (task.on (.run (.pause duration next)) frames) store).step machine)
              ++ entries) after := by
        refine .step rfl ?_
        rw [asleep]
        exact .of_asleep inside rfl quiet silent kept ready resumed
      rw [asleep, noticed_asleep] at way
      exact ⟨after, final, finale, way, ⟨rested.noTurn, rested.nothingQueued, rested.nothingWaits,
        rested.store_eq, rested.sameHoldings, rested.sameLength, rested.isEnded, rested.others⟩, post⟩

omit [DecidableEq Driver] in
theorem displace_of_vacant {world : World Store Driver Procedure Answer} {driver : Driver}
    (vacant : (world.holdings driver).slot = none) (asking : TaskId) :
    world.displace driver asking = world := by
  simp [displace, vacant]

/-- An operation that ends with a new task for a vacant driver, in a world without other tasks that
move, comes to rest at the end of the new task. -/
theorem toRest_of_spawn {world : World Store Driver Procedure Answer} {id : TaskId}
    {task : Task Store Driver Procedure Answer} (inside : id < world.tasks.length)
    (quiet : world.queue = []) (silent : world.waits = []) (nobodyJoins : task.joiners = [])
    {driver : Driver} (vacant : (world.holdings driver).slot = none)
    {body : Program Store Driver Procedure Answer} {answer : Option Answer} {store : Store}
    {entries : List Entry}
    (alone : ∀ store driver body, ¬ terms.post store (.handedOver driver body))
    (runs : Runs machine observer terms body [] store entries) :
    ∃ after final finale,
      ToRest machine observer
        (world.focus id (task.on (.run (.spawn driver body (.done answer))) []) store) entries after
        ∧ Rested ((world.install driver body).closed id (task.on (.run (.done answer)) []) store
            (.finished answer)) after world.tasks.length final
        ∧ terms.post final finale := by
  have spawned : (world.focus id (task.on (.run (.spawn driver body (.done answer))) []) store).step
      machine =
        (world.install driver body).focus id (task.on (.run (.done answer)) []) store := by
    rw [step_spawn inside, displace_of_vacant vacant]
  have stillInside : id < (world.install driver body).tasks.length := by
    rw [length_tasks_install]
    exact Nat.lt_succ_of_lt inside
  let between : World Store Driver Procedure Answer :=
    { (world.install driver body).closed id (task.on (.run (.done answer)) []) store
        (.finished answer) with queue := [] }
  have newInside : world.tasks.length < between.tasks.length := by
    simp [between, closed, install, enqueue, setHolding]
  have found : between.tasks[world.tasks.length]? = some (Task.fresh (some driver) body) := by
    simp [between, closed, install, enqueue, setHolding, Nat.ne_of_lt inside]
  have allowed : between.mayAct world.tasks.length (Task.fresh (some driver) body) = true := by
    simp [between, mayAct, closed, install, enqueue, setHolding, Task.fresh]
  have begins : atTurn (Task.fresh (some driver) body) =
      (Task.fresh (some driver) body).on (.run body) [] := rfl
  obtain ⟨after, final, finale, way, rested, post⟩ : ∃ after final finale,
      ToRest machine observer
        (between.focus world.tasks.length ((Task.fresh (some driver) body).on (.run body) []) store)
        entries after ∧ Rested between after world.tasks.length final ∧ terms.post final finale :=
    toRest_of_runs newInside allowed rfl silent rfl rfl rfl alone runs
  have queued : ((world.install driver body).closed id (task.on (.run (.done answer)) []) store
      (.finished answer)).queue = .run world.tasks.length :: [] := by
    simp [closed, install, enqueue, setHolding, quiet, nobodyJoins]
  refine ⟨after, final, finale, .of_turn (.focus_skip spawned rfl
    (.focus_last (step_done stillInside answer) rfl rfl rfl)) ?_, ?_, post⟩
  · refine .of_move (by rw [queued]; simp) (step_run rfl queued found) rfl rfl ?_
    rw [begins]
    exact way
  · exact ⟨rested.noTurn, rested.nothingQueued, rested.nothingWaits, rested.store_eq,
      rested.sameHoldings, rested.sameLength, rested.isEnded, rested.others⟩

omit [DecidableEq Driver] in
theorem cancelTask_of_ended {world : World Store Driver Procedure Answer} {held : TaskId}
    (isEnded : world.isUnended held = false) : world.cancelTask held = world := by
  simp only [isUnended] at isEnded
  simp only [cancelTask]
  cases found : world.tasks[held]? with
  | none => rfl
  | some other =>
      simp only [found, Task.isEnded] at isEnded
      cases status : other.status with
      | ended outcome => simp only [status]
      | ready => simp [status] at isEnded
      | sleeping => simp [status] at isEnded
      | joining count => simp [status] at isEnded

/-- In a quiet world a task that has ended is cancelled at once, in turns of which nothing is written
down. -/
theorem ToRest.of_cancel_ended {world after : World Store Driver Procedure Answer}
    {id held : TaskId} {task : Task Store Driver Procedure Answer} {driver : Driver}
    {next : Program Store Driver Procedure Answer}
    {frames : List (Frame Store Driver Procedure Answer)} {store : Store} {entries : List Entry}
    (inside : id < world.tasks.length) (quiet : world.queue = [])
    (kept : task.cancelPending = false) (ready : task.status = .ready)
    (holding : (world.holdings driver).slot = some held) (different : held ≠ id)
    (isEnded : world.isUnended held = false)
    (rest : ToRest machine observer
      ((world.setHolding driver { slot := none, live := none }).focus id (task.on (.run next) frames)
        store) entries after) :
    ToRest machine observer (world.focus id (task.on (.run (.cancel driver next)) frames) store)
      entries after := by
  let vacated := world.setHolding driver { slot := none, live := none }
  let moved := task.on (.run next) frames
  have stillEnded : vacated.isUnended held = false := isEnded
  have joined : (vacated.cancelTask held).joining id moved store held =
      { vacated with
        store := store
        tasks := vacated.tasks.set id { moved with status := .joining 1 }
        queue := [.joined id]
        running := none } := by
    rw [cancelTask_of_ended stillEnded]
    simp only [joining, stillEnded]
    simp [enqueue, vacated, setHolding, quiet]
  have told : ({ vacated with
        store := store
        tasks := vacated.tasks.set id { moved with status := .joining 1 }
        queue := []
        running := none } : World Store Driver Procedure Answer).noteJoined id =
      { vacated with
        store := store
        tasks := vacated.tasks.set id moved
        queue := [.run id]
        running := none } := by
    have found : (vacated.tasks.set id { moved with status := .joining 1 })[id]? =
        some { moved with status := .joining 1 } := by
      rw [List.getElem?_set_self]
      exact inside
    have awake : ({ moved with status := .ready } : Task Store Driver Procedure Answer) = moved := by
      rw [← show moved.status = .ready from ready]
    simp only [noteJoined, found, wake, modifyTask, modify_set, awake, enqueue, List.nil_append]
  have begins : atTurn moved = moved := by
    simp [atTurn, show moved.cancelPending = false from kept]
  have found : (vacated.tasks.set id moved)[id]? = some moved := by
    rw [List.getElem?_set_self]
    exact inside
  refine .of_turn (.focus_last (step_cancel_held inside holding different) ?_ ?_ ?_) ?_
  · exact running_joining
  · exact store_joining
  · rw [begun_joining, begun_cancelTask]
    rfl
  · rw [joined]
    refine .of_move (by simp) ((step_joined rfl rfl).trans told) rfl rfl ?_
    refine .of_move (by simp) (step_run rfl rfl found) rfl rfl ?_
    rw [begins]
    have same : ({ vacated with
          store := store
          tasks := vacated.tasks.set id moved
          queue := []
          running := none } : World Store Driver Procedure Answer).focus id moved store =
        vacated.focus id moved store := by
      simp [focus, vacated, setHolding, quiet]
    rw [same]
    exact rest

end Playthrough.World

import Playthrough.Task.Step

/-!
Contract: one turn, seen from the task whose turn it is.

Owns: the world in the middle of a turn (`focus`), what each instruction makes of it, the worlds that
a turn ends in, and the way from the middle of a turn to its end, with what an observer writes down.

Does not own: which program the task runs.

A turn is the unit that nobody can interrupt. Everything that is said about worlds between turns is
said of the worlds that `Turn` leads to.
-/

namespace Playthrough

/-- Somebody who watches a world, and writes something down about every change of the store and
about every wait that begins. Where nothing changes, nothing is written. -/
structure Observer (Store Entry : Type) where
  change : Store → Store → List Entry
  wait : Duration → List Indicator → List Entry
  change_self : ∀ store, change store store = []

/-- Whoever writes nothing down. -/
def Observer.blind (Store : Type) : Observer Store Empty :=
  { change := fun _ _ => []
    wait := fun _ _ => []
    change_self := fun _ => rfl }

/-- A task at another place of its program. -/
def Task.on {Store Driver Procedure Answer : Type} (task : Task Store Driver Procedure Answer)
    (control : Control Store Driver Procedure Answer)
    (frames : List (Frame Store Driver Procedure Answer)) : Task Store Driver Procedure Answer :=
  { task with control := control, frames := frames }

namespace World

variable {Store Driver Procedure Answer Entry : Type}
variable {world : World Store Driver Procedure Answer} {id : TaskId}
variable {task : Task Store Driver Procedure Answer} {store : Store}
variable {frames : List (Frame Store Driver Procedure Answer)}

/-! ## The middle of a turn -/

/-- The world in which it is the turn of a task. -/
def focus (world : World Store Driver Procedure Answer) (id : TaskId)
    (task : Task Store Driver Procedure Answer) (store : Store) :
    World Store Driver Procedure Answer :=
  { world with running := some id, tasks := world.tasks.set id task, store := store }

/-- A turn that ends in a wait. -/
def asleep (world : World Store Driver Procedure Answer) (id : TaskId)
    (task : Task Store Driver Procedure Answer) (store : Store) (wait : Wait) :
    World Store Driver Procedure Answer :=
  { world with
    store := store
    tasks := world.tasks.set id { task with status := .sleeping }
    waits := world.waits ++ [wait]
    begun := world.begun ++ [wait]
    running := none }

/-- A turn that ends the task. -/
def closed (world : World Store Driver Procedure Answer) (id : TaskId)
    (task : Task Store Driver Procedure Answer) (store : Store) (outcome : Outcome Answer) :
    World Store Driver Procedure Answer :=
  { world with
    store := store
    tasks := world.tasks.set id { task with status := .ended outcome }
    queue := world.queue ++ task.joiners.map Turn.joined
    running := none }

theorem modify_set {α : Type} (items : List α) (position : Nat) (item : α) (change : α → α) :
    (items.set position item).modify position change = items.set position (change item) := by
  apply List.ext_getElem?
  intro other
  simp only [List.getElem?_modify, List.getElem?_set]
  by_cases same : position = other <;> simp [same]

theorem modify_set_of_ne {α : Type} (items : List α) {position other : Nat} (item : α)
    (change : α → α) (different : other ≠ position) :
    (items.set position item).modify other change = (items.modify other change).set position item := by
  apply List.ext_getElem?
  intro place
  simp only [List.getElem?_modify, List.getElem?_set, List.length_modify]
  by_cases atPosition : position = place
  · subst atPosition
    by_cases inside : position < items.length <;> simp [inside, different]
  · simp [atPosition]

@[simp] theorem running_focus : (world.focus id task store).running = some id := rfl

@[simp] theorem store_focus : (world.focus id task store).store = store := rfl

@[simp] theorem holdings_focus : (world.focus id task store).holdings = world.holdings := rfl

@[simp] theorem begun_focus : (world.focus id task store).begun = world.begun := rfl

theorem task_focus (inside : id < world.tasks.length) :
    (world.focus id task store).tasks[id]? = some task := by
  simp [focus, inside]

theorem task_focus_of_ne {other : TaskId} (different : other ≠ id) :
    (world.focus id task store).tasks[other]? = world.tasks[other]? := by
  simp [focus, Ne.symm different]

/-- A change of the task whose turn it is. -/
theorem modifyTask_focus_self
    (change : Task Store Driver Procedure Answer → Task Store Driver Procedure Answer) :
    (world.focus id task store).modifyTask id change = world.focus id (change task) store := by
  simp only [modifyTask, focus, modify_set]

@[simp] theorem proceed_focus (control : Control Store Driver Procedure Answer) :
    (world.focus id task store).proceed id control frames =
      world.focus id (task.on control frames) store := by
  exact modifyTask_focus_self _

@[simp] theorem mayAct_focus (other : Task Store Driver Procedure Answer) :
    (world.focus id task store).mayAct id other = world.mayAct id other := rfl

@[simp] theorem mayAct_on (control : Control Store Driver Procedure Answer) :
    world.mayAct id (task.on control frames) = world.mayAct id task := rfl

@[simp] theorem on_on (control other : Control Store Driver Procedure Answer)
    (otherFrames : List (Frame Store Driver Procedure Answer)) :
    (task.on control frames).on other otherFrames = task.on other otherFrames := rfl

@[simp] theorem joiners_on (control : Control Store Driver Procedure Answer) :
    (task.on control frames).joiners = task.joiners := rfl

@[simp] theorem owner_on (control : Control Store Driver Procedure Answer) :
    (task.on control frames).owner = task.owner := rfl

/-! ## What an observer writes down -/

/-- What is written down about one step. -/
def noticed (observer : Observer Store Entry) (before after : World Store Driver Procedure Answer) :
    List Entry :=
  observer.change before.store after.store
    ++ (after.begun.drop before.begun.length).flatMap fun wait =>
      observer.wait wait.duration wait.shown

theorem noticed_of_begun_eq (observer : Observer Store Entry)
    {before after : World Store Driver Procedure Answer} (same : after.begun = before.begun) :
    noticed observer before after = observer.change before.store after.store := by
  simp [noticed, same]

/-- Nothing is written down where neither the store changes nor a wait begins. -/
theorem noticed_of_same (observer : Observer Store Entry)
    {before after : World Store Driver Procedure Answer} (sameStore : after.store = before.store)
    (sameBegun : after.begun = before.begun) : noticed observer before after = [] := by
  rw [noticed_of_begun_eq observer sameBegun, sameStore, observer.change_self]

theorem noticed_asleep (observer : Observer Store Entry)
    (other : Task Store Driver Procedure Answer) (wait : Wait) :
    noticed observer (world.focus id task store) (world.asleep id other store wait) =
      observer.wait wait.duration wait.shown := by
  simp [noticed, asleep, observer.change_self]

/-- The way from a moment of a turn to the end of that turn. -/
inductive ToTurnEnd [DecidableEq Driver] (machine : Machine Store Driver Procedure Answer)
    (observer : Observer Store Entry) :
    World Store Driver Procedure Answer → List Entry → World Store Driver Procedure Answer → Prop
  where
  | here {world : World Store Driver Procedure Answer} (noTurn : world.running = none) :
      ToTurnEnd machine observer world [] world
  | step {world after : World Store Driver Procedure Answer} {entries : List Entry} {id : TaskId}
      (running : world.running = some id)
      (rest : ToTurnEnd machine observer (world.step machine) entries after) :
      ToTurnEnd machine observer world
        (noticed observer world (world.step machine) ++ entries) after

section Steps

variable [DecidableEq Driver] {machine : Machine Store Driver Procedure Answer}
variable {observer : Observer Store Entry}

theorem ToTurnEnd.noTurn {before after : World Store Driver Procedure Answer} {entries : List Entry}
    (way : ToTurnEnd machine observer before entries after) : after.running = none := by
  induction way with
  | here noTurn => exact noTurn
  | step _ _ inductionHypothesis => exact inductionHypothesis

theorem noticed_step {before : World Store Driver Procedure Answer}
    {other : Task Store Driver Procedure Answer} {changed : Store}
    (stepped : (world.focus id task store).step machine = before.focus id other changed)
    (sameBegun : before.begun = world.begun) :
    noticed observer (world.focus id task store) ((world.focus id task store).step machine) =
      observer.change store changed := by
  rw [noticed_of_begun_eq observer (by rw [stepped]; exact sameBegun), stepped]
  rfl

/-- A step that stays in the turn and changes at most the store. -/
theorem ToTurnEnd.focus_step {before after : World Store Driver Procedure Answer}
    {other : Task Store Driver Procedure Answer} {changed : Store} {entries : List Entry}
    (stepped : (world.focus id task store).step machine = before.focus id other changed)
    (sameBegun : before.begun = world.begun)
    (rest : ToTurnEnd machine observer (before.focus id other changed) entries after) :
    ToTurnEnd machine observer (world.focus id task store)
      (observer.change store changed ++ entries) after := by
  rw [← noticed_step stepped sameBegun]
  rw [← stepped] at rest
  exact .step rfl rest

/-- A step that stays in the turn and leaves the store alone. -/
theorem ToTurnEnd.focus_skip {before after : World Store Driver Procedure Answer}
    {other : Task Store Driver Procedure Answer} {entries : List Entry}
    (stepped : (world.focus id task store).step machine = before.focus id other store)
    (sameBegun : before.begun = world.begun)
    (rest : ToTurnEnd machine observer (before.focus id other store) entries after) :
    ToTurnEnd machine observer (world.focus id task store) entries after := by
  have way := ToTurnEnd.focus_step stepped sameBegun rest
  rwa [observer.change_self, List.nil_append] at way

/-- The last step of a turn, where it leaves the store alone and begins no wait. -/
theorem ToTurnEnd.focus_last {after : World Store Driver Procedure Answer}
    (stepped : (world.focus id task store).step machine = after) (noTurn : after.running = none)
    (sameStore : after.store = store) (sameBegun : after.begun = world.begun) :
    ToTurnEnd machine observer (world.focus id task store) [] after := by
  have nothing : noticed observer (world.focus id task store)
      ((world.focus id task store).step machine) = [] :=
    noticed_of_same observer (by rw [stepped]; exact sameStore) (by rw [stepped]; exact sameBegun)
  have way : ToTurnEnd machine observer (world.focus id task store)
      (noticed observer (world.focus id task store) ((world.focus id task store).step machine) ++ [])
      after := .step rfl (by rw [stepped]; exact .here noTurn)
  rwa [nothing] at way

/-! ## What each instruction makes of a turn -/

variable {next : Program Store Driver Procedure Answer}

theorem step_focus (inside : id < world.tasks.length)
    (program : Program Store Driver Procedure Answer) :
    (world.focus id (task.on (.run program) frames) store).step machine =
      (world.focus id (task.on (.run program) frames) store).execute machine id
        (task.on (.run program) frames) program := by
  rw [step]
  simp only [running_focus, task_focus inside]
  rfl

theorem step_look (inside : id < world.tasks.length)
    (choose : Store → Program Store Driver Procedure Answer) :
    (world.focus id (task.on (.run (.look choose)) frames) store).step machine =
      world.focus id (task.on (.run (choose store)) frames) store := by
  rw [step_focus inside]
  exact proceed_focus (.run (choose store))

theorem step_update (inside : id < world.tasks.length) (change : Store → Store) :
    (world.focus id (task.on (.run (.update change next)) frames) store).step machine =
      world.focus id (task.on (.run next) frames) (change store) := by
  rw [step_focus inside]
  show (world.focus id (task.on (.run (.update change next)) frames) (change store)).proceed id
    (.run next) frames = _
  exact proceed_focus (.run next)

theorem step_call (inside : id < world.tasks.length) (procedure : Procedure) :
    (world.focus id (task.on (.run (.call procedure next)) frames) store).step machine =
      world.focus id (task.on (.run ((machine.body procedure).andThen next)) frames) store := by
  rw [step_focus inside]
  exact proceed_focus (.run _)

theorem step_check (inside : id < world.tasks.length) (allowed : world.mayAct id task = true) :
    (world.focus id (task.on (.run (.check next)) frames) store).step machine =
      world.focus id (task.on (.run next) frames) store := by
  have permitted : (world.focus id (task.on (.run (.check next)) frames) store).mayAct id
      (task.on (.run (.check next)) frames) = true := allowed
  rw [step_focus inside]
  simp only [execute, permitted, if_true]
  exact proceed_focus (.run next)

theorem step_ensure (inside : id < world.tasks.length)
    (body cleanup : Program Store Driver Procedure Answer) :
    (world.focus id (task.on (.run (.ensure body cleanup next)) frames) store).step machine =
      world.focus id (task.on (.run body) (.ensured cleanup next :: frames)) store := by
  rw [step_focus inside]
  exact proceed_focus (.run body)

theorem step_fail (inside : id < world.tasks.length) (fault : Fault) :
    (world.focus id (task.on (.run (.fail fault)) frames) store).step machine =
      world.focus id (task.on (.unwind (.fault fault)) frames) store := by
  rw [step_focus inside]
  exact proceed_focus (.unwind _)

theorem step_done_ensured (inside : id < world.tasks.length) (answer : Option Answer)
    (cleanup : Program Store Driver Procedure Answer) :
    (world.focus id (task.on (.run (.done answer)) (.ensured cleanup next :: frames)) store).step
        machine =
      world.focus id (task.on (.run (cleanup.andThen next)) frames) store := by
  rw [step_focus inside]
  exact proceed_focus (.run _)

theorem step_done_resumed (inside : id < world.tasks.length) (answer : Option Answer)
    (signal : Signal) :
    (world.focus id (task.on (.run (.done answer)) (.resumed signal :: frames)) store).step
        machine =
      world.focus id (task.on (.unwind signal) frames) store := by
  rw [step_focus inside]
  exact proceed_focus (.unwind _)

theorem step_pause (inside : id < world.tasks.length) (allowed : world.mayAct id task = true)
    (duration : Duration) :
    (world.focus id (task.on (.run (.pause duration next)) frames) store).step machine =
      world.asleep id (task.on (.run (.check next)) frames) store
        { task := id, duration := duration, shown := machine.shown store } := by
  have permitted : (world.focus id (task.on (.run (.pause duration next)) frames) store).mayAct id
      (task.on (.run (.pause duration next)) frames) = true := allowed
  rw [step_focus inside]
  simp only [execute, permitted, if_true]
  show ((world.focus id (task.on (.run (.pause duration next)) frames) store).proceed id
    (.run (.check next)) frames).sleep machine id duration = _
  rw [proceed_focus]
  simp only [sleep, asleep, focus, modifyTask, modify_set, yieldTurn, on_on]

omit [DecidableEq Driver] in
private theorem finish_focus (joiners : List TaskId) (outcome : Outcome Answer)
    (same : task.joiners = joiners) :
    (world.focus id task store).finish id joiners outcome =
      world.closed id task store outcome := by
  simp only [finish, closed, focus, modifyTask, modify_set, yieldTurn, same]

theorem step_done (inside : id < world.tasks.length) (answer : Option Answer) :
    (world.focus id (task.on (.run (.done answer)) []) store).step machine =
      world.closed id (task.on (.run (.done answer)) []) store (.finished answer) := by
  rw [step_focus inside]
  exact finish_focus _ _ rfl

private theorem step_unwinding (inside : id < world.tasks.length) (signal : Signal) :
    (world.focus id (task.on (.unwind signal) frames) store).step machine =
      (world.focus id (task.on (.unwind signal) frames) store).unwind id
        (task.on (.unwind signal) frames) signal := by
  rw [step]
  simp only [running_focus, task_focus inside]
  rfl

/-- How a task ends that a signal has left. -/
def outcomeOf : Signal → Outcome Answer
  | .cancelled => .cancelled
  | .superseded => .finished none
  | .fault fault => .failed fault

theorem step_unwind (inside : id < world.tasks.length) (signal : Signal) :
    (world.focus id (task.on (.unwind signal) []) store).step machine =
      world.closed id (task.on (.unwind signal) []) store (outcomeOf signal) := by
  rw [step_unwinding inside]
  cases signal <;> exact finish_focus _ _ rfl

theorem step_unwind_ensured (inside : id < world.tasks.length) (signal : Signal)
    (cleanup : Program Store Driver Procedure Answer) :
    (world.focus id (task.on (.unwind signal) (.ensured cleanup next :: frames)) store).step
        machine =
      world.focus id (task.on (.run cleanup) (.resumed signal :: frames)) store := by
  rw [step_unwinding inside]
  exact proceed_focus (.run cleanup)

end Steps

end World

end Playthrough

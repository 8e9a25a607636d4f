import Playthrough.Proofs.Task.Outline

/-!
Contract: what a turn makes of an outline.

Owns: turns that come to an end (`Lands`), the turns of operations from outside as a calculus on
outlines (`Conducts`, one rule for each instruction that operations are made of), and the turns of
drivers' tasks.

Does not own: which operations and scripts there are.

A rule goes from the end of a turn to its beginning: whatever the turn leads to after an instruction,
it leads to from before it.
-/

namespace Playthrough.World

variable {Store Driver Procedure Answer Entry : Type}

/-- A turn comes to an end, in a world of which something holds. -/
inductive Lands [DecidableEq Driver] (machine : Machine Store Driver Procedure Answer)
    (post : World Store Driver Procedure Answer → Prop) :
    World Store Driver Procedure Answer → Prop where
  | here {world : World Store Driver Procedure Answer} (noTurn : world.running = none)
      (reached : post world) : Lands machine post world
  | step {world : World Store Driver Procedure Answer} {id : TaskId}
      (running : world.running = some id) (rest : Lands machine post (world.step machine)) :
      Lands machine post world

variable [DecidableEq Driver] {machine : Machine Store Driver Procedure Answer}
variable {post : World Store Driver Procedure Answer → Prop}
variable {world : World Store Driver Procedure Answer} {id held : TaskId}

theorem Lands.mono {other : World Store Driver Procedure Answer → Prop} (lands : Lands machine post world)
    (weaker : ∀ after, after.running = none → post after → other after) :
    Lands machine other world := by
  induction lands with
  | here noTurn reached => exact .here noTurn (weaker _ noTurn reached)
  | step running _ inductionHypothesis => exact .step running inductionHypothesis

/-- Between two turns there is nothing left to do. -/
theorem Lands.reached (lands : Lands machine post world) (noTurn : world.running = none) :
    post world := by
  cases lands with
  | here _ reached => exact reached
  | step running _ =>
      rw [noTurn] at running
      cases running

theorem Lands.onward (lands : Lands machine post world) (running : world.running = some id) :
    Lands machine post (world.step machine) := by
  cases lands with
  | here noTurn _ =>
      rw [noTurn] at running
      cases running
  | step _ rest => exact rest

/-- A turn has one end, so whatever holds there holds together. -/
theorem Lands.both {other : World Store Driver Procedure Answer → Prop} (lands : Lands machine post world)
    (also : Lands machine other world) : Lands machine (fun after => post after ∧ other after) world := by
  induction lands with
  | here noTurn reached => exact .here noTurn ⟨reached, also.reached noTurn⟩
  | step running _ inductionHypothesis => exact .step running (inductionHypothesis (also.onward running))

theorem Lands.of_turn {observer : Observer Store Entry} {after : World Store Driver Procedure Answer}
    {entries : List Entry} (way : ToTurnEnd machine observer world entries after)
    (reached : post after) : Lands machine post world := by
  induction way with
  | here noTurn => exact .here noTurn reached
  | step running _ inductionHypothesis => exact .step running (inductionHypothesis reached)

theorem Lands.focus_step {before : World Store Driver Procedure Answer}
    {task other : Task Store Driver Procedure Answer} {store changed : Store}
    (stepped : (world.focus id task store).step machine = before.focus id other changed)
    (rest : Lands machine post (before.focus id other changed)) :
    Lands machine post (world.focus id task store) := by
  rw [← stepped] at rest
  exact .step rfl rest

theorem Lands.focus_last {after : World Store Driver Procedure Answer}
    {task : Task Store Driver Procedure Answer} {store : Store}
    (stepped : (world.focus id task store).step machine = after) (noTurn : after.running = none)
    (reached : post after) : Lands machine post (world.focus id task store) := by
  refine .step rfl ?_
  rw [stepped]
  exact .here noTurn reached

/-! ## Operations -/

/-- A turn of an operation that goes on with a program ends in an outline of which something holds. -/
def Conducts (machine : Machine Store Driver Procedure Answer)
    (outline : Outline Store Driver Procedure Answer) (id : TaskId)
    (program : Program Store Driver Procedure Answer) (store : Store)
    (post : Outline Store Driver Procedure Answer → Prop) : Prop :=
  ∀ world : World Store Driver Procedure Answer, world.outline = outline →
    (outline.tasks id).isSome = true →
      Lands machine (fun after => post after.outline)
        (world.focus id ((Task.fresh none .stop).on (.run program) []) store)

namespace Conducts

variable {outline : Outline Store Driver Procedure Answer} {store : Store} {driver : Driver}
variable {next body : Program Store Driver Procedure Answer}
variable {post : Outline Store Driver Procedure Answer → Prop}

omit [DecidableEq Driver] in
private theorem inside (same : world.outline = outline) (present : (outline.tasks id).isSome = true) :
    id < world.tasks.length := by
  obtain ⟨task, found⟩ := Option.isSome_iff_exists.mp present
  rw [← same] at found
  exact inside_of_found found

theorem look {choose : Store → Program Store Driver Procedure Answer}
    (rest : Conducts machine outline id (choose store) store post) :
    Conducts machine outline id (.look choose) store post := by
  intro world same present
  exact .focus_step (step_look (inside same present) choose)
    (rest world same present)

theorem update {change : Store → Store}
    (rest : Conducts machine outline id next (change store) post) :
    Conducts machine outline id (.update change next) store post := by
  intro world same present
  exact .focus_step (step_update (inside same present) change) (rest world same present)

/-- An empty slot is cancelled in passing. -/
theorem cancel_empty (empty : (outline.holdings driver).slot = none)
    (rest : Conducts machine (outline.vacate driver) id next store post) :
    Conducts machine outline id (.cancel driver next) store post := by
  intro world same present
  subst same
  refine .focus_step (step_cancel_empty (inside rfl present) empty) ?_
  exact rest _ (outline_vacate driver) present

/-- A task that is held is cancelled and joined. -/
theorem cancel_held (holding : (outline.holdings driver).slot = some held) (different : held ≠ id)
    (reached : post ((((outline.vacate driver).cancel held).rest id (.fresh none next) store).join id
      held)) : Conducts machine outline id (.cancel driver next) store post := by
  intro world same present
  subst same
  obtain ⟨task, found⟩ := Option.isSome_iff_exists.mp present
  refine .focus_last (step_cancel_held (inside rfl present) holding different) running_joining ?_
  have cancelled : ((world.setHolding driver { slot := none, live := none }).cancelTask held).outline =
      (world.outline.vacate driver).cancel held := by
    rw [outline_cancelTask, outline_vacate]
  have stillFound : ((world.setHolding driver { slot := none, live := none }).cancelTask
      held).outline.tasks id = some task := by
    rw [cancelled]
    exact (Function.update_of_ne (Ne.symm different) _ _).trans found
  rw [outline_joining stillFound _ different, cancelled]
  exact reached

/-- A driver whose slot is empty gets a new task. -/
theorem spawn (empty : (outline.holdings driver).slot = none)
    (rest : Conducts machine (outline.install driver body) id next store post) :
    Conducts machine outline id (.spawn driver body next) store post := by
  intro world same present
  subst same
  have inside := inside rfl present
  refine .focus_step (step_spawn inside body) ?_
  rw [displace_of_vacant empty]
  refine rest _ (outline_install driver body) ?_
  exact (congrArg Option.isSome (Function.update_of_ne (Nat.ne_of_lt inside) _ _)).trans present

/-- A driver whose slot is held by another task gets a new one, and the other one is cancelled. -/
theorem spawn_held (holding : (outline.holdings driver).slot = some held) (different : held ≠ id)
    (rest : Conducts machine ((outline.cancel held).install driver body) id next store post) :
    Conducts machine outline id (.spawn driver body next) store post := by
  intro world same present
  subst same
  have inside := inside rfl present
  have displaced : world.displace driver id = world.cancelTask held := by
    have there : (world.holdings driver).slot = some held := holding
    simp [displace, there, different]
  have shown : ((world.displace driver id).install driver body).outline =
      (world.outline.cancel held).install driver body := by
    rw [outline_install, displaced, outline_cancelTask]
  refine .focus_step (step_spawn inside body) (rest _ shown ?_)
  have untouched : (((world.outline.cancel held).install driver body).tasks id) =
      world.outline.tasks id :=
    (Function.update_of_ne (Nat.ne_of_lt inside) _ _).trans
      (Function.update_of_ne (Ne.symm different) _ _)
  rw [untouched]
  exact present

theorem done {answer : Option Answer} (reached : post (outline.close id store (.finished answer))) :
    Conducts machine outline id (.done answer) store post := by
  intro world same present
  subst same
  have inside := inside rfl present
  refine .focus_last (step_done inside answer) rfl ?_
  rw [outline_closed inside]
  exact reached

/-- Nobody is waited for whose driver has no task that goes on. -/
theorem settle_skip {drivers remaining : List Driver}
    (inactive : ((outline.holdings driver).slot.bind outline.tasks) = none)
    (outside : (outline.holdings driver).slot ≠ some id)
    (rest : Conducts machine outline id (.settle drivers remaining next) store post) :
    Conducts machine outline id (.settle drivers (driver :: remaining) next) store post := by
  intro world same present
  subst same
  refine .focus_step (step_settle_skip (inside rfl present) ?_ outside) (rest world rfl present)
  rw [isActive_eq]
  exact congrArg Option.isSome inactive

theorem settle_join {drivers remaining : List Driver}
    (holding : (outline.holdings driver).slot = some held) (different : held ≠ id)
    (unended : (outline.tasks held).isSome = true)
    (reached : post ((outline.rest id
      (.fresh none (.settle drivers (driver :: remaining) next)) store).join id held)) :
    Conducts machine outline id (.settle drivers (driver :: remaining) next) store post := by
  intro world same present
  subst same
  obtain ⟨task, found⟩ := Option.isSome_iff_exists.mp present
  refine .focus_last (step_settle_join (inside rfl present) holding different ?_) running_joining ?_
  · rw [isUnended_eq]
    exact unended
  · rw [outline_joining found _ different]
    exact reached

theorem settle_over {drivers : List Driver}
    (inactive : ∀ driver ∈ drivers, ((outline.holdings driver).slot.bind outline.tasks) = none)
    (outside : ∀ driver, (outline.holdings driver).slot ≠ some id)
    (rest : Conducts machine outline id next store post) :
    Conducts machine outline id (.settle drivers [] next) store post := by
  intro world same present
  subst same
  refine .focus_step (step_settle_done (inside rfl present) outside ?_) (rest world rfl present)
  refine List.any_eq_false.mpr ?_
  intro driver member
  rw [isActive_eq, show ((world.holdings driver).slot.bind world.outline.tasks) = none from
    inactive driver member]
  simp

theorem settle_again {drivers : List Driver} {active : Driver} (member : active ∈ drivers)
    (goesOn : ((outline.holdings active).slot.bind outline.tasks).isSome = true)
    (outside : ∀ driver, (outline.holdings driver).slot ≠ some id)
    (rest : Conducts machine outline id (.settle drivers drivers next) store post) :
    Conducts machine outline id (.settle drivers [] next) store post := by
  intro world same present
  subst same
  refine .focus_step (step_settle_again (inside rfl present) outside ?_) (rest world rfl present)
  exact List.any_eq_true.mpr ⟨active, member, (isActive_eq active).trans goesOn⟩

/-- Going through drivers, an operation joins the first that has a task that goes on. -/
theorem settle_through {drivers : List Driver} (remaining : List Driver)
    (outside : ∀ driver, (outline.holdings driver).slot ≠ some id)
    (joins : ∀ driver held others, (outline.holdings driver).slot = some held →
      (outline.tasks held).isSome = true →
        post ((outline.rest id (.fresh none (.settle drivers (driver :: others) next)) store).join id
          held))
    (rest : (∀ driver ∈ remaining, ((outline.holdings driver).slot.bind outline.tasks) = none) →
      Conducts machine outline id (.settle drivers [] next) store post) :
    Conducts machine outline id (.settle drivers remaining next) store post := by
  induction remaining with
  | nil => exact rest (by simp)
  | cons driver remaining inductionHypothesis =>
      cases goesOn : (outline.holdings driver).slot.bind outline.tasks with
      | none =>
          refine settle_skip goesOn (outside driver) (inductionHypothesis ?_)
          intro inactive
          refine rest ?_
          intro other member
          rcases List.mem_cons.mp member with rfl | later
          · exact goesOn
          · exact inactive other later
      | some task =>
          obtain ⟨held, holding, found⟩ := Option.bind_eq_some_iff.mp goesOn
          have different : held ≠ id := by
            intro same
            exact outside driver (by rw [holding, same])
          have unended : (outline.tasks held).isSome = true := by rw [found]; rfl
          exact settle_join holding different unended (joins driver held remaining holding unended)

/-- An operation that settles drivers joins one of them that has a task that goes on, or goes on
itself when there is none. -/
theorem settle {drivers : List Driver} (remaining : List Driver)
    (outside : ∀ driver, (outline.holdings driver).slot ≠ some id)
    (joins : ∀ driver held others, (outline.holdings driver).slot = some held →
      (outline.tasks held).isSome = true →
        post ((outline.rest id (.fresh none (.settle drivers (driver :: others) next)) store).join id
          held))
    (quiet : (∀ driver ∈ drivers, ((outline.holdings driver).slot.bind outline.tasks) = none) →
      Conducts machine outline id next store post) :
    Conducts machine outline id (.settle drivers remaining next) store post := by
  refine settle_through remaining outside joins fun _ => ?_
  by_cases inactive : ∀ driver ∈ drivers, ((outline.holdings driver).slot.bind outline.tasks) = none
  · exact settle_over inactive outside (quiet inactive)
  · push Not at inactive
    obtain ⟨active, member, goesOn⟩ := inactive
    refine settle_again member (Option.isSome_iff_ne_none.mpr goesOn) outside ?_
    refine settle_through drivers outside joins fun none => ?_
    exact absurd (none active member) goesOn

end Conducts

/-! ## Turns of drivers' tasks -/

variable {observer : Observer Store Entry} {terms : Terms Store Driver Procedure Answer}
variable {task : Task Store Driver Procedure Answer} {store : Store}
variable {frames : List (Frame Store Driver Procedure Answer)}

omit [DecidableEq Driver] in
theorem atTurn_of_kept {program : Program Store Driver Procedure Answer}
    (control : task.control = .run program) (kept : task.cancelPending = false) :
    atTurn task = task.on (.run program) task.frames := by
  obtain ⟨owner, _, frames, status, _, joiners⟩ := task
  simp only at control kept
  subst control kept
  rfl

omit [DecidableEq Driver] in
theorem atTurn_of_cancelled (cancelled : task.cancelPending = true) :
    atTurn task = ({ task with cancelPending := false } : Task Store Driver Procedure Answer).on
      (.unwind .cancelled) task.frames := by
  simp only [atTurn, cancelled, if_true]
  rfl

/-- A turn of a program that runs to its end: it ends in a wait, or it ends the program. -/
theorem lands_of_runs {program : Program Store Driver Procedure Answer} {entries : List Entry}
    (post : Outline Store Driver Procedure Answer → Prop) (found : world.outline.tasks id = some task) (allowed : world.mayAct id task = true)
    (runs : Runs machine observer terms program frames store entries)
    (paused : ∀ next frames later first rest duration shown, terms.leaves store later →
      terms.gate frames later → entries = first ++ observer.wait duration shown ++ rest →
      (∀ drifted, terms.drift later drifted →
        Runs machine observer terms (.check next) frames drifted rest) →
      post (world.outline.rest id { task.on (.run (.check next)) frames with status := .ready } later))
    (finished : ∀ answer final, terms.leaves store final → terms.post final .done →
      post (world.outline.close id final (.finished answer)))
    (failed : ∀ fault final, terms.leaves store final → terms.post final (.failed fault) →
      post (world.outline.close id final (.failed fault)))
    (handedOver : ∀ driver body final, terms.leaves store final →
      terms.post final (.handedOver driver body) →
      post (((world.displace driver id).install driver body).outline.close id final
        (.finished none))) :
    Lands machine (fun after => post after.outline)
      (world.focus id (task.on (.run program) frames) store) := by
  have inside := inside_of_found found
  obtain ⟨first, after, way, reached⟩ := turn_of_runs inside allowed runs
  refine .of_turn way ?_
  cases reached with
  | paused leaves waiting mine split last residue =>
      obtain ⟨before, last⟩ := last
      rw [outline_asleep found]
      exact paused _ _ _ before _ _ _ leaves waiting (by rw [split, last]) residue
  | finished leaves reached =>
      rw [outline_closed inside]
      exact finished _ _ leaves reached
  | failed leaves reached =>
      rw [outline_closed inside]
      exact failed _ _ leaves reached
  | @handedOver driver body control frames final leaves reached =>
      have stillInside : id < ((world.displace driver id).install driver body).tasks.length := by
        rw [length_tasks_install, length_tasks_displace]
        exact Nat.lt_succ_of_lt inside
      rw [outline_closed stillInside]
      exact handedOver _ _ _ leaves reached

/-- The only turn of a task that was cancelled while nothing was around its program. -/
theorem lands_of_cancelled (post : Outline Store Driver Procedure Answer → Prop)
    (inside : id < world.tasks.length) (bare : task.frames = [])
    (reached : post (world.outline.close id store .cancelled)) :
    Lands machine (fun after => post after.outline)
      (world.focus id (task.on (.unwind .cancelled) task.frames) store) := by
  rw [bare]
  refine .focus_last (step_unwind inside .cancelled) rfl ?_
  rw [outline_closed inside]
  exact reached

/-- The only turn of a task that was cancelled while a change of the store was still to be taken
back. -/
theorem lands_of_cancelled_ensured (post : Outline Store Driver Procedure Answer → Prop)
    {change : Store → Store} {next : Program Store Driver Procedure Answer}
    (inside : id < world.tasks.length) (around : task.frames = [.ensured (.update change .stop) next])
    (reached : post (world.outline.close id (change store) .cancelled)) :
    Lands machine (fun after => post after.outline)
      (world.focus id (task.on (.unwind .cancelled) task.frames) store) := by
  rw [around]
  refine .focus_step (step_unwind_ensured inside .cancelled _) ?_
  refine .focus_step (step_update inside change) ?_
  refine .focus_step (step_done_resumed inside none .cancelled) ?_
  refine .focus_last (step_unwind inside .cancelled) rfl ?_
  rw [outline_closed inside]
  exact reached

/-! ## Between two turns -/

/-- An operation that begins has its first turn at once. -/
theorem lands_begin (post : Outline Store Driver Procedure Answer → Prop)
    {program : Program Store Driver Procedure Answer}
    (conducts : Conducts machine (world.outline.add (.fresh none program)) world.outline.count program
      world.store post) :
    Lands machine (fun after => post after.outline) (world.begin program).2 := by
  rw [begin_eq_focus]
  refine conducts _ (outline_add rfl) ?_
  simp [Outline.add]

variable (machine) in
/-- What the next step is between two turns: it shows nothing, or a task of the outline begins a turn,
which waits for no other one. -/
theorem step_cases (balanced : world.Balanced) (noTurn : world.running = none) :
    ((world.step machine).running = none ∧ (world.step machine).outline = world.outline
        ∧ (world.isIdle = true ∨ (world.step machine).calls < world.calls)) ∨
      ∃ (id : TaskId) (task : Task Store Driver Procedure Answer)
        (base : World Store Driver Procedure Answer), world.outline.tasks id = some task ∧
          base.outline = world.outline ∧
          world.step machine = base.focus id (atTurn task) world.store ∧
          ∀ other someone, world.outline.tasks other = some someone → id ∉ someone.joiners := by
  have orderly : world.Orderly none := by
    rw [← noTurn]
    exact balanced
  cases queued : world.queue with
  | nil =>
      rw [step_of_isIdle machine (by simp [isIdle, noTurn, queued])]
      exact .inl ⟨noTurn, rfl, .inl (by simp [isIdle, noTurn, queued])⟩
  | cons turn queue =>
      cases turn with
      | joined id =>
          refine .inl ?_
          have stepped : world.step machine = { world.noteJoined id with
              queue := (({ world with queue := queue } :
                World Store Driver Procedure Answer).noteJoined id).queue } := by
            rw [step_joined noTurn queued]
            simp only [noteJoined]
            split <;> rfl
          have shown := outline_noteJoined orderly (show Turn.joined id ∈ world.queue by simp [queued])
          refine ⟨?_, ?_, .inr ?_⟩
          · rw [stepped]
            simp only [noteJoined]
            split <;> exact noTurn
          · rw [stepped]
            exact shown
          · rw [step_joined noTurn queued]
            exact calls_noteJoined queued
      | run id =>
          obtain ⟨task, found, ready⟩ :=
            orderly.ready_of_queued (show Turn.run id ∈ world.queue by simp [queued])
          refine .inr ⟨id, task, { world with queue := queue }, found_of_ready found ready, rfl,
            step_run noTurn queued found, ?_⟩
          intro other someone shown
          obtain ⟨last, there, unended, rfl⟩ := task_of_found shown
          have queued : Turn.run id ∈ world.queue := by simp [queued]
          have unawaited : id ∉ last.joiners := orderly.not_awaited queued there unended
          exact unawaited

omit [DecidableEq Driver] in
/-- Where nothing moves and the clock holds nothing, whoever has not ended waits for somebody else. -/
theorem awaits_somebody (balanced : world.Balanced) (idle : world.isIdle = true)
    (silent : world.waits = []) {task : Task Store Driver Procedure Answer}
    (found : world.outline.tasks id = some task) :
    ∃ other someone, world.outline.tasks other = some someone ∧ id ∈ someone.joiners := by
  simp only [isIdle, Bool.and_eq_true, Option.isNone_iff_eq_none, List.isEmpty_iff] at idle
  have orderly : world.Orderly none := by
    rw [← idle.1]
    exact balanced
  obtain ⟨last, there, unended, -⟩ := task_of_found found
  obtain ⟨other, someone, present, goesOn, member⟩ :=
    orderly.awaits_somebody idle.2 (by simp [silent]) there unended
  refine ⟨other, { someone with status := .ready }, ?_, member⟩
  simp [outline, present, Task.unended?, goesOn]

end Playthrough.World

import Playthrough.Proofs.Task.Waits

/-!
Contract: carrying out an operation to its end.

Owns: the moves that are made until a task has ended (`Pursues`), and that they are made whatever bound
is put on their count.

Does not own: that a task ends.

A task ends in the last step of a turn, so nothing is decided in the middle of one.
-/

namespace Playthrough.World

variable {Store Driver Procedure Answer : Type}

/-- The moves until a task has ended: steps, and the end of the oldest wait where nothing moves. -/
inductive Pursues [DecidableEq Driver] (machine : Machine Store Driver Procedure Answer) (id : TaskId) :
    World Store Driver Procedure Answer → World Store Driver Procedure Answer → Prop where
  | here (world : World Store Driver Procedure Answer) : Pursues machine id world world
  | step {world after : World Store Driver Procedure Answer} (unended : world.outcome? id = none)
      (busy : world.isIdle = false) (rest : Pursues machine id (world.step machine) after) :
      Pursues machine id world after
  | release {world released after : World Store Driver Procedure Answer}
      (unended : world.outcome? id = none) (idle : world.isIdle = true)
      (oldest : world.release? 0 = some released) (rest : Pursues machine id released after) :
      Pursues machine id world after

variable [DecidableEq Driver] {machine : Machine Store Driver Procedure Answer}
variable {post : World Store Driver Procedure Answer → Prop}
variable {world after later : World Store Driver Procedure Answer} {id other held : TaskId}

namespace Pursues

theorem trans (first : Pursues machine id world after) (second : Pursues machine id after later) :
    Pursues machine id world later := by
  induction first with
  | here _ => exact second
  | step unended busy _ inductionHypothesis => exact .step unended busy (inductionHypothesis second)
  | release unended idle oldest _ inductionHypothesis =>
      exact .release unended idle oldest (inductionHypothesis second)

/-- Every bound that is large enough for the moves leads to where they lead. -/
theorem runUntilEnded (pursues : Pursues machine id world after) :
    ∃ count, ∀ fuel, World.runUntilEnded machine id (fuel + count) world =
      World.runUntilEnded machine id fuel after := by
  induction pursues with
  | here _ => exact ⟨0, fun _ => rfl⟩
  | @step world after unended busy _ inductionHypothesis =>
      obtain ⟨count, reaches⟩ := inductionHypothesis
      refine ⟨count + 1, ?_⟩
      intro fuel
      rw [← reaches fuel, ← Nat.add_assoc, World.runUntilEnded]
      simp [unended, busy]
  | @release world released after unended idle oldest _ inductionHypothesis =>
      obtain ⟨count, reaches⟩ := inductionHypothesis
      refine ⟨count + 1, ?_⟩
      intro fuel
      rw [← reaches fuel, ← Nat.add_assoc, World.runUntilEnded]
      simp [unended, idle, oldest]

/-- Nothing moves any more once the task has ended. -/
theorem runUntilEnded_of_ended (ended : (after.outcome? id).isSome = true) (fuel : Nat) :
    World.runUntilEnded machine id fuel after = after := by
  cases fuel with
  | zero => rfl
  | succ fuel => simp [World.runUntilEnded, ended]

/-- The moves that are made under a bound. -/
theorem of_runUntilEnded (fuel : Nat) (world : World Store Driver Procedure Answer) :
    Pursues machine id world (World.runUntilEnded machine id fuel world) := by
  induction fuel generalizing world with
  | zero => exact .here world
  | succ fuel inductionHypothesis =>
      rw [World.runUntilEnded]
      cases known : world.outcome? id with
      | some outcome => exact .here world
      | none =>
          cases idle : world.isIdle with
          | true =>
              cases oldest : world.release? 0 with
              | none => exact .here world
              | some released => exact .release known idle oldest (inductionHypothesis released)
          | false => exact .step known idle (inductionHypothesis _)

/-- A bound on the moves may be spent in two parts. -/
theorem runUntilEnded_add (first second : Nat) (world : World Store Driver Procedure Answer) :
    World.runUntilEnded machine id (first + second) world =
      World.runUntilEnded machine id second (World.runUntilEnded machine id first world) := by
  induction first generalizing world with
  | zero => rw [Nat.zero_add, World.runUntilEnded]
  | succ first inductionHypothesis =>
      rw [Nat.add_right_comm, World.runUntilEnded, World.runUntilEnded]
      by_cases ended : (world.outcome? id).isSome = true
      · rw [if_pos ended, if_pos ended, runUntilEnded_of_ended ended]
      · rw [if_neg ended, if_neg ended]
        by_cases idle : world.isIdle = true
        · rw [if_pos idle, if_pos idle]
          cases oldest : world.release? 0 with
          | some released => exact inductionHypothesis released
          | none =>
              cases second with
              | zero => rfl
              | succ second => rw [World.runUntilEnded, if_neg ended, if_pos idle, oldest]
        · rw [if_neg idle, if_neg idle]
          exact inductionHypothesis _

/-- Two bounds under which a task ends lead to the same world. -/
theorem runUntilEnded_unique {first second : Nat}
    (firstEnds : ((World.runUntilEnded machine id first world).outcome? id).isSome = true)
    (secondEnds : ((World.runUntilEnded machine id second world).outcome? id).isSome = true) :
    World.runUntilEnded machine id first world = World.runUntilEnded machine id second world := by
  have whole : World.runUntilEnded machine id (first + second) world = _ :=
    runUntilEnded_add first second world
  rw [Nat.add_comm, runUntilEnded_add, runUntilEnded_of_ended secondEnds,
    runUntilEnded_of_ended firstEnds] at whole
  exact whole.symm

/-- A task ends in one world only. -/
theorem unique (first : Pursues machine id world after) (second : Pursues machine id world later)
    (ended : (after.outcome? id).isSome = true) (alsoEnded : (later.outcome? id).isSome = true) :
    after = later := by
  obtain ⟨count, reaches⟩ := first.runUntilEnded
  obtain ⟨otherCount, alsoReaches⟩ := second.runUntilEnded
  have leads : World.runUntilEnded machine id (0 + count) world = after := reaches 0
  have alsoLeads : World.runUntilEnded machine id (0 + otherCount) world = later := alsoReaches 0
  rw [← leads, ← alsoLeads]
  refine runUntilEnded_unique ?_ ?_
  · rw [leads]
    exact ended
  · rw [alsoLeads]
    exact alsoEnded

theorem balanced (pursues : Pursues machine id world after) (balanced : world.Balanced) :
    after.Balanced := by
  induction pursues with
  | here _ => exact balanced
  | step _ _ _ inductionHypothesis => exact inductionHypothesis (balanced.step machine)
  | release _ _ oldest _ inductionHypothesis => exact inductionHypothesis (balanced.release? oldest)

end Pursues

/-! ## Ends of tasks -/

omit [DecidableEq Driver] in
theorem noTurn_of_isIdle (idle : world.isIdle = true) : world.running = none := by
  simp only [isIdle, Bool.and_eq_true, Option.isNone_iff_eq_none] at idle
  exact idle.1

omit [DecidableEq Driver] in
theorem outcome?_modifyTask (world : World Store Driver Procedure Answer)
    {change : Task Store Driver Procedure Answer → Task Store Driver Procedure Answer}
    (same : ∀ task, world.tasks[held]? = some task → (change task).outcome? = task.outcome?) :
    (world.modifyTask held change).outcome? id = world.outcome? id := by
  simp only [outcome?, modifyTask, List.getElem?_modify]
  by_cases here : held = id
  · subst here
    cases found : world.tasks[held]? with
    | none => simp
    | some task => simpa using same task found
  · simp [here]

omit [DecidableEq Driver] in
theorem outcome?_proceed (world : World Store Driver Procedure Answer)
    (control : Control Store Driver Procedure Answer)
    (frames : List (Frame Store Driver Procedure Answer)) :
    (world.proceed held control frames).outcome? id = world.outcome? id :=
  outcome?_modifyTask world fun _ _ => rfl

omit [DecidableEq Driver] in
theorem outcome?_cancelTask : (world.cancelTask held).outcome? id = world.outcome? id := by
  cases found : world.tasks[held]? with
  | none => simp only [cancelTask, found]
  | some task =>
      have marks : ∀ marked : World Store Driver Procedure Answer, marked.tasks = world.tasks →
          (marked.modifyTask held fun task => { task with cancelPending := true }).outcome? id =
            world.outcome? id := by
        intro marked same
        have kept : (marked.modifyTask held fun task =>
            { task with cancelPending := true }).outcome? id = marked.outcome? id :=
          outcome?_modifyTask marked fun _ _ => rfl
        rw [kept, outcome?, outcome?, same]
      cases status : task.status with
      | ended outcome => simp only [cancelTask, found, status]
      | ready =>
          simp only [cancelTask, found, status]
          exact marks world rfl
      | joining count =>
          simp only [cancelTask, found, status]
          exact marks world rfl
      | sleeping =>
          simp only [cancelTask, found, status]
          refine Eq.trans ?_ (marks (world.dropWait held) rfl)
          refine outcome?_modifyTask _ ?_
          intro other there
          have sleeps : other.status = .sleeping := by
            have same : other = { task with cancelPending := true } := by
              simpa [modifyTask, dropWait, List.getElem?_modify, found] using there.symm
            rw [same]
            exact status
          simp [Task.outcome?, sleeps]

omit [DecidableEq Driver] in
theorem outcome?_displace (driver : Driver) :
    (world.displace driver held).outcome? id = world.outcome? id := by
  simp only [displace]
  split
  · split
    · rfl
    · exact outcome?_cancelTask
  · rfl

theorem outcome?_install (driver : Driver) (body : Program Store Driver Procedure Answer) :
    (world.install driver body).outcome? id = world.outcome? id := by
  simp only [outcome?, install, enqueue, setHolding]
  by_cases inside : id < world.tasks.length
  · rw [List.getElem?_append_left inside]
  · have beyond : world.tasks.length ≤ id := Nat.le_of_not_lt inside
    rw [List.getElem?_append_right beyond, List.getElem?_eq_none beyond]
    cases id - world.tasks.length with
    | zero => rfl
    | succ more => rfl

/-- An instruction after which the turn goes on has ended no task. -/
theorem outcome?_execute {task : Task Store Driver Procedure Answer}
    {program : Program Store Driver Procedure Answer}
    (goesOn : (world.execute machine held task program).running ≠ none) :
    (world.execute machine held task program).outcome? id = world.outcome? id := by
  have proceeds : ∀ (changed : World Store Driver Procedure Answer) control frames,
      changed.outcome? id = world.outcome? id →
      (changed.proceed held control frames).outcome? id = world.outcome? id := by
    intro changed control frames same
    exact (outcome?_proceed changed control frames).trans same
  cases program with
  | done answer =>
      simp only [execute] at goesOn ⊢
      split at goesOn
      · exact absurd rfl goesOn
      · exact proceeds world _ _ rfl
      · exact proceeds world _ _ rfl
      · exact proceeds world _ _ rfl
  | fail fault => exact proceeds world _ _ rfl
  | look choose => exact proceeds world _ _ rfl
  | update change next => exact proceeds { world with store := change world.store } _ _ rfl
  | call procedure next => exact proceeds world _ _ rfl
  | check next =>
      simp only [execute]
      split
      · exact proceeds world _ _ rfl
      · exact proceeds world _ _ rfl
  | revoke next =>
      simp only [execute]
      split
      · split
        · exact proceeds (world.revoke _) _ _ rfl
        · exact proceeds world _ _ rfl
      · exact proceeds world _ _ rfl
  | pause duration next =>
      simp only [execute] at goesOn ⊢
      split at goesOn
      · exact absurd rfl goesOn
      · next forbidden =>
          rw [if_neg forbidden]
          exact proceeds world _ _ rfl
  | spawn driver body next =>
      exact proceeds _ _ _ ((outcome?_install driver body).trans (outcome?_displace driver))
  | cancel driver next =>
      simp only [execute] at goesOn ⊢
      split at goesOn
      · exact proceeds (world.setHolding driver _) _ _ rfl
      · split at goesOn
        · next own =>
            rw [if_pos own]
            exact proceeds (world.setHolding driver _) _ _ rfl
        · exact absurd rfl goesOn
  | settle drivers remaining next =>
      cases remaining with
      | nil =>
          simp only [execute]
          split
          · exact proceeds world _ _ rfl
          · exact proceeds world _ _ rfl
      | cons driver remaining =>
          simp only [execute] at goesOn ⊢
          split at goesOn
          · split at goesOn
            · exact absurd rfl goesOn
            · next ended =>
                rw [if_neg ended]
                exact proceeds world _ _ rfl
          · exact proceeds world _ _ rfl
  | guard body next => exact proceeds world _ _ rfl
  | ensure body cleanup next => exact proceeds world _ _ rfl

omit [DecidableEq Driver] in
theorem outcome?_unwind {task : Task Store Driver Procedure Answer} {signal : Signal}
    (goesOn : (world.unwind held task signal).running ≠ none) :
    (world.unwind held task signal).outcome? id = world.outcome? id := by
  simp only [unwind] at goesOn ⊢
  split at goesOn
  · split at goesOn <;> exact absurd rfl goesOn
  · split at goesOn
    · next cancelled =>
        rw [if_pos cancelled]
        exact outcome?_proceed world _ _
    · next other =>
        rw [if_neg other]
        exact outcome?_proceed world _ _
  · exact outcome?_proceed world _ _
  · exact outcome?_proceed world _ _

/-- A step after which a turn goes on has ended no task. -/
theorem outcome?_step (goesOn : (world.step machine).running = some other) :
    (world.step machine).outcome? id = world.outcome? id := by
  have continues : (world.step machine).running ≠ none := by
    rw [goesOn]
    simp
  cases running : world.running with
  | some held =>
      cases found : world.tasks[held]? with
      | none =>
          simp only [step, running, found] at continues
          exact absurd rfl continues
      | some task =>
          cases control : task.control with
          | run program =>
              simp only [step, running, found, control] at continues ⊢
              exact outcome?_execute continues
          | unwind signal =>
              simp only [step, running, found, control] at continues ⊢
              exact outcome?_unwind continues
  | none =>
      cases queued : world.queue with
      | nil => simp only [step, running, queued]
      | cons turn queue =>
          cases turn with
          | run held =>
              simp only [step, running, queued]
              refine outcome?_modifyTask _ ?_
              intro task _
              split <;> rfl
          | joined held =>
              exfalso
              refine continues ?_
              simp only [step, running, queued, noteJoined]
              split <;> rfl

/-- A turn that comes to an end is gone through. -/
theorem Lands.pursues (lands : Lands machine post world) (unended : world.outcome? id = none) :
    ∃ after, Pursues machine id world after ∧ after.running = none ∧ post after := by
  induction lands with
  | here noTurn reached => exact ⟨_, .here _, noTurn, reached⟩
  | @step world held running rest inductionHypothesis =>
      have busy : world.isIdle = false := by simp [isIdle, running]
      cases next : (world.step machine).running with
      | none =>
          exact ⟨_, .step unended busy (.here _), next, rest.reached next⟩
      | some other =>
          have stillUnended : (world.step machine).outcome? id = none :=
            (outcome?_step next).trans unended
          obtain ⟨after, pursues, noTurn, reached⟩ := inductionHypothesis stillUnended
          exact ⟨after, .step unended busy pursues, noTurn, reached⟩

/-- The task that everybody else waits for has the next turn. -/
theorem pursues_to_turn (machine : Machine Store Driver Procedure Answer) {turner : TaskId}
    {waiter task : Task Store Driver Procedure Answer} (balanced : world.Balanced)
    (noTurn : world.running = none) (waiting : world.outline.tasks id = some waiter)
    (found : world.outline.tasks turner = some task)
    (awaited : ∀ other someone, world.outline.tasks other = some someone →
      other = turner ∨ other ∈ task.joiners)
    (unawaited : ∀ other someone, world.outline.tasks other = some someone → turner ∉ someone.joiners) :
    ∃ base : World Store Driver Procedure Answer, base.outline = world.outline
      ∧ Pursues machine id world (base.focus turner (atTurn task) world.store)
      ∧ Begins turner [] world (base.focus turner (atTurn task) world.store)
      ∧ (base.focus turner (atTurn task) world.store).outcome? id = none := by
  -- Moves that do not show leave fewer turns to be called, so the task's own turn comes.
  induction calls : world.calls using Nat.strongRecOn generalizing world with
  | ind _ inductionHypothesis =>
  subst calls
  have unended : world.outcome? id = none := no_outcome waiting
  have calmer : ∀ later : World Store Driver Procedure Answer, Begins turner [] world later →
      later.Balanced → later.running = none → later.outline = world.outline →
      later.calls < world.calls →
      ∃ base : World Store Driver Procedure Answer, base.outline = world.outline
        ∧ Pursues machine id later (base.focus turner (atTurn task) world.store)
        ∧ Begins turner [] world (base.focus turner (atTurn task) world.store)
        ∧ (base.focus turner (atTurn task) world.store).outcome? id = none := by
    intro later begins laterBalanced laterNoTurn same fewer
    have sameStore : later.store = world.store := congrArg Outline.store same
    rw [← same] at waiting found awaited unawaited ⊢
    rw [← sameStore]
    obtain ⟨base, shown, pursues, also, stillUnended⟩ :=
      inductionHypothesis _ fewer laterBalanced laterNoTurn waiting found awaited unawaited rfl
    exact ⟨base, shown, pursues, begins.trans also, stillUnended⟩
  cases idle : world.isIdle with
  | true =>
      cases oldest : world.release? 0 with
      | none =>
          have silent : world.waits = [] := by
            cases held : world.waits with
            | nil => rfl
            | cons wait rest => simp [release?, held] at oldest
          obtain ⟨other, someone, there, member⟩ := awaits_somebody balanced idle silent found
          exact absurd member (unawaited other someone there)
      | some released =>
          have orderly : world.Orderly none := by
            rw [← noTurn]
            exact balanced
          have stillNoTurn : released.running = none := by
            obtain ⟨-, -, rfl⟩ := release?_eq_some.mp oldest
            exact noTurn
          obtain ⟨base, same, pursues, begins, stillUnended⟩ :=
            calmer released (begins_release? oldest turner) (balanced.release? oldest) stillNoTurn
              (outline_release? orderly oldest) (calls_release? oldest)
          exact ⟨base, same, .release unended idle oldest pursues, begins, stillUnended⟩
  | false =>
      have between : Begins turner [] world (world.step machine) := begins_between noTurn turner
      rcases step_cases machine balanced noTurn with
        ⟨stillNoTurn, same, isIdle | fewer⟩ | ⟨other, someone, base, there, same, stepped, alone⟩
      · rw [idle] at isIdle
        cases isIdle
      · obtain ⟨base, shown, pursues, begins, stillUnended⟩ :=
          calmer (world.step machine) between (balanced.step machine) stillNoTurn same fewer
        exact ⟨base, shown, .step unended idle pursues, begins, stillUnended⟩
      · rcases awaited other someone there with mine | waits
        · subst mine
          rw [found] at there
          cases there
          have turn : (world.step machine).running = some other := by
            rw [stepped]
            rfl
          have stillUnended : (world.step machine).outcome? id = none :=
            (outcome?_step turn).trans unended
          rw [stepped] at between stillUnended
          refine ⟨base, same, .step unended idle ?_, between, stillUnended⟩
          rw [stepped]
          exact .here _
        · exact absurd waits (alone turner task found)

/-- The task that everybody else waits for has the next turn, and comes to the end of it. -/
theorem pursues_turn {turner : TaskId} {waiter task : Task Store Driver Procedure Answer}
    {reached : Outline Store Driver Procedure Answer → Prop} (balanced : world.Balanced)
    (noTurn : world.running = none) (waiting : world.outline.tasks id = some waiter)
    (found : world.outline.tasks turner = some task)
    (awaited : ∀ other someone, world.outline.tasks other = some someone →
      other = turner ∨ other ∈ task.joiners)
    (unawaited : ∀ other someone, world.outline.tasks other = some someone → turner ∉ someone.joiners)
    (lands : ∀ base : World Store Driver Procedure Answer, base.outline = world.outline →
      Lands machine (fun after => reached after.outline)
        (base.focus turner (atTurn task) world.store)) :
    ∃ after, Pursues machine id world after ∧ after.running = none ∧ reached after.outline := by
  obtain ⟨base, same, toTurn, -, unended⟩ :=
    pursues_to_turn machine balanced noTurn waiting found awaited unawaited
  obtain ⟨after, pursues, stopped, ends⟩ := (lands base same).pursues unended
  exact ⟨after, toTurn.trans pursues, stopped, ends⟩

/-- An operation that waits while every other task has ended goes on by itself. -/
theorem pursues_alone {program : Program Store Driver Procedure Answer}
    {reached : Outline Store Driver Procedure Answer → Prop} (balanced : world.Balanced)
    (noTurn : world.running = none) (waiting : world.outline.tasks id = some (.fresh none program))
    (only : ∀ other task, world.outline.tasks other = some task → other = id)
    (conducts : Conducts machine world.outline id program world.store reached) :
    ∃ after, Pursues machine id world after ∧ after.running = none ∧ reached after.outline := by
  refine pursues_turn balanced noTurn waiting waiting (fun other someone there => .inl (only other someone there))
    ?_ ?_
  · intro other someone there
    have mine := only other someone there
    subst mine
    rw [waiting] at there
    cases there
    exact List.not_mem_nil
  · intro base same
    exact conducts base same (by rw [waiting]; rfl)

end Playthrough.World

import Playthrough.Proofs.Task.TurnEnd
import Playthrough.Proofs.Task.Overtaking

/-!
Contract: letting everything run where at most one task goes on.

Owns: worlds in which the clock holds nobody but tasks in the middle of a pause (`Paused`), and that the
only task that goes on has one turn before nothing moves by itself.

Does not own: what comes of that turn.

A task that is not in the middle of a pause is not held by the clock, so its turn comes without the end of
a wait. When that turn is over the task has ended, or the clock holds it.
-/

namespace Playthrough

variable {Store Driver Procedure Answer : Type}

namespace World

variable {world after : World Store Driver Procedure Answer} {id held : TaskId}
variable {task : Task Store Driver Procedure Answer}

/-! ## Tasks in the middle of a pause -/

/-- Whoever has a wait is in the middle of a pause. -/
def Paused (world : World Store Driver Procedure Answer) : Prop :=
  ∀ wait ∈ world.waits, ∀ task, world.bare[wait.task]? = some task →
    ∃ next, task.control = .run (.check next)

namespace Paused

variable {control : Control Store Driver Procedure Answer}
variable {frames : List (Frame Store Driver Procedure Answer)}

theorem initial (store : Store) : (World.initial store : World Store Driver Procedure Answer).Paused := by
  intro wait member
  cases member

theorem of_same (paused : world.Paused) (bare : after.bare = world.bare)
    (waits : ∀ wait ∈ after.waits, wait ∈ world.waits) : after.Paused := by
  intro wait member task found
  rw [bare] at found
  exact paused wait (waits wait member) task found

/-- A task that the clock does not hold goes on. -/
theorem proceed (paused : world.Paused) (awake : ∀ wait ∈ world.waits, wait.task ≠ id) :
    (world.proceed id control frames).Paused := by
  intro wait member task found
  have different : id ≠ wait.task := (awake wait member).symm
  simp only [bare_proceed, List.getElem?_modify, different, if_false, id_map'] at found
  exact paused wait member task found

/-- Tasks are made that the clock does not hold. -/
theorem of_more {acting : Option TaskId} (paused : world.Paused) (orderly : world.Orderly acting)
    (bare : world.bare <+: after.bare) (waits : ∀ wait ∈ after.waits, wait ∈ world.waits) :
    after.Paused := by
  intro wait member task found
  obtain ⟨more, same⟩ := bare
  obtain ⟨sleeper, there, -⟩ := orderly.sleeping_of_wait (waits wait member)
  have inside : wait.task < world.bare.length := by
    rw [World.bare, List.length_map]
    exact (List.getElem?_eq_some_iff.mp there).1
  rw [← same, List.getElem?_append_left inside] at found
  exact paused wait (waits wait member) task found

theorem begin (paused : world.Paused) (balanced : world.Balanced) (noTurn : world.running = none)
    (operation : Program Store Driver Procedure Answer) : (world.begin operation).2.Paused := by
  have orderly : world.Orderly none := by
    rw [← noTurn]
    exact balanced
  refine paused.of_more orderly ?_ fun _ member => member
  simp only [World.bare, World.begin, List.map_append]
  exact List.prefix_append _ _

theorem release? {released : World Store Driver Procedure Answer} (paused : world.Paused)
    {position : Nat} (wait : world.release? position = some released) : released.Paused := by
  refine paused.of_same (bare_release? wait) ?_
  obtain ⟨_, _, rfl⟩ := release?_eq_some.mp wait
  intro other member
  exact List.mem_of_mem_eraseIdx member

variable [DecidableEq Driver] {machine : Machine Store Driver Procedure Answer}

omit [DecidableEq Driver] in
theorem waits_displace {wait : Wait} {driver : Driver} (orderly : world.Orderly (some id))
    (member : wait ∈ (world.displace driver id).waits) : wait ∈ world.waits := by
  simp only [World.displace] at member
  split at member
  · split at member
    · exact member
    · exact (orderly.wait_of_cancelTask member).1
  · exact member

/-- An instruction puts to sleep nobody but a task that begins a pause. -/
theorem execute {program : Program Store Driver Procedure Answer} (paused : world.Paused)
    (orderly : world.Orderly (some id)) : (world.execute machine id task program).Paused := by
  have awake : ∀ wait ∈ world.waits, wait.task ≠ id := fun wait member => orderly.ne_of_wait member
  have goesOn : ∀ {changed : World Store Driver Procedure Answer} {control frames},
      changed.bare = world.bare → (∀ wait ∈ changed.waits, wait ∈ world.waits) →
      (changed.proceed id control frames).Paused := by
    intro changed control frames bare waits
    exact (paused.of_same bare waits).proceed fun wait member => awake wait (waits wait member)
  have still : ∀ {control frames}, (world.proceed id control frames).Paused :=
    goesOn rfl fun _ member => member
  cases program with
  | done answer =>
      simp only [World.execute]
      split
      · exact paused.of_same (bare_finish _ _) fun _ member => member
      · exact still
      · exact still
      · exact still
  | fail fault => exact still
  | look choose => exact still
  | update change next =>
      exact goesOn (rfl : ({ world with store := change world.store } :
        World Store Driver Procedure Answer).bare = world.bare) fun _ member => member
  | call procedure next => exact still
  | check next =>
      simp only [World.execute]
      split
      · exact still
      · exact still
  | revoke next =>
      simp only [World.execute]
      split
      · split
        · exact goesOn rfl fun _ member => member
        · exact still
      · exact still
  | pause duration next =>
      simp only [World.execute]
      split
      · intro wait member other found
        rw [bare_sleep] at found
        rcases List.mem_append.mp (show wait ∈ world.waits ++ [_] from member) with before | new
        · exact still wait before other found
        · obtain rfl := List.mem_singleton.mp new
          rw [bare_proceed, List.getElem?_modify_eq, Option.map_eq_map, Option.map_eq_some_iff] at found
          obtain ⟨_, -, rfl⟩ := found
          exact ⟨next, rfl⟩
      · exact still
  | spawn driver body next =>
      have displaced : ∀ wait ∈ (world.displace driver id).waits, wait ∈ world.waits :=
        fun wait member => waits_displace orderly member
      have made : ((world.displace driver id).install driver body).Paused := by
        refine paused.of_more orderly ?_ displaced
        rw [bare_install, bare_displace]
        exact List.prefix_append _ _
      exact made.proceed fun wait member => awake wait (displaced wait member)
  | cancel driver next =>
      let taken : World Store Driver Procedure Answer :=
        (world.setHolding driver { slot := none, live := none }).proceed id (.run next) task.frames
      have goes : taken.Paused := goesOn rfl fun _ member => member
      have takenOrderly : taken.Orderly (some id) := (orderly.setHolding driver _).proceed _ _
      simp only [World.execute]
      split
      · exact goes
      · next held _ =>
          split
          · exact goes
          · refine goes.of_same (bare_yieldTurn.trans (bare_join.trans bare_cancelTask)) ?_
            intro wait member
            have cancelled : wait ∈ (taken.cancelTask held).waits := by
              rw [← waits_join]
              exact member
            exact (takenOrderly.wait_of_cancelTask cancelled).1
  | settle drivers remaining next =>
      cases remaining with
      | nil =>
          simp only [World.execute]
          split
          · exact still
          · exact still
      | cons driver remaining =>
          simp only [World.execute]
          split
          · split
            · refine paused.of_same (bare_yieldTurn.trans bare_join) ?_
              intro wait member
              rw [← waits_join]
              exact member
            · exact still
          · exact still
  | guard body next => exact still
  | ensure body cleanup next => exact still

omit [DecidableEq Driver] in
theorem unwind {signal : Signal} (paused : world.Paused) (orderly : world.Orderly (some id)) :
    (world.unwind id task signal).Paused := by
  have still : ∀ {control frames}, (world.proceed id control frames).Paused :=
    paused.proceed fun wait member => orderly.ne_of_wait member
  simp only [World.unwind]
  split
  · cases signal <;> exact paused.of_same (bare_finish _ _) fun _ member => member
  · split
    · exact still
    · exact still
  · exact still
  · exact still

omit [DecidableEq Driver] in
theorem beginTurn (paused : world.Paused) (awake : ∀ wait ∈ world.waits, wait.task ≠ id) :
    (world.beginTurn id).Paused := by
  intro wait member task found
  have different : id ≠ wait.task := (awake wait member).symm
  simp only [World.bare, World.beginTurn, World.modifyTask, List.getElem?_map, List.getElem?_modify,
    different, if_false, id_map'] at found
  refine paused wait member task ?_
  rw [World.bare, List.getElem?_map]
  exact found

/-- A step puts to sleep nobody but a task that begins a pause. -/
theorem step (paused : world.Paused) (balanced : world.Balanced) : (world.step machine).Paused := by
  cases turn : world.running with
  | some id =>
      have orderly : world.Orderly (some id) := by
        rw [← turn]
        exact balanced
      obtain ⟨task, found, -⟩ := orderly.acts
      cases control : task.control with
      | run program =>
          simp only [World.step, turn, found, control]
          exact paused.execute orderly
      | unwind signal =>
          simp only [World.step, turn, found, control]
          exact paused.unwind orderly
  | none =>
      cases queued : world.queue with
      | nil =>
          simp only [World.step, turn, queued]
          exact paused
      | cons next queue =>
          have taken : ({ world with queue := queue, running := none } :
              World Store Driver Procedure Answer).Paused := paused
          cases next with
          | run id =>
              simp only [World.step, turn, queued]
              refine taken.beginTurn ?_
              rintro wait member rfl
              obtain ⟨sleeper, there, asleep⟩ := balanced.sleeping_of_wait member
              obtain ⟨task, found, ready⟩ :=
                balanced.ready_of_queued (show Turn.run wait.task ∈ world.queue by simp [queued])
              rw [there] at found
              cases found
              rw [ready] at asleep
              cases asleep
          | joined id =>
              simp only [World.step, turn, queued]
              refine taken.of_same bare_noteJoined ?_
              intro wait member
              rw [waits_noteJoined] at member
              exact member

omit [DecidableEq Driver] in
/-- Where the only task that goes on is not in the middle of a pause, the clock holds nobody. -/
theorem silent {program : Program Store Driver Procedure Answer} (paused : world.Paused)
    (balanced : world.Balanced) (found : world.outline.tasks id = some task)
    (only : ∀ other someone, world.outline.tasks other = some someone → other = id)
    (control : task.control = .run program) (awake : ∀ next, program ≠ .check next) :
    world.waits = [] := by
  refine List.eq_nil_iff_forall_not_mem.mpr ?_
  intro wait member
  obtain ⟨sleeper, there, asleep⟩ := balanced.sleeping_of_wait member
  have unended : sleeper.isEnded = false := by simp [Task.isEnded, asleep]
  have goesOn : world.outline.tasks wait.task = some { sleeper with status := .ready } := by
    simp [outline, there, Task.unended?, unended]
  have same := only wait.task _ goesOn
  rw [same, found] at goesOn
  cases goesOn
  obtain ⟨next, checks⟩ : ∃ next, sleeper.bare.control = .run (.check next) := by
    refine paused wait member _ ?_
    rw [World.bare, List.getElem?_map, there]
    rfl
  rw [show sleeper.bare.control = .run program from control] at checks
  exact awake next (Control.run.inj checks)

theorem pursues (paused : world.Paused) (balanced : world.Balanced)
    (pursues : Pursues machine id world after) : after.Paused := by
  induction pursues with
  | here _ => exact paused
  | step _ _ _ inductionHypothesis =>
      exact inductionHypothesis (paused.step balanced) (balanced.step machine)
  | release _ _ oldest _ inductionHypothesis =>
      exact inductionHypothesis (paused.release? oldest) (balanced.release? oldest)

end Paused

theorem Overtaken.paused [DecidableEq Driver] {machine : Machine Store Driver Procedure Answer}
    {first second : Program Store Driver Procedure Answer} {firstAnswer secondAnswer : Option Answer}
    {waiting between : World Store Driver Procedure Answer}
    (overtaken : Overtaken machine world first second firstAnswer secondAnswer waiting between after)
    (paused : world.Paused) (balanced : world.Balanced) (noTurn : world.running = none) :
    after.Paused := by
  have begun := balanced.begin noTurn first
  have waits := overtaken.begins.balanced begun
  have follows := waits.begin overtaken.waits.1 second
  have toWait := (paused.begin balanced noTurn first).pursues begun overtaken.begins
  have toPass := (toWait.begin waits overtaken.waits.1 second).pursues follows overtaken.overtakes
  exact toPass.pursues (overtaken.overtakes.balanced follows) overtaken.goesOn

/-! ## Letting everything run -/

section Draining

variable [DecidableEq Driver] {machine : Machine Store Driver Procedure Answer}

theorem Balanced.drain (balanced : world.Balanced) (fuel : Nat) :
    (world.drain machine fuel).Balanced := by
  induction fuel generalizing world with
  | zero => exact balanced
  | succ fuel inductionHypothesis =>
      rw [World.drain]
      split
      · exact balanced
      · exact inductionHypothesis (balanced.step machine)

omit [DecidableEq Driver] in
/-- Where nobody can have a turn, nothing moves. -/
theorem isIdle_of_resting (balanced : world.Balanced) (noTurn : world.running = none)
    (resting : ∀ (id : TaskId) (task : Task Store Driver Procedure Answer),
      world.tasks[id]? = some task → task.status = .sleeping ∨ task.isEnded = true) :
    world.isIdle = true := by
  cases queued : world.queue with
  | nil => simp [isIdle, noTurn, queued]
  | cons turn queue =>
      cases turn with
      | run id =>
          obtain ⟨task, found, ready⟩ :=
            balanced.ready_of_queued (show Turn.run id ∈ world.queue by simp [queued])
          rcases resting id task found with asleep | ended
          · rw [ready] at asleep
            cases asleep
          · simp [Task.isEnded, ready] at ended
      | joined id =>
          obtain ⟨task, count, found, joining⟩ :=
            balanced.joining_of_queued (show Turn.joined id ∈ world.queue by simp [queued])
          rcases resting id task found with asleep | ended
          · rw [joining] at asleep
            cases asleep
          · simp [Task.isEnded, joining] at ended

/-- Letting everything run goes through the turn in whose middle a world is. -/
theorem Lands.drain {post : World Store Driver Procedure Answer → Prop} (lands : Lands machine post world) :
    ∃ fuel, (world.drain machine fuel).running = none ∧ post (world.drain machine fuel) := by
  induction lands with
  | here noTurn reached => exact ⟨0, noTurn, reached⟩
  | @step world _ running _ inductionHypothesis =>
      obtain ⟨fuel, noTurn, reached⟩ := inductionHypothesis
      have busy : world.isIdle = false := by simp [isIdle, running]
      refine ⟨fuel + 1, ?_, ?_⟩
      · rw [World.drain, busy]
        exact noTurn
      · rw [World.drain, busy]
        exact reached

/-- The only task that goes on, and that the clock does not hold, has one turn before nothing moves. -/
theorem drain_of_turns {program : Program Store Driver Procedure Answer}
    {turnEnd : TurnEnd Store Driver Procedure Answer} (balanced : world.Balanced) (paused : world.Paused)
    (noTurn : world.running = none) (found : world.outline.tasks id = some task)
    (only : ∀ other someone, world.outline.tasks other = some someone → other = id)
    (control : task.control = .run program) (awake : ∀ next, program ≠ .check next)
    (kept : task.cancelPending = false) (nobody : task.joiners = [])
    (allowed : world.mayAct id task = true)
    (turns : Turns machine program task.frames world.store turnEnd) :
    ∃ fuel, (world.drain machine fuel).isIdle = true
      ∧ (world.drain machine fuel).outline = turnEnd.outline world.outline id task := by
  -- Moves that do not show leave fewer turns to be called, so the task's turn comes.
  induction calls : world.calls using Nat.strongRecOn generalizing world with
  | ind _ inductionHypothesis =>
  subst calls
  cases idle : world.isIdle with
  | true =>
      have silent := paused.silent balanced found only control awake
      obtain ⟨other, someone, there, member⟩ := awaits_somebody balanced idle silent found
      have same := only other someone there
      subst same
      rw [found] at there
      cases there
      rw [nobody] at member
      cases member
  | false =>
      rcases step_cases machine balanced noTurn with
        ⟨stillNoTurn, same, isIdle | fewer⟩ | ⟨other, someone, base, there, same, stepped, -⟩
      · rw [idle] at isIdle
        cases isIdle
      · have sameStore : (world.step machine).store = world.store := congrArg Outline.store same
        have sameHoldings : (world.step machine).holdings = world.holdings :=
          congrArg Outline.holdings same
        have stillAllowed : (world.step machine).mayAct id task = true := by
          simpa only [mayAct, sameHoldings] using allowed
        rw [← same] at found only
        rw [← sameStore] at turns
        obtain ⟨fuel, quiet, reached⟩ := inductionHypothesis _ fewer (balanced.step machine)
          (paused.step balanced) stillNoTurn found only stillAllowed turns rfl
        refine ⟨fuel + 1, ?_, ?_⟩
        · rw [World.drain, idle]
          exact quiet
        · rw [World.drain, idle, ← same]
          exact reached
      · have mine := only other someone there
        subst mine
        rw [found] at there
        cases there
        rw [← same] at found only
        have stillAllowed : base.mayAct other task = true := by
          simpa only [mayAct, show base.holdings = world.holdings from congrArg Outline.holdings same]
            using allowed
        rw [atTurn_of_kept control kept] at stepped
        have lands := turns base other task (inside_of_found found) stillAllowed
        rw [← stepped] at lands
        obtain ⟨fuel, stopped, reached⟩ := lands.drain
        have through : world.drain machine (fuel + 1) = turnEnd.after base other task := by
          rw [World.drain, idle]
          exact reached
        refine ⟨fuel + 1, ?_, ?_⟩
        · refine isIdle_of_resting (balanced.drain _) ?_ ?_
          · rw [through]
            exact turnEnd.running_after
          · rw [through]
            exact turnEnd.resting_after (inside_of_found found) only
        · rw [through, ← same]
          exact turnEnd.outline_after found

end Draining

end World

end Playthrough

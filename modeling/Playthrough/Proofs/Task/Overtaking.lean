import Playthrough.Proofs.Task.Pursuit
import Playthrough.Proofs.Task.Solitude

/-!
Contract: one operation that overtakes another one.

Owns: an operation that waits once, alone, and two of which the second is carried out while the first
waits (`Overtaken`); worlds in which nothing goes on (`AtRest`).

Does not own: which operations there are.

Where nothing goes on, an operation only ever waits for a task that has ended already. The wait lasts
for two turns of the queue, and that is when another operation can begin. Where a driver's task goes on,
it unwinds before.
-/

namespace Playthrough

variable {Store Driver Procedure Answer : Type} [DecidableEq Driver]

namespace World

variable {machine : Machine Store Driver Procedure Answer}
variable {world waiting between after : World Store Driver Procedure Answer}
variable {outline : Outline Store Driver Procedure Answer} {store : Store} {driver : Driver}
variable {first second rest : Program Store Driver Procedure Answer} {id held : TaskId}

/-- A driver's task that has ended is cancelled and joined. -/
theorem Conducts.cancel_ended {post : Outline Store Driver Procedure Answer → Prop}
    (holding : (outline.holdings driver).slot = some held) (different : held ≠ id)
    (ended : outline.tasks held = none) (reached : post (outline.await driver id rest store)) :
    Conducts machine outline id (.cancel driver rest) store post := by
  refine .cancel_held holding different ?_
  rw [Outline.take_of_ended different ended]
  exact reached

omit [DecidableEq Driver] in
theorem begin_unended (program : Program Store Driver Procedure Answer) :
    (world.begin program).2.outcome? (world.begin program).1 = none := by
  simp [outcome?, begin, Task.fresh, Task.outcome?]

/-- The first turn of an operation is gone through. -/
theorem pursues_begin {reached : Outline Store Driver Procedure Answer → Prop}
    (conducts : Conducts machine (world.outline.add (.fresh none first)) world.outline.count first
      world.store reached) :
    ∃ after, Pursues machine (world.begin first).1 (world.begin first).2 after
      ∧ after.running = none ∧ reached after.outline :=
  (lands_begin reached conducts).pursues (begin_unended first)

/-! ## An operation that waits -/

/-- The task that an operation has cancelled and joined unwinds, and the operation is alone. -/
theorem pursues_settled {change : Store → Store} {waiter : Task Store Driver Procedure Answer}
    (balanced : world.Balanced) (noTurn : world.running = none)
    (clearing : world.outline.Clearing id held) (waits : world.outline.tasks id = some waiter)
    (waiter_joiners : waiter.joiners = [])
    (unwinds : ∀ task, world.outline.tasks held = some task →
      task.frames = [] ∨ ∃ next, task.frames = [.ensured (.update change .stop) next]) :
    ∃ after, Pursues machine id world after ∧ after.running = none
      ∧ after.outline = world.outline.settled held change := by
  cases leaver : world.outline.tasks held with
  | none =>
      have same : world.outline.settled held change = world.outline := by
        simp only [Outline.settled, leaver]
      exact ⟨world, .here world, noTurn, same.symm⟩
  | some task =>
      obtain ⟨cancelled, member, notSelf⟩ := clearing.leaves task leaver
      have settled_eq : world.outline.settled held change =
          world.outline.close held (Outline.unwound change task world.store) .cancelled := by
        simp only [Outline.settled, leaver]
        rfl
      let post : Outline Store Driver Procedure Answer → Prop :=
        (· = world.outline.settled held change)
      suffices turns : ∃ after, Pursues machine id world after ∧ after.running = none
          ∧ post after.outline from turns
      refine pursues_turn balanced noTurn waits leaver ?_ ?_ ?_
      · intro other someone there
        rcases clearing.only other someone there with own | same
        · exact .inr (own ▸ member)
        · exact .inl same
      · intro other someone there
        rcases clearing.only other someone there with own | same
        · subst own
          rw [waits] at there
          cases there
          rw [waiter_joiners]
          exact List.not_mem_nil
        · subst same
          rw [leaver] at there
          cases there
          exact notSelf
      · intro base same
        have inside : held < base.tasks.length := by
          rw [← same] at leaver
          exact inside_of_found leaver
        let uncancelled : Task Store Driver Procedure Answer := { task with cancelPending := false }
        rw [atTurn_of_cancelled cancelled]
        rcases unwinds task leaver with bare | ⟨next, around⟩
        · have stillBare : uncancelled.frames = [] := bare
          refine lands_of_cancelled post inside stillBare ?_
          simp [post, settled_eq, same, Outline.unwound, bare]
        · have stillAround : uncancelled.frames = [.ensured (.update change .stop) next] := around
          refine lands_of_cancelled_ensured post inside stillAround ?_
          simp [post, settled_eq, same, Outline.unwound, around]

/-- An operation that waits once is carried out. -/
theorem carried_of_conducts {waits ends : Outline Store Driver Procedure Answer}
    (balanced : world.Balanced) (noTurn : world.running = none)
    (begins : Conducts machine (world.outline.add (.fresh none first)) world.outline.count first
      world.store (· = waits))
    (goesOn : ∀ waiting : World Store Driver Procedure Answer, waiting.Balanced → waiting.running = none →
      waiting.outline = waits → ∃ after, Pursues machine world.outline.count waiting after
        ∧ after.running = none ∧ after.outline = ends) :
    ∃ after, Pursues machine (world.begin first).1 (world.begin first).2 after
      ∧ after.running = none ∧ after.outline = ends := by
  obtain ⟨waiting, moves, stopped, same⟩ := pursues_begin begins
  have stillBalanced : waiting.Balanced := moves.balanced (balanced.begin noTurn first)
  obtain ⟨after, further, ended, reached⟩ := goesOn waiting stillBalanced stopped same
  exact ⟨after, moves.trans further, ended, reached⟩

/-! ## An operation that is overtaken -/

/-- The first of two operations waits, the second begins meanwhile and ends, and only then does the
first go on to its end. -/
structure Overtaken (machine : Machine Store Driver Procedure Answer)
    (world : World Store Driver Procedure Answer)
    (first second : Program Store Driver Procedure Answer) (firstAnswer secondAnswer : Option Answer)
    (waiting between after : World Store Driver Procedure Answer) : Prop where
  begins : Pursues machine (world.begin first).1 (world.begin first).2 waiting
  waits : waiting.running = none ∧ waiting.outcome? (world.begin first).1 = none
  overtakes : Pursues machine (waiting.begin second).1 (waiting.begin second).2 between
  stillWaits : between.running = none ∧ between.outcome? (world.begin first).1 = none
  secondEnds : between.outcome? (waiting.begin second).1 = some (.finished secondAnswer)
  goesOn : Pursues machine (world.begin first).1 between after
  firstEnds : after.running = none
    ∧ after.outcome? (world.begin first).1 = some (.finished firstAnswer)

theorem Overtaken.balanced {firstAnswer secondAnswer : Option Answer}
    (overtaken : Overtaken machine world first second firstAnswer secondAnswer waiting between after)
    (balanced : world.Balanced) (noTurn : world.running = none) : after.Balanced := by
  have pausing := overtaken.begins.balanced (balanced.begin noTurn first)
  have passing := overtaken.overtakes.balanced (pausing.begin overtaken.waits.1 second)
  exact overtaken.goesOn.balanced passing

/-- An operation that waits once is overtaken by one that never waits. -/
theorem overtaken_of_conducts {firstAnswer secondAnswer : Option Answer}
    {waits passed ends : Outline Store Driver Procedure Answer}
    {waiter stillWaiter : Task Store Driver Procedure Answer} (balanced : world.Balanced)
    (noTurn : world.running = none)
    (begins : Conducts machine (world.outline.add (.fresh none first)) world.outline.count first
      world.store (· = waits))
    (pausing : waits.tasks world.outline.count = some waiter)
    (overtakes : Conducts machine (waits.add (.fresh none second)) waits.count second waits.store
      (· = passed))
    (secondEnds : passed.outcomes waits.count = some (.finished secondAnswer))
    (stillPausing : passed.tasks world.outline.count = some stillWaiter)
    (goesOn : ∀ between : World Store Driver Procedure Answer, between.Balanced → between.running = none →
      between.outline = passed → ∃ after, Pursues machine world.outline.count between after
        ∧ after.running = none ∧ after.outline = ends)
    (firstEnds : ends.outcomes world.outline.count = some (.finished firstAnswer)) :
    ∃ waiting between after,
      Overtaken machine world first second firstAnswer secondAnswer waiting between after
        ∧ between.outline = passed ∧ after.outline = ends := by
  obtain ⟨waiting, toWait, stopped, rfl⟩ := pursues_begin begins
  have waitingBalanced : waiting.Balanced := toWait.balanced (balanced.begin noTurn first)
  obtain ⟨between, toPass, passing, rfl⟩ := pursues_begin overtakes
  have stillBalanced : between.Balanced := toPass.balanced (waitingBalanced.begin stopped second)
  obtain ⟨after, toEnd, ended, rfl⟩ := goesOn between stillBalanced passing rfl
  exact ⟨waiting, between, after,
    { begins := toWait
      waits := ⟨stopped, no_outcome pausing⟩
      overtakes := toPass
      stillWaits := ⟨passing, no_outcome stillPausing⟩
      secondEnds := secondEnds
      goesOn := toEnd
      firstEnds := ⟨ended, firstEnds⟩ }, rfl, rfl⟩

/-! ## Where nothing goes on -/

/-- Nothing goes on. -/
structure AtRest (world : World Store Driver Procedure Answer) : Prop where
  balanced : world.Balanced
  noTurn : world.running = none
  isOver : ∀ id, world.outline.tasks id = none

/-- The first turn of an operation is gone through, and only the operation can have begun waits. -/
theorem begins_of_conducts {reached : Outline Store Driver Procedure Answer → Prop}
    (conducts : Conducts machine (world.outline.add (.fresh none first)) world.outline.count first
      world.store reached) :
    ∃ after news, Pursues machine (world.begin first).1 (world.begin first).2 after
      ∧ after.running = none ∧ reached after.outline
      ∧ Begins world.outline.count news (world.begin first).2 after := by
  obtain ⟨after, pursues, stopped, ends, news, begins⟩ :=
    ((lands_begin reached conducts).begins rfl).pursues (begin_unended first)
  exact ⟨after, news, pursues, stopped, ends, begins⟩

/-- Where nothing goes on, an operation that waits for a task that has ended is carried out, and only the
operation can have begun waits. -/
theorem AtRest.carried_begins {waits ends : Outline Store Driver Procedure Answer}
    (atRest : world.AtRest)
    (begins : Conducts machine (world.outline.add (.fresh none first)) world.outline.count first
      world.store (· = waits))
    (pausing : waits.tasks world.outline.count = some (.fresh none rest))
    (only : ∀ other task, waits.tasks other = some task → other = world.outline.count)
    (goesOn : Conducts machine waits world.outline.count rest waits.store (· = ends)) :
    ∃ after news, Pursues machine (world.begin first).1 (world.begin first).2 after
      ∧ after.running = none ∧ after.outline = ends
      ∧ Begins world.outline.count news (world.begin first).2 after := by
  obtain ⟨waiting, news, toWait, stopped, rfl, waited⟩ := begins_of_conducts begins
  have balanced : waiting.Balanced := toWait.balanced (atRest.balanced.begin atRest.noTurn first)
  obtain ⟨base, same, toTurn, between, unended⟩ :=
    pursues_to_turn machine balanced stopped pausing pausing
      (fun other someone there => .inl (only other someone there)) (by
        intro other someone there
        have mine := only other someone there
        subst mine
        rw [pausing] at there
        cases there
        exact List.not_mem_nil)
  have lands := goesOn base same (by rw [pausing]; rfl)
  obtain ⟨after, toEnd, ended, reached, more, also⟩ := (lands.begins rfl).pursues unended
  exact ⟨after, news ++ ([] ++ more), (toWait.trans toTurn).trans toEnd, ended, reached,
    waited.trans (between.trans also)⟩

/-- Where nothing goes on, an operation that waits for a task that has ended is carried out. -/
theorem AtRest.carried {waits ends : Outline Store Driver Procedure Answer} (atRest : world.AtRest)
    (begins : Conducts machine (world.outline.add (.fresh none first)) world.outline.count first
      world.store (· = waits))
    (pausing : waits.tasks world.outline.count = some (.fresh none rest))
    (only : ∀ other task, waits.tasks other = some task → other = world.outline.count)
    (goesOn : Conducts machine waits world.outline.count rest waits.store (· = ends)) :
    ∃ after, Pursues machine (world.begin first).1 (world.begin first).2 after
      ∧ after.running = none ∧ after.outline = ends := by
  obtain ⟨after, _, pursues, stopped, reached, -⟩ := atRest.carried_begins begins pausing only goesOn
  exact ⟨after, pursues, stopped, reached⟩

/-- Where nothing goes on, an operation that waits for a task that has ended is overtaken by one that
never waits. -/
theorem AtRest.overtaken {firstAnswer secondAnswer : Option Answer}
    {waits passed ends : Outline Store Driver Procedure Answer} (atRest : world.AtRest)
    (begins : Conducts machine (world.outline.add (.fresh none first)) world.outline.count first
      world.store (· = waits))
    (pausing : waits.tasks world.outline.count = some (.fresh none rest))
    (overtakes : Conducts machine (waits.add (.fresh none second)) waits.count second waits.store
      (· = passed))
    (secondEnds : passed.outcomes waits.count = some (.finished secondAnswer))
    (stillPausing : passed.tasks world.outline.count = some (.fresh none rest))
    (only : ∀ other task, passed.tasks other = some task → other = world.outline.count)
    (goesOn : Conducts machine passed world.outline.count rest passed.store (· = ends))
    (firstEnds : ends.outcomes world.outline.count = some (.finished firstAnswer)) :
    ∃ waiting between after,
      Overtaken machine world first second firstAnswer secondAnswer waiting between after
        ∧ between.outline = passed ∧ after.outline = ends := by
  refine overtaken_of_conducts atRest.balanced atRest.noTurn begins pausing overtakes secondEnds
    stillPausing ?_ firstEnds
  intro between balanced stopped same
  subst same
  exact pursues_alone balanced stopped stillPausing only goesOn

/-- Where nothing goes on, nothing comes of letting everything run. -/
theorem AtRest.drain (atRest : world.AtRest) (fuel : Nat) :
    (world.drain machine fuel).AtRest ∧ (world.drain machine fuel).outline = world.outline := by
  induction fuel generalizing world with
  | zero => exact ⟨atRest, rfl⟩
  | succ fuel inductionHypothesis =>
      rw [World.drain]
      split
      · exact ⟨atRest, rfl⟩
      · rcases step_cases machine atRest.balanced atRest.noTurn with
          ⟨stopped, same, -⟩ | ⟨id, task, -, found, -⟩
        · have stillOver : ∀ id, (world.step machine).outline.tasks id = none := by
            rw [same]
            exact atRest.isOver
          obtain ⟨rests, drained⟩ :=
            inductionHypothesis ⟨atRest.balanced.step machine, stopped, stillOver⟩
          exact ⟨rests, drained.trans same⟩
        · rw [atRest.isOver id] at found
          cases found

end World

end Playthrough

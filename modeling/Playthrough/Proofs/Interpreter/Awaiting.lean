import Playthrough.Proofs.Interpreter.Course

/-!
Contract: waiting until the only interpreter has stopped.

Owns: what is shown while an operation waits for the driver's task, and that the operation ends where the
interpreter stands again.

Does not own: what the driver's task does.

The operation looks at the driver's slot whenever it is called, and joins the task there unless it has
ended. It changes nothing else.
-/

namespace Playthrough.Interpreter.Alone

variable {scenario : Scenario} {reporting : Bool} {record : Record} {outline : Draft} {id held : TaskId}
variable {task : Task Alone Unit Unit Reply} {world after : Setting}

/-! ## The driver's task -/

theorem driverTask?_eq (holding : (outline.holdings ()).slot = some held) :
    driverTask? outline = outline.tasks held := by
  rw [driverTask?, holding]
  rfl

/-- Where the tasks of an outline change but the driver's, nothing else is shown. -/
theorem driverTask?_of_same {changed : Draft} (sameHoldings : changed.holdings = outline.holdings)
    (sameTask : ∀ held, (outline.holdings ()).slot = some held → changed.tasks held = outline.tasks held) :
    driverTask? changed = driverTask? outline := by
  rw [driverTask?, driverTask?, sameHoldings]
  cases holding : (outline.holdings ()).slot with
  | none => rfl
  | some held => exact sameTask held holding

/-- It does not matter who joins a task that goes on. -/
theorem Tells.rejoin {store : Alone} (tells : Tells scenario reporting record (some task) store)
    (joiners : List TaskId) : Tells scenario reporting record (some { task with joiners := joiners }) store := by
  cases tells with
  | plays started control inPlay beside heads => exact .plays started control inPlay beside heads

/-! ## While an operation waits -/

/-- An operation waits for the driver's task. -/
structure Attends (scenario : Scenario) (reporting : Bool) (record : Record) (id : TaskId) (outline : Draft) :
    Prop where
  waits : outline.tasks id = some (.fresh none Alone.await)
  standing : Standing scenario [id] outline
  tells : Tells scenario reporting record (driverTask? outline) outline.store

/-- An operation that has waited for the driver's task has ended. -/
structure Attended (scenario : Scenario) (reporting : Bool) (record : Record) (id : TaskId) (outline : Draft) :
    Prop where
  ended : (outline.outcomes id).isSome = true
  standing : Standing scenario [] outline
  tells : Tells scenario reporting record (driverTask? outline) outline.store

/-- An operation that begins to wait. -/
theorem Attends.of_standing (standing : Standing scenario [] outline)
    (tells : Tells scenario reporting record (driverTask? outline) outline.store) :
    Attends scenario reporting record outline.count (outline.add (.fresh none Alone.await)) := by
  have same : ∀ {other}, other ≠ outline.count →
      (outline.add (.fresh none Alone.await)).tasks other = outline.tasks other :=
    fun different => Function.update_of_ne different _ _
  have apart : ∀ {held}, (outline.holdings ()).slot = some held → held ≠ outline.count :=
    fun holding => Nat.ne_of_lt (standing.within _ holding).1
  refine ⟨Function.update_self _ _ _, ?_, ?_⟩
  · refine ⟨standing.calm, standing.live_eq, ?_, ?_, ?_, ?_⟩
    · intro held holding
      exact ⟨Nat.lt_succ_of_lt (standing.within held holding).1, by simpa using apart holding⟩
    · intro other task found
      by_cases own : other = outline.count
      · exact .inl (by simp [own])
      · rw [same own] at found
        exact .inr ((standing.only other task found).resolve_left List.not_mem_nil)
    · intro held task holding found
      rw [same (apart holding)] at found
      exact standing.performs held task holding found
    · intro held task holding found joiner member
      rw [same (apart holding)] at found
      exact absurd (standing.joined held task holding found joiner member) List.not_mem_nil
  · have driver : driverTask? (outline.add (.fresh none Alone.await)) = driverTask? outline :=
      driverTask?_of_same rfl fun held holding => same (apart holding)
    rw [driver]
    exact tells

/-- The driver's task is not the operation that waits for it. -/
theorem Attends.apart (attends : Attends scenario reporting record id outline)
    (holding : (outline.holdings ()).slot = some held) : held ≠ id := by
  have within := (attends.standing.within held holding).2
  simpa using within

/-- The outline in which an operation has joined the driver's task. -/
def joining (outline : Draft) (id held : TaskId) : Draft :=
  (outline.rest id (.fresh none Alone.await) outline.store).join id held

theorem tasks_joining_held (different : held ≠ id) :
    (joining outline id held).tasks held =
      (outline.tasks held).map fun task => { task with joiners := task.joiners ++ [id] } := by
  have same : (outline.rest id (.fresh none Alone.await) outline.store).tasks held = outline.tasks held :=
    Function.update_of_ne different _ _
  rw [← same]
  exact Function.update_self _ _ _

theorem tasks_joining_other {other : TaskId} (notHeld : other ≠ held) (notSelf : other ≠ id) :
    (joining outline id held).tasks other = outline.tasks other :=
  (Function.update_of_ne notHeld _ _).trans (Function.update_of_ne notSelf _ _)

/-- An operation that has joined the driver's task goes on waiting. -/
theorem Attends.joining (attends : Attends scenario reporting record id outline)
    (holding : (outline.holdings ()).slot = some held) :
    Attends scenario reporting record id (Alone.joining outline id held) := by
  have different := attends.apart holding
  have only_held : ∀ {other}, (outline.holdings ()).slot = some other → other = held :=
    fun holds => Option.some.inj (holds.symm.trans holding)
  refine ⟨?_, ?_, ?_⟩
  · exact (Function.update_of_ne (Ne.symm different) _ _).trans (Function.update_self _ _ _)
  · refine ⟨attends.standing.calm, attends.standing.live_eq, attends.standing.within, ?_, ?_, ?_⟩
    · intro other task found
      by_cases own : other = id
      · exact .inl (by simp [own])
      · by_cases same : other = held
        · exact .inr (by rw [same]; exact holding)
        · rw [tasks_joining_other same own] at found
          exact attends.standing.only other task found
    · intro other task holds found
      obtain rfl := only_held holds
      rw [tasks_joining_held different] at found
      obtain ⟨before, was, rfl⟩ := Option.map_eq_some_iff.mp found
      have performs := attends.standing.performs other before holding was
      exact ⟨performs.owner, performs.kept, performs.sheltered, performs.runs⟩
    · intro other task holds found joiner member
      obtain rfl := only_held holds
      rw [tasks_joining_held different] at found
      obtain ⟨before, was, rfl⟩ := Option.map_eq_some_iff.mp found
      rcases List.mem_append.mp member with earlier | own
      · exact attends.standing.joined other before holding was joiner earlier
      · exact own
  · have driver : driverTask? (Alone.joining outline id held) =
        (driverTask? outline).map fun task => { task with joiners := task.joiners ++ [id] } := by
      rw [driverTask?_eq holding, ← tasks_joining_held different]
      exact driverTask?_eq holding
    have tells := attends.tells
    rw [driver]
    cases goesOn : driverTask? outline with
    | none =>
        rw [goesOn] at tells
        exact tells
    | some task =>
        rw [goesOn] at tells
        exact tells.rejoin _

/-- An operation that finds the driver inactive ends. -/
theorem Attends.close (attends : Attends scenario reporting record id outline)
    (inactive : driverTask? outline = none) :
    Attended scenario reporting record id (outline.close id outline.store (.finished none)) := by
  have same : ∀ {held}, (outline.holdings ()).slot = some held →
      (outline.close id outline.store (.finished none)).tasks held = outline.tasks held :=
    fun holding => Outline.tasks_close_other (attends.apart holding)
  have gone : ∀ {held}, (outline.holdings ()).slot = some held → outline.tasks held = none := by
    intro held holding
    rw [← driverTask?_eq holding]
    exact inactive
  have outcome : (outline.close id outline.store (.finished none)).outcomes id = some (.finished none) :=
    Function.update_self _ _ _
  refine ⟨by rw [outcome]; rfl, ?_, ?_⟩
  · refine ⟨attends.standing.calm, attends.standing.live_eq, ?_, ?_, ?_, ?_⟩
    · intro held holding
      exact ⟨(attends.standing.within held holding).1, List.not_mem_nil⟩
    · intro other task found
      by_cases own : other = id
      · subst own
        rw [Outline.tasks_close_self] at found
        cases found
      · rw [Outline.tasks_close_other own] at found
        exact .inr ((attends.standing.only other task found).resolve_left (by simpa using own))
    · intro held task holding found
      rw [same holding, gone holding] at found
      cases found
    · intro held task holding found
      rw [same holding, gone holding] at found
      cases found
  · have driver : driverTask? (outline.close id outline.store (.finished none)) = driverTask? outline :=
      driverTask?_of_same rfl fun held holding => same holding
    rw [driver]
    exact attends.tells

/-- A turn of the operation. -/
theorem Attends.conducts (attends : Attends scenario reporting record id outline) :
    World.Conducts machine outline id Alone.await outline.store fun next =>
      Attends scenario reporting record id next ∨ Attended scenario reporting record id next := by
  have outside : (outline.holdings ()).slot ≠ some id := fun holding => attends.apart holding rfl
  cases goesOn : driverTask? outline with
  | none =>
      refine .settle_skip goesOn outside (.settle_over (by simp) (fun _ => outside) (.done ?_))
      exact .inr (attends.close goesOn)
  | some task =>
      obtain ⟨held, holding, found⟩ := Option.bind_eq_some_iff.mp goesOn
      refine .settle_join holding (attends.apart holding) (by rw [found]; rfl) ?_
      exact .inl (attends.joining holding)

/-- A turn of the driver's task. -/
theorem Attends.lands_turn {base : Setting} (attends : Attends scenario reporting record id outline)
    (sameOutline : base.outline = outline) (holding : (outline.holdings ()).slot = some held)
    (found : outline.tasks held = some task) :
    World.Lands machine (fun after => Attends scenario reporting record id after.outline)
      (base.focus held (World.atTurn task) outline.store) := by
  have performs := attends.standing.performs held task holding found
  have allowed : base.mayAct held task = true := by
    subst sameOutline
    have permitted : (base.holdings ()).live = some held := attends.standing.live_eq.trans holding
    simp [World.mayAct, performs.owner, permitted]
  have stands := attends.standing.lands_turn sameOutline holding found
  have shows := attends.tells.lands_turn sameOutline holding found performs.kept allowed
  refine (stands.both shows).mono ?_
  rintro after - ⟨standing, -, same, tells⟩
  exact ⟨(same id (Ne.symm (attends.apart holding))).trans attends.waits, standing, tells⟩

/-! ## Until the operation ends -/

/-- An operation waits for the driver's task, or has just ended. -/
structure Attending (scenario : Scenario) (reporting : Bool) (record : Record) (id : TaskId) (world : Setting) :
    Prop where
  balanced : world.Balanced
  lands : World.Lands machine (fun after => Attends scenario reporting record id after.outline
    ∨ Attended scenario reporting record id after.outline) world
  quiet : (world.outcome? id).isSome = true → world.running = none

namespace Attending

theorem begin (balanced : world.Balanced) (noTurn : world.running = none)
    (standing : Standing scenario [] world.outline)
    (tells : Tells scenario reporting record (driverTask? world.outline) world.outline.store) :
    Attending scenario reporting record (world.begin Alone.await).1 (world.begin Alone.await).2 := by
  refine ⟨balanced.begin noTurn _, ?_, ?_⟩
  · exact World.lands_begin (fun next => Attends scenario reporting record world.outline.count next
      ∨ Attended scenario reporting record world.outline.count next) (Attends.of_standing standing tells).conducts
  · intro ended
    rw [World.begin_unended] at ended
    cases ended

theorem step (attending : Attending scenario reporting record id world) (unended : world.outcome? id = none) :
    Attending scenario reporting record id (world.step machine) := by
  refine ⟨attending.balanced.step machine, ?_, ?_⟩
  · cases turn : world.running with
    | some other => exact attending.lands.onward turn
    | none =>
        rcases attending.lands.reached turn with attends | attended
        · rcases World.step_cases machine attending.balanced turn with
            ⟨stopped, same, -⟩ | ⟨other, task, base, found, same, stepped, -⟩
          · refine .here stopped (.inl ?_)
            rw [same]
            exact attends
          · rw [stepped]
            rcases attends.standing.only other task found with own | holding
            · obtain rfl : other = id := by simpa using own
              rw [attends.waits] at found
              cases found
              exact attends.conducts base same (by rw [attends.waits]; rfl)
            · exact (attends.lands_turn same holding found).mono fun _ _ stillAttends => .inl stillAttends
        · have ended : (world.outcome? id).isSome = true := attended.ended
          rw [unended] at ended
          cases ended
  · intro ended
    cases next : (world.step machine).running with
    | none => rfl
    | some other =>
        rw [World.outcome?_step next, unended] at ended
        cases ended

theorem release {position : Nat} {released : Setting} (attending : Attending scenario reporting record id world)
    (noTurn : world.running = none)
    (wait : world.release? position = some released) : Attending scenario reporting record id released := by
  have orderly : world.Orderly none := by
    rw [← noTurn]
    exact attending.balanced
  have same := World.outline_release? orderly wait
  have stillNoTurn : released.running = none := by
    obtain ⟨-, -, rfl⟩ := World.release?_eq_some.mp wait
    exact noTurn
  refine ⟨attending.balanced.release? wait, .here stillNoTurn ?_, fun _ => stillNoTurn⟩
  rw [same]
  exact attending.lands.reached noTurn

/-- The operation ends where the interpreter stands again. -/
theorem ends (attending : Attending scenario reporting record id world)
    (pursues : World.Pursues machine id world after) (ended : (after.outcome? id).isSome = true) :
    after.running = none ∧ Attended scenario reporting record id after.outline := by
  induction pursues with
  | here world =>
      refine ⟨attending.quiet ended, ?_⟩
      rcases attending.lands.reached (attending.quiet ended) with attends | attended
      · have unended : world.outline.outcomes id = none := World.no_outcome attends.waits
        rw [show world.outcome? id = none from unended] at ended
        cases ended
      · exact attended
  | step unended _ _ inductionHypothesis => exact inductionHypothesis (attending.step unended) ended
  | release _ idle oldest _ inductionHypothesis =>
      exact inductionHypothesis (attending.release (World.noTurn_of_isIdle idle) oldest) ended

end Attending

end Playthrough.Interpreter.Alone

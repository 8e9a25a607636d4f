import Playthrough.Proofs.Interpreter.Lasting
import Playthrough.Proofs.Interpreter.Soundness

/-!
Contract: worlds of the only interpreter that differ in nothing but warnings.

Owns: such stores (`silenced`) and worlds (`Alike`), that neither a request nor the driver's task can tell
them apart, and that they are still alike when everything was let run.

Does not own: where such worlds come from.
-/

namespace Playthrough.Interpreter.Alone

variable {scenario : Scenario} {store looked other : Alone} {world left right : Setting}
variable {task : Task Alone Unit Unit Reply}

/-! ## Stores -/

/-- A store but for its warnings. -/
def silenced (store : Alone) : Alone := { store with warnings := [] }

/-- Two stores differ in nothing but warnings. -/
def Same (store other : Alone) : Prop := silenced store = silenced other

@[simp] theorem interpreter_silenced (store : Alone) : (silenced store).interpreter = store.interpreter :=
  rfl

theorem Same.interpreter_eq (same : Same store other) : store.interpreter = other.interpreter := by
  rw [← interpreter_silenced store, show silenced store = silenced other from same, interpreter_silenced]

theorem silenced_refusal (offer : Offer) (store : Alone) :
    silenced (refusal offer store) = silenced store := rfl

theorem silenced_recordHeader (interpreter : Interpreter) (store : Alone) :
    silenced (seat.recordHeader interpreter store) = seat.recordHeader interpreter (silenced store) := by
  simp only [Seat.recordHeader]
  generalize interpreter.scenario.header = lines
  induction lines generalizing store with
  | nil => rfl
  | cons line lines inductionHypothesis => exact inductionHypothesis _

theorem silenced_applyChoice (offer : Offer) (nodeId : String) (choice : Option Choice) (store : Alone) :
    silenced (seat.applyChoice offer nodeId choice store) =
      silenced (seat.applyChoice offer nodeId choice (silenced store)) := by
  obtain ⟨interpreter, reporting, points, finishes, deliveries, warnings⟩ := store
  cases choice <;> cases reporting <;> rfl

/-- What a request does depends on no warnings. -/
theorem Same.effect (same : Same store other) (request : Request) :
    Same (request.effect looked store) (request.effect looked other) := by
  have depends : ∀ store : Alone, silenced (request.effect looked store) =
      silenced (request.effect looked (silenced store)) := by
    intro store
    cases request with
    | start preferences =>
        simp only [Request.effect, silenced_recordHeader]
        rfl
    | reset => rfl
    | cancel => rfl
    | choose offer => exact silenced_applyChoice _ _ _ _
  show silenced _ = silenced _
  rw [depends store, show silenced store = silenced other from same, ← depends other]

theorem silenced_countFinish (store : Alone) :
    silenced (countFinish store) = countFinish (silenced store) := by
  obtain ⟨interpreter, reporting, points, finishes, deliveries, warnings⟩ := store
  cases reporting <;> rfl

/-- Whatever is played depends on no warnings. -/
theorem keeps_blind : seat.Keeps (.blind Same) where
  look _ depends store other same := depends store other (Same.interpreter_eq same)
  record event _ _ same := congrArg (record event) same
  modify change _ _ _ same := congrArg (modify change) same
  warn _ _ _ same := same
  onFinish := by
    refine ⟨?_, trivial⟩
    intro store other same
    show silenced _ = silenced _
    rw [silenced_countFinish, silenced_countFinish, show silenced store = silenced other from same]

/-- What a request gives to the driver depends on no warnings, and is not in the middle of a pause. -/
theorem blind_body (request : Request) {body : Plan} (plays : request.body? looked = some body) :
    body.Follows (.blind Same) ∧ ∀ next, body ≠ .check next := by
  cases request with
  | start preferences =>
      cases plays
      exact ⟨keeps_blind.openScene, fun _ => nofun⟩
  | reset => cases plays
  | cancel => cases plays
  | choose offer =>
      cases plays
      refine ⟨keeps_blind.resume _, ?_⟩
      cases Request.choice? looked offer with
      | none => exact fun _ => nofun
      | some choice => exact fun _ => nofun

/-! ## Worlds -/

/-- Two worlds hold the same but for warnings, and in both only the driver goes on, with the same. -/
structure Alike (left right : Setting) : Prop where
  same : Same left.store right.store
  driver : driverTask? left.outline = driverTask? right.outline
  only : ∀ id task, left.outline.tasks id = some task → driverTask? left.outline = some task
  alsoOnly : ∀ id task, right.outline.tasks id = some task → driverTask? right.outline = some task

/-- Between two turns the driver's task is the only one that goes on. -/
theorem Standing.only_driver {outline : Draft} (standing : Standing scenario [] outline) {id : TaskId}
    (found : outline.tasks id = some task) : driverTask? outline = some task := by
  rcases standing.only id task found with bystander | holding
  · cases bystander
  · rw [driverTask?, holding]
    exact found

theorem Alike.of_sound (leftSound : Sound scenario left) (rightSound : Sound scenario right)
    (leftNoTurn : left.running = none) (rightNoTurn : right.running = none)
    (same : Same left.store right.store) (driver : driverTask? left.outline = driverTask? right.outline) :
    Alike left right :=
  ⟨same, driver, fun _ _ => (leftSound.standing leftNoTurn).only_driver,
    fun _ _ => (rightSound.standing rightNoTurn).only_driver⟩

namespace Sound

/-- Where the driver is inactive nothing goes on. -/
theorem atRest (sound : Sound scenario world) (noTurn : world.running = none)
    (inactive : driverTask? world.outline = none) : world.AtRest := by
  refine ⟨sound.balanced, noTurn, ?_⟩
  intro id
  cases goesOn : world.outline.tasks id with
  | none => rfl
  | some task =>
      rw [(sound.standing noTurn).only_driver goesOn] at inactive
      cases inactive

/-- Where the driver is inactive nothing moves. -/
theorem isIdle_of_inactive (sound : Sound scenario world) (noTurn : world.running = none)
    (inactive : driverTask? world.outline = none) : world.isIdle = true := by
  refine World.isIdle_of_resting sound.balanced noTurn ?_
  intro id task found
  cases ended : task.isEnded with
  | true => exact .inr rfl
  | false =>
      have goesOn : world.outline.tasks id = some { task with status := .ready } := by
        simp [World.outline, found, Task.unended?, ended]
      rw [(sound.atRest noTurn inactive).isOver id] at goesOn
      cases goesOn

/-- The driver's task has one turn before nothing moves by itself, unless the clock holds it. -/
theorem drain_of_driver {program : Plan} {turnEnd : TurnEnd Alone Unit Unit Reply}
    (sound : Sound scenario world) (noTurn : world.running = none)
    (driver : driverTask? world.outline = some task) (control : task.control = .run program)
    (awake : ∀ next, program ≠ .check next)
    (turns : World.Turns machine program task.frames world.store turnEnd) :
    ∃ fuel, (world.drain machine fuel).isIdle = true ∧ (world.drain machine fuel).store = turnEnd.store
      ∧ driverTask? (world.drain machine fuel).outline = turnEnd.residue? task := by
  have standing := sound.standing noTurn
  obtain ⟨id, holding, found⟩ := Option.bind_eq_some_iff.mp driver
  have performs := standing.performs id task holding found
  have only : ∀ other someone, world.outline.tasks other = some someone → other = id := by
    intro other someone there
    rcases standing.only other someone there with bystander | holds
    · cases bystander
    · exact Option.some.inj (holds.symm.trans holding)
  have allowed : world.mayAct id task = true := by
    have permitted : (world.holdings ()).live = some id := standing.live_eq.trans holding
    simp [World.mayAct, performs.owner, permitted]
  obtain ⟨fuel, idle, reached⟩ := World.drain_of_turns sound.balanced sound.paused noTurn found only
    control awake performs.kept (standing.nobody holding found) allowed turns
  refine ⟨fuel, idle, ?_, ?_⟩
  · show (world.drain machine fuel).outline.store = _
    rw [reached, TurnEnd.store_outline]
  · rw [reached, driverTask?, TurnEnd.holdings_outline, holding]
    exact turnEnd.tasks_outline_self _

end Sound

/-- Worlds that are alike, and whose driver's task has not had a turn yet, are alike when everything was
let run. -/
theorem Alike.drains {request : Request} (alike : Alike left right) (leftSound : Sound scenario left)
    (rightSound : Sound scenario right) (leftNoTurn : left.running = none)
    (rightNoTurn : right.running = none)
    (driver : driverTask? left.outline = (request.body? looked).map (Task.fresh (some ()))) :
    ∃ fuel otherFuel, (left.drain machine fuel).isIdle = true
      ∧ (right.drain machine otherFuel).isIdle = true
      ∧ Alike (left.drain machine fuel) (right.drain machine otherFuel) := by
  cases plays : request.body? looked with
  | none =>
      have inactive : driverTask? left.outline = none := by rw [driver, plays]; rfl
      exact ⟨0, 0, leftSound.isIdle_of_inactive leftNoTurn inactive,
        rightSound.isIdle_of_inactive rightNoTurn (alike.driver ▸ inactive), alike⟩
  | some body =>
      have active : driverTask? left.outline = some (.fresh (some ()) body) := by rw [driver, plays]; rfl
      obtain ⟨blind, awake⟩ := blind_body _ plays
      obtain ⟨id, holding, found⟩ := Option.bind_eq_some_iff.mp active
      obtain ⟨program, preferences, control, -, ends⟩ :=
        ((leftSound.standing leftNoTurn).performs id _ holding found).runs
      cases control
      obtain ⟨entries, runs⟩ := ends left.store rfl
      obtain ⟨turnEnd, otherEnd, turns, otherTurns, like⟩ :=
        World.turns_alike runs (fun final driver body post => absurd rfl (post.2 driver body))
          (fun _ => keeps_blind.walkBody) blind (by simp [Task.fresh]) alike.same
      obtain ⟨fuel, idle, store_eq, residue⟩ :=
        leftSound.drain_of_driver leftNoTurn active rfl awake turns
      obtain ⟨otherFuel, otherIdle, otherStore, otherResidue⟩ :=
        rightSound.drain_of_driver rightNoTurn (alike.driver ▸ active) rfl awake otherTurns
      refine ⟨fuel, otherFuel, idle, otherIdle,
        .of_sound (leftSound.drain fuel) (rightSound.drain otherFuel) (World.noTurn_of_isIdle idle)
          (World.noTurn_of_isIdle otherIdle) ?_ ?_⟩
      · rw [store_eq, otherStore]
        exact like.store
      · rw [residue, otherResidue]
        exact like.residue? _

end Playthrough.Interpreter.Alone

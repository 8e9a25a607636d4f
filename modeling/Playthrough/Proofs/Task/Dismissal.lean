import Playthrough.Proofs.Task.Exhaustion
import Playthrough.Proofs.Task.Untangling

/-!
Contract: a driver is cancelled without the clock.

Owns: what becomes of an operation that cancels a driver and of the program that the driver held then.

Does not own: operations of a scene or of a session.

An operation that waits for no driver rests only when it has ended, since the tasks of the driver that it could
join do not rest. The program that it cancels ends before it does, as it joins that program for as long.
-/

namespace Playthrough.Script

variable {ledger later latest : Ledger} {world between after final : Setting} {id held : TaskId}
variable {task : Task Log Unit Empty Unit}

/-- What a driver comes to from one of its moments on. -/
inductive Onward (ledger : Ledger) (world : Setting) : Ledger → Setting → Prop where
  | here : Onward ledger world ledger world
  | move {later latest : Ledger} {between after : Setting} (before : Onward ledger world later between)
      (moves : Moves later between latest after) : Onward ledger world latest after

theorem Onward.reaches (onward : Onward ledger world later after) (reaches : Reaches ledger world) :
    Reaches later after := by
  induction onward with
  | here => exact reaches
  | move _ moves inductionHypothesis => exact inductionHypothesis.move moves

/-- Either nothing has happened yet, or the turn that was being taken has gone on. -/
theorem Onward.cases_of_turn (onward : Onward ledger world later after) (turn : world.running = some id) :
    (later = ledger ∧ after = world) ∨ Onward (ledger.noted world) (world.step machine) later after := by
  induction onward with
  | here => exact .inl ⟨rfl, rfl⟩
  | move before moves inductionHypothesis =>
      rcases inductionHypothesis with ⟨rfl, rfl⟩ | since
      · cases moves with
        | begin noTurn | beginAll noTurn | release noTurn =>
            rw [turn] at noTurn
            cases noTurn
        | step => exact .inr .here
      · exact .inr (since.move moves)

/-! ## The operation ends -/

/-- An operation from outside that has nothing more to do. -/
def Leaving (id : TaskId) (world : Setting) : Prop :=
  ∃ task, world.tasks[id]? = some task ∧ task.owner = none ∧ task.control = .run .stop

theorem Leaving.step_of_turn (leaving : Leaving id world) (untangled : Untangled world)
    (turn : world.running = some id) : Leaving id (world.step machine) := by
  obtain ⟨task, found, outside, control⟩ := leaving
  have alone := (untangled.outside id task found outside).courteous.alone
  have stepped : world.step machine = world.finish id task.joiners (.finished none) := by
    simp only [World.step, turn, found, control, Program.stop, World.execute, alone]
  rw [stepped]
  refine ⟨{ task with status := .ended (.finished none) }, ?_, outside, control⟩
  show (world.tasks.modify id _)[id]? = _
  rw [List.getElem?_modify_eq, found]
  rfl

theorem Leaving.of_moves (leaving : Leaving id world) (untangled : Untangled world)
    (regular : Regular ledger world) (moves : Moves ledger world later after) : Leaving id after := by
  by_cases turn : world.running = some id
  · cases moves with
    | begin noTurn | beginAll noTurn | release noTurn =>
        rw [turn] at noTurn
        cases noTurn
    | step => exact leaving.step_of_turn untangled turn
  · obtain ⟨task, found, outside, control⟩ := leaving
    have leads := Leads.of_moves regular untangled.slot moves
    obtain ⟨status, later, -⟩ := untangled.spared leads found outside turn task found
    exact ⟨_, later, outside, control⟩

/-- Where nothing moves, an operation that has nothing more to do has ended. -/
theorem Leaving.outcome?_of_idle (leaving : Leaving id world) (untangled : Untangled world)
    (regular : Regular ledger world) (idle : world.isIdle = true) :
    world.outcome? id = some (.finished none) := by
  obtain ⟨task, found, outside, control⟩ := leaving
  obtain ⟨noTurn, quiet⟩ : world.running = none ∧ world.queue = [] := by
    simpa [World.isIdle] using idle
  have orderly : world.Orderly none := by
    rw [← noTurn]
    exact regular.balanced
  cases ended : task.isEnded with
  | true =>
      cases status : task.status with
      | ended outcome =>
          have told := (untangled.outside id task found outside).ends outcome status
          simp [World.outcome?, found, Task.outcome?, status, told]
      | ready | sleeping | joining _ => simp [Task.isEnded, status] at ended
  | false =>
      have awake : ∀ wait ∈ world.waits, wait.task ≠ id := by
        rintro wait member rfl
        have own := regular.accounted.made _ (regular.accounted.waits wait member).1
        rw [World.owner_of_found found, outside] at own
        cases own
      obtain ⟨other, someone, there, goesOn, member⟩ :=
        orderly.awaits_somebody quiet awake found ended
      have joins : Joins world id other := ⟨someone, there, goesOn, member⟩
      have holding := untangled.held_of_idle regular idle (untangled.owned id other joins) joins.unended
      obtain ⟨waiting, known, -, drivers, remaining, next, settling⟩ :=
        untangled.awaited id other holding joins
      rw [found] at known
      cases known
      rw [control] at settling
      cases settling

/-! ## The program ends first -/

/-- A program that is not permitted to act never is again. -/
theorem Moves.not_permits (moves : Moves ledger world later after) (known : held < world.tasks.length)
    (stopped : ¬ledger.Permits held) : ¬later.Permits held := by
  cases moves with
  | begin => exact stopped
  | beginAll => exact stopped
  | release => exact stopped
  | step =>
      simp only [Ledger.noted]
      split
      · rintro ⟨newest, -⟩
        exact Nat.ne_of_gt known (Option.some.inj newest)
      · exact ledger.not_permits_cancelNewest held
      · rintro ⟨newest, valid⟩
        exact stopped ⟨newest, List.not_mem_of_not_mem_cons valid⟩
      · exact stopped

/-- An operation leaves a driver whose former program is not permitted to act, and it joins that program for as
long as the program goes on. -/
structure Dismisses (id held : TaskId) (ledger : Ledger) (world : Setting) : Prop where
  leaving : Leaving id world
  known : held < world.tasks.length
  stopped : ¬ledger.Permits held
  joins : world.isUnended held = true → Joins world id held

theorem Dismisses.of_moves (dismisses : Dismisses id held ledger world) (untangled : Untangled world)
    (regular : Regular ledger world) (moves : Moves ledger world later after) :
    Dismisses id held later after := by
  have leads := Leads.of_moves regular untangled.slot moves
  refine ⟨dismisses.leaving.of_moves untangled regular moves, ?_,
    moves.not_permits dismisses.known dismisses.stopped, ?_⟩
  · have longer := leads.owners.length_le
    rw [World.length_owners, World.length_owners] at longer
    exact Nat.lt_of_lt_of_le dismisses.known longer
  · intro unended
    have before := dismisses.joins (leads.unended held dismisses.known unended)
    exact leads.kept id held before unended

/-- Once the operation has ended, so has the program, and nothing waits for it. -/
theorem Dismisses.ended (dismisses : Dismisses id held ledger world) (regular : Regular ledger world)
    (isOver : (world.outcome? id).isSome = true) :
    world.isUnended held = false ∧ ∀ wait ∈ world.waits, wait.task ≠ held := by
  constructor
  · by_contra goesOn
    obtain ⟨task, count, found, waiting⟩ :=
      (dismisses.joins (by simpa using goesOn)).joining regular.balanced
    simp [World.outcome?, found, Task.outcome?, waiting] at isOver
  · rintro wait member rfl
    exact dismisses.stopped (regular.accounted.waits wait member)

/-! ## The call -/

/-- The step in which an operation from outside cancels the driver. -/
theorem dismisses_of_call (untangled : Untangled world) (regular : Regular ledger world)
    (call : world.instruction? = some (id, Request.cancel.plan))
    (outside : world.owners[id]? = some none) :
    Leaving id (world.step machine) ∧ ∀ held, (world.holdings ()).slot = some held →
      Dismisses id held (ledger.noted world) (world.step machine) := by
  obtain ⟨task, turn, found, control⟩ := World.acting_of_instruction? call
  have own : task.owner = none := by
    rw [World.owner_of_found found] at outside
    exact Option.some.inj outside
  have stepped : world.step machine = world.execute machine id task (.cancel () .stop) := by
    simp only [World.step, turn, found, control]
    rfl
  have noted : ledger.noted world = ledger.cancelNewest := by
    rw [Ledger.noted, call]
    rfl
  cases holding : (world.holdings ()).slot with
  | none =>
      have goesOn : world.step machine =
          (world.setHolding () { slot := none, live := none }).proceed id (.run .stop) task.frames := by
        simp only [stepped, World.execute, holding]
      refine ⟨?_, by simp⟩
      rw [goesOn]
      exact ⟨_, World.found_proceed found _ _, own, rfl⟩
  | some other =>
      have different : other ≠ id := by
        rintro rfl
        rw [untangled.slot other holding] at outside
        cases outside
      let taken := (world.setHolding () { slot := none, live := none }).proceed id (.run .stop) task.frames
      have goesOn : world.step machine = ((taken.cancelTask other).join id other).yieldTurn := by
        simp only [stepped, World.execute, holding, different, if_false]
        rfl
      have there : (taken.cancelTask other).tasks[id]? = some (task.on (.run .stop) task.frames) := by
        rw [World.found_cancelTask_of_ne different]
        exact World.found_proceed found _ _
      have leaving : Leaving id (world.step machine) := by
        rw [goesOn]
        exact ⟨_, World.found_join_self there different, own, rfl⟩
      refine ⟨leaving, ?_⟩
      rintro held ⟨⟩
      refine ⟨leaving, ?_, ?_, ?_⟩
      · have length := (Leads.of_moves regular untangled.slot .step).owners.length_le
        rw [World.length_owners, World.length_owners] at length
        refine Nat.lt_of_lt_of_le ?_ length
        rw [← World.length_owners]
        exact (List.getElem?_eq_some_iff.mp (untangled.slot other holding)).1
      · rw [noted]
        exact ledger.not_permits_cancelNewest other
      · intro goesOnHeld
        have acting := regular.balanced.unended_of_turn turn
        have before : (taken.cancelTask other).isUnended id = true := by
          rw [World.isUnended_cancelTask, World.isUnended_proceed]
          exact acting
        rw [goesOn] at goesOnHeld ⊢
        refine joins_join_self different ?_
        rw [← World.isUnended_join different]
        exact goesOnHeld

/-- What a move adds is none of a task's. -/
structure AddedByOthers (held : TaskId) (world after : Setting) : Prop where
  events : after.store.events = world.store.events ∨ ∃ other event, other ≠ held
    ∧ world.running = some other ∧ after.store.events = world.store.events ++ [event]
  waits : after.begun = world.begun ∨ ∃ wait : Wait, wait.task ≠ held ∧ after.begun = world.begun ++ [wait]

theorem Additions.byOthers (additions : Additions ledger world after)
    (others : ∀ other, Acts ledger world other → other ≠ held) : AddedByOthers held world after := by
  refine ⟨?_, ?_⟩
  · rcases additions.events with same | ⟨other, event, acts, added⟩
    · exact .inl same
    · exact .inr ⟨other, event, others other acts, acts.1, added⟩
  · rcases additions.waits with same | ⟨other, wait, acts, mine, added⟩
    · exact .inl same
    · exact .inr ⟨wait, mine ▸ others other acts, added⟩

/-- Whatever holds at a moment of a driver and is kept by every move holds from then on. -/
theorem Onward.keeps (kept : Ledger → Setting → Prop) (onward : Onward ledger world later after)
    (reaches : Reaches ledger world) (first : kept ledger world)
    (goesOn : ∀ {later latest : Ledger} {between after : Setting}, Regular later between →
      Untangled between → Moves later between latest after → kept later between → kept latest after) :
    kept later after := by
  induction onward with
  | here => exact first
  | move before moves inductionHypothesis =>
      have reached := before.reaches reaches
      exact goesOn (.of_reaches reached) (.of_reaches reached) moves inductionHypothesis

theorem Onward.steps (onward : Onward ledger world later after) (count : Nat) :
    ∃ latest, Onward ledger world latest ((World.step machine)^[count] after) := by
  induction count generalizing later after with
  | zero => exact ⟨later, onward⟩
  | succ count inductionHypothesis => exact inductionHypothesis (onward.move .step)

/-- An operation from outside that cancels a driver ends by itself, without the end of any wait, whatever else
happens meanwhile. Once it has ended, the program that the driver held at the call has ended and waits for
nothing; and from the call on that program never writes an event or begins a wait. -/
theorem cancel_ends_what_was_held (reaches : Reaches ledger world)
    (call : world.instruction? = some (id, Request.cancel.plan))
    (outside : world.owners[id]? = some none) :
    ∀ later after, Onward ledger world later after →
      (∃ enough, ∀ fuel, enough ≤ fuel → (after.drain machine fuel).outcome? id = some (.finished none))
      ∧ ∀ held, (world.holdings ()).slot = some held →
        (∀ latest final, Moves later after latest final → AddedByOthers held after final)
        ∧ ((after.outcome? id).isSome = true →
          after.isUnended held = false ∧ ∀ wait ∈ after.waits, wait.task ≠ held) := by
  have regular := Regular.of_reaches reaches
  have untangled := Untangled.of_reaches reaches
  obtain ⟨task, turn, found, -⟩ := World.acting_of_instruction? call
  obtain ⟨leaving, dismisses⟩ := dismisses_of_call untangled regular call outside
  intro later after onward
  have regularAfter := Regular.of_reaches (onward.reaches reaches)
  refine ⟨?_, ?_⟩
  · obtain ⟨enough, idle⟩ := regularAfter.drains
    refine ⟨enough, ?_⟩
    intro fuel large
    have rests := idle fuel large
    rw [drain_eq_steps] at rests ⊢
    obtain ⟨latest, drained⟩ := onward.steps fuel
    rcases drained.cases_of_turn turn with ⟨-, same⟩ | since
    · rw [same, World.isIdle, turn] at rests
      cases rests
    · have left := since.keeps (fun _ reached => Leaving id reached) (reaches.move .step) leaving
        fun regular untangled moves leaving => leaving.of_moves untangled regular moves
      have reached := drained.reaches reaches
      exact left.outcome?_of_idle (.of_reaches reached) (.of_reaches reached) rests
  · intro held holding
    rcases onward.cases_of_turn turn with ⟨rfl, rfl⟩ | since
    · refine ⟨?_, ?_⟩
      · intro latest final moves
        refine (additions_of_moves regular moves).byOthers ?_
        rintro other ⟨acting, -, own⟩
        cases turn.symm.trans acting
        rw [outside] at own
        cases own
      · intro isOver
        have goesOn := regular.balanced.unended_of_turn turn
        obtain ⟨outcome, told⟩ := Option.isSome_iff_exists.mp isOver
        rw [World.isUnended_of_outcome told] at goesOn
        cases goesOn
    · have dismissed := since.keeps (Dismisses id held) (reaches.move .step) (dismisses held holding)
        fun regular untangled moves dismisses => dismisses.of_moves untangled regular moves
      refine ⟨?_, dismissed.ended regularAfter⟩
      intro latest final moves
      refine (additions_of_moves regularAfter moves).byOthers ?_
      rintro other ⟨-, permits, -⟩ rfl
      exact dismissed.stopped permits

theorem instruction?_begin (world : Setting) (program : Plan) :
    (world.begin program).2.instruction? = some (world.tasks.length, program) := by
  simp [World.begin, World.instruction?, Task.fresh]

theorem owner_begin (world : Setting) (program : Plan) :
    (world.begin program).2.owners[world.tasks.length]? = some none := by
  simp [World.begin, World.owners, World.bare, Task.fresh, Task.bare]

/-- A program that goes on when it is cancelled. -/
def stubborn : Script :=
  .guard (.pause 1000 .stop) (.emit "npc" "still here" none (.pause 1000 .stop))

/-- A driver that was given it, with what was written down. -/
def stubbornGiven : Ledger × Setting :=
  Ledger.stepped 10 .empty (Script.initial.begin (Request.spawn stubborn).plan).2

/-- It waits, and ends before the operation that cancels it then does. -/
theorem cancel_ends_stubborn :
    (stubbornGiven.2.holdings ()).slot = some 1 ∧ stubbornGiven.2.waits.map Wait.task = [1]
      ∧ ∀ later after, Onward stubbornGiven.1 (stubbornGiven.2.begin Request.cancel.plan).2 later after →
        (∃ enough, ∀ fuel, enough ≤ fuel →
          (after.drain machine fuel).outcome? stubbornGiven.2.tasks.length = some (.finished none))
        ∧ ((after.outcome? stubbornGiven.2.tasks.length).isSome = true → after.isUnended 1 = false) := by
  have holding : (stubbornGiven.2.holdings ()).slot = some 1 := by decide +kernel
  have spawned := Reaches.initial.move (.begin rfl (.spawn stubborn))
  have given : Reaches stubbornGiven.1 stubbornGiven.2 := spawned.stepped 10
  have called := given.move (.begin (by decide +kernel) .cancel)
  refine ⟨holding, by decide +kernel, ?_⟩
  intro later after onward
  obtain ⟨ends, dismissed⟩ := cancel_ends_what_was_held called (instruction?_begin _ _) (owner_begin _ _)
    later after onward
  have held : ((stubbornGiven.2.begin Request.cancel.plan).2.holdings ()).slot = some 1 := by
    simp only [World.begin, holding]
  exact ⟨ends, fun isOver => ((dismissed 1 held).2 isOver).1⟩

end Playthrough.Script

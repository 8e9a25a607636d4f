import Mathlib.Algebra.Ring.Int.Defs
import Playthrough.Proofs.Interpreter.Hints
import Playthrough.Proofs.Interpreter.Suspension
import Playthrough.Proofs.Task.Sturdiness

/-!
Contract: scenes whose hints the clock can hold never make a driver fail.

Owns: seats that uphold what they play (`Seat.Upholds`), that whatever is played from there is sturdy, the
worlds of an interpreter whose operations may overlap (`Happens`), interpreters that are not left in the
middle of a scene (`Resolved`), and what all this comes to with the pacing policy.

Does not own: what happens to scenes with hints beyond the clock, but for one example.

A wait that the clock cannot hold makes the driver's task fail, and nothing takes the interpreter out of the
scene then. It stays there, with a driver that has a task which is over.
-/

namespace Playthrough

variable {Store Driver Procedure Answer : Type}

/-! ## Sturdy seats -/

namespace Seat

/-- The interpreter of a seat plays a scenario in all stores of which something holds, and whatever the seat
does keeps that. -/
structure Upholds (seat : Seat Store Driver Procedure Answer) (kept : Store → Prop) (scenario : Scenario) :
    Prop where
  scenario_eq : ∀ store, kept store → (seat.get store).scenario = scenario
  record : ∀ event store, kept store → kept (seat.record event store)
  modify : ∀ change : Interpreter → Interpreter,
    (∀ interpreter, (change interpreter).scenario = interpreter.scenario) →
      ∀ store, kept store → kept (seat.modify change store)
  warn : ∀ warning store, kept store → kept (seat.warn warning store)
  award : ∀ points store, kept store → kept (seat.award points store)
  onFinish : seat.onFinish.Sturdy kept

variable {seat : Seat Store Driver Procedure Answer} {kept : Store → Prop} {scenario : Scenario}
variable {interpreter : Interpreter} {next : Program Store Driver Procedure Answer}

theorem sturdy_openScene : seat.openScene.Sturdy kept := by
  intro store _
  dsimp only
  split
  · trivial
  · trivial

/-- The clock can hold the hint of whatever choice is found. -/
theorem hold_of_chosen (holds : scenario.HintsHold) (playing : interpreter.scenario = scenario)
    {tag : String} : ∀ made ∈ chosen? interpreter tag, HintHolds made.reactionHint := by
  intro made chosen
  simp only [chosen?, Option.mem_def] at chosen
  split at chosen
  · next node here =>
      rw [Interpreter.node?, playing] at here
      refine holds.of_node (List.mem_of_getElem? here) _ ?_
      exact List.mem_map_of_mem (List.mem_of_find?_eq_some chosen)
  · cases chosen

namespace Upholds

/-- A script is sturdy in which the clock can hold every wait. -/
theorem voice (upholds : seat.Upholds kept scenario) {cues : List Cue} (fits : Cue.AllFit cues)
    (goesOn : next.Sturdy kept) : (seat.voice cues next).Sturdy kept := by
  induction cues with
  | nil => exact goesOn
  | cons cue cues inductionHypothesis =>
      have rest := inductionHypothesis fun held member => fits held (List.mem_cons_of_mem cue member)
      cases cue with
      | event event => exact ⟨upholds.record event, rest⟩
      | wait duration held =>
          cases duration with
          | none => exact absurd List.mem_cons_self (fits held)
          | some duration =>
              cases held with
              | false => exact rest
              | true =>
                  have shows := fun held => upholds.modify (fun interpreter => interpreter.setSuspended held)
                    fun _ => rfl
                  exact ⟨shows true, trivial, ⟨shows false, trivial⟩, rest⟩

theorem advanceAndWalk (upholds : seat.Upholds kept scenario) : seat.advanceAndWalk.Sturdy kept :=
  ⟨upholds.modify _ fun _ => rfl, trivial⟩

theorem awaitChoice (upholds : seat.Upholds kept scenario) (node : ChoiceNode) :
    (seat.awaitChoice node).Sturdy kept :=
  ⟨upholds.modify _ fun _ => rfl, trivial⟩

theorem becomesReady (upholds : seat.Upholds kept scenario) :
    (Program.update (seat.modify Interpreter.becomeReady) .stop :
      Program Store Driver Procedure Answer).Sturdy kept :=
  ⟨upholds.modify _ fun _ => rfl, trivial⟩

theorem finish (upholds : seat.Upholds kept scenario) : seat.finish.Sturdy kept := by
  refine ⟨upholds.modify _ fun _ => rfl, fun store _ => ?_⟩
  dsimp only
  split
  · trivial
  · exact ⟨upholds.modify _ fun _ => rfl, upholds.onFinish⟩

theorem afterBlock (upholds : seat.Upholds kept scenario) : seat.afterBlock.Sturdy kept := by
  intro store _
  dsimp only
  split
  · split
    · exact upholds.advanceAndWalk
    · exact ⟨upholds.modify _ fun _ => rfl, upholds.awaitChoice _⟩
  · exact upholds.advanceAndWalk

theorem passOn (upholds : seat.Upholds kept scenario) (node : Node) :
    (seat.passOn interpreter node).Sturdy kept := by
  cases node with
  | narrative block => exact upholds.advanceAndWalk
  | messages block =>
      simp only [Seat.passOn]
      split
      · exact upholds.becomesReady
      · exact upholds.afterBlock
  | dialogue block => exact upholds.afterBlock
  | choice node =>
      simp only [Seat.passOn]
      split
      · exact ⟨upholds.warn _, upholds.advanceAndWalk⟩
      · exact upholds.awaitChoice node
  | system event =>
      simp only [Seat.passOn]
      split
      · exact upholds.becomesReady
      · split
        · exact upholds.advanceAndWalk
        · exact upholds.finish
  | foreign node => exact ⟨upholds.warn _, upholds.advanceAndWalk⟩

/-- The walk is sturdy: every node is one of the scenario, whose hints the clock can hold. -/
theorem walkBody (upholds : seat.Upholds kept scenario) (holds : scenario.HintsHold) :
    seat.walkBody.Sturdy kept := by
  intro store upheld
  dsimp only
  split
  · exact upholds.finish
  · next node here =>
      rw [playNode_eq_voice]
      have member : node ∈ scenario.nodes := by
        rw [Interpreter.node?, upholds.scenario_eq store upheld] at here
        exact List.mem_of_getElem? here
      exact upholds.voice (Node.allFit_cues _ _ (holds.of_node member)) (upholds.passOn node)

theorem afterChoice (upholds : seat.Upholds kept scenario) : seat.afterChoice.Sturdy kept := by
  refine ⟨upholds.modify _ fun _ => rfl, fun store _ => ?_⟩
  dsimp only
  split
  · split
    · exact upholds.becomesReady
    · trivial
  · trivial

/-- What is played after a choice is sturdy if the clock can hold its hint. -/
theorem resume (upholds : seat.Upholds kept scenario) {choice : Option Choice}
    (held : ∀ made ∈ choice, HintHolds made.reactionHint) : (seat.resume choice).Sturdy kept := by
  cases choice with
  | none => exact upholds.afterChoice
  | some choice =>
      intro store _
      dsimp only
      have fits := held choice rfl
      split
      · rw [playTextBranch_eq_voice]
        exact upholds.voice (Choice.allFit_cues .text _ fits) upholds.afterChoice
      · rw [playEncounterBranch_eq_voice]
        exact upholds.voice (Choice.allFit_cues .encounter _ fits) upholds.afterChoice

/-! ### Operations -/

theorem recordHeader (upholds : seat.Upholds kept scenario) (interpreter : Interpreter) :
    ∀ store, kept store → kept (seat.recordHeader interpreter store) := by
  simp only [Seat.recordHeader]
  induction interpreter.scenario.header with
  | nil => exact fun _ upheld => upheld
  | cons line lines inductionHypothesis =>
      exact fun store upheld => inductionHypothesis _ (upholds.record _ store upheld)

theorem applyChoice (upholds : seat.Upholds kept scenario) (offer : Offer) (nodeId : String)
    (choice : Option Choice) : ∀ store, kept store → kept (seat.applyChoice offer nodeId choice store) := by
  intro store upheld
  have told := upholds.award offer.points _ (upholds.record (.plain .player offer.text) store upheld)
  cases choice with
  | none => exact upholds.warn _ _ told
  | some choice => exact told

theorem start (upholds : seat.Upholds kept scenario) (preferences : Preferences)
    (goesOn : next.Sturdy kept) : (seat.start preferences next).Sturdy kept :=
  ⟨upholds.modify _ fun _ => rfl, upholds.modify _ fun _ => rfl,
    fun store upheld => upholds.recordHeader _ store upheld, sturdy_openScene, goesOn⟩

/-- Making a choice is sturdy: the choice is one of the scenario, whose hints the clock can hold. -/
theorem select (upholds : seat.Upholds kept scenario) (holds : scenario.HintsHold) (offer : Offer)
    {refused accepted : Program Store Driver Procedure Answer} (refusal : refused.Sturdy kept)
    (goesOn : accepted.Sturdy kept) : (seat.select offer refused accepted).Sturdy kept := by
  intro store upheld
  dsimp only
  split
  · exact ⟨upholds.modify _ fun _ => rfl, upholds.applyChoice _ _ _,
      upholds.resume (hold_of_chosen holds (upholds.scenario_eq store upheld)), goesOn⟩
  · exact ⟨upholds.warn _, refusal⟩

end Upholds

end Seat

/-! ## The only interpreter -/

namespace Interpreter.Alone

variable {scenario : Scenario} {reporting : Bool} {record : Record} {world after : Setting}
variable {outline next : Draft} {store : Alone} {id held : TaskId}

/-- The only interpreter plays a scenario. -/
def Presents (scenario : Scenario) (store : Alone) : Prop := store.interpreter.scenario = scenario

theorem upholds : seat.Upholds (Presents scenario) scenario where
  scenario_eq _ presents := presents
  record _ _ presents := presents
  modify change same store presents := by
    exact (same store.interpreter).trans presents
  warn _ _ presents := presents
  award points store presents := by
    show (award points store).interpreter.scenario = scenario
    rw [interpreter_award]
    exact presents
  onFinish := by
    refine ⟨fun store presents => ?_, trivial⟩
    show (countFinish store).interpreter.scenario = scenario
    rw [interpreter_countFinish]
    exact presents

theorem machine_sturdy (holds : scenario.HintsHold) : machine.Sturdy (Presents scenario) :=
  fun _ => upholds.walkBody holds

theorem Call.sturdy (holds : scenario.HintsHold) (call : Call) : call.plan.Sturdy (Presents scenario) := by
  cases call with
  | await => trivial
  | ask request =>
      cases request with
      | start preferences => exact upholds.start preferences trivial
      | reset => exact ⟨upholds.modify _ fun _ => rfl, trivial⟩
      | cancel => trivial
      | choose offer => exact upholds.select holds offer trivial trivial

/-- The worlds that happen when an interpreter is given calls at any time, whether or not others have come
to their end. -/
inductive Happens (scenario : Scenario) (reporting : Bool) : Setting → Prop where
  | construct : Happens scenario reporting (World.initial (initial scenario reporting))
  | begin {world : Setting} (call : Call) (before : Happens scenario reporting world)
      (noTurn : world.running = none) : Happens scenario reporting (world.begin call.plan).2
  | step {world : Setting} (before : Happens scenario reporting world) :
      Happens scenario reporting (world.step machine)
  | release {world released : Setting} (before : Happens scenario reporting world)
      (noTurn : world.running = none) (position : Nat)
      (wait : world.release? position = some released) : Happens scenario reporting released

/-- With hints that the clock can hold no task fails, whichever calls overlap. -/
theorem Happens.sturdy (happens : Happens scenario reporting world) (holds : scenario.HintsHold) :
    world.Sturdy (Presents scenario) := by
  induction happens with
  | construct => exact ⟨rfl, fun _ member => absurd member List.not_mem_nil⟩
  | begin call _ _ inductionHypothesis => exact inductionHypothesis.begin (call.sturdy holds)
  | step _ inductionHypothesis => exact inductionHypothesis.step (machine_sturdy holds)
  | release _ _ _ wait inductionHypothesis => exact inductionHypothesis.release? wait

theorem Happens.pursues (happens : Happens scenario reporting world)
    (pursues : World.Pursues machine id world after) : Happens scenario reporting after := by
  induction pursues with
  | here world => exact happens
  | step _ _ _ inductionHypothesis => exact inductionHypothesis happens.step
  | release _ idle oldest _ inductionHypothesis =>
      exact inductionHypothesis (happens.release (World.noTurn_of_isIdle idle) 0 oldest)

/-- Calls that are made one after the other are calls at any time. -/
theorem Used.happens (used : Used scenario reporting record world) : Happens scenario reporting world := by
  induction used with
  | construct => exact .construct
  | move _ moves inductionHypothesis =>
      cases moves with
      | step => exact inductionHypothesis.step
      | release noTurn position wait => exact inductionHypothesis.release noTurn position wait
      | call call noTurn pursues _ => exact (inductionHypothesis.begin call noTurn).pursues pursues

/-- A driver has not crashed if no task has failed. -/
theorem crash?_of_sturdy {kept : Alone → Prop} (sturdy : world.Sturdy kept) : world.crash? () = none := by
  simp only [World.crash?]
  split
  · next fault failed =>
      obtain ⟨held, -, outcome⟩ := Option.bind_eq_some_iff.mp failed
      exact absurd outcome (sturdy.not_failed held fault)
  · rfl

/-! ## Interpreters that are not left in the middle of a scene -/

/-- A driver that has a task which is over has not left its interpreter in the middle of a scene. -/
def Resolved (outline : Draft) : Prop :=
  (outline.holdings ()).slot ≠ none → driverTask? outline = none →
    outline.store.interpreter.progress ≠ .running

theorem Resolved.of_leaves (resolved : Resolved outline) (leaves : Leaves outline next) : Resolved next := by
  intro holding isOver
  rw [leaves.interpreter_eq]
  rw [leaves.holdings_eq] at holding
  rcases leaves.driver with same | ⟨task, joiners, -, goesOn⟩
  · exact resolved holding (same.symm.trans isOver)
  · rw [isOver] at goesOn
    cases goesOn

theorem Resolved.of_driver {task : Task Alone Unit Unit Reply} (goesOn : driverTask? outline = some task) :
    Resolved outline := by
  intro _ isOver
  rw [goesOn] at isOver
  cases isOver

/-- A stop of a scene with hints that the clock can hold is not in the middle of it. -/
theorem Stopped.progress_ne {preferences : Preferences} {finishes : Nat} {halt : Halt}
    (stopped : Stopped scenario preferences reporting finishes halt store) (holds : scenario.HintsHold) :
    store.interpreter.progress ≠ .running := by
  obtain ⟨base, inPlay, -, -, same⟩ := stopped.stopped
  rw [same, inPlay.progress_halted]
  cases halt with
  | stuck index => exact absurd rfl (stopped.fits.flows holds index)
  | offering index node => nofun
  | ready index => nofun
  | ended index => nofun

/-- A turn of the driver's task. -/
theorem Tells.resolves_turn {task : Task Alone Unit Unit Reply} {base : Setting}
    (tells : Tells scenario reporting record (driverTask? outline) outline.store)
    (holds : scenario.HintsHold) (sameOutline : base.outline = outline)
    (holding : (outline.holdings ()).slot = some id) (found : outline.tasks id = some task)
    (kept : task.cancelPending = false) (allowed : base.mayAct id task = true) :
    World.Lands machine (fun after => Resolved after.outline)
      (base.focus id (World.atTurn task) outline.store) := by
  subst sameOutline
  have driver : driverTask? base.outline = some task := (driverTask?_eq holding).trans found
  rw [driver] at tells
  cases tells with
  | plays started control inPlay beside heads =>
      obtain ⟨entries, runs⟩ := heads _ (.refl _)
      rw [World.atTurn_of_kept control kept]
      refine World.lands_of_runs Resolved found allowed runs ?_ ?_ ?_ ?_
      · intro next frames later first rest duration shown _ _ _ _
        have goesOn : driverTask? (base.outline.rest id
            { task.on (.run (.check next)) frames with status := .ready } later) =
              some { task.on (.run (.check next)) frames with status := .ready } := by
          show (base.outline.holdings ()).slot.bind _ = _
          rw [holding]
          exact Function.update_self _ _ _
        exact .of_driver goesOn
      · intro answer final _ post _ _
        obtain ⟨⟨halt, stopped⟩, -⟩ := post
        exact stopped.progress_ne holds
      · intro fault final _ post _ _
        obtain ⟨⟨halt, stopped⟩, -⟩ := post
        exact stopped.progress_ne holds
      · intro driver body final _ post
        exact absurd rfl (post.2 driver body)

/-- The next step, and the turn that it may begin. -/
theorem Resolved.lands_step {bystanders : List TaskId} (resolved : Resolved world.outline)
    (tells : Tells scenario reporting record (driverTask? world.outline) world.outline.store)
    (holds : scenario.HintsHold) (balanced : world.Balanced) (noTurn : world.running = none)
    (standing : Standing scenario bystanders world.outline)
    (waits : ∀ id ∈ bystanders, bystanders = [id]
      ∧ ∀ task, world.outline.tasks id = some task → task = .fresh none Alone.await) :
    World.Lands machine (fun after => Resolved after.outline) (world.step machine) := by
  rcases World.step_cases machine balanced noTurn with
    ⟨stopped, same, -⟩ | ⟨id, task, base, found, same, stepped, -⟩
  · refine .here stopped ?_
    rw [same]
    exact resolved
  · rw [stepped]
    rcases standing.only id task found with member | holding
    · obtain ⟨rfl, waiting⟩ := waits id member
      obtain rfl := waiting task found
      have outside : ∀ held, (world.outline.holdings ()).slot = some held → held ≠ id := by
        intro held holding
        simpa using (standing.within held holding).2
      exact (conducts_await _ outside base same (by rw [found]; rfl)).mono fun _ _ leaves =>
        resolved.of_leaves leaves
    · have performs := standing.performs id task holding found
      have allowed : base.mayAct id task = true := by
        have permitted : (base.holdings ()).live = some id := by
          have sameHoldings : base.holdings = world.holdings := congrArg Outline.holdings same
          rw [sameHoldings]
          exact standing.live_eq.trans holding
        simp [World.mayAct, performs.owner, permitted]
      exact tells.resolves_turn holds same holding found performs.kept allowed

theorem Resolved.release? {position : Nat} (resolved : Resolved world.outline) (balanced : world.Balanced)
    (noTurn : world.running = none) (wait : world.release? position = some after) :
    Resolved after.outline := by
  have orderly : world.Orderly none := by
    rw [← noTurn]
    exact balanced
  rw [World.outline_release? orderly wait]
  exact resolved

/-- While an operation waits, and when it has ended. -/
theorem Resolved.pursues (attending : Attending scenario reporting record id world)
    (holds : scenario.HintsHold) (lands : World.Lands machine (fun after => Resolved after.outline) world)
    (pursues : World.Pursues machine id world after) (ended : (after.outcome? id).isSome = true) :
    Resolved after.outline := by
  induction pursues with
  | here world => exact lands.reached (attending.quiet ended)
  | @step world after unended _ _ inductionHypothesis =>
      refine inductionHypothesis (attending.step unended) ?_ ended
      cases turn : world.running with
      | some other => exact lands.onward turn
      | none =>
          rcases attending.lands.reached turn with attends | attended
          · refine (lands.reached turn).lands_step attends.tells holds attending.balanced turn
              attends.standing ?_
            intro other member
            obtain rfl := List.mem_singleton.mp member
            refine ⟨rfl, fun task found => ?_⟩
            rw [attends.waits] at found
            exact (Option.some.inj found).symm
          · have isOver : (world.outcome? id).isSome = true := attended.ended
            rw [unended] at isOver
            cases isOver
  | @release world released after _ idle oldest _ inductionHypothesis =>
      have noTurn := World.noTurn_of_isIdle idle
      have stillNoTurn : released.running = none := by
        obtain ⟨-, -, rfl⟩ := World.release?_eq_some.mp oldest
        exact noTurn
      exact inductionHypothesis (attending.release noTurn oldest)
        (.here stillNoTurn ((lands.reached noTurn).release? attending.balanced noTurn oldest)) ended

/-- A request that was carried out leaves a driver with a new task, a driver without one, or an interpreter
that has not begun. -/
theorem Resolved.of_comesTo {request : Request} {looked : Alone} (comes : ComesTo request looked store after) :
    Resolved after.outline := by
  cases request with
  | start preferences => exact .of_driver comes.driver
  | choose offer => exact .of_driver comes.driver
  | cancel => exact fun holding => absurd (comes.vacant rfl) holding
  | reset =>
      intro _ _
      have store_eq : after.outline.store = modify Interpreter.reset store := comes.store_eq
      rw [store_eq]
      exact nofun

/-- Whatever happens next to an interpreter does not leave it in the middle of a scene. -/
theorem Resolved.move {call? : Option Call} (holds : scenario.HintsHold)
    (lands : World.Lands machine (fun after => Resolved after.outline) world)
    (regular : Regular scenario reporting record world) (moves : Moves call? world after) :
    World.Lands machine (fun after => Resolved after.outline) after := by
  have sound := regular.sound
  cases moves with
  | step _ =>
      cases turn : world.running with
      | some id => exact lands.onward turn
      | none =>
          exact (lands.reached turn).lands_step (regular.tells turn) holds sound.balanced turn
            (sound.standing turn) fun _ member => absurd member List.not_mem_nil
  | release noTurn position wait =>
      refine .here ?_ ((lands.reached noTurn).release? sound.balanced noTurn wait)
      obtain ⟨-, -, rfl⟩ := World.release?_eq_some.mp wait
      exact noTurn
  | call call noTurn pursues ended =>
      have resolved := lands.reached noTurn
      have standing := sound.standing noTurn
      cases call with
      | await =>
          have attending := Attending.begin sound.balanced noTurn standing (regular.tells noTurn)
          have begins : World.Lands machine (fun after => Resolved after.outline)
              (world.begin Alone.await).2 :=
            (World.lands_begin _ (conducts_begin_await standing)).mono fun _ _ leaves =>
              resolved.of_leaves leaves
          exact .here (attending.ends pursues ended).1
            (Resolved.pursues attending holds begins pursues ended)
      | ask request =>
          have unique : ∀ {later : Setting},
              World.Pursues machine (world.begin request.plan).1 (world.begin request.plan).2 later →
                (later.outcome? (world.begin request.plan).1).isSome = true → after = later :=
            fun alsoPursues alsoEnded => pursues.unique alsoPursues ended alsoEnded
          by_cases heeds : request.Heeded world.store
          · obtain ⟨later, carries, comes, -⟩ := carries_of_standing sound.balanced noTurn standing heeds
            obtain rfl := unique carries.pursues (congrArg Option.isSome carries.ended)
            exact .here carries.noTurn (.of_comesTo comes)
          · cases request with
            | start _ => exact absurd trivial heeds
            | reset => exact absurd trivial heeds
            | cancel => exact absurd trivial heeds
            | choose offer =>
                obtain ⟨later, alsoPursues, stopped, reached⟩ :=
                  World.pursues_begin (conducts_refused offer heeds)
                have alsoEnded : (later.outcome? world.outline.count).isSome = true := by
                  show (later.outline.outcomes world.outline.count).isSome = true
                  rw [reached]
                  show (Function.update world.outline.outcomes world.outline.count _
                    world.outline.count).isSome = true
                  rw [Function.update_self]
                  rfl
                obtain rfl := unique alsoPursues alsoEnded
                refine .here stopped (resolved.of_leaves ?_)
                rw [reached]
                exact ⟨rfl, rfl, .inl standing.driverTask?_passes⟩

theorem Resolved.of_used (used : Used scenario reporting record world) (holds : scenario.HintsHold) :
    World.Lands machine (fun after => Resolved after.outline) world := by
  induction used with
  | construct => exact .here rfl fun holding => absurd rfl holding
  | move before moves inductionHypothesis =>
      exact Resolved.move holds inductionHypothesis (.of_used before) moves

/-! ## The policy and what it comes to -/

/-- The waits of every pacing mode are bounded. With hints that the clock can hold no task of an interpreter
ever fails, whichever calls overlap, and a driver that is given one call after the other neither crashes nor
leaves its interpreter in the middle of a scene when its task is over. -/
theorem sturdy_unless_overflowing (holds : scenario.HintsHold) :
    (∀ pacing : Pacing, pacing.Bounded)
      ∧ (∀ reporting world, Happens scenario reporting world →
        ∀ id fault, world.outcome? id ≠ some (.failed fault))
      ∧ ∀ reporting record world, Used scenario reporting record world → world.running = none →
        world.crash? () = none
          ∧ ((world.holdings ()).slot ≠ none → world.isActive () = false →
            world.store.interpreter.snapshot.progress ≠ .running) := by
  refine ⟨Pacing.bounded, fun _ _ happens => (happens.sturdy holds).not_failed, ?_⟩
  intro reporting record world used noTurn
  refine ⟨crash?_of_sturdy (used.happens.sturdy holds), fun holding inactive => ?_⟩
  refine (Resolved.of_used used holds).reached noTurn holding ?_
  rw [← driverTask?_isSome] at inactive
  exact Option.isNone_iff_eq_none.mp (Option.isSome_eq_false_iff.mp inactive)

/-- A text scene in which a pause follows the player's message. -/
def hinting (milliseconds : Int) : Scenario :=
  { kind := .text
    header := []
    nodes := [.messages ⟨"pause", some playerName, some [.blank], some milliseconds, none⟩] }

/-- The preferences under which the pause is made. -/
def natively : Preferences := { Preferences.standard with pacing := .native }

theorem Used.released (used : Used scenario reporting record world) (noTurn : world.running = none)
    (waits : (world.release? 0).isSome = true) :
    Used scenario reporting record ((world.release? 0).get waits) :=
  used.move (.release noTurn 0 (Option.some_get waits).symm)

/-- After a pause that the clock holds the scene comes to its end. -/
theorem sturdy_at_second : (hinting 1000).HintsHold
    ∧ ∃ record world, Used (hinting 1000) true record world ∧ world.running = none
      ∧ (world.holdings ()).slot ≠ none ∧ world.isActive () = false ∧ world.crash? () = none
      ∧ world.store.interpreter.snapshot.progress ≠ .running := by
  have holds : (hinting 1000).HintsHold := by
    intro hint member
    obtain rfl : hint = some 1000 := List.mem_singleton.mp member
    rintro _ ⟨⟩
    decide +kernel
  have fresh : Used (hinting 1000) true _ _ := .construct
  have started := fresh.move (.call (.ask (.start natively)) rfl (.of_runUntilEnded 20 _) rfl)
  have paused := (started.stepped 20).released (by decide +kernel) (by decide +kernel)
  have ended := ((paused.stepped 20).released (by decide +kernel) (by decide +kernel)).stepped 20
  have told := (sturdy_unless_overflowing holds).2.2 true _ _ ended (by decide +kernel)
  exact ⟨holds, _, _, ended, by decide +kernel, by decide +kernel, by decide +kernel, told.1,
    told.2 (by decide +kernel) (by decide +kernel)⟩

/-- A pause that the clock cannot hold makes the driver fail, and leaves its interpreter in the middle of
the scene. -/
theorem fails_at_overflow : Pacing.scripted .native (some (10 ^ 320)) = none
    ∧ ∃ record world, Used (hinting (10 ^ 320)) true record world ∧ world.running = none
      ∧ world.crash? () = some .overflow ∧ world.isActive () = false
      ∧ world.store.interpreter.snapshot.progress = .running := by
  have fresh : Used (hinting (10 ^ 320)) true _ _ := .construct
  have started := fresh.move (.call (.ask (.start natively)) rfl (.of_runUntilEnded 20 _) rfl)
  have failed := started.stepped 20
  exact ⟨by decide +kernel, _, _, failed, by decide +kernel, by decide +kernel, by decide +kernel,
    by decide +kernel⟩

end Interpreter.Alone

end Playthrough

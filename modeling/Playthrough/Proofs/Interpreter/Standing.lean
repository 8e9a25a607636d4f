import Playthrough.Proofs.Interpreter.Performance
import Playthrough.Proofs.Task.Solitude

/-!
Contract: the only interpreter between two turns.

Owns: the terms on which its driver's task plays, what holds of its world between two turns
(`Standing`), and that a turn of the driver's task keeps to it.

Does not own: operations.

A task that has not ended plays its scene to the next stop, whatever else is asked meanwhile. Where a
choice is awaited there is no such task, and making the choice takes the interpreter back into the
scene.
-/

namespace Playthrough.Interpreter.Alone

/-- What an outline of the only interpreter is made of. -/
abbrev Draft := Outline Alone Unit Unit Reply

variable {scenario : Scenario} {preferences : Preferences} {store changed : Alone}
variable {outline : Draft} {id held : TaskId}

/-! ## The interpreter -/

/-- The scene is being played and is not held up. -/
structure Playing (scenario : Scenario) (store : Alone) : Prop where
  inPlay : ∃ preferences, InPlay scenario preferences store.interpreter
  clear : store.interpreter.suspended = false

/-- Where a choice is awaited, making it goes on with the scene. -/
structure Calm (scenario : Scenario) (store : Alone) : Prop where
  scenario_eq : store.interpreter.scenario = scenario
  awaits : store.interpreter.progress = .awaitingChoice → Playing scenario (modify claim store)

theorem Calm.of_progress (scenario_eq : store.interpreter.scenario = scenario)
    (elsewhere : store.interpreter.progress ≠ .awaitingChoice) : Calm scenario store :=
  ⟨scenario_eq, fun awaits => absurd awaits elsewhere⟩

theorem Calm.of_same (calm : Calm scenario store) (same : changed.interpreter = store.interpreter) :
    Calm scenario changed := by
  refine ⟨?_, ?_⟩
  · rw [same]
    exact calm.scenario_eq
  · intro awaits
    rw [same] at awaits
    have playing := calm.awaits awaits
    refine ⟨?_, ?_⟩
    · rw [interpreter_modify, same]
      exact playing.inPlay
    · rw [interpreter_modify, same]
      exact playing.clear

theorem Playing.of_same (playing : Playing scenario store)
    (same : changed.interpreter = store.interpreter) : Playing scenario changed := by
  refine ⟨?_, ?_⟩
  · rw [same]
    exact playing.inPlay
  · rw [same]
    exact playing.clear

/-- An interpreter that has stopped is calm. -/
theorem Calm.of_halted {base : Interpreter} {halt : Halt} (inPlay : InPlay scenario preferences base)
    (clear : base.suspended = false) (same : store.interpreter = base.halted halt) :
    Calm scenario store := by
  refine ⟨?_, ?_⟩
  · rw [same, scenario_halted]
    exact inPlay.scenario_eq
  · intro awaits
    rw [same, inPlay.progress_halted] at awaits
    cases halt with
    | offering index node =>
        have claimed : (modify claim store).interpreter = base := by
          rw [interpreter_modify, same]
          exact claim_offer inPlay node
        refine ⟨⟨preferences, ?_⟩, ?_⟩
        · rw [claimed]
          exact inPlay
        · rw [claimed]
          exact clear
    | ready index => cases awaits
    | ended index => cases awaits
    | stuck index => cases awaits

/-! ## The terms -/

/-- The terms on which a scene is played: only the interpreter matters, and it comes to a stop. -/
def openTerms (scenario : Scenario) (preferences : Preferences) : Terms Alone Unit Unit Reply where
  leaves _ _ := True
  leaves_refl _ := trivial
  leaves_trans _ _ := trivial
  gate frames store := InPlay scenario preferences store.interpreter ∧ seat.Sheltered frames
  drift before after := after.interpreter = before.interpreter
  drift_refl _ := rfl
  post final finale := Calm scenario final ∧ ∀ driver body, finale ≠ .handedOver driver body

theorem unseen_modify (change : Interpreter → Interpreter) (store : Alone) :
    (Observer.blind Alone).change store (seat.modify change store) = [] := rfl

theorem unseen_record (event : SceneEvent) (store : Alone) :
    (Observer.blind Alone).change store (seat.record event store) = [] := rfl

theorem unseen_warn (warning : Warning) (store : Alone) :
    (Observer.blind Alone).change store (seat.warn warning store) = [] := rfl

/-- Where a scene is played and nobody watches. -/
def openStage (scenario : Scenario) (preferences : Preferences) : Stage Alone Unit Unit Reply Empty where
  seat := seat
  machine := machine
  observer := .blind Alone
  terms := openTerms scenario preferences
  around _ := True
  mark _ := []
  scenario := scenario
  preferences := preferences
  body := body_walk
  onFinish_andThen := onFinish_andThen
  get_modify := get_modify
  get_record := get_record
  get_warn := get_warn
  around_modify _ _ around := around
  around_record _ _ around := around
  around_warn _ _ around := around
  leaves_modify _ _ := trivial
  leaves_record _ _ := trivial
  leaves_warn _ _ := trivial
  change_modify := unseen_modify
  change_record := unseen_record
  change_warn := unseen_warn
  wait _ _ _ _ := rfl
  get_drift drifted := drifted
  around_drift _ around := around
  gate_open _ inPlay sheltered _ := ⟨inPlay, sheltered⟩

/-- A program that nobody stops comes to its end from a store on. -/
def Ends (scenario : Scenario) (preferences : Preferences) (program : Plan)
    (frames : List (Frame Alone Unit Unit Reply)) (store : Alone) : Prop :=
  ∃ entries, Runs machine (.blind Alone) (openTerms scenario preferences) program frames store entries

theorem open_of_inPlay (inPlay : InPlay scenario preferences store.interpreter)
    (clear : store.interpreter.suspended = false) : (openStage scenario preferences).Open store :=
  ⟨inPlay, clear, trivial⟩

/-- The last instructions at a stop end the task there. -/
theorem plays_stop {halt : Halt} (isOpen : (openStage scenario preferences).Open store) :
    (openStage scenario preferences).Plays (seat.conclude halt) store [] := by
  by_cases isEnd : ∃ index, halt = .ended index
  · obtain ⟨index, rfl⟩ := isEnd
    let reached := (openStage scenario preferences).ended store
    have stopped : (countFinish reached).interpreter = store.interpreter.halted (.ended index) := by
      rw [interpreter_countFinish]
      rfl
    refine Stage.plays_finish isOpen.inPlay.notFinished ?_
    exact .update trivial (.done none ⟨.of_halted isOpen.inPlay isOpen.clear stopped, by simp⟩)
  · refine Stage.plays_conclude trivial (fun index same => isEnd ⟨index, same⟩) ?_
    intro final finale halted _ alone
    exact ⟨.of_halted isOpen.inPlay isOpen.clear halted, alone⟩

/-- A program that performs a recital comes to its end. -/
theorem ends_of_recites {program : Plan} {recital : Recital}
    (isOpen : (openStage scenario preferences).Open store)
    (recites : (openStage scenario preferences).Recites program store recital) :
    Ends scenario preferences program [] store := by
  refine ⟨_, recites [] fun reached place _ => ?_⟩
  have same : reached.interpreter =
      store.interpreter.heard recital.marks recital.halt.index := place
  refine plays_stop (open_of_inPlay ?_ ?_)
  · rw [same]
    exact isOpen.inPlay.heard _ _
  · rw [same]
    exact isOpen.clear

/-- A scene that is opened comes to its first stop. -/
theorem ends_openScene (inPlay : InPlay scenario preferences store.interpreter)
    (clear : store.interpreter.suspended = false) (first : store.interpreter.nodeIndex = 0) :
    Ends scenario preferences seat.openScene [] store :=
  ends_of_recites (open_of_inPlay inPlay clear) (Stage.recites_openScene (open_of_inPlay inPlay clear) first)

/-- A scene that goes on after a choice comes to its next stop. -/
theorem ends_resume (inPlay : InPlay scenario preferences store.interpreter)
    (clear : store.interpreter.suspended = false) (choice : Option Choice) :
    Ends scenario preferences (seat.resume choice) [] store :=
  ends_of_recites (open_of_inPlay inPlay clear) (Stage.recites_resume choice (open_of_inPlay inPlay clear))

/-! ## Between two turns -/

/-- A task of the driver in the middle of its scene. -/
structure Performs (scenario : Scenario) (task : Task Alone Unit Unit Reply) (store : Alone) : Prop where
  owner : task.owner = some ()
  kept : task.cancelPending = false
  sheltered : seat.Sheltered task.frames
  runs : ∃ program preferences, task.control = .run program
    ∧ InPlay scenario preferences store.interpreter
    ∧ ∀ later : Alone, later.interpreter = store.interpreter →
      Ends scenario preferences program task.frames later

/-- The only interpreter between two turns, while operations wait. -/
structure Standing (scenario : Scenario) (bystanders : List TaskId) (outline : Draft) : Prop where
  calm : Calm scenario outline.store
  live_eq : (outline.holdings ()).live = (outline.holdings ()).slot
  within : ∀ held, (outline.holdings ()).slot = some held → held < outline.count ∧ held ∉ bystanders
  only : ∀ id task, outline.tasks id = some task →
    id ∈ bystanders ∨ (outline.holdings ()).slot = some id
  performs : ∀ held task, (outline.holdings ()).slot = some held → outline.tasks held = some task →
    Performs scenario task outline.store
  joined : ∀ held task, (outline.holdings ()).slot = some held → outline.tasks held = some task →
    ∀ joiner ∈ task.joiners, joiner ∈ bystanders

namespace Standing

variable {bystanders : List TaskId} {task : Task Alone Unit Unit Reply} {outcome : Outcome Reply}

/-- Nobody waits for the driver's task but an operation. -/
theorem nobody (standing : Standing scenario [] outline) (holding : (outline.holdings ()).slot = some id)
    (found : outline.tasks id = some task) : task.joiners = [] :=
  List.eq_nil_iff_forall_not_mem.mpr fun joiner member =>
    List.not_mem_nil (standing.joined id task holding found joiner member)

/-- The driver's task goes to sleep. -/
theorem rest (standing : Standing scenario bystanders outline)
    (holding : (outline.holdings ()).slot = some id) (calm : Calm scenario store)
    (performs : Performs scenario task store) (joined : ∀ joiner ∈ task.joiners, joiner ∈ bystanders) :
    Standing scenario bystanders (outline.rest id task store) where
  calm := calm
  live_eq := standing.live_eq
  within := standing.within
  only other someone found := by
    by_cases same : other = id
    · subst same
      exact .inr holding
    · exact standing.only other someone ((Function.update_of_ne same _ _).symm.trans found)
  performs other someone holds found := by
    have same : other = id := Option.some.inj (holds.symm.trans holding)
    subst same
    have mine : (outline.rest other task store).tasks other = some task := Function.update_self _ _ _
    rw [mine] at found
    cases found
    exact performs
  joined other someone holds found := by
    have same : other = id := Option.some.inj (holds.symm.trans holding)
    subst same
    have mine : (outline.rest other task store).tasks other = some task := Function.update_self _ _ _
    rw [mine] at found
    cases found
    exact joined

/-- The driver's task comes to its end. -/
theorem close (standing : Standing scenario bystanders outline)
    (holding : (outline.holdings ()).slot = some id) (calm : Calm scenario store) :
    Standing scenario bystanders (outline.close id store outcome) where
  calm := calm
  live_eq := standing.live_eq
  within := standing.within
  only other someone found := by
    by_cases same : other = id
    · subst same
      exact .inr holding
    · rw [Outline.tasks_close_other same] at found
      exact standing.only other someone found
  performs other someone holds found := by
    have same : other = id := Option.some.inj (holds.symm.trans holding)
    subst same
    rw [Outline.tasks_close_self] at found
    cases found
  joined other someone holds found := by
    have same : other = id := Option.some.inj (holds.symm.trans holding)
    subst same
    rw [Outline.tasks_close_self] at found
    cases found

/-- A turn of the driver's task. -/
theorem lands_turn {base : Setting} (standing : Standing scenario bystanders outline)
    (sameOutline : base.outline = outline) (holding : (outline.holdings ()).slot = some id)
    (found : outline.tasks id = some task) :
    World.Lands machine (fun after => Standing scenario bystanders after.outline)
      (base.focus id (World.atTurn task) outline.store) := by
  subst sameOutline
  have performs := standing.performs id task holding found
  obtain ⟨program, preferences, control, inPlay, ends⟩ := performs.runs
  obtain ⟨entries, runs⟩ := ends _ rfl
  have allowed : base.mayAct id task = true := by
    have permitted : (base.holdings ()).live = some id := standing.live_eq.trans holding
    simp [World.mayAct, performs.owner, permitted]
  rw [World.atTurn_of_kept control performs.kept]
  refine World.lands_of_runs (Standing scenario bystanders) found allowed runs ?_ ?_ ?_ ?_
  · intro next frames later first rest duration shown _ gate _ residue
    obtain ⟨laterInPlay, sheltered⟩ := gate
    have calm : Calm scenario later := .of_progress laterInPlay.scenario_eq (by simp [laterInPlay.running])
    exact standing.rest holding calm
      { owner := performs.owner
        kept := performs.kept
        sheltered := sheltered
        runs := ⟨_, preferences, rfl, laterInPlay, fun drifted same => ⟨rest, residue drifted same⟩⟩ }
      (standing.joined id task holding found)
  · intro answer final _ post
    exact standing.close holding post.1
  · intro fault final _ post
    exact standing.close holding post.1
  · intro driver body final _ post
    exact absurd rfl (post.2 driver body)

end Standing

end Playthrough.Interpreter.Alone

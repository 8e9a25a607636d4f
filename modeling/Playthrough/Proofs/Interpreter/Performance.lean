import Playthrough.Interpreter.Alone
import Playthrough.Proofs.Interpreter.Hints
import Playthrough.Proofs.Interpreter.Walkthrough
import Playthrough.Proofs.Task.Watch

/-!
Contract: an interpreter alone in its world performs the recital of its scene.

Owns: the run of a whole scene (the start, every wait, and a choice wherever one is awaited), its
transcript, and the equality of both with the recital.

Does not own: operations that overlap, and play-throughs of several scenes.
-/

namespace Playthrough.Interpreter.Alone

/-! ## The run of a whole scene -/

/-- Writes down what the listener is given, the points that are reported and the waits that begin. -/
def watcher : Observer Alone Mark where
  change before after :=
    (after.deliveries.drop before.deliveries.length).map Mark.shown
      ++ (after.points.drop before.points.length).map Mark.awarded
  wait duration shown := [.waited duration shown]
  change_self store := by simp

/-- Makes choices one after the other, as long as one is awaited; after each everything is let run
and every wait ends. -/
def playOn (fuel : Nat) : List Offer → Setting → List Mark × Setting
  | [], world => ([], world)
  | offer :: later, world =>
      if world.store.interpreter.progress = .awaitingChoice then
        let (marks, reached) := World.watch machine watcher fuel (world.begin (choose offer)).2
        let (more, ended) := playOn fuel later reached
        (marks ++ more, ended)
      else ([], world)

/-- Plays a scene from its start. The first of the pair is the transcript. -/
def playThrough (fuel : Nat) (scenario : Scenario) (preferences : Preferences)
    (offers : List Offer) : List Mark × Setting :=
  let fresh : Setting := World.initial (initial scenario true)
  let (marks, reached) := World.watch machine watcher fuel (fresh.begin (start preferences)).2
  let (more, ended) := playOn fuel offers reached
  (marks ++ more, ended)

/-! ## The stage -/

theorem body_walk : machine.body seat.walk = seat.walkBody := rfl

theorem onFinish_andThen : seat.onFinish.andThen .stop = seat.onFinish := rfl

theorem get_modify (change : Interpreter → Interpreter) (store : Alone) :
    seat.get (seat.modify change store) = change (seat.get store) := rfl

theorem get_record (event : SceneEvent) (store : Alone) :
    seat.get (seat.record event store) = (seat.get store).record event := rfl

theorem get_warn (warning : Warning) (store : Alone) :
    seat.get (seat.warn warning store) = seat.get store := rfl

theorem change_modify (change : Interpreter → Interpreter) (store : Alone) :
    watcher.change store (modify change store) = [] := by
  simp [watcher, modify]

theorem change_record (event : SceneEvent) (store : Alone) :
    watcher.change store (record event store) = [.shown event] := by
  simp [watcher, record]

theorem change_warn (warning : Warning) (store : Alone) :
    watcher.change store (warn warning store) = [] := by
  simp [watcher, warn]

theorem change_countFinish (store : Alone) : watcher.change store (countFinish store) = [] := by
  unfold countFinish
  split <;> simp [watcher]

/-- A store that is reported to, and to which the end of the scene has not been reported. -/
structure Expectant (store : Alone) : Prop where
  reporting : store.reporting = true
  unreported : store.finishes = 0

theorem expectant_modify (change : Interpreter → Interpreter) {store : Alone}
    (expectant : Expectant store) : Expectant (modify change store) :=
  ⟨expectant.reporting, expectant.unreported⟩

theorem expectant_record (event : SceneEvent) {store : Alone} (expectant : Expectant store) :
    Expectant (record event store) :=
  ⟨expectant.reporting, expectant.unreported⟩

theorem expectant_warn (warning : Warning) {store : Alone} (expectant : Expectant store) :
    Expectant (warn warning store) :=
  ⟨expectant.reporting, expectant.unreported⟩

theorem expectant_award (points : Int) {store : Alone} (expectant : Expectant store) :
    Expectant (award points store) := by
  unfold award
  split
  · exact ⟨expectant.reporting, expectant.unreported⟩
  · exact expectant

theorem expectant_applyChoice (offer : Offer) (nodeId : String) (choice : Option Choice) {store : Alone}
    (expectant : Expectant store) : Expectant (seat.applyChoice offer nodeId choice store) := by
  have told := expectant_award offer.points (expectant_record (.plain .player offer.text) expectant)
  cases choice with
  | none => exact expectant_warn _ told
  | some _ => exact told

/-- What the only interpreter's task and everybody else rely on: nobody interferes, and in the end the
interpreter is as foreseen and its end was reported once. -/
def terms (foreseen : Interpreter) : Terms Alone Unit Unit Reply where
  leaves _ _ := True
  leaves_refl _ := trivial
  leaves_trans _ _ := trivial
  gate _ _ := True
  drift := Eq
  drift_refl _ := rfl
  post final finale :=
    final.interpreter = foreseen ∧ final.reporting = true ∧ final.finishes = foreseen.finished.toNat
      ∧ ∀ driver body, finale ≠ .handedOver driver body

/-- Where the only interpreter plays its scene. -/
def stage (scenario : Scenario) (preferences : Preferences) (foreseen : Interpreter) :
    Stage Alone Unit Unit Reply Mark where
  seat := seat
  machine := machine
  observer := watcher
  terms := terms foreseen
  around := Expectant
  mark mark := [mark]
  scenario := scenario
  preferences := preferences
  body := body_walk
  onFinish_andThen := onFinish_andThen
  get_modify := get_modify
  get_record := get_record
  get_warn := get_warn
  around_modify change _ := expectant_modify change
  around_record event _ := expectant_record event
  around_warn warning _ := expectant_warn warning
  leaves_modify _ _ := trivial
  leaves_record _ _ := trivial
  leaves_warn _ _ := trivial
  change_modify := change_modify
  change_record := change_record
  change_warn := change_warn
  wait := by
    intro duration store _ same
    show [Mark.waited duration store.interpreter.shown] = _
    have scenario_eq : store.interpreter.scenario = scenario := same
    rw [Interpreter.shown, scenario_eq]
    rfl
  get_drift := by
    intro store later drifted
    rw [show store = later from drifted]
  around_drift := by
    intro store later drifted expectant
    rw [← show store = later from drifted]
    exact expectant
  gate_open _ _ _ _ := trivial

variable {scenario : Scenario} {preferences : Preferences} {foreseen : Interpreter}

theorem reporting_countFinish (store : Alone) :
    (countFinish store).reporting = store.reporting := by
  unfold countFinish
  split <;> rfl

theorem finishes_countFinish {store : Alone} (expectant : Expectant store) :
    (countFinish store).finishes = 1 := by
  rw [countFinish, expectant.reporting, if_pos rfl]
  exact congrArg (· + 1) expectant.unreported

theorem interpreter_countFinish (store : Alone) :
    (countFinish store).interpreter = store.interpreter := by
  unfold countFinish
  split <;> rfl

/-- The last instructions at a stop end the task, and nothing is written down about them. -/
theorem plays_halted {halt : Halt} {store : Alone}
    (inPlay : InPlay scenario preferences store.interpreter) (expectant : Expectant store)
    (target : store.interpreter.halted halt = foreseen) :
    (stage scenario preferences foreseen).Plays (seat.conclude halt) store [] := by
  by_cases isEnd : ∃ index, halt = .ended index
  · obtain ⟨index, rfl⟩ := isEnd
    refine Stage.plays_finish inPlay.notFinished ?_
    let reached := (stage scenario preferences foreseen).ended store
    have expecting : Expectant reached :=
      (stage scenario preferences foreseen).around_ended expectant
    have counted : (stage scenario preferences foreseen).Plays seat.onFinish reached
        (watcher.change reached (countFinish reached) ++ []) := by
      refine .update trivial (.done none ⟨?_, ?_, ?_, by simp⟩)
      · rw [interpreter_countFinish]
        exact target
      · rw [reporting_countFinish]
        exact expecting.reporting
      · rw [finishes_countFinish expecting, ← target]
        rfl
    rwa [change_countFinish, List.nil_append] at counted
  · have elsewhere : ∀ index, halt ≠ .ended index := fun index same => isEnd ⟨index, same⟩
    have unfinished : foreseen.finished = false := by
      rw [← target]
      cases halt with
      | ended index => exact absurd rfl (elsewhere index)
      | offering _ _ => exact inPlay.notFinished
      | ready _ => exact inPlay.notFinished
      | stuck _ => exact inPlay.notFinished
    refine Stage.plays_conclude expectant elsewhere ?_
    intro final finale same around alone
    refine ⟨Eq.trans same target, around.reporting, ?_, alone⟩
    rw [unfinished]
    exact around.unreported

/-- A program that performs a recital takes the interpreter to the stop of the recital, and the
transcript of the way consists of the marks of the recital. -/
theorem runs_of_recites {program : Plan} {store : Alone} {recital : Recital}
    (isOpen : (stage scenario preferences foreseen).Open store)
    (target : (store.interpreter.heard recital.marks recital.halt.index).halted recital.halt =
      foreseen)
    (recites : (stage scenario preferences foreseen).Recites program store recital) :
    (stage scenario preferences foreseen).Plays program store recital.marks := by
  have whole := recites [] fun reached place around => by
    have same : reached.interpreter =
        store.interpreter.heard recital.marks recital.halt.index := place
    refine plays_halted ?_ around (by rw [same]; exact target)
    rw [same]
    exact isOpen.inPlay.heard _ _
  simpa [stage] using whole

/-! ## Worlds at rest -/

/-- A world at rest at a stop of the scene, after marks. -/
structure AtHalt (scenario : Scenario) (preferences : Preferences) (marks : List Mark)
    (halt : Halt) (world : Setting) : Prop where
  noTurn : world.running = none
  quiet : world.queue = []
  silent : world.waits = []
  slot : ∃ held, (world.holdings ()).slot = some held ∧ held < world.tasks.length
    ∧ world.isUnended held = false
  reporting : world.store.reporting = true
  finishes : world.store.finishes = world.store.interpreter.finished.toNat
  interpreter : ∃ base : Interpreter, InPlay scenario preferences base ∧ base.suspended = false
    ∧ base.nodeIndex = halt.index ∧ base.events = Mark.events marks
    ∧ world.store.interpreter = base.halted halt

/-- At a choice the end has not been reported. -/
theorem AtHalt.expectant {marks : List Mark} {index : Nat} {node : ChoiceNode} {world : Setting}
    (atHalt : AtHalt scenario preferences marks (.offering index node) world) :
    Expectant world.store := by
  obtain ⟨base, inPlay, -, -, -, same⟩ := atHalt.interpreter
  refine ⟨atHalt.reporting, ?_⟩
  rw [atHalt.finishes, same]
  show base.finished.toNat = 0
  rw [inPlay.notFinished]
  rfl

theorem snapshot_of_atHalt {recital : Recital} {world : Setting}
    (atHalt : AtHalt scenario preferences recital.marks recital.halt world) :
    world.store.interpreter.snapshot = recital.snapshot scenario.kind preferences.language := by
  obtain ⟨base, inPlay, clear, place, heard, same⟩ := atHalt.interpreter
  rw [same]
  exact inPlay.snapshot_halted clear place heard

/-- A task that performs a recital, given to the vacant driver by an operation that then ends, takes
the world to rest at the stop of the recital. -/
theorem toRest_of_recites {world : Setting} {id : TaskId}
    {task : Task Alone Unit Unit Reply} (inside : id < world.tasks.length)
    (quiet : world.queue = []) (silent : world.waits = []) (nobodyJoins : task.joiners = [])
    (vacant : (world.holdings ()).slot = none) {body : Plan} {answer : Option Reply}
    {store : Alone} {recital : Recital} {earlier : List Mark}
    (isOpen : ∀ foreseen, (stage scenario preferences foreseen).Open store)
    (heard : store.interpreter.events = Mark.events earlier)
    (recites : ∀ foreseen, (stage scenario preferences foreseen).Recites body store recital) :
    ∃ after : Setting,
      World.ToRest machine watcher
        (world.focus id (task.on (.run (.spawn () body (.done answer))) []) store) recital.marks after
        ∧ AtHalt scenario preferences (earlier ++ recital.marks) recital.halt after := by
  let foreseen := (store.interpreter.heard recital.marks recital.halt.index).halted recital.halt
  have plays : (stage scenario preferences foreseen).Plays body store recital.marks :=
    runs_of_recites (isOpen foreseen) rfl (recites foreseen)
  have alone : ∀ store driver body,
      ¬ (terms foreseen).post store (.handedOver driver body) := by
    intro store driver body post
    exact post.2.2.2 driver body rfl
  obtain ⟨after, final, finale, way, rested, halted, reporting, finishes, -⟩ :=
    World.toRest_of_spawn inside quiet silent nobodyJoins vacant alone plays
  refine ⟨after, way, ⟨rested.noTurn, rested.nothingQueued, rested.nothingWaits, ?_, ?_, ?_, ?_⟩⟩
  · refine ⟨world.tasks.length, ?_, ?_, rested.isEnded⟩
    · rw [rested.sameHoldings]
      simp [World.closed, World.install, World.enqueue]
    · rw [rested.sameLength]
      simp [World.closed, World.install, World.enqueue, World.setHolding]
  · rw [rested.store_eq]
    exact reporting
  · rw [rested.store_eq, halted]
    exact finishes
  · refine ⟨store.interpreter.heard recital.marks recital.halt.index,
      (isOpen foreseen).inPlay.heard _ _, (isOpen foreseen).clear, rfl, ?_, ?_⟩
    · simp [Interpreter.heard, heard, Mark.events]
    · rw [rested.store_eq, halted]

/-! ## The start and the choices -/

theorem written_recordHeader (interpreter : Interpreter) (store : Alone) :
    (seat.recordHeader interpreter store).deliveries =
        store.deliveries ++ interpreter.scenario.header.map
          (fun line => .plain line.1 (interpreter.say line.2))
      ∧ (seat.recordHeader interpreter store).points = store.points := by
  rw [Seat.recordHeader]
  generalize interpreter.scenario.header = lines
  induction lines generalizing store with
  | nil => simp
  | cons line lines inductionHypothesis =>
      obtain ⟨delivered, points⟩ :=
        inductionHypothesis (record (.plain line.1 (interpreter.say line.2)) store)
      refine ⟨?_, points⟩
      rw [List.foldl_cons]
      refine delivered.trans ?_
      simp [record]

theorem change_recordHeader (interpreter : Interpreter) (store : Alone) :
    watcher.change store (seat.recordHeader interpreter store) =
      interpreter.scenario.headerMarks interpreter.preferences := by
  obtain ⟨delivered, points⟩ := written_recordHeader interpreter store
  simp only [watcher, delivered, points, List.drop_left, List.drop_length, List.map_nil,
    List.append_nil, List.map_map, Scenario.headerMarks]
  rfl

/-- The start of a scene, and everything up to the first stop. -/
theorem toRest_start (scenario : Scenario) (preferences : Preferences) :
    ∃ after : Setting,
      World.ToRest machine watcher
        ((World.initial (initial scenario true)).begin (start preferences)).2
        (scenario.recital preferences []).marks after
        ∧ AtHalt scenario preferences (scenario.recital preferences []).marks
            (scenario.recital preferences []).halt after := by
  let task : Task Alone Unit Unit Reply := Task.fresh none (start preferences)
  let begun : Setting := { (World.initial (initial scenario true) : Setting) with tasks := [task] }
  let vacated := begun.setHolding () { slot := none, live := none }
  let forgotten := modify Interpreter.reset (initial scenario true)
  let started := modify (fun interpreter => interpreter.begin preferences) forgotten
  let headed := seat.recordHeader started.interpreter started
  have fresh : started.interpreter = (Interpreter.initial scenario).reset.begin preferences := rfl
  have heard : headed.interpreter =
      started.interpreter.heard (scenario.headerMarks preferences) 0 :=
    (stage scenario preferences started.interpreter).get_recordHeader started.interpreter
  have isOpen : ∀ foreseen, (stage scenario preferences foreseen).Open headed := by
    intro foreseen
    refine ⟨?_, ?_, ?_⟩
    · show InPlay scenario preferences headed.interpreter
      rw [heard, fresh]
      exact (Interpreter.inPlay_begin (Interpreter.initial scenario) preferences).heard _ _
    · show headed.interpreter.suspended = false
      rw [heard, fresh]
      rfl
    · exact (stage scenario preferences foreseen).around_recordHeader started.interpreter ⟨rfl, rfl⟩
  have first : headed.interpreter.nodeIndex = 0 := by
    rw [heard]
    rfl
  have events : headed.interpreter.events = Mark.events (scenario.headerMarks preferences) := by
    rw [heard, fresh]
    rfl
  have insideBegun : 0 < begun.tasks.length := Nat.zero_lt_one
  have insideVacated : 0 < vacated.tasks.length := Nat.zero_lt_one
  have recites : ∀ foreseen,
      (stage scenario preferences foreseen).Recites seat.openScene headed
        (Recital.perform scenario.kind 0 (recite scenario.kind preferences scenario.nodes 0 [])
          (scenario.kind.openingCues preferences)) := by
    intro foreseen
    exact Stage.recites_openScene (isOpen foreseen) first
  obtain ⟨after, way, atHalt⟩ : ∃ after : Setting,
      World.ToRest machine watcher
        (vacated.focus 0 (task.on (.run (.spawn () seat.openScene (.done none))) []) headed) _ after
        ∧ AtHalt scenario preferences _ _ after :=
    toRest_of_recites insideVacated rfl rfl rfl rfl isOpen events recites
  refine ⟨after, ?_, atHalt⟩
  have recorded : World.ToRest machine watcher
      (vacated.focus 0 (task.on (.run (.update
        (fun store => seat.recordHeader (seat.get store) store)
        (.spawn () seat.openScene .stop))) []) started) (watcher.change started headed ++ _) after :=
    .focus_step (World.step_update insideVacated _) rfl way
  have begins : World.ToRest machine watcher
      (vacated.focus 0 (task.on (.run (.update
        (seat.modify fun interpreter => interpreter.begin preferences)
        (.update (fun store => seat.recordHeader (seat.get store) store)
          (.spawn () seat.openScene .stop)))) []) forgotten)
      (watcher.change forgotten started ++ _) after :=
    .focus_step (World.step_update insideVacated _) rfl recorded
  have forgets : World.ToRest machine watcher
      (vacated.focus 0 (task.on (.run (.update (seat.modify Interpreter.reset)
        (.update (seat.modify fun interpreter => interpreter.begin preferences)
          (.update (fun store => seat.recordHeader (seat.get store) store)
            (.spawn () seat.openScene .stop))))) []) (initial scenario true))
      (watcher.change (initial scenario true) forgotten ++ _) after :=
    .focus_step (World.step_update insideVacated _) rfl begins
  have cancels : World.ToRest machine watcher
      (begun.focus 0 (task.on (.run (start preferences)) []) (initial scenario true))
      (watcher.change (initial scenario true) forgotten ++ _) after :=
    .focus_skip (World.step_cancel_empty insideBegun rfl) rfl forgets
  rw [change_modify, change_modify, change_recordHeader] at cancels
  rw [World.begin_eq_focus]
  exact cancels

theorem change_applyChoice (offer : Offer) (nodeId : String) (choice : Option Choice)
    {store : Alone} (reporting : store.reporting = true) :
    watcher.change store (seat.applyChoice offer nodeId choice store) = offer.marks := by
  cases choice <;> simp [Seat.applyChoice, seat, award, record, warn, watcher, reporting, Offer.marks]

theorem interpreter_applyChoice (offer : Offer) (nodeId : String) (choice : Option Choice)
    (store : Alone) :
    (seat.applyChoice offer nodeId choice store).interpreter =
      store.interpreter.record (.plain .player offer.text) := by
  cases choice <;> simp [Seat.applyChoice, seat]

/-- A choice where one is awaited, and everything up to the next stop. -/
theorem toRest_choose {world : Setting} {marks : List Mark} {index : Nat} {node : ChoiceNode}
    (atHalt : AtHalt scenario preferences marks (.offering index node) world)
    (here : scenario.nodes[index]? = some (.choice node)) (offer : Offer) :
    ∃ after : Setting,
      World.ToRest machine watcher (world.begin (choose offer)).2
        (offer.marks ++ (scenario.continuation preferences index (node.find? offer.tag) []).marks)
        after
        ∧ AtHalt scenario preferences
            (marks ++ offer.marks
              ++ (scenario.continuation preferences index (node.find? offer.tag) []).marks)
            (scenario.continuation preferences index (node.find? offer.tag) []).halt after := by
  obtain ⟨base, inPlay, clear, place, heard, same⟩ := atHalt.interpreter
  obtain ⟨held, holding, heldInside, isEnded⟩ := atHalt.slot
  let id := world.tasks.length
  let task : Task Alone Unit Unit Reply := Task.fresh none (choose offer)
  let begun : Setting := { world with tasks := world.tasks ++ [task] }
  let vacated := begun.setHolding () { slot := none, live := none }
  let claimed := modify Interpreter.claim world.store
  let nodeId := (world.store.interpreter.node?.map Node.id).getD ""
  let choice := node.find? offer.tag
  let told := seat.applyChoice offer nodeId choice claimed
  have insideBegun : id < begun.tasks.length := by simp [id, begun]
  have insideVacated : id < vacated.tasks.length := insideBegun
  have stillEnded : begun.isUnended held = false := by
    rw [← isEnded]
    simp [World.isUnended, begun, List.getElem?_append_left heldInside]
  have claimedBase : claimed.interpreter = base := by
    show world.store.interpreter.claim = base
    rw [same]
    exact Interpreter.claim_offer inPlay node
  have heardTold : told.interpreter = base.heard [.shown (.plain .player offer.text)] index := by
    rw [interpreter_applyChoice, claimedBase, Interpreter.record_eq_heard, place]
    rfl
  have isOpen : ∀ foreseen, (stage scenario preferences foreseen).Open told := by
    intro foreseen
    refine ⟨?_, ?_, ?_⟩
    · show InPlay scenario preferences told.interpreter
      rw [heardTold]
      exact inPlay.heard _ _
    · show told.interpreter.suspended = false
      rw [heardTold]
      exact clear
    · exact expectant_applyChoice offer nodeId choice (expectant_modify Interpreter.claim atHalt.expectant)
  have events : told.interpreter.events = Mark.events (marks ++ offer.marks) := by
    rw [heardTold]
    simp [Interpreter.heard, heard, Mark.events, Mark.event?, Offer.marks]
  have recites : ∀ foreseen, (stage scenario preferences foreseen).Recites (seat.resume choice) told
      (scenario.continuation preferences index choice []) := by
    intro foreseen
    have resumes := Stage.recites_resume choice (isOpen foreseen)
    rwa [show (stage scenario preferences foreseen).seat.get told = told.interpreter from rfl,
      heardTold] at resumes
  have awaited : world.store.interpreter.progress = .awaitingChoice := by
    rw [same]
    rfl
  have found : Seat.chosen? world.store.interpreter offer.tag = choice := by
    have node_eq : world.store.interpreter.node? = some (.choice node) := by
      rw [same, Interpreter.node?, Interpreter.scenario_halted, Interpreter.nodeIndex_halted, place,
        inPlay.scenario_eq]
      exact here
    rw [Seat.chosen?, node_eq]
  obtain ⟨after, way, rests⟩ : ∃ after : Setting,
      World.ToRest machine watcher
        (vacated.focus id (task.on (.run (.spawn () (seat.resume choice)
          (.done (some (.verdict true))))) []) told) _ after
        ∧ AtHalt scenario preferences _ _ after :=
    toRest_of_recites insideVacated atHalt.quiet atHalt.silent rfl rfl isOpen events recites
  refine ⟨after, ?_, rests⟩
  have tells : World.ToRest machine watcher
      (vacated.focus id (task.on (.run (.update (seat.applyChoice offer nodeId choice)
        (.spawn () (seat.resume choice) (.done (some (.verdict true)))))) []) claimed)
      (watcher.change claimed told ++ _) after :=
    .focus_step (World.step_update insideVacated _) rfl way
  have cancels := World.ToRest.of_cancel_ended insideBegun atHalt.quiet rfl rfl holding
    (Nat.ne_of_lt heldInside) stillEnded tells
  have claims : World.ToRest machine watcher
      (begun.focus id (task.on (.run (.update (modify Interpreter.claim)
        (.cancel () (.update (seat.applyChoice offer nodeId choice)
          (.spawn () (seat.resume choice) (.done (some (.verdict true)))))))) []) world.store)
      (watcher.change world.store claimed ++ _) after :=
    .focus_step (World.step_update insideBegun _) rfl cancels
  have stillReporting : claimed.reporting = true := atHalt.reporting
  have written : watcher.change claimed told = offer.marks :=
    change_applyChoice offer nodeId choice stillReporting
  rw [change_modify, written] at claims
  rw [World.begin_eq_focus]
  show World.ToRest machine watcher
    (begun.focus id (task.on (.run (choose offer)) []) world.store) _ after
  refine .focus_skip (World.step_look insideBegun _) rfl ?_
  simp only [seat, awaited, if_true, found]
  exact claims

/-! ## The whole run -/

/-- Choices that are made one after the other go on with the recital from stop to stop. -/
theorem playOn_eq_recital (offers : List Offer) {recital : List Offer → Recital}
    (unfolds : Unfolds scenario preferences recital) {world : Setting} {earlier : List Mark}
    (atHalt : AtHalt scenario preferences (earlier ++ (recital []).marks) (recital []).halt world) :
    ∃ enough, ∀ fuel, enough ≤ fuel →
      (recital offers).marks = (recital []).marks ++ (playOn fuel offers world).1
        ∧ AtHalt scenario preferences (earlier ++ (recital offers).marks) (recital offers).halt
            (playOn fuel offers world).2 := by
  induction offers generalizing recital world earlier with
  | nil =>
      refine ⟨0, ?_⟩
      intro fuel _
      simpa [playOn] using atHalt
  | cons offer later inductionHypothesis =>
      by_cases stops : ∃ place node, (recital []).halt = .offering place node
      · obtain ⟨place, node, stops⟩ := stops
        have here := unfolds.node place node stops
        rw [stops] at atHalt
        obtain ⟨reached, way, next⟩ := toRest_choose atHalt here offer
        obtain ⟨patience, watched⟩ := World.watch_of_toRest way
        rw [List.append_assoc earlier] at next
        obtain ⟨enough, played⟩ :=
          inductionHypothesis (unfolds_continuation place (node.find? offer.tag)) next
        refine ⟨max patience enough, ?_⟩
        intro fuel large
        have awaited : world.store.interpreter.progress = .awaitingChoice := by
          obtain ⟨base, inPlay, -, -, -, same⟩ := atHalt.interpreter
          rw [same]
          rfl
        obtain ⟨heard, halts⟩ := played fuel (by omega)
        simp only [playOn, awaited, if_true, watched fuel (by omega)]
        rw [unfolds.offered place node stops]
        refine ⟨?_, ?_⟩
        · rw [Recital.marks_after, heard]
          simp only [List.append_assoc]
        · rw [Recital.marks_after, Recital.halt_after]
          simpa only [List.append_assoc] using halts
      · have elsewhere : ∀ place node, (recital []).halt ≠ .offering place node := by
          intro place node same
          exact stops ⟨place, node, same⟩
        have idle : world.store.interpreter.progress ≠ .awaitingChoice := by
          obtain ⟨base, inPlay, -, -, -, same⟩ := atHalt.interpreter
          rw [same, inPlay.progress_halted]
          intro awaited
          cases halt : (recital []).halt with
          | offering place node => exact elsewhere place node halt
          | ready index =>
              rw [halt] at awaited
              cases awaited
          | ended index =>
              rw [halt] at awaited
              cases awaited
          | stuck index =>
              rw [halt] at awaited
              cases awaited
        refine ⟨0, ?_⟩
        intro fuel _
        simp only [playOn, idle, if_false, unfolds.elsewhere _ elsewhere, List.append_nil]
        exact ⟨trivial, atHalt⟩

/-- An interpreter that is started, left to itself at every wait and given the choices of a list, one
at each stop that awaits one, produces the recital of its scene and comes to rest at its stop; with
hints below the bound that is never a wait that the clock cannot hold. -/
theorem playThrough_eq_recital (scenario : Scenario) (preferences : Preferences)
    (offers : List Offer) :
    ∃ enough, ∀ fuel, enough ≤ fuel →
      (playThrough fuel scenario preferences offers).1 =
          (scenario.recital preferences offers).marks
        ∧ (playThrough fuel scenario preferences offers).2.store.interpreter.snapshot =
            (scenario.recital preferences offers).snapshot scenario.kind preferences.language
        ∧ (playThrough fuel scenario preferences offers).2.isIdle = true
        ∧ (playThrough fuel scenario preferences offers).2.waits = []
        ∧ (scenario.HintsFit →
            ∀ index, (scenario.recital preferences offers).halt ≠ .stuck index) := by
  obtain ⟨reached, way, atHalt⟩ := toRest_start scenario preferences
  obtain ⟨patience, watched⟩ := World.watch_of_toRest way
  obtain ⟨enough, played⟩ := playOn_eq_recital offers unfolds_recital
    (show AtHalt scenario preferences ([] ++ (scenario.recital preferences []).marks) _ _ from atHalt)
  refine ⟨max patience enough, ?_⟩
  intro fuel large
  obtain ⟨heard, halts⟩ := played fuel (by omega)
  simp only [playThrough, watched fuel (by omega)]
  refine ⟨heard.symm, snapshot_of_atHalt halts, ?_, halts.silent, ?_⟩
  · simp [World.isIdle, halts.noTurn, halts.quiet]
  · intro fits
    exact scenario.flows_recital fits preferences offers

end Playthrough.Interpreter.Alone

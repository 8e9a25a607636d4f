import Playthrough.Interpreter.Operations
import Playthrough.Proofs.Interpreter.Staging

/-!
Contract: the walk performs the recital of its scene.

Owns: the recital of the walk from every place, of a whole scene, and of what follows a choice.

Does not own: tasks and turns.

The walk is followed node by node. Where a block hands over to the choice after it, the walk takes
one step less than the recital; the recital of a choice node has no marks, so both stop alike.
-/

namespace Playthrough

namespace Seat

variable {Store Driver Procedure Answer : Type}
variable {seat : Seat Store Driver Procedure Answer}

/-! ## Nothing comes after the walk -/

theorem finish_andThen_stop (ending : seat.onFinish.andThen .stop = seat.onFinish) :
    seat.finish.andThen .stop = seat.finish := by
  simp only [finish, Program.andThen]
  congr 3
  funext store
  by_cases finished : (seat.get store).finished = true
  · simp only [finished, if_true, Program.stop_andThen]
  · simp only [finished, Bool.false_eq_true, if_false, Program.andThen, ending]

theorem afterBlock_andThen_stop : seat.afterBlock.andThen .stop = seat.afterBlock := by
  simp only [afterBlock, Program.andThen]
  congr 1
  funext store
  split
  · split <;> rfl
  · rfl

theorem passOn_andThen_stop (ending : seat.onFinish.andThen .stop = seat.onFinish)
    (interpreter : Interpreter) (node : Node) :
    (seat.passOn interpreter node).andThen .stop = seat.passOn interpreter node := by
  cases node with
  | narrative block => rfl
  | messages block =>
      simp only [passOn]
      split
      · rfl
      · exact afterBlock_andThen_stop
  | dialogue block => exact afterBlock_andThen_stop
  | choice node =>
      simp only [passOn]
      split <;> rfl
  | system event =>
      simp only [passOn]
      split
      · rfl
      · split
        · rfl
        · exact finish_andThen_stop ending
  | foreign node => rfl

/-- What follows the walk in its own task is nothing. -/
theorem walkBody_andThen_stop (ending : seat.onFinish.andThen .stop = seat.onFinish) :
    seat.walkBody.andThen .stop = seat.walkBody := by
  simp only [walkBody, Program.andThen]
  congr 1
  funext store
  cases (seat.get store).node? with
  | none => exact finish_andThen_stop ending
  | some node =>
      simp only [Program.andThen, playNode_eq_voice, voice_andThen, passOn_andThen_stop ending]

end Seat

namespace Stage

variable {Store Driver Procedure Answer Entry : Type}
variable {stage : Stage Store Driver Procedure Answer Entry}
variable {next : Program Store Driver Procedure Answer} {store : Store} {recital : Recital}

/-! ## From node to node -/

theorem recites_walkOn (recites : stage.Recites stage.seat.walkBody store recital) :
    stage.Recites stage.seat.walkOn store recital := by
  refine recites_of_steps (fun _ _ => rfl) ?_ recites
  intro entries plays
  refine .call ?_
  rw [stage.body, Seat.walkBody_andThen_stop stage.onFinish_andThen]
  exact plays

theorem recites_of_advance
    (recites : stage.Recites next (stage.seat.modify Interpreter.advance store) recital) :
    stage.Recites (.update (stage.seat.modify Interpreter.advance) next) store recital := by
  refine recites_of_steps ?_ (fun entries plays => plays_update plays) recites
  intro more index
  rw [stage.get_modify]
  rfl

theorem recites_of_warn (warning : Warning)
    (recites : stage.Recites next (stage.seat.warn warning store) recital) :
    stage.Recites (.update (stage.seat.warn warning) next) store recital := by
  refine recites_of_steps ?_ ?_ recites
  · intro more index
    rw [stage.get_warn]
  · intro entries plays
    have warned : stage.Plays (.update (stage.seat.warn warning) next) store
        (stage.observer.change store (stage.seat.warn warning store) ++ entries) :=
      .update (stage.leaves_warn warning store) plays
    rwa [stage.change_warn] at warned

theorem recites_awaitChoice {index : Nat} (node : ChoiceNode) (isOpen : stage.Open store)
    (place : index = (stage.seat.get store).nodeIndex) :
    stage.Recites (stage.seat.awaitChoice node) store (.silent (.offering index node)) :=
  recites_of_check (recites_conclude (.offering index node) isOpen place)

/-- The walk performs a recital wherever it goes on from a place. -/
def Follows (stage : Stage Store Driver Procedure Answer Entry) (place : Nat)
    (recital : Recital) : Prop :=
  ∀ later, stage.Open later → (stage.seat.get later).nodeIndex = place →
    stage.Recites stage.seat.walkBody later recital

theorem recites_advanceAndWalk (isOpen : stage.Open store)
    (follows : stage.Follows ((stage.seat.get store).nodeIndex + 1) recital) :
    stage.Recites stage.seat.advanceAndWalk store recital := by
  refine recites_of_advance (recites_walkOn ?_)
  refine follows _ isOpen.advance ?_
  rw [stage.get_modify]
  rfl

/-- A block hands over to a choice that follows it, and otherwise goes on like every other node. -/
theorem recites_afterBlock {rest : List Node} (isOpen : stage.Open store)
    (remaining : stage.scenario.nodes.drop ((stage.seat.get store).nodeIndex + 1) = rest)
    (follows : stage.Follows ((stage.seat.get store).nodeIndex + 1)
      (recite stage.scenario.kind stage.preferences rest ((stage.seat.get store).nodeIndex + 1) [])) :
    stage.Recites stage.seat.afterBlock store
      (recite stage.scenario.kind stage.preferences rest ((stage.seat.get store).nodeIndex + 1)
        []) := by
  have onward := recites_advanceAndWalk isOpen follows
  have following : (stage.seat.get store).following? = rest.head? := by
    rw [Interpreter.following?, isOpen.inPlay.scenario_eq, ← remaining, List.head?_drop]
  refine recites_of_look ?_
  rw [following]
  cases rest with
  | nil => exact onward
  | cons node rest =>
      cases node with
      | choice node =>
          by_cases empty : node.options.isEmpty = true
          · simp only [List.head?_cons, empty, if_true]
            exact onward
          · have stops : recite stage.scenario.kind stage.preferences (.choice node :: rest)
                ((stage.seat.get store).nodeIndex + 1) [] =
                  .silent (.offering ((stage.seat.get store).nodeIndex + 1) node) := by
              simp only [recite, Node.cues, Node.passage, empty, Bool.false_eq_true, if_false,
                Passage.lead, Recital.perform]
            simp only [List.head?_cons, empty, Bool.false_eq_true, if_false, stops]
            refine recites_of_advance (recites_awaitChoice node isOpen.advance ?_)
            rw [stage.get_modify]
            rfl
      | narrative _ => exact onward
      | messages _ => exact onward
      | dialogue _ => exact onward
      | system _ => exact onward
      | foreign _ => exact onward

/-- After the script of a node the walk goes on, or stops, as the recital does. -/
theorem recites_passOn {node : Node} {rest : List Node} {interpreter : Interpreter}
    (same : interpreter.scenario = stage.scenario) (isOpen : stage.Open store)
    (remaining : stage.scenario.nodes.drop ((stage.seat.get store).nodeIndex + 1) = rest)
    (follows : stage.Follows ((stage.seat.get store).nodeIndex + 1)
      (recite stage.scenario.kind stage.preferences rest ((stage.seat.get store).nodeIndex + 1) [])) :
    stage.Recites (stage.seat.passOn interpreter node) store
      ((node.passage stage.scenario.kind).lead (stage.seat.get store).nodeIndex
        (recite stage.scenario.kind stage.preferences rest ((stage.seat.get store).nodeIndex + 1) [])
        fun node => .silent (.offering (stage.seat.get store).nodeIndex node)) := by
  have onward := recites_advanceAndWalk isOpen follows
  have handingOver := recites_afterBlock isOpen remaining follows
  have ready : stage.Recites (.update (stage.seat.modify Interpreter.becomeReady) .stop) store
      (.silent (.ready (stage.seat.get store).nodeIndex)) := recites_conclude (.ready _) isOpen rfl
  have ended : stage.Recites stage.seat.finish store
      (.silent (.ended (stage.seat.get store).nodeIndex)) := recites_conclude (.ended _) isOpen rfl
  cases node with
  | narrative block => exact onward
  | messages block =>
      simp only [Seat.passOn, Seat.isMarker_eq_stopsAt, same, Node.passage]
      by_cases marked : stage.scenario.kind.stopsAt block.event = true
      · simp only [marked, if_true]
        exact ready
      · simp only [marked, Bool.false_eq_true, if_false]
        exact handingOver
  | dialogue block => exact handingOver
  | choice node =>
      simp only [Seat.passOn, Node.passage]
      by_cases empty : node.options.isEmpty = true
      · simp only [empty, if_true]
        refine recites_of_warn _ (recites_advanceAndWalk (isOpen.warn _) ?_)
        rw [stage.get_warn]
        exact follows
      · simp only [empty, Bool.false_eq_true, if_false]
        exact recites_awaitChoice node isOpen rfl
  | system event =>
      simp only [Seat.passOn, Seat.isMarker_eq_stopsAt, same, Node.passage]
      by_cases marked : stage.scenario.kind.stopsAt event.event = true
      · simp only [marked, if_true]
        exact ready
      · simp only [marked, Bool.false_eq_true, if_false]
        rcases stage.scenario.kind.text_or_encounter with text | encounter
        · rw [text] at onward ⊢
          cases event.label with
          | none => exact ended
          | some label => exact onward
        · rw [encounter]
          exact ended
  | foreign node =>
      refine recites_of_warn _ (recites_advanceAndWalk (isOpen.warn _) ?_)
      rw [stage.get_warn]
      exact follows

/-- The walk performs the recital of the nodes from its place on. -/
theorem recites_walkBody (rest : List Node) (isOpen : stage.Open store)
    (remaining : stage.scenario.nodes.drop (stage.seat.get store).nodeIndex = rest) :
    stage.Recites stage.seat.walkBody store
      (recite stage.scenario.kind stage.preferences rest (stage.seat.get store).nodeIndex []) := by
  induction rest generalizing store with
  | nil =>
      have nowhere : (stage.seat.get store).node? = none := by
        rw [Interpreter.node?, isOpen.inPlay.scenario_eq, ← List.head?_drop, remaining]
        rfl
      refine recites_of_look ?_
      simp only [nowhere]
      exact recites_conclude (.ended _) isOpen rfl
  | cons node rest inductionHypothesis =>
      have here : (stage.seat.get store).node? = some node := by
        rw [Interpreter.node?, isOpen.inPlay.scenario_eq, ← List.head?_drop, remaining]
        rfl
      have beyond : stage.scenario.nodes.drop ((stage.seat.get store).nodeIndex + 1) = rest := by
        rw [← List.drop_drop, remaining]
        rfl
      refine recites_of_look ?_
      simp only [here]
      refine recites_of_check ?_
      rw [Seat.playNode_eq_voice, isOpen.inPlay.scenario_eq, isOpen.inPlay.preferences_eq, recite]
      refine recites_voice _ isOpen rfl ?_
      intro later laterOpen place
      rw [← place] at beyond ⊢
      refine recites_passOn isOpen.inPlay.scenario_eq laterOpen beyond ?_
      intro further furtherOpen furtherPlace
      rw [← furtherPlace] at beyond ⊢
      exact inductionHypothesis furtherOpen beyond

/-- The walk from a place on performs what is left of the scene. -/
theorem follows_recite (place : Nat) :
    stage.Follows place
      (recite stage.scenario.kind stage.preferences (stage.scenario.nodes.drop place) place []) := by
  intro later laterOpen here
  rw [← here]
  exact recites_walkBody _ laterOpen rfl

/-! ## From the first node, and from a choice -/

/-- From the first node on, the scene performs its recital; an encounter waits a moment before. -/
theorem recites_openScene (isOpen : stage.Open store)
    (first : (stage.seat.get store).nodeIndex = 0) :
    stage.Recites stage.seat.openScene store
      (Recital.perform stage.scenario.kind 0
        (recite stage.scenario.kind stage.preferences stage.scenario.nodes 0 [])
        (stage.scenario.kind.openingCues stage.preferences)) := by
  have voiced : stage.Recites
      (stage.seat.voice (stage.scenario.kind.openingCues stage.preferences) stage.seat.walkOn) store
      (Recital.perform stage.scenario.kind 0
        (recite stage.scenario.kind stage.preferences stage.scenario.nodes 0 [])
        (stage.scenario.kind.openingCues stage.preferences)) := by
    refine recites_voice _ isOpen first ?_
    intro later laterOpen place
    exact recites_walkOn (follows_recite 0 later laterOpen place)
  refine recites_of_look ?_
  simp only [isOpen.inPlay.scenario_eq, isOpen.inPlay.preferences_eq]
  rcases stage.scenario.kind.text_or_encounter with text | encounter
  · rw [text] at voiced ⊢
    exact voiced
  · rw [encounter] at voiced ⊢
    exact voiced

theorem recites_readyToTransition {interpreter : Interpreter}
    (same : interpreter.preferences = stage.preferences) (isOpen : stage.Open store) :
    stage.Recites (stage.seat.readyToTransition interpreter) store
      (Recital.perform stage.scenario.kind (stage.seat.get store).nodeIndex
        (.silent (.ready (stage.seat.get store).nodeIndex))
        [.beat stage.preferences.pacing.marker]) := by
  rw [Seat.readyToTransition, same]
  refine recites_pause isOpen _ ?_
  intro later laterOpen unchanged
  exact recites_conclude (.ready _) laterOpen (by rw [unchanged]; rfl)

/-- What is left of the scene from a place on. -/
def remainder (stage : Stage Store Driver Procedure Answer Entry) (place : Nat) : Recital :=
  recite stage.scenario.kind stage.preferences (stage.scenario.nodes.drop place) place []

/-- What comes after the node of a choice at the place before. -/
def landing (stage : Stage Store Driver Procedure Answer Entry) (place : Nat) : Recital :=
  Recital.landing stage.scenario.kind stage.preferences place (stage.scenario.nodes.drop place)
    (stage.remainder place)

theorem recites_afterChoice (isOpen : stage.Open store) :
    stage.Recites stage.seat.afterChoice store
      (stage.landing ((stage.seat.get store).nodeIndex + 1)) := by
  refine recites_of_advance (recites_of_look ?_)
  have laterOpen := isOpen.advance
  have moved : (stage.seat.get (stage.seat.modify Interpreter.advance store)).nodeIndex =
      (stage.seat.get store).nodeIndex + 1 := by
    rw [stage.get_modify]
    rfl
  rw [← moved]
  generalize stage.seat.modify Interpreter.advance store = later at laterOpen
  have walked : stage.Recites stage.seat.walkOn later
      (recite stage.scenario.kind stage.preferences
        (stage.scenario.nodes.drop (stage.seat.get later).nodeIndex)
        (stage.seat.get later).nodeIndex []) :=
    recites_walkOn (follows_recite _ later laterOpen rfl)
  have here : (stage.seat.get later).node? =
      (stage.scenario.nodes.drop (stage.seat.get later).nodeIndex).head? := by
    rw [Interpreter.node?, laterOpen.inPlay.scenario_eq, List.head?_drop]
  simp only [here, landing, remainder, Recital.landing]
  cases rest : stage.scenario.nodes.drop (stage.seat.get later).nodeIndex with
  | nil =>
      rw [rest] at walked
      exact walked
  | cons node rest =>
      rw [rest] at walked
      cases node with
      | messages block =>
          simp only [List.head?_cons, markerFollows, Seat.isMarker_eq_stopsAt,
            laterOpen.inPlay.scenario_eq]
          by_cases marked : stage.scenario.kind.stopsAt block.event = true
          · simp only [marked, if_true]
            exact recites_readyToTransition laterOpen.inPlay.preferences_eq laterOpen
          · simp only [marked, Bool.false_eq_true, if_false]
            exact walked
      | narrative _ => exact walked
      | dialogue _ => exact walked
      | choice _ => exact walked
      | system _ => exact walked
      | foreign _ => exact walked

/-- What is played once a choice was made is its branch, and then what comes after its node. -/
theorem recites_resume (choice : Option Choice) (isOpen : stage.Open store) :
    stage.Recites (stage.seat.resume choice) store
      (Recital.resumed stage.scenario.kind stage.preferences (stage.seat.get store).nodeIndex
        (stage.scenario.nodes.drop ((stage.seat.get store).nodeIndex + 1))
        (stage.remainder ((stage.seat.get store).nodeIndex + 1)) choice) := by
  cases choice with
  | none => exact recites_afterChoice isOpen
  | some choice =>
      have voiced : stage.Recites
          (stage.seat.voice (choice.cues stage.scenario.kind stage.preferences)
            stage.seat.afterChoice) store
          (Recital.perform stage.scenario.kind (stage.seat.get store).nodeIndex
            (stage.landing ((stage.seat.get store).nodeIndex + 1))
            (choice.cues stage.scenario.kind stage.preferences)) := by
        refine recites_voice _ isOpen rfl ?_
        intro later laterOpen place
        rw [← place]
        exact recites_afterChoice laterOpen
      refine recites_of_look ?_
      show stage.Recites _ store
        (Recital.perform stage.scenario.kind (stage.seat.get store).nodeIndex
          (stage.landing ((stage.seat.get store).nodeIndex + 1))
          (choice.cues stage.scenario.kind stage.preferences))
      simp only [isOpen.inPlay.scenario_eq]
      rcases stage.scenario.kind.text_or_encounter with text | encounter
      · rw [text] at voiced ⊢
        simp only [Seat.playTextBranch_eq_voice, isOpen.inPlay.preferences_eq]
        exact voiced
      · rw [encounter] at voiced ⊢
        simp only [Seat.playEncounterBranch_eq_voice, isOpen.inPlay.preferences_eq]
        exact voiced

/-! ## The header -/

theorem get_recordHeader (interpreter : Interpreter) :
    stage.seat.get (stage.seat.recordHeader interpreter store) =
      (stage.seat.get store).heard (interpreter.scenario.headerMarks interpreter.preferences)
        (stage.seat.get store).nodeIndex := by
  rw [Seat.recordHeader, Scenario.headerMarks]
  generalize interpreter.scenario.header = lines
  induction lines generalizing store with
  | nil => exact (Interpreter.heard_nil _).symm
  | cons line lines inductionHypothesis =>
      rw [List.foldl_cons, inductionHypothesis, stage.get_record, Interpreter.heard_record]
      rfl

theorem around_recordHeader (interpreter : Interpreter) (around : stage.around store) :
    stage.around (stage.seat.recordHeader interpreter store) := by
  rw [Seat.recordHeader]
  generalize interpreter.scenario.header = lines
  induction lines generalizing store with
  | nil => exact around
  | cons line lines inductionHypothesis =>
      rw [List.foldl_cons]
      exact inductionHypothesis (stage.around_record _ around)

theorem leaves_recordHeader (interpreter : Interpreter) :
    stage.terms.leaves store (stage.seat.recordHeader interpreter store) := by
  rw [Seat.recordHeader]
  generalize interpreter.scenario.header = lines
  induction lines generalizing store with
  | nil => exact stage.terms.leaves_refl _
  | cons line lines inductionHypothesis =>
      rw [List.foldl_cons]
      exact stage.terms.leaves_trans (stage.leaves_record _ _) inductionHypothesis

/-! ## The last instructions -/

/-- At every stop but the end of the scene the last instructions only change the interpreter, and the
task ends there. -/
theorem plays_conclude {halt : Halt} (around : stage.around store)
    (proper : ∀ index, halt ≠ .ended index)
    (post : ∀ final finale, stage.seat.get final = (stage.seat.get store).halted halt →
      stage.around final → (∀ driver body, finale ≠ .handedOver driver body) →
        stage.terms.post final finale) :
    stage.Plays (stage.seat.conclude halt) store [] := by
  cases halt with
  | offering index node =>
      refine plays_update (.done none (post _ _ (stage.get_modify _ _) ?_ (by simp)))
      exact stage.around_modify _ around
  | ready index =>
      refine plays_update (.done none (post _ _ (stage.get_modify _ _) ?_ (by simp)))
      exact stage.around_modify _ around
  | ended index => exact absurd rfl (proper index)
  | stuck index => exact .fail .overflow (post store _ rfl around (by simp))

/-- The store in which the end of the scene is reported. -/
def ended (stage : Stage Store Driver Procedure Answer Entry) (store : Store) : Store :=
  stage.seat.modify Interpreter.reportEnd (stage.seat.modify Interpreter.terminate store)

theorem get_ended : stage.seat.get (stage.ended store) =
    (stage.seat.get store).terminate.reportEnd := by
  rw [ended, stage.get_modify, stage.get_modify]

theorem around_ended (around : stage.around store) : stage.around (stage.ended store) :=
  stage.around_modify _ (stage.around_modify _ around)

theorem plays_finish (unreported : (stage.seat.get store).finished = false) {entries : List Entry}
    (plays : stage.Plays stage.seat.onFinish (stage.ended store) entries) :
    stage.Plays stage.seat.finish store entries := by
  have stillUnreported :
      (stage.seat.get (stage.seat.modify Interpreter.terminate store)).finished = false := by
    rw [stage.get_modify]
    exact unreported
  refine .check (plays_update (.look ?_))
  simp only [stillUnreported, Bool.false_eq_true, if_false]
  exact plays_update plays

end Stage

end Playthrough

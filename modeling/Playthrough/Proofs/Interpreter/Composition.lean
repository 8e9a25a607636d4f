import Playthrough.Proofs.Interpreter.Voice

/-!
Contract: what the programs of scenes are composed of.

Owns: the instructions that the programs of a seat are composed of (`Seat.Composes`), and that a property
of programs which these instructions keep is a property of all of them.

Does not own: which properties these are.

A program of a scene looks at nothing but the interpreter. It changes the interpreter's place only when
it goes on to the next node.
-/

namespace Playthrough

/-- A change of an interpreter that stays where it is, with its log, and does not forget the run. -/
structure Interpreter.Stays (change : Interpreter → Interpreter) : Prop where
  scenario : ∀ interpreter, (change interpreter).scenario = interpreter.scenario
  nodeIndex : ∀ interpreter, (change interpreter).nodeIndex = interpreter.nodeIndex
  events : ∀ interpreter, (change interpreter).events = interpreter.events
  awake : ∀ interpreter, interpreter.progress ≠ .idle → (change interpreter).progress ≠ .idle

namespace Seat

variable {Store Driver Procedure Answer : Type}

/-- The instructions that scenes are composed of keep a property of programs. -/
structure Composes (seat : Seat Store Driver Procedure Answer)
    (property : Program Store Driver Procedure Answer → Prop) : Prop where
  stop : property .stop
  fail : ∀ fault, property (.fail fault)
  look : ∀ choose : Store → Program Store Driver Procedure Answer,
    (∀ store other, seat.get store = seat.get other → choose store = choose other) →
      (∀ store, property (choose store)) → property (.look choose)
  check : ∀ {next}, property next → property (.check next)
  pause : ∀ duration {next}, property next → property (.pause duration next)
  record : ∀ event {next}, property next → property (.update (seat.record event) next)
  modify : ∀ change {next}, Interpreter.Stays change → property next →
    property (.update (seat.modify change) next)
  warn : ∀ warning {next}, property next → property (.update (seat.warn warning) next)
  /-- A wait that is shown. -/
  hold : ∀ duration {next}, property next →
    property (.update (seat.modify fun interpreter => interpreter.setSuspended true)
      (.ensure (.pause duration .stop) seat.unhold next))
  /-- The walk to the next node. -/
  walk : property seat.advanceAndWalk
  /-- The choices of the next node. -/
  offers : ∀ node, property (.update (seat.modify Interpreter.advance) (seat.awaitChoice node))
  onFinish : property seat.onFinish

namespace Composes

variable {seat : Seat Store Driver Procedure Answer} {interpreter : Interpreter}
variable {property : Program Store Driver Procedure Answer → Prop}
variable {next : Program Store Driver Procedure Answer}

theorem voice (composes : seat.Composes property) (cues : List Cue) (goesOn : property next) :
    property (seat.voice cues next) := by
  induction cues with
  | nil => exact goesOn
  | cons cue cues inductionHypothesis =>
      cases cue with
      | event event => exact composes.check (composes.record event inductionHypothesis)
      | wait duration held =>
          cases duration with
          | none => exact composes.fail .overflow
          | some duration =>
              cases held with
              | false => exact composes.pause duration inductionHypothesis
              | true => exact composes.hold duration inductionHypothesis

theorem awaitChoice (composes : seat.Composes property) (node : ChoiceNode) :
    property (seat.awaitChoice node) :=
  composes.check
    (composes.modify _ ⟨fun _ => rfl, fun _ => rfl, fun _ => rfl, fun _ _ => nofun⟩ composes.stop)

theorem becomesReady (composes : seat.Composes property) :
    property (.update (seat.modify Interpreter.becomeReady) .stop) :=
  composes.modify _ ⟨fun _ => rfl, fun _ => rfl, fun _ => rfl, fun _ _ => nofun⟩ composes.stop

theorem finish (composes : seat.Composes property) : property seat.finish := by
  refine composes.check
    (composes.modify _ ⟨fun _ => rfl, fun _ => rfl, fun _ => rfl, fun _ _ => nofun⟩
      (composes.look _ (fun _ _ same => by simp only [same]) ?_))
  intro store
  split
  · exact composes.stop
  · exact composes.modify _ ⟨fun _ => rfl, fun _ => rfl, fun _ => rfl, fun _ awake => awake⟩
      composes.onFinish

theorem afterBlock (composes : seat.Composes property) : property seat.afterBlock := by
  refine composes.look _ (fun _ _ same => by simp only [same]) ?_
  intro store
  split
  · split
    · exact composes.walk
    · exact composes.offers _
  · exact composes.walk

theorem passOn (composes : seat.Composes property) (node : Node) :
    property (seat.passOn interpreter node) := by
  cases node with
  | narrative block => exact composes.walk
  | messages block =>
      simp only [Seat.passOn]
      split
      · exact composes.becomesReady
      · exact composes.afterBlock
  | dialogue block => exact composes.afterBlock
  | choice node =>
      simp only [Seat.passOn]
      split
      · exact composes.warn _ composes.walk
      · exact composes.awaitChoice node
  | system event =>
      simp only [Seat.passOn]
      split
      · exact composes.becomesReady
      · split
        · exact composes.walk
        · exact composes.finish
  | foreign node => exact composes.warn _ composes.walk

/-- A node is played, and what comes after it. -/
theorem playNode (composes : seat.Composes property) (node : Node) :
    property (seat.playNode interpreter node) := by
  rw [playNode_eq_voice]
  exact composes.voice _ (composes.passOn node)

/-- The walk is composed of these instructions. -/
theorem walkBody (composes : seat.Composes property) : property seat.walkBody := by
  refine composes.look _ (fun _ _ same => by simp only [same]) ?_
  intro store
  dsimp only
  split
  · exact composes.finish
  · exact composes.check (composes.playNode _)

/-- So is the beginning of a scene, with the walk from where it is. -/
theorem openScene (composes : seat.Composes property) (walkOn : property seat.walkOn) :
    property seat.openScene := by
  refine composes.look _ (fun _ _ same => by simp only [same]) ?_
  intro store
  dsimp only
  split
  · exact walkOn
  · exact composes.pause _ walkOn

/-- So is what is played after a choice, with what comes after the branch. -/
theorem resume (composes : seat.Composes property) (choice : Option Choice)
    (afterChoice : property seat.afterChoice) : property (seat.resume choice) := by
  cases choice with
  | none => exact afterChoice
  | some choice =>
      refine composes.look _ (fun _ _ same => by simp only [same]) ?_
      intro store
      dsimp only
      split
      · rw [playTextBranch_eq_voice]
        exact composes.voice _ afterChoice
      · rw [playEncounterBranch_eq_voice]
        exact composes.voice _ afterChoice

end Composes

end Seat

end Playthrough

import Playthrough.Proofs.Interpreter.Voice
import Playthrough.Proofs.Task.Lasting

/-!
Contract: what a walk looks at and changes.

Owns: the changes of an interpreter that take nothing back (`Interpreter.Onward`), manners that a seat
keeps to (`Seat.Keeps`), and that whatever is played from there follows them.

Does not own: which manners a world asks for.

A walk looks at nothing but the interpreter. It writes events and takes none back, and never goes back to
an earlier node; what it does to the interpreter beside that is left open.
-/

namespace Playthrough

/-- A change of an interpreter that leaves the log alone and does not go back. -/
structure Interpreter.Onward (change : Interpreter → Interpreter) : Prop where
  events : ∀ interpreter, (change interpreter).events = interpreter.events
  place : ∀ interpreter, interpreter.nodeIndex ≤ (change interpreter).nodeIndex

namespace Interpreter

/-- A change of neither the log nor the place goes on. -/
theorem onward_of_same {change : Interpreter → Interpreter}
    (events : ∀ interpreter, (change interpreter).events = interpreter.events)
    (place : ∀ interpreter, (change interpreter).nodeIndex = interpreter.nodeIndex) : Onward change :=
  ⟨events, fun interpreter => Nat.le_of_eq (place interpreter).symm⟩

theorem onward_advance : Onward advance :=
  ⟨fun _ => rfl, fun interpreter => Nat.le_succ interpreter.nodeIndex⟩

theorem onward_setSuspended (held : Bool) : Onward fun interpreter => interpreter.setSuspended held :=
  onward_of_same (fun _ => rfl) fun _ => rfl

theorem onward_offer (node : ChoiceNode) : Onward fun interpreter => interpreter.offer node :=
  onward_of_same (fun _ => rfl) fun _ => rfl

theorem onward_becomeReady : Onward becomeReady := onward_of_same (fun _ => rfl) fun _ => rfl

theorem onward_terminate : Onward terminate := onward_of_same (fun _ => rfl) fun _ => rfl

theorem onward_reportEnd : Onward reportEnd := onward_of_same (fun _ => rfl) fun _ => rfl

end Interpreter

namespace Seat

variable {Store Driver Procedure Answer : Type} {manner : Manner Store Driver Procedure Answer}

/-- Looking at the interpreter is in a manner, and so are writing events, changes of the interpreter that
take nothing back, warnings, and what is done about the end. -/
structure Keeps (seat : Seat Store Driver Procedure Answer)
    (manner : Manner Store Driver Procedure Answer) : Prop where
  look : ∀ choose : Store → Program Store Driver Procedure Answer,
    (∀ store other, seat.get store = seat.get other → choose store = choose other) → manner.reads choose
  record : ∀ event, manner.writes (seat.record event)
  modify : ∀ change, Interpreter.Onward change → manner.writes (seat.modify change)
  warn : ∀ warning, manner.writes (seat.warn warning)
  onFinish : seat.onFinish.Follows manner

namespace Keeps

variable {seat : Seat Store Driver Procedure Answer} {interpreter : Interpreter}
variable {next : Program Store Driver Procedure Answer}

theorem voice (keeps : seat.Keeps manner) (cues : List Cue) (goesOn : next.Follows manner) :
    (seat.voice cues next).Follows manner := by
  induction cues with
  | nil => exact goesOn
  | cons cue cues inductionHypothesis =>
      cases cue with
      | event event => exact ⟨keeps.record event, inductionHypothesis⟩
      | wait duration held =>
          cases duration with
          | none => trivial
          | some duration =>
              cases held with
              | false => exact inductionHypothesis
              | true =>
                  exact ⟨keeps.modify _ (Interpreter.onward_setSuspended true), trivial,
                    ⟨keeps.modify _ (Interpreter.onward_setSuspended false), trivial⟩,
                    inductionHypothesis⟩

theorem advanceAndWalk (keeps : seat.Keeps manner) : seat.advanceAndWalk.Follows manner :=
  ⟨keeps.modify _ Interpreter.onward_advance, trivial⟩

theorem awaitChoice (keeps : seat.Keeps manner) (node : ChoiceNode) :
    (seat.awaitChoice node).Follows manner :=
  ⟨keeps.modify _ (Interpreter.onward_offer node), trivial⟩

theorem becomesReady (keeps : seat.Keeps manner) :
    (Program.update (seat.modify Interpreter.becomeReady) .stop :
      Program Store Driver Procedure Answer).Follows manner :=
  ⟨keeps.modify _ Interpreter.onward_becomeReady, trivial⟩

theorem finish (keeps : seat.Keeps manner) : seat.finish.Follows manner := by
  refine ⟨keeps.modify _ Interpreter.onward_terminate, keeps.look _ fun _ _ same => by simp only [same],
    ?_⟩
  intro store
  dsimp only
  split
  · trivial
  · exact ⟨keeps.modify _ Interpreter.onward_reportEnd, keeps.onFinish⟩

theorem afterBlock (keeps : seat.Keeps manner) : seat.afterBlock.Follows manner := by
  refine ⟨keeps.look _ fun _ _ same => by simp only [same], ?_⟩
  intro store
  dsimp only
  split
  · split
    · exact keeps.advanceAndWalk
    · exact ⟨keeps.modify _ Interpreter.onward_advance, keeps.awaitChoice _⟩
  · exact keeps.advanceAndWalk

theorem passOn (keeps : seat.Keeps manner) (node : Node) : (seat.passOn interpreter node).Follows manner := by
  cases node with
  | narrative block => exact keeps.advanceAndWalk
  | messages block =>
      simp only [Seat.passOn]
      split
      · exact keeps.becomesReady
      · exact keeps.afterBlock
  | dialogue block => exact keeps.afterBlock
  | choice node =>
      simp only [Seat.passOn]
      split
      · exact ⟨keeps.warn _, keeps.advanceAndWalk⟩
      · exact keeps.awaitChoice node
  | system event =>
      simp only [Seat.passOn]
      split
      · exact keeps.becomesReady
      · split
        · exact keeps.advanceAndWalk
        · exact keeps.finish
  | foreign node => exact ⟨keeps.warn _, keeps.advanceAndWalk⟩

/-- The walk follows what its seat keeps to. -/
theorem walkBody (keeps : seat.Keeps manner) : seat.walkBody.Follows manner := by
  refine ⟨keeps.look _ fun _ _ same => by simp only [same], ?_⟩
  intro store
  dsimp only
  split
  · exact keeps.finish
  · next node _ =>
      rw [playNode_eq_voice]
      exact keeps.voice _ (keeps.passOn node)

theorem openScene (keeps : seat.Keeps manner) : seat.openScene.Follows manner := by
  refine ⟨keeps.look _ fun _ _ same => by simp only [same], ?_⟩
  intro store
  dsimp only
  split
  · trivial
  · trivial

theorem afterChoice (keeps : seat.Keeps manner) : seat.afterChoice.Follows manner := by
  refine ⟨keeps.modify _ Interpreter.onward_advance, keeps.look _ fun _ _ same => by simp only [same], ?_⟩
  intro store
  dsimp only
  split
  · split
    · exact keeps.becomesReady
    · trivial
  · trivial

/-- What is played after a choice follows what its seat keeps to. -/
theorem resume (keeps : seat.Keeps manner) (choice : Option Choice) : (seat.resume choice).Follows manner := by
  cases choice with
  | none => exact keeps.afterChoice
  | some choice =>
      refine ⟨keeps.look _ fun _ _ same => by simp only [same], ?_⟩
      intro store
      dsimp only
      split
      · rw [playTextBranch_eq_voice]
        exact keeps.voice _ keeps.afterChoice
      · rw [playEncounterBranch_eq_voice]
        exact keeps.voice _ keeps.afterChoice

end Keeps

end Seat

end Playthrough

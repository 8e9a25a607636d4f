import Playthrough.Proofs.Interpreter.Hints

/-!
Contract: where scenes stop.

Owns: what a stop of a scene is like (`Halt.Fits`), and that every recital comes to such a stop.

Does not own: what is heard on the way.

A stop at a choice is at a choice node with options, not before the place that the recital starts at.
Only text scenes stop before the encounter. With hints that the clock can hold
no stop is a wait that it cannot.
-/

namespace Playthrough

/-- What every stop of a scenario is like that a recital comes to from a place on. -/
structure Halt.Fits (scenario : Scenario) (floor : Nat) (halt : Halt) : Prop where
  flows : scenario.HintsHold → ∀ index, halt ≠ .stuck index
  offers : ∀ index node, halt = .offering index node →
    floor ≤ index ∧ scenario.nodes[index]? = some (.choice node) ∧ node.options.isEmpty = false
  neverReady : scenario.kind = .encounter → ∀ index, halt ≠ .ready index

namespace Halt

variable {scenario : Scenario} {floor base : Nat} {halt : Halt}

theorem Fits.lower (fits : halt.Fits scenario floor) (below : base ≤ floor) :
    halt.Fits scenario base where
  flows := fits.flows
  offers index node stops :=
    ⟨Nat.le_trans below (fits.offers index node stops).1, (fits.offers index node stops).2⟩
  neverReady := fits.neverReady

theorem fits_ready (index : Nat) (text : scenario.kind = .text) :
    (Halt.ready index).Fits scenario floor where
  flows := by simp
  offers := by simp
  neverReady encounter := by simp [text] at encounter

theorem fits_ended (index : Nat) : (Halt.ended index).Fits scenario floor where
  flows := by simp
  offers := by simp
  neverReady := by simp

end Halt

section Recitals

variable {scenario : Scenario} {preferences : Preferences}

/-- A script is played to its end or gets stuck; the latter only with a hint that the clock cannot hold. -/
theorem fits_perform {floor index : Nat} {rest : Recital} {cues : List Cue}
    (cuesFit : scenario.HintsHold → Cue.AllFit cues) (fits : rest.halt.Fits scenario floor) :
    (Recital.perform scenario.kind index rest cues).halt.Fits scenario floor := by
  have flows : scenario.HintsHold → ∀ place,
      (Recital.perform scenario.kind index rest cues).halt ≠ .stuck place := by
    intro holds
    exact Recital.flows_perform (cuesFit holds) (fits.flows holds)
  rcases Recital.perform_cases scenario.kind index cues with ⟨marks, played⟩ | ⟨marks, played⟩
  · rw [played] at flows ⊢
    exact fits
  · rw [played] at flows ⊢
    exact ⟨flows, by simp, by simp⟩

/-- Only text scenes stop before the encounter. -/
theorem text_of_ready {kind : SceneKind} {node : Node} (ready : node.passage kind = .ready) :
    kind = .text := by
  rcases kind.text_or_encounter with text | encounter
  · exact text
  · subst encounter
    cases node with
    | choice node =>
        simp only [Node.passage] at ready
        split at ready <;> cases ready
    | narrative _ => cases ready
    | messages _ => cases ready
    | dialogue _ => cases ready
    | system _ => cases ready
    | foreign _ => cases ready

/-- Where the nodes of a scene from a place on stop. -/
theorem fits_recite {nodes : List Node} {index : Nat} (here : scenario.nodes.drop index = nodes) :
    (recite scenario.kind preferences nodes index []).halt.Fits scenario index := by
  induction nodes generalizing index with
  | nil => exact Halt.fits_ended index
  | cons node rest inductionHypothesis =>
      have beyond : scenario.nodes.drop (index + 1) = rest := by
        rw [← List.drop_drop, here]
        rfl
      have there : scenario.nodes[index]? = some node := by
        rw [← List.head?_drop, here]
        rfl
      refine fits_perform ?_ ?_
      · intro holds
        exact Node.allFit_cues scenario.kind preferences (holds.of_node (List.mem_of_getElem? there))
      · cases passage : node.passage scenario.kind with
        | onward => exact (inductionHypothesis beyond).lower (Nat.le_succ index)
        | ready => exact Halt.fits_ready index (text_of_ready passage)
        | ended => exact Halt.fits_ended index
        | offer choiceNode =>
            obtain ⟨rfl, nonempty⟩ := Node.eq_choice_of_passage passage
            refine ⟨by simp [Passage.lead], ?_, by simp [Passage.lead]⟩
            intro place node stops
            cases stops
            exact ⟨Nat.le_refl index, there, nonempty⟩

/-- Where a scene stops first. -/
theorem fits_recital : (scenario.recital preferences []).halt.Fits scenario 0 := by
  refine fits_perform ?_ (fits_recite rfl)
  intro _ held
  rcases scenario.kind.text_or_encounter with text | encounter
  · simp [text, SceneKind.openingCues]
  · simp [encounter, SceneKind.openingCues, Cue.beat]

/-- Where a scene stops after a choice. -/
theorem fits_continuation {index : Nat} {node : ChoiceNode}
    (here : scenario.nodes[index]? = some (.choice node)) (tag : String) :
    (scenario.continuation preferences index (node.find? tag) []).halt.Fits scenario (index + 1) := by
  refine fits_perform ?_ ?_
  · intro holds
    refine allFit_branchCues ?_
    intro choice member
    exact holds.of_node (List.mem_of_getElem? here) _ (List.mem_map_of_mem member)
  · simp only [Recital.landing]
    split
    · next marked =>
        refine fits_perform (fun _ => Cue.allFit_beat _) (Halt.fits_ready _ ?_)
        rcases scenario.kind.text_or_encounter with text | encounter
        · exact text
        · rw [encounter] at marked
          simp only [markerFollows] at marked
          split at marked <;> cases marked
    · exact fits_recite rfl

/-! ## How far a recital comes -/

/-- A script stops where it is played, or where the rest stops. -/
theorem index_perform_le {index bound : Nat} {rest : Recital} (kind : SceneKind) (cues : List Cue)
    (here : index ≤ bound) (beyond : rest.halt.index ≤ bound) :
    (Recital.perform kind index rest cues).halt.index ≤ bound := by
  rcases Recital.perform_cases kind index cues with ⟨marks, played⟩ | ⟨marks, played⟩
  · rw [played]
    exact beyond
  · rw [played]
    exact here

theorem index_recite_le (kind : SceneKind) (nodes : List Node) (index : Nat) :
    (recite kind preferences nodes index []).halt.index ≤ index + nodes.length := by
  induction nodes generalizing index with
  | nil => exact Nat.le_refl index
  | cons node rest inductionHypothesis =>
      have later : (recite kind preferences rest (index + 1) []).halt.index ≤
          index + (node :: rest).length := by
        have bound := inductionHypothesis (index + 1)
        rw [List.length_cons]
        omega
      refine index_perform_le kind _ (Nat.le_add_right _ _) ?_
      cases node.passage kind with
      | onward => exact later
      | ready => exact Nat.le_add_right _ _
      | ended => exact Nat.le_add_right _ _
      | offer choiceNode => exact Nat.le_add_right _ _

/-- A scene stops at one of its nodes or after the last. -/
theorem index_recital_le : (scenario.recital preferences []).halt.index ≤ scenario.nodes.length := by
  refine index_perform_le _ _ (Nat.zero_le _) ?_
  exact Nat.le_trans (index_recite_le scenario.kind scenario.nodes 0) (by omega)

/-- After a choice at one of its nodes it does so again. -/
theorem index_continuation_le {index : Nat} (choice : Option Choice)
    (inside : index < scenario.nodes.length) :
    (scenario.continuation preferences index choice []).halt.index ≤ scenario.nodes.length := by
  have walked : (recite scenario.kind preferences (scenario.nodes.drop (index + 1)) (index + 1)
      []).halt.index ≤ scenario.nodes.length := by
    refine Nat.le_trans (index_recite_le _ _ _) ?_
    rw [List.length_drop]
    omega
  refine index_perform_le _ _ (Nat.le_of_lt inside) ?_
  simp only [Recital.landing]
  split
  · exact index_perform_le _ _ inside inside
  · exact walked

end Recitals

end Playthrough

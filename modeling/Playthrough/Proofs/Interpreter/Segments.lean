import Playthrough.Proofs.Interpreter.Recital

/-!
Contract: a recital, from choice to choice.

Owns: the recital with choices as the recital without them, continued at the node where it stops, and
the absence of overlong waits where every hint fits the clock.

Does not own: programs.
-/

namespace Playthrough

namespace Recital

theorem after_after (first second : List Mark) (recital : Recital) :
    (recital.after second).after first = recital.after (first ++ second) := by
  simp [after]

@[simp] theorem marks_after (marks : List Mark) (recital : Recital) :
    (recital.after marks).marks = marks ++ recital.marks := rfl

@[simp] theorem halt_after (marks : List Mark) (recital : Recital) :
    (recital.after marks).halt = recital.halt := rfl

@[simp] theorem marks_silent (halt : Halt) : (silent halt).marks = [] := rfl

@[simp] theorem halt_silent (halt : Halt) : (silent halt).halt = halt := rfl

/-- A script is either played to its end or gets stuck, whatever comes after it. -/
theorem perform_cases (kind : SceneKind) (index : Nat) (cues : List Cue) :
    (∃ marks, ∀ rest, perform kind index rest cues = rest.after marks)
      ∨ ∃ marks, ∀ rest, perform kind index rest cues = (silent (.stuck index)).after marks := by
  induction cues with
  | nil => exact .inl ⟨[], fun rest => rfl⟩
  | cons cue cues inductionHypothesis =>
      cases cue with
      | event event =>
          rcases inductionHypothesis with ⟨marks, played⟩ | ⟨marks, played⟩
          · refine .inl ⟨.shown event :: marks, fun rest => ?_⟩
            rw [perform, played, after_after]
            rfl
          · refine .inr ⟨.shown event :: marks, fun rest => ?_⟩
            rw [perform, played, after_after]
            rfl
      | wait duration held =>
          cases duration with
          | none => exact .inr ⟨[], fun rest => rfl⟩
          | some duration =>
              let mark : Mark := .waited duration (if held then [kind.indicator] else [])
              rcases inductionHypothesis with ⟨marks, played⟩ | ⟨marks, played⟩
              · refine .inl ⟨mark :: marks, fun rest => ?_⟩
                rw [perform, played, after_after]
                rfl
              · refine .inr ⟨mark :: marks, fun rest => ?_⟩
                rw [perform, played, after_after]
                rfl

end Recital

/-- Only choice nodes offer choices. -/
theorem Node.eq_choice_of_passage {kind : SceneKind} {node : Node} {choiceNode : ChoiceNode}
    (offers : node.passage kind = .offer choiceNode) :
    node = .choice choiceNode ∧ choiceNode.options.isEmpty = false := by
  cases node with
  | choice node =>
      simp only [passage] at offers
      by_cases empty : node.options.isEmpty = true
      · simp [empty] at offers
      · simp only [empty, Bool.false_eq_true, if_false, Passage.offer.injEq] at offers
        subst offers
        exact ⟨rfl, by simpa using empty⟩
  | messages block =>
      simp only [passage] at offers
      split at offers <;> cases offers
  | system event =>
      simp only [passage] at offers
      split at offers
      · cases offers
      · split at offers <;> cases offers
  | narrative _ => cases offers
  | dialogue _ => cases offers
  | foreign _ => cases offers

section Segments

variable {kind : SceneKind} {preferences : Preferences}

/-- Where the recital without choices does not stop at a choice, choices make no difference. -/
theorem recite_of_no_offer (nodes : List Node) (index : Nat) (offers : List Offer)
    (elsewhere : ∀ place node, (recite kind preferences nodes index []).halt ≠ .offering place node) :
    recite kind preferences nodes index offers = recite kind preferences nodes index [] := by
  induction nodes generalizing index with
  | nil => rfl
  | cons node rest inductionHypothesis =>
      rcases Recital.perform_cases kind index (node.cues kind preferences) with
        ⟨marks, played⟩ | ⟨marks, played⟩
      · simp only [recite, played] at elsewhere ⊢
        cases passage : node.passage kind with
        | onward =>
            simp only [passage, Passage.lead] at elsewhere ⊢
            rw [inductionHypothesis (index + 1) elsewhere]
        | offer choiceNode =>
            simp only [passage, Passage.lead] at elsewhere
            exact absurd rfl (elsewhere index choiceNode)
        | ready => rfl
        | ended => rfl
      · simp only [recite, played]

/-- A recital that stops at a choice stops at a choice node. -/
theorem node_of_offering {all nodes : List Node} {index place : Nat} {choiceNode : ChoiceNode}
    (here : all.drop index = nodes)
    (stops : (recite kind preferences nodes index []).halt = .offering place choiceNode) :
    index ≤ place ∧ all[place]? = some (.choice choiceNode)
      ∧ choiceNode.options.isEmpty = false := by
  induction nodes generalizing index with
  | nil => cases stops
  | cons node rest inductionHypothesis =>
      have beyond : all.drop (index + 1) = rest := by
        rw [← List.drop_drop, here]
        rfl
      rcases Recital.perform_cases kind index (node.cues kind preferences) with
        ⟨marks, played⟩ | ⟨marks, played⟩
      · simp only [recite, played] at stops
        cases passage : node.passage kind with
        | onward =>
            simp only [passage, Passage.lead] at stops
            obtain ⟨later, found⟩ := inductionHypothesis beyond stops
            exact ⟨by omega, found⟩
        | offer offered =>
            obtain ⟨isChoice, nonempty⟩ := Node.eq_choice_of_passage passage
            simp only [passage, Passage.lead, Recital.halt_after, Recital.halt_silent,
              Halt.offering.injEq] at stops
            obtain ⟨rfl, rfl⟩ := stops
            refine ⟨Nat.le_refl _, ?_, nonempty⟩
            rw [← List.head?_drop, here, isChoice]
            rfl
        | ready =>
            simp only [passage, Passage.lead] at stops
            cases stops
        | ended =>
            simp only [passage, Passage.lead] at stops
            cases stops
      · simp only [recite, played] at stops
        cases stops

/-- Where the recital without choices stops at a choice, the first offer is taken there. -/
theorem recite_of_offer {all nodes : List Node} {index place : Nat} {choiceNode : ChoiceNode}
    (here : all.drop index = nodes) (offer : Offer) (later : List Offer)
    (stops : (recite kind preferences nodes index []).halt = .offering place choiceNode) :
    recite kind preferences nodes index (offer :: later) =
      (Recital.resumed kind preferences place (all.drop (place + 1))
        (recite kind preferences (all.drop (place + 1)) (place + 1) later)
        (choiceNode.find? offer.tag)).after
          ((recite kind preferences nodes index []).marks ++ offer.marks) := by
  induction nodes generalizing index with
  | nil => cases stops
  | cons node rest inductionHypothesis =>
      have beyond : all.drop (index + 1) = rest := by
        rw [← List.drop_drop, here]
        rfl
      rcases Recital.perform_cases kind index (node.cues kind preferences) with
        ⟨marks, played⟩ | ⟨marks, played⟩
      · simp only [recite, played] at stops ⊢
        cases passage : node.passage kind with
        | onward =>
            simp only [passage, Passage.lead] at stops ⊢
            rw [inductionHypothesis beyond stops, Recital.after_after, Recital.marks_after,
              List.append_assoc]
        | offer offered =>
            simp only [passage, Passage.lead, Recital.halt_after, Recital.halt_silent,
              Halt.offering.injEq] at stops ⊢
            obtain ⟨rfl, rfl⟩ := stops
            rw [beyond, Recital.after_after, Recital.marks_after, Recital.marks_silent,
              List.append_nil]
        | ready =>
            simp only [passage, Passage.lead] at stops
            cases stops
        | ended =>
            simp only [passage, Passage.lead] at stops
            cases stops
      · simp only [recite, played] at stops
        cases stops

end Segments

/-! ## From stop to stop -/

/-- What is left of a scene after a choice at a place. -/
def Scenario.continuation (scenario : Scenario) (preferences : Preferences) (place : Nat)
    (choice : Option Choice) (later : List Offer) : Recital :=
  Recital.resumed scenario.kind preferences place (scenario.nodes.drop (place + 1))
    (recite scenario.kind preferences (scenario.nodes.drop (place + 1)) (place + 1) later) choice

/-- A recital that depends on choices as the recital of a scene does: each of them is taken at the
next choice node that stops it. -/
structure Unfolds (scenario : Scenario) (preferences : Preferences)
    (recital : List Offer → Recital) : Prop where
  elsewhere : ∀ offers, (∀ place node, (recital []).halt ≠ .offering place node) →
    recital offers = recital []
  node : ∀ place node, (recital []).halt = .offering place node →
    scenario.nodes[place]? = some (.choice node)
  offered : ∀ place node, (recital []).halt = .offering place node → ∀ offer later,
    recital (offer :: later) =
      (scenario.continuation preferences place (node.find? offer.tag) later).after
        ((recital []).marks ++ offer.marks)

section Unfolds

variable {scenario : Scenario} {preferences : Preferences} {recital : List Offer → Recital}

theorem unfolds_recite (start : Nat) :
    Unfolds scenario preferences
      (recite scenario.kind preferences (scenario.nodes.drop start) start) where
  elsewhere offers := recite_of_no_offer _ _ offers
  node _ _ stops := (node_of_offering rfl stops).2.1
  offered _ _ stops offer later := recite_of_offer rfl offer later stops

theorem unfolds_constant {fixed : Recital}
    (elsewhere : ∀ place node, fixed.halt ≠ .offering place node) :
    Unfolds scenario preferences fun _ => fixed where
  elsewhere _ _ := rfl
  node place node stops := absurd stops (elsewhere place node)
  offered place node stops := absurd stops (elsewhere place node)

theorem Unfolds.after (unfolds : Unfolds scenario preferences recital) (marks : List Mark) :
    Unfolds scenario preferences fun offers => (recital offers).after marks where
  elsewhere offers stops := by rw [unfolds.elsewhere offers stops]
  node := unfolds.node
  offered place node stops offer later := by
    rw [unfolds.offered place node stops, Recital.after_after, Recital.marks_after,
      List.append_assoc]

theorem Unfolds.perform (unfolds : Unfolds scenario preferences recital) (index : Nat)
    (cues : List Cue) :
    Unfolds scenario preferences fun offers =>
      Recital.perform scenario.kind index (recital offers) cues := by
  rcases Recital.perform_cases scenario.kind index cues with ⟨marks, played⟩ | ⟨marks, played⟩
  · simp only [played]
    exact unfolds.after marks
  · simp only [played]
    exact unfolds_constant (by simp)

/-- What is left of a scene after a choice depends on the later choices as the scene does. -/
theorem unfolds_continuation (place : Nat) (choice : Option Choice) :
    Unfolds scenario preferences (scenario.continuation preferences place choice) := by
  refine Unfolds.perform ?_ place _
  simp only [Recital.landing]
  split
  · exact unfolds_constant (by simp [Recital.perform, Cue.beat])
  · exact unfolds_recite (place + 1)

theorem unfolds_recital : Unfolds scenario preferences (scenario.recital preferences) := by
  refine Unfolds.after (Unfolds.perform ?_ 0 _) _
  exact unfolds_recite 0

end Unfolds

end Playthrough

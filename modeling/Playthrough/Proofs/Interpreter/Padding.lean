import Playthrough.Proofs.Interpreter.Segments

/-!
Contract: nodes that play nothing, and the recital of a scene into which such nodes were put.

Owns: which nodes play nothing, a scene with such nodes at any places, and that its recital is the recital
of the scene without them at shifted places.

Does not own: programs.

There is one place where a node that plays nothing is heard: between a choice and a block with the marker,
because a choice looks only at the node right after it. A padding that leaves those places alone keeps the
recital.
-/

namespace Playthrough

/-- Whether a node plays nothing: it is unknown, a choice without options, or narration without a text. -/
def Node.isInert : Node → Bool
  | .foreign _ => true
  | .choice node => node.options.isEmpty
  | .narrative block => block.description.isNone
  | _ => false

/-- Whether a node offers choices. -/
def Node.offers : Node → Bool
  | .choice node => !node.options.isEmpty
  | _ => false

theorem Node.cues_of_inert {node : Node} (kind : SceneKind) (preferences : Preferences)
    (inert : node.isInert = true) : node.cues kind preferences = [] := by
  cases node with
  | narrative block =>
      have silent : block.description = none := Option.isNone_iff_eq_none.mp inert
      rw [Node.cues, NarrativeBlock.cues, silent]
  | choice node => rfl
  | foreign node => rfl
  | messages block => cases inert
  | dialogue block => cases inert
  | system event => cases inert

theorem Node.passage_of_inert {node : Node} (kind : SceneKind) (inert : node.isInert = true) :
    node.passage kind = .onward := by
  cases node with
  | narrative block => rfl
  | choice node =>
      have empty : node.options.isEmpty = true := inert
      rw [Node.passage, empty]
      rfl
  | foreign node => rfl
  | messages block => cases inert
  | dialogue block => cases inert
  | system event => cases inert

theorem Node.offers_of_passage {kind : SceneKind} {node : Node} {choiceNode : ChoiceNode}
    (offering : node.passage kind = .offer choiceNode) : node.offers = true := by
  obtain ⟨rfl, nonempty⟩ := Node.eq_choice_of_passage offering
  rw [Node.offers, nonempty]
  rfl

/-! ## Paddings -/

/-- A node of a scene, or one that plays nothing and was put there. -/
inductive Placement where
  | own (node : Node)
  | extra (node : Node) (inert : node.isInert = true)

/-- The nodes of a scene with others that play nothing at any places between them. -/
abbrev Padding := List Placement

namespace Padding

/-- The nodes of the scene. -/
def plain : Padding → List Node
  | [] => []
  | .own node :: rest => node :: plain rest
  | .extra _ _ :: rest => plain rest

/-- The nodes of the scene and the others. -/
def padded : Padding → List Node
  | [] => []
  | .own node :: rest => node :: padded rest
  | .extra node _ :: rest => node :: padded rest

/-- How many nodes were put before a place of the scene. -/
def before : Padding → Nat → Nat
  | [], _ => 0
  | .extra _ _ :: rest, place => before rest place + 1
  | .own _ :: _, 0 => 0
  | .own _ :: rest, place + 1 => before rest place

/-- Whether a padding begins with a node that was put there. -/
def startsExtra : Padding → Bool
  | .extra _ _ :: _ => true
  | _ => false

/-- Whether nodes were put right between a choice and a block with the marker. -/
def splits (kind : SceneKind) : Padding → Bool
  | [] => false
  | .own node :: rest =>
      (node.offers && startsExtra rest && markerFollows kind (plain rest)) || splits kind rest
  | .extra _ _ :: rest => splits kind rest

theorem markerFollows_of_inert {kind : SceneKind} {node : Node} (inert : node.isInert = true)
    (rest : List Node) : markerFollows kind (node :: rest) = false := by
  cases node with
  | messages block => cases inert
  | narrative block => rfl
  | dialogue block => rfl
  | choice node => rfl
  | system event => rfl
  | foreign node => rfl

/-- Where no node was put before a block with the marker, the padding is not noticed right before it. -/
theorem markerFollows_padded {kind : SceneKind} {padding : Padding}
    (apart : (startsExtra padding && markerFollows kind (plain padding)) = false) :
    markerFollows kind (padded padding) = markerFollows kind (plain padding)
      ∧ (markerFollows kind (plain padding) = true → before padding 0 = 0) := by
  cases padding with
  | nil => exact ⟨rfl, fun _ => rfl⟩
  | cons placement rest =>
      cases placement with
      | own node => exact ⟨by cases node <;> rfl, fun _ => rfl⟩
      | extra node inert =>
          have unmarked : markerFollows kind (plain (.extra node inert :: rest)) = false := by
            simpa [startsExtra] using apart
          refine ⟨?_, ?_⟩
          · rw [unmarked]
            exact markerFollows_of_inert inert _
          · intro marked
            rw [unmarked] at marked
            cases marked

end Padding

/-! ## Recitals at other places -/

/-- A stop at another place. -/
def Halt.moved (shift : Nat → Nat) : Halt → Halt
  | .offering index node => .offering (shift index) node
  | .ready index => .ready (shift index)
  | .ended index => .ended (shift index)
  | .stuck index => .stuck (shift index)

namespace Recital

/-- A recital of which only the place of the stop is another one. -/
def moved (shift : Nat → Nat) (recital : Recital) : Recital :=
  { recital with halt := recital.halt.moved shift }

variable {shift : Nat → Nat} {kind : SceneKind} {preferences : Preferences}

theorem moved_after (marks : List Mark) (recital : Recital) :
    (recital.after marks).moved shift = (recital.moved shift).after marks := rfl

/-- A script that is played at another place. -/
theorem perform_moved {index elsewhere : Nat} (place : shift index = elsewhere) (rest : Recital)
    (cues : List Cue) :
    perform kind elsewhere (rest.moved shift) cues = (perform kind index rest cues).moved shift := by
  subst place
  induction cues with
  | nil => rfl
  | cons cue cues inductionHypothesis =>
      cases cue with
      | event event => rw [perform, perform, inductionHypothesis, moved_after]
      | wait duration held =>
          cases duration with
          | none => rfl
          | some duration => rw [perform, perform, inductionHypothesis, moved_after]

/-- What comes after a choice, at another place. -/
theorem landing_moved {index elsewhere : Nat} {nodes others : List Node} {walked : Recital}
    (sameMarker : markerFollows kind others = markerFollows kind nodes)
    (place : markerFollows kind nodes = true → shift index = elsewhere) :
    landing kind preferences elsewhere others (walked.moved shift) =
      (landing kind preferences index nodes walked).moved shift := by
  rw [landing, landing, sameMarker]
  by_cases marked : markerFollows kind nodes = true
  · simp only [marked, if_true]
    rw [← perform_moved (place marked) (silent (.ready index))]
    simp only [moved, silent, Halt.moved, place marked]
  · simp only [marked, Bool.false_eq_true, if_false]

end Recital

section Recite

variable {kind : SceneKind} {preferences : Preferences} {shift : Nat → Nat}

/-- A node that plays nothing is not heard. -/
theorem recite_of_inert {node : Node} (inert : node.isInert = true) (rest : List Node) (index : Nat)
    (offers : List Offer) :
    recite kind preferences (node :: rest) index offers =
      recite kind preferences rest (index + 1) offers := by
  rw [recite, Node.cues_of_inert kind preferences inert, Node.passage_of_inert kind inert]
  rfl

/-- The recital of padded nodes is the recital of the nodes, stopped at the place to which the padding
moves its stop. The induction is on the padding; `shift` is what the nodes before it leave of it. -/
theorem recite_padded (padding : Padding) (apart : padding.splits kind = false) {index elsewhere : Nat}
    (shifts : ∀ place, shift (index + place) = elsewhere + place + padding.before place)
    (offers : List Offer) :
    recite kind preferences padding.padded elsewhere offers =
      (recite kind preferences padding.plain index offers).moved shift := by
  induction padding generalizing index elsewhere offers with
  | nil =>
      have here : shift index = elsewhere := shifts 0
      rw [← here]
      rfl
  | cons placement rest inductionHypothesis =>
      cases placement with
      | extra node inert =>
          rw [Padding.padded, recite_of_inert inert]
          refine inductionHypothesis apart ?_ offers
          intro place
          rw [shifts place, Padding.before]
          omega
      | own node =>
          obtain ⟨apartHere, apartLater⟩ := Bool.or_eq_false_iff.mp apart
          have here : shift index = elsewhere := shifts 0
          have onward : ∀ later, recite kind preferences (Padding.padded rest) (elsewhere + 1) later =
              (recite kind preferences (Padding.plain rest) (index + 1) later).moved shift := by
            refine inductionHypothesis apartLater ?_
            intro place
            have further := shifts (place + 1)
            rw [Padding.before] at further
            rw [show index + 1 + place = index + (place + 1) by omega, further]
            omega
          rw [Padding.padded, Padding.plain, recite, recite, ← Recital.perform_moved here]
          congr 1
          cases passage : node.passage kind with
          | onward => exact onward offers
          | ready =>
              subst here
              rfl
          | ended =>
              subst here
              rfl
          | offer choiceNode =>
              cases offers with
              | nil =>
                  subst here
                  rfl
              | cons offer later =>
                  have apartMarker : (Padding.startsExtra rest && markerFollows kind (Padding.plain rest)) = false := by
                    simpa [Node.offers_of_passage passage] using apartHere
                  obtain ⟨sameMarker, unmoved⟩ := Padding.markerFollows_padded apartMarker
                  have lands : Recital.landing kind preferences (elsewhere + 1) (Padding.padded rest)
                      ((recite kind preferences (Padding.plain rest) (index + 1) later).moved shift) =
                    (Recital.landing kind preferences (index + 1) (Padding.plain rest)
                      (recite kind preferences (Padding.plain rest) (index + 1) later)).moved shift := by
                    refine Recital.landing_moved sameMarker ?_
                    intro marked
                    rw [shifts 1, Padding.before, unmoved marked]
                  simp only [Passage.lead, Recital.resumed, onward later, lands,
                    Recital.perform_moved here, Recital.moved_after]

/-- A scene with a padding in the place of its nodes. -/
def Scenario.padded (scenario : Scenario) (padding : Padding) : Scenario :=
  { scenario with nodes := padding.padded }

/-- The recital of a whole scene with a padding. -/
theorem Scenario.recital_padded (scenario : Scenario) (preferences : Preferences) {padding : Padding}
    (same : padding.plain = scenario.nodes) (apart : padding.splits scenario.kind = false)
    (offers : List Offer) :
    (scenario.padded padding).recital preferences offers =
      (scenario.recital preferences offers).moved fun place => place + padding.before place := by
  obtain ⟨kind, header, nodes⟩ := scenario
  obtain rfl : padding.plain = nodes := same
  have recited : recite kind preferences padding.padded 0 offers =
      (recite kind preferences padding.plain 0 offers).moved fun place => place + padding.before place :=
    recite_padded padding apart (fun place => by rw [Nat.zero_add]) offers
  -- The wait before the first node is one that every clock holds, so its place is never a stop.
  cases kind <;> simp only [Scenario.recital, Scenario.padded, SceneKind.openingCues, recited] <;> rfl

end Recite

end Playthrough

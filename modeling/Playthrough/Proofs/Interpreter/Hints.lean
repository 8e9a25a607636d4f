import Mathlib.Algebra.Ring.Nat
import Playthrough.Proofs.Interpreter.Segments

/-!
Contract: hints that the clock can hold.

Owns: the hints of a scene, the least of them that the clock cannot hold, the waits of every pacing mode as
far as the clock holds them, and the absence of stuck recitals below the limit.

Does not own: what else a recital comes to.

Only an authored hint can ask for a wait that is too long. All other waits have fixed lengths or grow
with texts, and no text is that long.
-/

namespace Playthrough

/-- Every authored scene keeps its hints far below this. -/
def hintBound : Nat := 10 ^ 300

/-- A hint below the bound. -/
def HintFits (hint : Option Int) : Prop :=
  ∀ milliseconds ∈ hint, milliseconds < hintBound

/-- The least hint whose seconds are beyond the clock. -/
def hintLimit : Nat := 1000 * Duration.clockLimit

/-- A hint that the clock can hold. -/
def HintHolds (hint : Option Int) : Prop :=
  ∀ milliseconds ∈ hint, milliseconds < hintLimit

/-- The hints of a node. -/
def Node.hints : Node → List (Option Int)
  | .messages block => [block.responseHint]
  | .dialogue block => [block.reactionHint]
  | .choice node => node.options.map fun choice => choice.reactionHint
  | .narrative _ => []
  | .system _ => []
  | .foreign _ => []

/-- The hints of a scenario. -/
def Scenario.hints (scenario : Scenario) : List (Option Int) :=
  scenario.nodes.flatMap Node.hints

/-- Every hint of a scenario is below the bound. -/
def Scenario.HintsFit (scenario : Scenario) : Prop :=
  ∀ hint ∈ scenario.hints, HintFits hint

/-- The clock can hold every hint of a scenario. -/
def Scenario.HintsHold (scenario : Scenario) : Prop :=
  ∀ hint ∈ scenario.hints, HintHolds hint

theorem Scenario.HintsHold.of_node {scenario : Scenario} (holds : scenario.HintsHold) {node : Node}
    (member : node ∈ scenario.nodes) : ∀ hint ∈ node.hints, HintHolds hint :=
  fun hint hinted => holds hint (List.mem_flatMap.mpr ⟨node, member, hinted⟩)

/-! ## Lengths of waits -/

namespace Duration

theorem ofMilliseconds?_of_lt {milliseconds : Nat} (below : milliseconds < hintLimit) :
    ofMilliseconds? milliseconds = some ⟨milliseconds⟩ := if_pos below

theorem ofMilliseconds?_eq_some {milliseconds : Nat} {duration : Duration}
    (held : ofMilliseconds? milliseconds = some duration) : duration = ⟨milliseconds⟩ := by
  simp only [ofMilliseconds?] at held
  split at held
  · exact (Option.some.inj held).symm
  · cases held

theorem ofMilliseconds?_eq_none_iff {milliseconds : Nat} :
    ofMilliseconds? milliseconds = none ↔ hintLimit ≤ milliseconds := by
  simp [ofMilliseconds?, hintLimit]

end Duration

theorem beyond_natCast_iff {milliseconds : Nat} :
    (∃ hinted ∈ some (milliseconds : Int), (hintLimit : Int) ≤ hinted) ↔ hintLimit ≤ milliseconds := by
  simp only [Option.mem_some_iff, exists_eq_left', Int.ofNat_le]

theorem hintLimit_pos : 0 < hintLimit := by
  decide +kernel

/-- The clock holds far more than every authored scene asks for. -/
theorem hintBound_le : hintBound ≤ hintLimit := by
  decide +kernel

theorem HintFits.holds {hint : Option Int} (fits : HintFits hint) : HintHolds hint := by
  intro milliseconds hinted
  have below := fits milliseconds hinted
  have bound := hintBound_le
  omega

theorem Scenario.HintsFit.holds {scenario : Scenario} (fits : scenario.HintsFit) : scenario.HintsHold :=
  fun hint hinted => (fits hint hinted).holds

namespace Pacing

theorem positiveHint?_eq_some_iff {hint : Option Int} {milliseconds : Nat} :
    positiveHint? hint = some milliseconds ↔ hint = some (milliseconds : Int) ∧ 0 < milliseconds := by
  cases hint with
  | none => simp [positiveHint?]
  | some value =>
      simp only [positiveHint?]
      split
      · simp only [Option.some.injEq]
        omega
      · simp only [Option.some.injEq, reduceCtorEq, false_iff]
        omega

theorem below_of_positiveHint? {hint : Option Int} (holds : HintHolds hint) {milliseconds : Nat}
    (positive : positiveHint? hint = some milliseconds) : milliseconds < hintLimit := by
  obtain ⟨rfl, -⟩ := positiveHint?_eq_some_iff.mp positive
  exact Int.ofNat_lt.mp (holds _ rfl)

theorem reactionLength_lt : reactionLength.natAbs < Duration.clockLimit := by
  decide +kernel

/-- The wait for a short text is there in every mode. -/
theorem text_reactionLength (pacing : Pacing) :
    pacing.text reactionLength = some (pacing.forText reactionLength.natAbs) :=
  text_eq_forText pacing reactionLength_lt

/-- The clock can hold every reaction to a hint that it can hold. -/
theorem reaction_of_holds (pacing : Pacing) {hint : Option Int} (holds : HintHolds hint) :
    ∃ duration, reaction pacing hint = some duration := by
  simp only [reaction]
  cases positive : positiveHint? hint with
  | none => exact ⟨_, pacing.text_reactionLength⟩
  | some milliseconds =>
      simp only [Duration.ofMilliseconds?_of_lt (below_of_positiveHint? holds positive)]
      by_cases fast : pacing = .fast
      · exact ⟨_, if_pos fast⟩
      · exact ⟨_, if_neg fast⟩

/-- The clock can hold every pause that is scripted with a hint that it can hold. -/
theorem scripted_of_holds (pacing : Pacing) {hint : Option Int} (holds : HintHolds hint) :
    ∃ duration, scripted pacing hint = some duration := by
  unfold scripted
  cases positive : positiveHint? hint with
  | none => cases pacing <;> exact ⟨.zero, rfl⟩
  | some milliseconds =>
      cases pacing with
      | fast => exact ⟨.zero, rfl⟩
      | medium => exact ⟨.zero, rfl⟩
      | native =>
          simp only [Duration.ofMilliseconds?_of_lt (below_of_positiveHint? holds positive)]
          exact ⟨_, rfl⟩

/-! ### The policy -/

theorem positiveHint?_eq_none_iff {hint : Option Int} :
    positiveHint? hint = none ↔ ∀ milliseconds ∈ hint, milliseconds ≤ 0 := by
  cases hint <;> simp [positiveHint?]

theorem nativeText_bounds (characters : Int) :
    shortestText ≤ (nativeText characters).milliseconds
      ∧ (nativeText characters).milliseconds ≤ longestText := by
  have ordered : shortestText ≤ longestText := by decide
  simp only [nativeText]
  omega

theorem nativeText_mono {fewer more : Int} (le : fewer ≤ more) :
    (nativeText fewer).milliseconds ≤ (nativeText more).milliseconds := by
  simp only [nativeText, perCharacter]
  omega

theorem text_eq_none_iff {pacing : Pacing} {characters : Int} :
    pacing.text characters = none ↔ pacing = .native ∧ Duration.clockLimit ≤ characters.natAbs := by
  cases pacing <;> simp [text]

theorem reaction_eq_none_iff {pacing : Pacing} {hint : Option Int} :
    pacing.reaction hint = none ↔ pacing ≠ .fast ∧ ∃ milliseconds ∈ hint, (hintLimit : Int) ≤ milliseconds := by
  simp only [reaction]
  cases positive : positiveHint? hint with
  | none =>
      have small := positiveHint?_eq_none_iff.mp positive
      simp only [text_reactionLength, reduceCtorEq, false_iff, not_and, not_exists]
      intro _ milliseconds hinted
      have room := hintLimit_pos
      have below := small milliseconds hinted
      omega
  | some milliseconds =>
      obtain ⟨rfl, -⟩ := positiveHint?_eq_some_iff.mp positive
      rw [beyond_natCast_iff, ← Duration.ofMilliseconds?_eq_none_iff]
      cases pacing <;> simp

theorem scripted_of_no_hint {pacing : Pacing} {hint : Option Int} (absent : positiveHint? hint = none) :
    pacing.scripted hint = some .zero := by
  unfold scripted
  rw [absent]
  cases pacing <;> rfl

theorem scripted_of_not_native {pacing : Pacing} (other : pacing ≠ .native) (hint : Option Int) :
    pacing.scripted hint = some .zero := by
  cases pacing with
  | fast => rfl
  | medium => rfl
  | native => exact absurd rfl other

theorem scripted_native {hint : Option Int} {milliseconds : Nat}
    (positive : positiveHint? hint = some milliseconds) : scripted .native hint =
      (Duration.ofMilliseconds? milliseconds).map fun duration => duration.atMost longestScripted := by
  unfold scripted
  rw [positive]

theorem scripted_eq_none_iff {pacing : Pacing} {hint : Option Int} :
    pacing.scripted hint = none ↔ pacing = .native ∧ ∃ milliseconds ∈ hint, (hintLimit : Int) ≤ milliseconds := by
  by_cases native : pacing = .native
  · subst native
    simp only [true_and]
    cases positive : positiveHint? hint with
    | none =>
        rw [scripted_of_no_hint positive]
        refine ⟨nofun, ?_⟩
        rintro ⟨milliseconds, hinted, large⟩
        have small := positiveHint?_eq_none_iff.mp positive milliseconds hinted
        have room := hintLimit_pos
        omega
    | some milliseconds =>
        obtain ⟨rfl, -⟩ := positiveHint?_eq_some_iff.mp positive
        rw [scripted_native positive, Option.map_eq_none_iff, Duration.ofMilliseconds?_eq_none_iff,
          beyond_natCast_iff]
  · rw [scripted_of_not_native native]
    simp only [reduceCtorEq, native, false_and]

/-- A scripted pause is short, and there is one under native pacing alone. -/
theorem scripted_bounds {pacing : Pacing} {hint : Option Int} {duration : Duration}
    (given : pacing.scripted hint = some duration) : duration.milliseconds ≤ longestScripted.milliseconds
      ∧ (0 < duration.milliseconds ↔ pacing = .native ∧ ∃ milliseconds ∈ hint, 0 < milliseconds) := by
  by_cases native : pacing = .native
  · subst native
    simp only [true_and]
    cases positive : positiveHint? hint with
    | none =>
        rw [scripted_of_no_hint positive] at given
        cases given
        refine ⟨Nat.zero_le _, nofun, ?_⟩
        rintro ⟨milliseconds, hinted, above⟩
        have small := positiveHint?_eq_none_iff.mp positive milliseconds hinted
        omega
    | some milliseconds =>
        obtain ⟨rfl, above⟩ := positiveHint?_eq_some_iff.mp positive
        rw [scripted_native positive, Option.map_eq_some_iff] at given
        obtain ⟨whole, same, rfl⟩ := given
        have length := Duration.ofMilliseconds?_eq_some same
        subst length
        refine ⟨Nat.min_le_right _ _, fun _ => ⟨_, rfl, Int.ofNat_lt.mpr above⟩, fun _ => ?_⟩
        exact Nat.lt_min.mpr ⟨above, by decide⟩
  · rw [scripted_of_not_native native] at given
    cases given
    exact ⟨Nat.zero_le _, nofun, fun both => absurd both.1 native⟩

/-- The waits of a pacing mode: bounded, and there unless the clock cannot hold what they are computed
from. -/
structure Bounded (pacing : Pacing) : Prop where
  text_none : ∀ characters, pacing.text characters = none ↔
    pacing = .native ∧ Duration.clockLimit ≤ characters.natAbs
  text_native : pacing = .native → ∀ characters, ∀ duration ∈ pacing.text characters,
    800 ≤ duration.milliseconds ∧ duration.milliseconds ≤ 7000
  text_grows : ∀ fewer more, fewer ≤ more → ∀ short ∈ pacing.text fewer, ∀ long ∈ pacing.text more,
    short.milliseconds ≤ long.milliseconds
  reaction_none : ∀ hint, pacing.reaction hint = none ↔
    pacing ≠ .fast ∧ ∃ milliseconds ∈ hint, (hintLimit : Int) ≤ milliseconds
  reaction_unhinted : ∀ hint : Option Int, (∀ milliseconds ∈ hint, milliseconds ≤ 0) →
    pacing.reaction hint = pacing.text 20
  reaction_held : ∀ hint, ∀ duration ∈ pacing.reaction hint, duration.milliseconds < hintLimit
  scripted_none : ∀ hint, pacing.scripted hint = none ↔
    pacing = .native ∧ ∃ milliseconds ∈ hint, (hintLimit : Int) ≤ milliseconds
  scripted_short : ∀ hint, ∀ duration ∈ pacing.scripted hint, duration.milliseconds ≤ 8000
    ∧ (0 < duration.milliseconds ↔ pacing = .native ∧ ∃ milliseconds ∈ hint, 0 < milliseconds)

theorem forText_le (pacing : Pacing) (characters : Nat) :
    (pacing.forText characters).milliseconds ≤ longestText := by
  cases pacing with
  | fast => exact (show 150 ≤ longestText by decide)
  | medium => exact (show 2000 ≤ longestText by decide)
  | native => exact (nativeText_bounds characters).2

theorem bounded (pacing : Pacing) : pacing.Bounded where
  text_none _ := text_eq_none_iff
  text_native native characters duration given := by
    subst native
    simp only [text, Option.mem_def] at given
    split at given
    · cases given
      exact nativeText_bounds characters
    · cases given
  text_grows fewer more le short given long alsoGiven := by
    cases pacing with
    | fast => cases given; cases alsoGiven; exact Nat.le_refl _
    | medium => cases given; cases alsoGiven; exact Nat.le_refl _
    | native =>
        simp only [text, Option.mem_def] at given alsoGiven
        split at given
        · split at alsoGiven
          · cases given
            cases alsoGiven
            exact nativeText_mono le
          · cases alsoGiven
        · cases given
  reaction_none _ := reaction_eq_none_iff
  reaction_unhinted _ small := reaction_of_no_hint (positiveHint?_eq_none_iff.mpr small)
  reaction_held hint duration given := by
    have room : longestText < hintLimit := by decide +kernel
    simp only [reaction, Option.mem_def] at given
    split at given
    · rw [text_reactionLength] at given
      cases given
      exact Nat.lt_of_le_of_lt (forText_le _ _) room
    · split at given
      · cases given
        exact Nat.lt_trans (by decide) room
      · simp only [Duration.ofMilliseconds?] at given
        split at given
        · next below =>
            cases given
            exact below
        · cases given
  scripted_none _ := scripted_eq_none_iff
  scripted_short _ _ given := scripted_bounds given

end Pacing

/-! ## Scripts -/

/-- A script in which the clock can hold every wait. -/
def Cue.AllFit (cues : List Cue) : Prop :=
  ∀ held, Cue.wait none held ∉ cues

namespace Cue

theorem AllFit.append {first second : List Cue} (firstFits : AllFit first)
    (secondFits : AllFit second) : AllFit (first ++ second) := by
  intro held member
  rcases List.mem_append.mp member with inFirst | inSecond
  · exact firstFits held inFirst
  · exact secondFits held inSecond

theorem allFit_spoken (kind : EventKind) (pause : Duration) (texts : List String) :
    AllFit (spoken kind pause texts) := by
  intro held
  induction texts with
  | nil => simp [spoken]
  | cons text rest inductionHypothesis =>
      cases rest with
      | nil => simp [spoken]
      | cons other others => simpa [spoken, beat] using inductionHypothesis

theorem allFit_typed (kind : EventKind) (pause : Duration) (texts : List String) :
    AllFit (typed kind pause texts) := by
  intro held
  induction texts with
  | nil => simp [typed]
  | cons text rest inductionHypothesis => simpa [typed, beat] using inductionHypothesis

theorem allFit_beat (duration : Duration) : AllFit [beat duration] := by
  intro held
  simp [beat]

theorem allFit_hold (threshold duration : Duration) : AllFit [hold threshold (some duration)] := by
  intro held
  simp [hold]

theorem allFit_scripted (duration : Duration) : AllFit (scripted (some duration)) := by
  intro held
  simp only [scripted]
  split <;> simp

end Cue

section Scripts

variable (kind : SceneKind) (preferences : Preferences)

theorem NarrativeBlock.allFit_cues (block : NarrativeBlock) :
    Cue.AllFit (block.cues preferences) := by
  intro held
  simp only [NarrativeBlock.cues]
  cases block.description <;> simp [Cue.beat]

theorem MessageBlock.allFit_cues {block : MessageBlock} (holds : HintHolds block.responseHint) :
    Cue.AllFit (block.cues preferences) := by
  obtain ⟨duration, scripted⟩ := preferences.pacing.scripted_of_holds holds
  simp only [MessageBlock.cues, scripted]
  split
  · intro held
    simp
  · split
    · exact (Cue.allFit_spoken _ _ _).append (Cue.allFit_scripted duration)
    · exact (Cue.allFit_hold _ _).append (Cue.allFit_spoken _ _ _)

theorem DialogueBlock.allFit_cues {block : DialogueBlock} (holds : HintHolds block.reactionHint) :
    Cue.AllFit (block.cues preferences) := by
  obtain ⟨duration, reaction⟩ := preferences.pacing.reaction_of_holds holds
  simp only [DialogueBlock.cues, reaction]
  refine Cue.AllFit.append (Cue.AllFit.append ?_ ?_) (Cue.allFit_spoken _ _ _)
  · intro held
    cases block.action <;> simp [Cue.beat]
  · split
    · intro held
      simp
    · exact Cue.allFit_hold _ _

theorem Node.allFit_cues {node : Node} (holds : ∀ hint ∈ node.hints, HintHolds hint) :
    Cue.AllFit (node.cues kind preferences) := by
  cases node with
  | narrative block => exact block.allFit_cues preferences
  | messages block =>
      exact (MessageBlock.allFit_cues preferences (holds _ (by simp [hints]))).append
        (Cue.allFit_beat _)
  | dialogue block =>
      exact (DialogueBlock.allFit_cues preferences (holds _ (by simp [hints]))).append
        (Cue.allFit_beat _)
  | choice node =>
      intro held
      simp [cues]
  | system event =>
      intro held
      simp only [cues]
      split
      · simp [Cue.beat]
      · split <;> simp [Cue.beat]
  | foreign node =>
      intro held
      simp [cues]

theorem Choice.allFit_narrativeCues (choice : Choice) :
    Cue.AllFit (choice.narrativeCues preferences) := by
  intro held
  simp only [Choice.narrativeCues]
  cases choice.narrative <;> simp [Cue.beat]

theorem Choice.allFit_cues {choice : Choice} (holds : HintHolds choice.reactionHint) :
    Cue.AllFit (choice.cues kind preferences) := by
  obtain ⟨duration, reaction⟩ := preferences.pacing.reaction_of_holds holds
  have narrated := choice.allFit_narrativeCues preferences
  cases kind with
  | text =>
      obtain ⟨typing, typed⟩ : ∃ typing, choice.typing preferences
          (Cue.lines preferences.language choice.lines) = some typing := by
        simp only [Choice.typing, reaction]
        split
        · exact ⟨_, rfl⟩
        · exact ⟨_, rfl⟩
      simp only [Choice.cues, typed]
      refine (narrated.append ?_).append (Cue.allFit_beat _)
      split
      · intro held
        simp
      · exact (Cue.allFit_hold _ _).append (Cue.allFit_typed _ _ _)
  | encounter =>
      simp only [Choice.cues, reaction]
      exact (Cue.allFit_hold _ _).append
        ((narrated.append (Cue.allFit_spoken _ _ _)).append (Cue.allFit_beat _))

end Scripts

/-! ## Recitals -/

/-- A recital that comes to a proper stop. -/
def Recital.Flows (recital : Recital) : Prop :=
  ∀ index, recital.halt ≠ .stuck index

theorem Recital.Flows.after {recital : Recital} (flows : recital.Flows) (marks : List Mark) :
    (recital.after marks).Flows := flows

theorem Recital.flows_perform {kind : SceneKind} {index : Nat} {rest : Recital} {cues : List Cue}
    (fits : Cue.AllFit cues) (flows : rest.Flows) : (Recital.perform kind index rest cues).Flows := by
  induction cues with
  | nil => exact flows
  | cons cue cues inductionHypothesis =>
      have restFits : Cue.AllFit cues := fun held member =>
        fits held (List.mem_cons_of_mem cue member)
      cases cue with
      | event event => exact (inductionHypothesis restFits).after _
      | wait duration held =>
          cases duration with
          | none => exact absurd List.mem_cons_self (fits held)
          | some duration => exact (inductionHypothesis restFits).after _

theorem Recital.flows_silent {halt : Halt} (proper : ∀ index, halt ≠ .stuck index) :
    (Recital.silent halt).Flows := proper

section Recite

variable {kind : SceneKind} {preferences : Preferences}

theorem flows_landing {index : Nat} {rest : List Node} {walked : Recital} (flows : walked.Flows) :
    (Recital.landing kind preferences index rest walked).Flows := by
  simp only [Recital.landing]
  split
  · exact Recital.flows_perform (Cue.allFit_beat _) (Recital.flows_silent (by simp))
  · exact flows

theorem allFit_branchCues {node : ChoiceNode} {tag : String}
    (holds : ∀ choice ∈ node.options, HintHolds choice.reactionHint) :
    Cue.AllFit (branchCues kind preferences (node.find? tag)) := by
  cases found : node.find? tag with
  | none =>
      intro held
      simp [branchCues]
  | some choice =>
      have member : choice ∈ node.options := List.mem_of_find?_eq_some found
      exact Choice.allFit_cues kind preferences (holds choice member)

/-- With hints that the clock can hold a recital always comes to a proper stop. -/
theorem flows_recite {nodes : List Node} (holds : ∀ node ∈ nodes, ∀ hint ∈ node.hints, HintHolds hint)
    (index : Nat) (offers : List Offer) : (recite kind preferences nodes index offers).Flows := by
  induction nodes generalizing index offers with
  | nil => exact Recital.flows_silent (by simp)
  | cons node rest inductionHypothesis =>
      have nodeHolds := holds node List.mem_cons_self
      have restFlows := inductionHypothesis fun other member =>
        holds other (List.mem_cons_of_mem node member)
      refine Recital.flows_perform (Node.allFit_cues kind preferences nodeHolds) ?_
      cases passage : node.passage kind with
      | onward => exact restFlows _ _
      | ready => exact Recital.flows_silent (by simp)
      | ended => exact Recital.flows_silent (by simp)
      | offer choiceNode =>
          cases offers with
          | nil => exact Recital.flows_silent (by simp)
          | cons offer later =>
              obtain ⟨isChoice, -⟩ := Node.eq_choice_of_passage passage
              refine (Recital.flows_perform (allFit_branchCues ?_)
                (flows_landing (restFlows _ _))).after _
              intro choice member
              refine nodeHolds _ ?_
              rw [isChoice]
              exact List.mem_map_of_mem member

end Recite

/-- With hints below the bound the recital of a scene always comes to a proper stop. -/
theorem Scenario.flows_recital {scenario : Scenario} (fits : scenario.HintsFit)
    (preferences : Preferences) (offers : List Offer) :
    (scenario.recital preferences offers).Flows := by
  refine (Recital.flows_perform ?_ (flows_recite (fun _ => fits.holds.of_node) 0 offers)).after _
  intro held
  rcases scenario.kind.text_or_encounter with text | encounter
  · simp [text, SceneKind.openingCues]
  · simp [encounter, SceneKind.openingCues, Cue.beat]

end Playthrough

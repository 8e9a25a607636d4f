import Mathlib.Algebra.Ring.Int.Defs
import Playthrough.Proofs.Interpreter.Hints

/-!
Contract: one scene, heard with two settings.

Owns: what two lists of marks have in common when one scene is heard with different preferences
(`Mark.Alike`), and that its recitals have it from stop to stop and stop at the same places.

Does not own: tasks and turns.

The settings choose texts and lengths of waits. Whether a wait is there at all may depend on the pacing,
since a pause without length is left out; with two fast or two medium runs it does not, and neither
does the language matter to a wait.
-/

namespace Playthrough

/-! ## What is told by marks -/

/-- What an event is, whatever its text says. -/
def SceneEvent.manner (event : SceneEvent) : EventKind × Option Tier := (event.kind, event.tier)

/-- The wait that a mark tells of. -/
def Mark.wait? : Mark → Option (Duration × List Indicator)
  | .waited duration indicators => some (duration, indicators)
  | _ => none

/-- The points that a mark tells of. -/
def Mark.award? : Mark → Option Int
  | .awarded points => some points
  | _ => none

/-- The waits among marks. -/
def Mark.waits (marks : List Mark) : List (Duration × List Indicator) := marks.filterMap Mark.wait?

/-- The sum of the points among marks. -/
def Mark.points (marks : List Mark) : Int := (marks.filterMap Mark.award?).sum

section Projections

variable (first second : List Mark)

theorem Mark.events_append : Mark.events (first ++ second) = Mark.events first ++ Mark.events second :=
  List.filterMap_append

theorem Mark.waits_append : Mark.waits (first ++ second) = Mark.waits first ++ Mark.waits second :=
  List.filterMap_append

theorem Mark.points_append : Mark.points (first ++ second) = Mark.points first + Mark.points second := by
  simp [Mark.points]

end Projections

/-- What two runs of one scene have in common: the kinds of their events and the points, the texts when
they are in one language, and the waits when both are fast or both are medium. -/
structure Mark.Alike (first second : Preferences) (marks others : List Mark) : Prop where
  manners : (Mark.events marks).map SceneEvent.manner = (Mark.events others).map SceneEvent.manner
  points : Mark.points marks = Mark.points others
  events : first.language = second.language → Mark.events marks = Mark.events others
  waits : first.pacing = second.pacing → first.pacing ≠ .native → Mark.waits marks = Mark.waits others

variable {first second : Preferences} {told others : List Mark}

namespace Mark.Alike

theorem refl (marks : List Mark) : Alike first second marks marks :=
  ⟨rfl, rfl, fun _ => rfl, fun _ _ => rfl⟩

theorem append {more further : List Mark} (alike : Alike first second told others)
    (also : Alike first second more further) :
    Alike first second (told ++ more) (others ++ further) where
  manners := by
    rw [Mark.events_append, Mark.events_append, List.map_append, List.map_append, alike.manners,
      also.manners]
  points := by rw [Mark.points_append, Mark.points_append, alike.points, also.points]
  events sameLanguage := by
    rw [Mark.events_append, Mark.events_append, alike.events sameLanguage, also.events sameLanguage]
  waits samePacing steady := by
    rw [Mark.waits_append, Mark.waits_append, alike.waits samePacing steady,
      also.waits samePacing steady]

/-- One text, in the language of each run. -/
theorem said (kind : EventKind) (text : Localized) :
    Alike first second [.shown (.plain kind (text.resolve first.language))]
      [.shown (.plain kind (text.resolve second.language))] where
  manners := rfl
  points := rfl
  events sameLanguage := by rw [sameLanguage]
  waits _ _ := rfl

/-- Waits that are the same when both runs are fast or both are medium. -/
theorem waited (silent : Mark.events told = []) (othersSilent : Mark.events others = [])
    (unpaid : Mark.points told = 0) (othersUnpaid : Mark.points others = 0)
    (same : first.pacing = second.pacing → first.pacing ≠ .native → told = others) :
    Alike first second told others where
  manners := by rw [silent, othersSilent]
  points := unpaid.trans othersUnpaid.symm
  events _ := silent.trans othersSilent.symm
  waits samePacing steady := by rw [same samePacing steady]

end Mark.Alike

/-! ## Scripts that the clock can hold -/

/-- The mark that a cue leaves, when the clock can hold it. -/
def Cue.mark? (kind : SceneKind) : Cue → Option Mark
  | .event shown => some (.shown shown)
  | .wait none _ => none
  | .wait (some duration) held => some (.waited duration (if held then [kind.indicator] else []))

/-- The marks of a script. -/
def Cue.marks (kind : SceneKind) (cues : List Cue) : List Mark := cues.filterMap (Cue.mark? kind)

theorem Cue.marks_append (kind : SceneKind) (cues more : List Cue) :
    Cue.marks kind (cues ++ more) = Cue.marks kind cues ++ Cue.marks kind more :=
  List.filterMap_append

/-- A script that the clock can hold leaves its marks before whatever comes after it. -/
theorem Recital.perform_of_allFit (kind : SceneKind) (index : Nat) (rest : Recital) {cues : List Cue}
    (fits : Cue.AllFit cues) : Recital.perform kind index rest cues = rest.after (Cue.marks kind cues) := by
  induction cues with
  | nil => rfl
  | cons cue cues inductionHypothesis =>
      have restFits : Cue.AllFit cues := fun held member =>
        fits held (List.mem_cons_of_mem cue member)
      cases cue with
      | event event => rw [Recital.perform, inductionHypothesis restFits, Recital.after_after]; rfl
      | wait duration held =>
          cases duration with
          | none => exact absurd List.mem_cons_self (fits held)
          | some duration =>
              rw [Recital.perform, inductionHypothesis restFits, Recital.after_after]
              rfl

/-- Two scripts that leave marks with everything in common that two runs have in common. -/
def Cue.Alike (first second : Preferences) (kind : SceneKind) (cues others : List Cue) : Prop :=
  Mark.Alike first second (Cue.marks kind cues) (Cue.marks kind others)

namespace Cue.Alike

variable {kind : SceneKind} {cues other more further : List Cue}

theorem refl (cues : List Cue) : Cue.Alike first second kind cues cues := Mark.Alike.refl _

theorem append (alike : Cue.Alike first second kind cues other)
    (also : Cue.Alike first second kind more further) :
    Cue.Alike first second kind (cues ++ more) (other ++ further) := by
  rw [Cue.Alike, Cue.marks_append, Cue.marks_append]
  exact Mark.Alike.append alike also

theorem said (eventKind : EventKind) (text : Localized) :
    Cue.Alike first second kind [.event (.plain eventKind (text.resolve first.language))]
      [.event (.plain eventKind (text.resolve second.language))] := Mark.Alike.said eventKind text

theorem events_wait (kind : SceneKind) (duration : Option Duration) (held : Bool) :
    Mark.events (Cue.marks kind [.wait duration held]) = []
      ∧ Mark.points (Cue.marks kind [.wait duration held]) = 0 := by
  cases duration <;> exact ⟨rfl, rfl⟩

/-- One wait, of a length that the pacing gives. -/
theorem waited {duration otherDuration : Option Duration} {held otherHeld : Bool}
    (same : first.pacing = second.pacing → first.pacing ≠ .native →
      Cue.wait duration held = .wait otherDuration otherHeld) :
    Cue.Alike first second kind [.wait duration held] [.wait otherDuration otherHeld] := by
  obtain ⟨silent, unpaid⟩ := events_wait kind duration held
  obtain ⟨othersSilent, othersUnpaid⟩ := events_wait kind otherDuration otherHeld
  refine Mark.Alike.waited silent othersSilent unpaid othersUnpaid ?_
  intro samePacing steady
  rw [same samePacing steady]

/-- One beat, of a length that the pacing gives. -/
theorem beat {duration otherDuration : Duration}
    (same : first.pacing = second.pacing → first.pacing ≠ .native → duration = otherDuration) :
    Cue.Alike first second kind [Cue.beat duration] [Cue.beat otherDuration] := by
  refine waited fun samePacing steady => ?_
  rw [same samePacing steady]

/-- One wait that is shown above a threshold, of a length that the pacing gives. -/
theorem hold (threshold : Duration) {duration otherDuration : Option Duration}
    (same : first.pacing = second.pacing → first.pacing ≠ .native → duration = otherDuration) :
    Cue.Alike first second kind [Cue.hold threshold duration] [Cue.hold threshold otherDuration] := by
  have alike : ∀ wait : Option Duration, ∃ given held, Cue.hold threshold wait = .wait given held := by
    intro wait
    cases wait <;> exact ⟨_, _, rfl⟩
  obtain ⟨given, held, holds⟩ := alike duration
  obtain ⟨otherGiven, otherHeld, otherHolds⟩ := alike otherDuration
  rw [holds, otherHolds]
  refine waited fun samePacing steady => ?_
  rw [← holds, ← otherHolds, same samePacing steady]

end Cue.Alike

/-! ## Pacing -/

/-- A pacing that is not native takes the same time for every text. -/
theorem Pacing.forText_of_steady {pacing : Pacing} (steady : pacing ≠ .native) (length other : Nat) :
    pacing.forText length = pacing.forText other := by
  cases pacing with
  | fast => rfl
  | medium => rfl
  | native => exact absurd rfl steady

/-- The time for a text of each run, as both pacings have it. -/
theorem Pacing.forText_same (samePacing : first.pacing = second.pacing) (steady : first.pacing ≠ .native)
    (length other : Nat) : first.pacing.forText length = second.pacing.forText other := by
  rw [← samePacing]
  exact Pacing.forText_of_steady steady length other

/-! ## The scripts of nodes and branches -/

namespace Cue

theorem lines_isEmpty (language : Language) (texts : Option (List Localized)) :
    (lines language texts).isEmpty = (texts.getD []).isEmpty := by
  simp [lines]

theorem alike_spoken (kind : SceneKind) (eventKind : EventKind) (pause : Duration)
    (texts : List Localized) :
    Cue.Alike first second kind
      (spoken eventKind pause (texts.map fun text => text.resolve first.language))
      (spoken eventKind pause (texts.map fun text => text.resolve second.language)) := by
  induction texts with
  | nil => exact .refl []
  | cons text rest inductionHypothesis =>
      cases rest with
      | nil => exact .said eventKind text
      | cons other others =>
          exact (Alike.said eventKind text).append ((Alike.refl [beat pause]).append inductionHypothesis)

theorem alike_typed (kind : SceneKind) (eventKind : EventKind) (pause : Duration)
    (texts : List Localized) :
    Cue.Alike first second kind
      (typed eventKind pause (texts.map fun text => text.resolve first.language))
      (typed eventKind pause (texts.map fun text => text.resolve second.language)) := by
  induction texts with
  | nil => exact .refl []
  | cons text rest inductionHypothesis =>
      exact (Alike.refl [beat pause]).append ((Alike.said eventKind text).append inductionHypothesis)

/-- A scripted pause may be there in one run only, where it is not both fast or both medium. -/
theorem alike_scripted (kind : SceneKind) (hint : Option Int) :
    Cue.Alike first second kind (scripted (first.pacing.scripted hint))
      (scripted (second.pacing.scripted hint)) := by
  have pause : ∀ wait : Option Duration, Mark.events (marks kind (scripted wait)) = []
      ∧ Mark.points (marks kind (scripted wait)) = 0 := by
    intro wait
    cases wait with
    | none => exact ⟨rfl, rfl⟩
    | some duration =>
        simp only [scripted]
        split <;> exact ⟨rfl, rfl⟩
  refine Mark.Alike.waited (pause _).1 (pause _).1 (pause _).2 (pause _).2 ?_
  intro samePacing _
  rw [samePacing]

end Cue

section Scripts

variable (kind : SceneKind)

theorem NarrativeBlock.alike_cues (block : NarrativeBlock) :
    Cue.Alike first second kind (block.cues first) (block.cues second) := by
  simp only [NarrativeBlock.cues]
  cases block.description with
  | none => exact .refl []
  | some description =>
      exact (Cue.Alike.said .narrative description).append
        (.beat fun samePacing steady => Pacing.forText_same samePacing steady _ _)

theorem MessageBlock.alike_cues (block : MessageBlock) :
    Cue.Alike first second kind (block.cues first) (block.cues second) := by
  simp only [MessageBlock.cues, Cue.lines_isEmpty]
  split
  · exact .refl []
  · split
    · exact (Cue.alike_spoken kind .player Beat.playerLine _).append (Cue.alike_scripted kind _)
    · refine (Cue.Alike.hold .zero ?_).append (Cue.alike_spoken kind .npc Beat.npcLine _)
      intro samePacing steady
      rw [Pacing.forText_same samePacing steady]

theorem DialogueBlock.alike_cues (block : DialogueBlock) :
    Cue.Alike first second kind (block.cues first) (block.cues second) := by
  simp only [DialogueBlock.cues]
  refine Cue.Alike.append (Cue.Alike.append ?_ ?_) (Cue.alike_spoken kind _ Beat.npcLine _)
  · cases block.action with
    | none => exact .refl []
    | some action => exact (Cue.Alike.said .action action).append (.refl [Cue.beat Beat.action])
  · split
    · exact .refl []
    · refine .hold _ ?_
      intro samePacing _
      rw [samePacing]

/-- The scripts of a node leave alike marks. -/
theorem Node.alike_cues (node : Node) :
    Cue.Alike first second kind (node.cues kind first) (node.cues kind second) := by
  have marker : Cue.Alike first second kind [Cue.beat first.pacing.marker]
      [Cue.beat second.pacing.marker] := by
    refine .beat ?_
    intro samePacing _
    rw [samePacing]
  cases node with
  | narrative block => exact block.alike_cues kind
  | messages block =>
      refine (block.alike_cues kind).append ?_
      split
      · exact marker
      · exact .refl _
  | dialogue block => exact (block.alike_cues kind).append (.refl _)
  | choice node => exact .refl []
  | system event =>
      simp only [cues]
      split
      · exact marker
      · split
        · refine (Cue.Alike.beat ?_).append ((Cue.Alike.said .system _).append (.beat ?_))
          · intro samePacing _
            rw [samePacing]
          · intro samePacing _
            rw [samePacing]
        · exact .refl []
  | foreign node => exact .refl []

theorem Choice.alike_narrativeCues (choice : Choice) :
    Cue.Alike first second kind (choice.narrativeCues first) (choice.narrativeCues second) := by
  simp only [Choice.narrativeCues]
  cases choice.narrative with
  | none => exact .refl []
  | some narrative => exact (Cue.Alike.said .action narrative).append (.refl [Cue.beat Beat.branchNarrative])

/-- The branches of a choice leave alike marks. -/
theorem Choice.alike_cues (choice : Choice) :
    Cue.Alike first second kind (choice.cues kind first) (choice.cues kind second) := by
  cases kind with
  | text =>
      simp only [Choice.cues, Cue.lines_isEmpty]
      refine Cue.Alike.append (Cue.Alike.append (choice.alike_narrativeCues .text) ?_) (.refl _)
      split
      · exact .refl []
      · refine (Cue.Alike.hold .zero ?_).append (Cue.alike_typed .text .npc Beat.branchMessage _)
        intro samePacing steady
        simp only [Choice.typing, samePacing]
        split
        · rw [samePacing] at steady
          rw [Pacing.forText_of_steady steady]
        · rfl
  | encounter =>
      simp only [Choice.cues]
      refine (Cue.Alike.hold Beat.branchThinking ?_).append
        (Cue.Alike.append ((choice.alike_narrativeCues .encounter).append
          (Cue.alike_spoken .encounter .npc Beat.branchLine _)) (.refl _))
      intro samePacing _
      rw [samePacing]

end Scripts

/-! ## Recitals -/

/-- Two recitals that stop at the same place and leave alike marks. -/
structure Recital.Alike (first second : Preferences) (recital other : Recital) : Prop where
  halt : recital.halt = other.halt
  marks : Mark.Alike first second recital.marks other.marks

namespace Recital.Alike

variable {recital other : Recital}

theorem silent (halt : Halt) : Recital.Alike first second (.silent halt) (.silent halt) :=
  ⟨rfl, .refl []⟩

theorem after (alike : Recital.Alike first second recital other)
    (before : Mark.Alike first second told others) :
    Recital.Alike first second (recital.after told) (other.after others) :=
  ⟨alike.halt, before.append alike.marks⟩

/-- Scripts that leave alike marks, before recitals that do. -/
theorem perform {kind : SceneKind} {index : Nat} {cues further : List Cue}
    (alike : Recital.Alike first second recital other) (script : Cue.Alike first second kind cues further)
    (fits : Cue.AllFit cues) (furtherFits : Cue.AllFit further) :
    Recital.Alike first second (Recital.perform kind index recital cues)
      (Recital.perform kind index other further) := by
  rw [Recital.perform_of_allFit kind index _ fits, Recital.perform_of_allFit kind index _ furtherFits]
  exact alike.after script

end Recital.Alike

section Recite

variable {kind : SceneKind}

/-- The recitals of the same nodes are alike up to the first choice. -/
theorem alike_recite {nodes : List Node} (holds : ∀ node ∈ nodes, ∀ hint ∈ node.hints, HintHolds hint)
    (index : Nat) :
    Recital.Alike first second (recite kind first nodes index []) (recite kind second nodes index []) := by
  induction nodes generalizing index with
  | nil => exact .silent _
  | cons node rest inductionHypothesis =>
      have nodeHolds := holds node List.mem_cons_self
      have onward := inductionHypothesis (fun other member =>
        holds other (List.mem_cons_of_mem node member)) (index + 1)
      refine Recital.Alike.perform ?_ (node.alike_cues kind) (Node.allFit_cues kind first nodeHolds)
        (Node.allFit_cues kind second nodeHolds)
      cases node.passage kind with
      | onward => exact onward
      | offer choiceNode => exact .silent _
      | ready => exact .silent _
      | ended => exact .silent _

end Recite

namespace Scenario

variable {scenario : Scenario}

/-- The header is the same lines. -/
theorem alike_headerMarks (scenario : Scenario) :
    Mark.Alike first second (scenario.headerMarks first) (scenario.headerMarks second) := by
  simp only [headerMarks]
  induction scenario.header with
  | nil => exact .refl []
  | cons line lines inductionHypothesis => exact (Mark.Alike.said line.1 line.2).append inductionHypothesis

/-- What is heard of a scene after its header, up to its first stop. -/
def opening (scenario : Scenario) (preferences : Preferences) : Recital :=
  Recital.perform scenario.kind 0 (recite scenario.kind preferences scenario.nodes 0 [])
    (scenario.kind.openingCues preferences)

/-- Up to its first stop a scene is heard alike. -/
theorem alike_opening (fits : scenario.HintsFit) :
    Recital.Alike first second (scenario.opening first) (scenario.opening second) := by
  have opening : Cue.Alike first second scenario.kind (scenario.kind.openingCues first)
      (scenario.kind.openingCues second) := by
    rcases scenario.kind.text_or_encounter with text | encounter
    · rw [text]
      exact .refl []
    · rw [encounter]
      refine .beat ?_
      intro samePacing _
      rw [samePacing]
  have openingFits : ∀ preferences, Cue.AllFit (scenario.kind.openingCues preferences) := by
    intro preferences
    rcases scenario.kind.text_or_encounter with text | encounter
    · rw [text]
      intro held member
      cases member
    · rw [encounter]
      exact Cue.allFit_beat _
  have walked : Recital.Alike first second (recite scenario.kind first scenario.nodes 0 [])
      (recite scenario.kind second scenario.nodes 0 []) :=
    alike_recite (fun node member => fits.holds.of_node member) 0
  exact walked.perform opening (openingFits _) (openingFits _)

/-- After a choice a scene is heard alike up to its next stop. -/
theorem alike_continuation (fits : scenario.HintsFit) {place : Nat} {node : ChoiceNode}
    (here : scenario.nodes[place]? = some (.choice node)) (tag : String) :
    Recital.Alike first second (scenario.continuation first place (node.find? tag) [])
      (scenario.continuation second place (node.find? tag) []) := by
  have member : Node.choice node ∈ scenario.nodes := List.mem_of_getElem? here
  have branchFits : ∀ preferences,
      Cue.AllFit (branchCues scenario.kind preferences (node.find? tag)) := by
    intro preferences
    refine allFit_branchCues ?_
    intro choice chosen
    exact fits.holds.of_node member _ (List.mem_map_of_mem chosen)
  have branch : Cue.Alike first second scenario.kind
      (branchCues scenario.kind first (node.find? tag))
      (branchCues scenario.kind second (node.find? tag)) := by
    cases node.find? tag with
    | none => exact .refl []
    | some choice => exact choice.alike_cues scenario.kind
  have walked : Recital.Alike first second
      (recite scenario.kind first (scenario.nodes.drop (place + 1)) (place + 1) [])
      (recite scenario.kind second (scenario.nodes.drop (place + 1)) (place + 1) []) :=
    alike_recite (fun node member => fits.holds.of_node (List.mem_of_mem_drop member)) (place + 1)
  refine Recital.Alike.perform ?_ branch (branchFits first) (branchFits second)
  simp only [Recital.landing]
  split
  · refine Recital.Alike.perform (.silent _) (.beat ?_) (Cue.allFit_beat _) (Cue.allFit_beat _)
    intro samePacing _
    rw [samePacing]
  · exact walked

end Scenario

end Playthrough

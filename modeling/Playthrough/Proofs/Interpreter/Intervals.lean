import Playthrough.Proofs.Interpreter.Segments

/-!
Contract: why a scene waits.

Owns: the reasons for waits and when a wait holds the scene up (`Reason.holdsUp`), the waits of every
script with their reasons, the stretches of a scene that one task plays (`Part`), and that a recital
waits as its part foresees.

Does not own: who waits, and when.

A script says of each wait only whether it is shown. The reasons are told node by node beside the
scripts, up to the first node that stops the scene.
-/

namespace Playthrough

/-- Why a scene waits. -/
inductive Reason where
  /-- Before the first node of an encounter. -/
  | opening
  /-- Narration is read. -/
  | reading
  /-- The other side types the messages of a block. -/
  | typing
  /-- An authored pause after the player's own messages. -/
  | scripted
  /-- A speaker in a dialogue reacts. -/
  | reaction
  /-- The other side types the messages of a branch. -/
  | branchTyping
  /-- The other side reacts to a choice in an encounter. -/
  | branchReaction
  /-- Before and after the label of a system event. -/
  | label
  /-- Before a text scene can be left. -/
  | marker
  /-- A fixed beat between two lines, or after some. -/
  | beat
deriving DecidableEq, Repr

/-- Whether a wait of a length holds the scene up: typing always does, an authored pause when there is
any time to it, and a reaction when it is long. -/
def Reason.holdsUp (duration : Duration) : Reason → Bool
  | .typing => true
  | .branchTyping => true
  | .scripted => duration.exceeds .zero
  | .reaction => duration.exceeds Beat.dialogueThinking
  | .branchReaction => duration.exceeds Beat.branchThinking
  | _ => false

/-- A wait with its reason; there is no length where the clock cannot hold it. -/
structure Interval where
  reason : Reason
  duration : Option Duration
deriving DecidableEq, Repr

namespace Interval

/-- A fixed beat. -/
def beat (duration : Duration) : Interval := ⟨.beat, some duration⟩

/-- The beats between two of some texts. -/
def spoken (pause : Duration) (texts : List String) : List Interval :=
  List.replicate (texts.length - 1) (.beat pause)

/-- The beats before each of some texts. -/
def typed (pause : Duration) (texts : List String) : List Interval :=
  List.replicate texts.length (.beat pause)

/-- An authored pause, none when there is no time to it. -/
def scripted : Option Duration → List Interval
  | none => [⟨.scripted, none⟩]
  | some duration => if duration.exceeds .zero then [⟨.scripted, some duration⟩] else []

/-- What a script says of a wait: how long it is, and whether it is shown. -/
def wait (interval : Interval) : Option Duration × Bool :=
  (interval.duration,
    match interval.duration with
    | none => false
    | some duration => interval.reason.holdsUp duration)

/-- The waits that come of intervals in a scene of a kind, with what is shown. The scene ends at the
first one that the clock cannot hold. -/
def pauses (kind : SceneKind) : List Interval → List (Duration × List Indicator)
  | [] => []
  | ⟨_, none⟩ :: _ => []
  | ⟨reason, some duration⟩ :: rest =>
      (duration, if reason.holdsUp duration then [kind.indicator] else []) :: pauses kind rest

end Interval

/-! ## Scripts -/

section Scripts

variable (kind : SceneKind) (preferences : Preferences)

/-- The waits of a passage of narration. -/
def NarrativeBlock.intervals (block : NarrativeBlock) : List Interval :=
  match block.description with
  | none => []
  | some description =>
      let text := description.resolve preferences.language
      [⟨.reading, some (preferences.pacing.forText text.length)⟩]

/-- The waits of text messages. -/
def MessageBlock.intervals (block : MessageBlock) : List Interval :=
  let texts := Cue.lines preferences.language block.messages
  if texts.isEmpty then []
  else if block.isPlayer then
    Interval.spoken Beat.playerLine texts
      ++ Interval.scripted (preferences.pacing.scripted block.responseHint)
  else
    ⟨.typing, some (preferences.pacing.forText (Seat.totalLength texts))⟩
      :: Interval.spoken Beat.npcLine texts

/-- The waits of a dialogue. -/
def DialogueBlock.intervals (block : DialogueBlock) : List Interval :=
  (if block.action.isSome then [.beat Beat.action] else [])
    ++ (if block.isPlayer || block.reactionHint.isNone then []
      else [⟨.reaction, preferences.pacing.reaction block.reactionHint⟩])
    ++ Interval.spoken Beat.npcLine (Cue.lines preferences.language block.lines)

/-- The wait before a scene can be left. -/
def Preferences.markerInterval : Interval := ⟨.marker, some preferences.pacing.marker⟩

/-- The waits of a node. -/
def Node.intervals : Node → List Interval
  | .narrative block => block.intervals preferences
  | .messages block =>
      block.intervals preferences
        ++ [if kind.stopsAt block.event then preferences.markerInterval else .beat Beat.messagesEnd]
  | .dialogue block => block.intervals preferences ++ [.beat Beat.dialogueEnd]
  | .choice _ => []
  | .system event =>
      if kind.stopsAt event.event then [preferences.markerInterval]
      else
        match kind, event.label with
        | .text, some _ =>
            [⟨.label, some preferences.pacing.label.1⟩, ⟨.label, some preferences.pacing.label.2⟩]
        | _, _ => []
  | .foreign _ => []

/-- The waits of a branch. -/
def Choice.intervals (choice : Choice) : List Interval :=
  let texts := Cue.lines preferences.language choice.lines
  let narrative : List Interval :=
    if choice.narrative.isSome then [.beat Beat.branchNarrative] else []
  match kind with
  | .text =>
      narrative
        ++ (if texts.isEmpty then []
            else ⟨.branchTyping, choice.typing preferences texts⟩
              :: Interval.typed Beat.branchMessage texts)
        ++ [.beat Beat.branchEnd]
  | .encounter =>
      ⟨.branchReaction, preferences.pacing.reaction choice.reactionHint⟩
        :: (narrative ++ Interval.spoken Beat.branchLine texts ++ [.beat Beat.branchEnd])

/-- The waits of nodes, up to the first one that stops the scene. -/
def walkIntervals : List Node → List Interval
  | [] => []
  | node :: rest =>
      node.intervals kind preferences
        ++ match node.passage kind with
          | .onward => walkIntervals rest
          | _ => []

end Scripts

/-! ## Parts -/

/-- A stretch of a scene that one task plays: from the first node, or from a choice, to the next
stop. -/
inductive Part where
  | opening (preferences : Preferences)
  | answer (preferences : Preferences) (place : Nat) (choice : Option Choice)

namespace Part

variable (scenario : Scenario)

/-- What is heard of a part. -/
def recital : Part → Recital
  | .opening preferences =>
      Recital.perform scenario.kind 0
        (recite scenario.kind preferences scenario.nodes 0 [])
        (scenario.kind.openingCues preferences)
  | .answer preferences place choice => scenario.continuation preferences place choice []

/-- The waits of a part. -/
def intervals : Part → List Interval
  | .opening preferences =>
      (match scenario.kind with
        | .text => []
        | .encounter => [⟨.opening, some preferences.pacing.intro⟩])
        ++ walkIntervals scenario.kind preferences scenario.nodes
  | .answer preferences place choice =>
      let beyond := scenario.nodes.drop (place + 1)
      (choice.map fun choice => choice.intervals scenario.kind preferences).getD []
        ++ if markerFollows scenario.kind beyond then [preferences.markerInterval]
          else walkIntervals scenario.kind preferences beyond

end Part

/-! ## Waits of scripts -/

namespace Pacing

theorem forText_positive (pacing : Pacing) (characters : Nat) :
    0 < (pacing.forText characters).milliseconds := by
  cases pacing with
  | fast => exact Nat.succ_pos _
  | medium => exact Nat.succ_pos _
  | native =>
      simp only [forText, nativeText, shortestText, longestText]
      omega

theorem reaction_positive {pacing : Pacing} {hint : Option Int} {duration : Duration}
    (waits : pacing.reaction hint = some duration) : 0 < duration.milliseconds := by
  cases given : positiveHint? hint with
  | none =>
      have short : reactionLength.toNat < Duration.clockLimit := by decide +kernel
      have same : pacing.reaction hint = some (pacing.forText reactionLength.toNat) :=
        (reaction_of_no_hint given).trans (text_eq_forText pacing short)
      rw [same] at waits
      obtain rfl := Option.some.inj waits
      exact forText_positive _ _
  | some milliseconds =>
      have positive : 0 < milliseconds := by
        simp only [positiveHint?] at given
        split at given
        · cases given
        · split at given
          · next above =>
              obtain rfl := Option.some.inj given
              omega
          · cases given
      simp only [reaction, given] at waits
      split at waits
      · obtain rfl := Option.some.inj waits
        exact Nat.succ_pos _
      · simp only [Duration.ofMilliseconds?] at waits
        split at waits
        · obtain rfl := Option.some.inj waits
          exact positive
        · cases waits

end Pacing

theorem Choice.typing_positive {choice : Choice} {preferences : Preferences} {texts : List String}
    {duration : Duration} (waits : choice.typing preferences texts = some duration) :
    0 < duration.milliseconds := by
  simp only [Choice.typing] at waits
  split at waits
  · obtain rfl := Option.some.inj waits
    exact Pacing.forText_positive _ _
  · exact Pacing.reaction_positive waits

namespace Cue

/-- What a cue says of a wait. -/
def wait? : Cue → Option (Option Duration × Bool)
  | .event _ => none
  | .wait duration held => some (duration, held)

/-- The waits of a script. -/
def waits (cues : List Cue) : List (Option Duration × Bool) := cues.filterMap wait?

@[simp] theorem waits_nil : waits [] = [] := rfl

@[simp] theorem waits_event (event : SceneEvent) (cues : List Cue) :
    waits (.event event :: cues) = waits cues := rfl

@[simp] theorem waits_wait (duration : Option Duration) (held : Bool) (cues : List Cue) :
    waits (.wait duration held :: cues) = (duration, held) :: waits cues := rfl

@[simp] theorem waits_append (first second : List Cue) :
    waits (first ++ second) = waits first ++ waits second := List.filterMap_append

@[simp] theorem waits_beat (duration : Duration) (cues : List Cue) :
    waits (.beat duration :: cues) = (Interval.beat duration).wait :: waits cues := rfl

theorem waits_spoken (kind : EventKind) (pause : Duration) (texts : List String) :
    waits (spoken kind pause texts) = (Interval.spoken pause texts).map Interval.wait := by
  induction texts with
  | nil => rfl
  | cons text rest inductionHypothesis =>
      cases rest with
      | nil => rfl
      | cons other others =>
          simp only [spoken, waits_event, waits_beat, inductionHypothesis, Interval.spoken,
            List.length_cons, Nat.add_sub_cancel, List.replicate_succ, List.map_cons]

theorem waits_typed (kind : EventKind) (pause : Duration) (texts : List String) :
    waits (typed kind pause texts) = (Interval.typed pause texts).map Interval.wait := by
  induction texts with
  | nil => rfl
  | cons text rest inductionHypothesis =>
      simp only [typed, waits_event, waits_beat, inductionHypothesis, Interval.typed,
        List.length_cons, List.replicate_succ, List.map_cons]

/-- A wait that is shown when it exceeds a threshold, for a reason that says so. -/
theorem waits_hold {threshold : Duration} {wait : Option Duration} (reason : Reason) (cues : List Cue)
    (same : ∀ duration, wait = some duration →
      duration.exceeds threshold = reason.holdsUp duration) :
    waits (.hold threshold wait :: cues) = Interval.wait ⟨reason, wait⟩ :: waits cues := by
  cases wait with
  | none => rfl
  | some duration => simp only [hold, waits_wait, Interval.wait, same duration rfl]

theorem waits_scripted (wait : Option Duration) :
    waits (scripted wait) = (Interval.scripted wait).map Interval.wait := by
  cases wait with
  | none => rfl
  | some duration =>
      simp only [scripted, Interval.scripted]
      split
      · next exceeds =>
          simp [Interval.wait, Reason.holdsUp, exceeds]
      · rfl

end Cue

section Scripts

variable (kind : SceneKind) (preferences : Preferences)

theorem NarrativeBlock.waits_cues (block : NarrativeBlock) :
    Cue.waits (block.cues preferences) = (block.intervals preferences).map Interval.wait := by
  simp only [NarrativeBlock.cues, NarrativeBlock.intervals]
  cases block.description with
  | none => rfl
  | some description => rfl

theorem MessageBlock.waits_cues (block : MessageBlock) :
    Cue.waits (block.cues preferences) = (block.intervals preferences).map Interval.wait := by
  simp only [MessageBlock.cues, MessageBlock.intervals]
  split
  · rfl
  · split
    · rw [Cue.waits_append, Cue.waits_spoken, Cue.waits_scripted, List.map_append]
    · rw [Cue.waits_hold .typing, Cue.waits_spoken, List.map_cons]
      rintro duration ⟨⟩
      exact (Duration.exceeds_iff _ _).mpr (Pacing.forText_positive _ _)

theorem DialogueBlock.waits_cues (block : DialogueBlock) :
    Cue.waits (block.cues preferences) = (block.intervals preferences).map Interval.wait := by
  simp only [DialogueBlock.cues, DialogueBlock.intervals, Cue.waits_append, List.map_append,
    Cue.waits_spoken]
  congr 2
  · cases block.action <;> rfl
  · split
    · rfl
    · exact Cue.waits_hold _ [] fun _ _ => rfl

/-- The script of a node waits as its intervals say. -/
theorem Node.waits_cues (node : Node) :
    Cue.waits (node.cues kind preferences) = (node.intervals kind preferences).map Interval.wait := by
  cases node with
  | narrative block => exact block.waits_cues preferences
  | messages block =>
      simp only [Node.cues, Node.intervals]
      rw [Cue.waits_append, block.waits_cues, List.map_append]
      split <;> rfl
  | dialogue block =>
      simp only [Node.cues, Node.intervals]
      rw [Cue.waits_append, block.waits_cues, List.map_append]
      rfl
  | choice node => rfl
  | system event =>
      simp only [Node.cues, Node.intervals]
      split
      · rfl
      · rcases kind.text_or_encounter with rfl | rfl
        · cases event.label <;> rfl
        · rfl
  | foreign node => rfl

theorem Choice.waits_narrativeCues (choice : Choice) :
    Cue.waits (choice.narrativeCues preferences) =
      (if choice.narrative.isSome then [Interval.beat Beat.branchNarrative] else []).map
        Interval.wait := by
  simp only [Choice.narrativeCues]
  cases choice.narrative <;> rfl

/-- The script of a branch waits as its intervals say. -/
theorem Choice.waits_cues (choice : Choice) :
    Cue.waits (choice.cues kind preferences) =
      (choice.intervals kind preferences).map Interval.wait := by
  rcases kind.text_or_encounter with rfl | rfl
  · have typing : Cue.waits (if (Cue.lines preferences.language choice.lines).isEmpty then []
        else .hold .zero (choice.typing preferences (Cue.lines preferences.language choice.lines))
          :: Cue.typed .npc Beat.branchMessage (Cue.lines preferences.language choice.lines)) =
        (if (Cue.lines preferences.language choice.lines).isEmpty then []
          else (⟨.branchTyping, choice.typing preferences
              (Cue.lines preferences.language choice.lines)⟩ : Interval)
            :: Interval.typed Beat.branchMessage
              (Cue.lines preferences.language choice.lines)).map Interval.wait := by
      split
      · rfl
      · rw [Cue.waits_hold .branchTyping, Cue.waits_typed, List.map_cons]
        intro duration waits
        exact (Duration.exceeds_iff _ _).mpr (Choice.typing_positive waits)
    simp only [Choice.cues, Choice.intervals]
    rw [Cue.waits_append, Cue.waits_append, choice.waits_narrativeCues, typing, List.map_append,
      List.map_append]
    rfl
  · simp only [Choice.cues, Choice.intervals]
    rw [Cue.waits_hold .branchReaction _ (fun _ _ => rfl), Cue.waits_append,
      Cue.waits_append, choice.waits_narrativeCues, Cue.waits_spoken, List.map_cons, List.map_append,
      List.map_append]
    rfl

end Scripts

/-! ## Waits of recitals -/

/-- The wait of a mark. -/
def Mark.pause? : Mark → Option (Duration × List Indicator)
  | .waited duration indicators => some (duration, indicators)
  | _ => none

/-- The waits among marks. -/
def Mark.pauses (marks : List Mark) : List (Duration × List Indicator) := marks.filterMap Mark.pause?

section Recitals

variable {kind : SceneKind} {preferences : Preferences} {index : Nat} {recital : Recital}
variable {intervals more : List Interval}

/-- A recital that begins with a script waits as the intervals of the script say, and then as it
goes on. -/
theorem pauses_perform (cues : List Cue) (same : Cue.waits cues = intervals.map Interval.wait)
    (rest : Mark.pauses recital.marks = Interval.pauses kind more) :
    Mark.pauses (Recital.perform kind index recital cues).marks =
      Interval.pauses kind (intervals ++ more) := by
  induction cues generalizing intervals with
  | nil =>
      obtain rfl : intervals = [] := List.map_eq_nil_iff.mp same.symm
      exact rest
  | cons cue cues inductionHypothesis =>
      cases cue with
      | event event => exact inductionHypothesis same
      | wait duration held =>
          obtain ⟨interval, others, rfl, told, remaining⟩ := List.map_eq_cons_iff.mp same.symm
          obtain ⟨reason, length⟩ := interval
          cases length with
          | none =>
              obtain ⟨rfl, -⟩ := Prod.mk.inj told
              rfl
          | some length =>
              obtain ⟨rfl, rfl⟩ := Prod.mk.inj told
              have goesOn := inductionHypothesis remaining.symm
              simp only [Recital.perform, Recital.after, Mark.pauses] at goesOn ⊢
              rw [List.filterMap_append, goesOn]
              simp [Mark.pause?, Interval.pauses]

theorem pauses_recite (nodes : List Node) :
    Mark.pauses (recite kind preferences nodes index []).marks =
      Interval.pauses kind (walkIntervals kind preferences nodes) := by
  induction nodes generalizing index with
  | nil => rfl
  | cons node rest inductionHypothesis =>
      refine pauses_perform _ (node.waits_cues kind preferences) ?_
      cases node.passage kind with
      | onward => exact inductionHypothesis
      | offer node => rfl
      | ready => rfl
      | ended => rfl

/-- A part waits as its intervals say. -/
theorem Part.pauses_recital (scenario : Scenario) (part : Part) :
    Mark.pauses (part.recital scenario).marks =
      Interval.pauses scenario.kind (part.intervals scenario) := by
  cases part with
  | opening preferences =>
      refine pauses_perform _ ?_ (pauses_recite _)
      rcases scenario.kind.text_or_encounter with text | encounter
      · rw [text]
        rfl
      · rw [encounter]
        rfl
  | answer preferences place choice =>
      refine pauses_perform _ ?_ ?_
      · cases choice with
        | none => rfl
        | some choice => exact choice.waits_cues _ preferences
      · simp only [Recital.landing]
        split
        · have marked : Cue.waits [.beat preferences.pacing.marker] =
              [preferences.markerInterval].map Interval.wait := rfl
          exact pauses_perform _ marked rfl
        · exact pauses_recite _

/-- The last wait that has come of intervals is that of the last interval reached. -/
theorem Interval.last_of_pauses {told rest : List (Duration × List Indicator)}
    {pause : Duration × List Indicator}
    (split : Interval.pauses kind intervals = told ++ rest) (last : told.getLast? = some pause) :
    ∃ reason, (intervals.take told.length).getLast? = some ⟨reason, some pause.1⟩
      ∧ pause.2 = if reason.holdsUp pause.1 then [kind.indicator] else [] := by
  induction told generalizing intervals with
  | nil => cases last
  | cons first others inductionHypothesis =>
      cases intervals with
      | nil => cases split
      | cons interval later =>
          obtain ⟨reason, duration⟩ := interval
          cases duration with
          | none => cases split
          | some duration =>
              simp only [Interval.pauses, List.cons_append, List.cons.injEq] at split
              obtain ⟨rfl, split⟩ := split
              cases others with
              | nil =>
                  obtain rfl := Option.some.inj last
                  exact ⟨reason, by simp, rfl⟩
              | cons second others =>
                  have lastThere : (second :: others).getLast? = some pause := by
                    rwa [List.getLast?_cons_cons] at last
                  obtain ⟨why, there, shown⟩ := inductionHypothesis split lastThere
                  refine ⟨why, ?_, shown⟩
                  cases later with
                  | nil => cases there
                  | cons next later =>
                      simpa only [List.length_cons, List.take_succ_cons,
                        List.getLast?_cons_cons] using there

end Recitals

end Playthrough

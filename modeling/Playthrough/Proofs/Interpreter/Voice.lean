import Playthrough.Proofs.Interpreter.Recital

/-!
Contract: the programs of an interpreter as voiced scripts.

Owns: the program that plays a list of cues, and the equations that turn the programs of nodes and of
branches into the voice of their scripts, followed by what the walk does next.

Does not own: what the programs do when they run.
-/

namespace Playthrough.Seat

variable {Store Driver Procedure Answer : Type}

/-- Takes back the sign that the scene is held up. -/
def unhold (seat : Seat Store Driver Procedure Answer) :
    Program Store Driver Procedure Answer :=
  .update (seat.modify fun interpreter => interpreter.setSuspended false) .stop

/-- Plays cues one after the other. -/
def voice (seat : Seat Store Driver Procedure Answer) :
    List Cue → Program Store Driver Procedure Answer → Program Store Driver Procedure Answer
  | [], next => next
  | .event event :: cues, next => .check (.update (seat.record event) (seat.voice cues next))
  | .wait none _ :: _, _ => .fail .overflow
  | .wait (some duration) false :: cues, next => .pause duration (seat.voice cues next)
  | .wait (some duration) true :: cues, next =>
      .update (seat.modify fun interpreter => interpreter.setSuspended true)
        (.ensure (.pause duration .stop) seat.unhold (seat.voice cues next))

/-- What the walk does after the script of a node. -/
def passOn (seat : Seat Store Driver Procedure Answer) (interpreter : Interpreter) :
    Node → Program Store Driver Procedure Answer
  | .narrative _ => seat.advanceAndWalk
  | .messages block =>
      if isMarker interpreter block.event then .update (seat.modify Interpreter.becomeReady) .stop
      else seat.afterBlock
  | .dialogue _ => seat.afterBlock
  | .choice node =>
      if node.options.isEmpty then
        .update (seat.warn (.choiceNodeEmpty node.id)) seat.advanceAndWalk
      else seat.awaitChoice node
  | .system event =>
      if isMarker interpreter event.event then
        .update (seat.modify Interpreter.becomeReady) .stop
      else
        match interpreter.scenario.kind, event.label with
        | .text, some _ => seat.advanceAndWalk
        | _, _ => seat.finish
  | .foreign node =>
      .update (seat.warn (.nodeKindUnknown node.kind interpreter.nodeIndex)) seat.advanceAndWalk

variable {seat : Seat Store Driver Procedure Answer}
variable {next : Program Store Driver Procedure Answer} {interpreter : Interpreter}

/-! ## Cues, one list after another -/

theorem voice_append (first second : List Cue) :
    seat.voice (first ++ second) next = seat.voice first (seat.voice second next) := by
  induction first with
  | nil => rfl
  | cons cue cues inductionHypothesis =>
      cases cue with
      | event event => simp only [List.cons_append, voice, inductionHypothesis]
      | wait duration held =>
          cases duration with
          | none => rfl
          | some duration => cases held <;> simp only [List.cons_append, voice, inductionHypothesis]

theorem voice_andThen (cues : List Cue) (second : Program Store Driver Procedure Answer) :
    (seat.voice cues next).andThen second = seat.voice cues (next.andThen second) := by
  induction cues with
  | nil => rfl
  | cons cue cues inductionHypothesis =>
      cases cue with
      | event event => simp only [voice, Program.andThen, inductionHypothesis]
      | wait duration held =>
          cases duration with
          | none => rfl
          | some duration =>
              cases held <;> simp only [voice, Program.andThen, inductionHypothesis]

/-! ## What scripts are made of -/

theorem pause_eq_voice (duration : Duration) :
    Program.pause duration next = seat.voice [.beat duration] next := rfl

theorem suspend_eq_voice (threshold duration : Duration) :
    seat.suspend threshold next duration = seat.voice [.hold threshold (some duration)] next := by
  simp only [suspend, Cue.hold]
  cases duration.exceeds threshold <;> rfl

theorem waitFor_suspend_eq_voice (threshold : Duration) (wait : Option Duration) :
    waitFor wait (seat.suspend threshold next) = seat.voice [.hold threshold wait] next := by
  cases wait with
  | none => rfl
  | some duration => exact suspend_eq_voice threshold duration

theorem emitLines_eq_voice (kind : EventKind) (beat : Duration) (texts : List String) :
    seat.emitLines kind beat next texts = seat.voice (Cue.spoken kind beat texts) next := by
  induction texts with
  | nil => rfl
  | cons text rest inductionHypothesis =>
      cases rest with
      | nil => rfl
      | cons other others =>
          simp only [emitLines, emit, Cue.spoken, voice, Cue.beat, inductionHypothesis]

theorem emitAfterBeats_eq_voice (kind : EventKind) (beat : Duration) (texts : List String) :
    seat.emitAfterBeats kind beat next texts = seat.voice (Cue.typed kind beat texts) next := by
  induction texts with
  | nil => rfl
  | cons text rest inductionHypothesis =>
      simp only [emitAfterBeats, emit, Cue.typed, voice, Cue.beat, inductionHypothesis]

theorem sayAll_eq_lines (texts : Option (List Localized)) :
    interpreter.sayAll texts = Cue.lines interpreter.preferences.language texts := rfl

/-! ## Nodes -/

theorem isMarker_eq_stopsAt (event : Option String) :
    isMarker interpreter event = interpreter.scenario.kind.stopsAt event := rfl

theorem playNarrative_eq_voice (block : NarrativeBlock) :
    seat.playNarrative interpreter block next =
      seat.voice (block.cues interpreter.preferences) next := by
  simp only [playNarrative, NarrativeBlock.cues]
  cases block.description <;> rfl

theorem playMessages_eq_voice (block : MessageBlock) :
    seat.playMessages interpreter block next =
      seat.voice (block.cues interpreter.preferences) next := by
  simp only [playMessages, MessageBlock.cues, sayAll_eq_lines]
  by_cases none : (Cue.lines interpreter.preferences.language block.messages).isEmpty = true
  · simp only [none, if_true]
    rfl
  · simp only [none]
    by_cases own : block.isPlayer = true
    · simp only [own, if_true, Bool.false_eq_true, if_false]
      rw [emitLines_eq_voice, voice_append]
      congr 1
      cases interpreter.preferences.pacing.scripted block.responseHint with
      | none => rfl
      | some duration =>
          simp only [waitFor, Cue.scripted, suspend]
          cases duration.exceeds .zero <;> rfl
    · simp only [own, Bool.false_eq_true, if_false]
      rw [emitLines_eq_voice, suspend_eq_voice, ← voice_append]
      rfl

theorem playDialogue_eq_voice (block : DialogueBlock) :
    seat.playDialogue interpreter block next =
      seat.voice (block.cues interpreter.preferences) next := by
  have lines : seat.playLines interpreter block next =
      seat.voice
        ((if block.isPlayer || block.reactionHint.isNone then []
          else [Cue.hold Beat.dialogueThinking
            (interpreter.preferences.pacing.reaction block.reactionHint)])
          ++ Cue.spoken (if block.isPlayer then .player else .npc) Beat.npcLine
            (Cue.lines interpreter.preferences.language block.lines)) next := by
    simp only [playLines, sayAll_eq_lines, emitLines_eq_voice]
    rw [voice_append]
    by_cases silent : (block.isPlayer || block.reactionHint.isNone) = true
    · simp only [silent, if_true]
      rfl
    · simp only [silent, Bool.false_eq_true, if_false]
      exact waitFor_suspend_eq_voice _ _
  simp only [playDialogue, lines, DialogueBlock.cues]
  rw [List.append_assoc]
  cases block.action with
  | none => rfl
  | some action => rfl

/-- The program of a node is the voice of its script, followed by what the walk does next. -/
theorem playNode_eq_voice (node : Node) :
    seat.playNode interpreter node =
      seat.voice (node.cues interpreter.scenario.kind interpreter.preferences)
        (seat.passOn interpreter node) := by
  cases node with
  | narrative block => exact playNarrative_eq_voice block
  | messages block =>
      simp only [playNode, playMessages_eq_voice, Node.cues, passOn, isMarker_eq_stopsAt]
      rw [voice_append]
      by_cases marked : interpreter.scenario.kind.stopsAt block.event = true
      · simp only [marked, if_true]
        rfl
      · simp only [marked, Bool.false_eq_true, if_false]
        rfl
  | dialogue block =>
      simp only [playNode, playDialogue_eq_voice, Node.cues, passOn]
      rw [voice_append]
      rfl
  | choice node => rfl
  | system event =>
      simp only [playNode, Node.cues, passOn, isMarker_eq_stopsAt, Scenario.labelsContinue]
      by_cases marked : interpreter.scenario.kind.stopsAt event.event = true
      · simp only [marked, if_true]
        rfl
      · simp only [marked, Bool.false_eq_true, if_false]
        rcases interpreter.scenario.kind.text_or_encounter with text | encounter
        · simp only [text]
          cases event.label <;> rfl
        · simp only [encounter]
          cases event.label <;> rfl
  | foreign node => rfl

/-! ## Branches -/

theorem playBranchNarrative_eq_voice (choice : Choice) :
    seat.playBranchNarrative interpreter choice next =
      seat.voice (choice.narrativeCues interpreter.preferences) next := by
  simp only [playBranchNarrative, Choice.narrativeCues]
  cases choice.narrative <;> rfl

theorem playTextBranch_eq_voice (choice : Choice) :
    seat.playTextBranch interpreter choice next =
      seat.voice (choice.cues .text interpreter.preferences) next := by
  simp only [playTextBranch, Choice.cues, sayAll_eq_lines]
  rw [playBranchNarrative_eq_voice, List.append_assoc, voice_append, voice_append,
    ← pause_eq_voice]
  congr 1
  by_cases none : (Cue.lines interpreter.preferences.language choice.lines).isEmpty = true
  · simp only [none, if_true]
    rfl
  · simp only [none, Bool.false_eq_true, if_false]
    rw [emitAfterBeats_eq_voice, waitFor_suspend_eq_voice, ← voice_append]
    rfl

theorem playEncounterBranch_eq_voice (choice : Choice) :
    seat.playEncounterBranch interpreter choice next =
      seat.voice (choice.cues .encounter interpreter.preferences) next := by
  simp only [playEncounterBranch, Choice.cues, sayAll_eq_lines]
  rw [playBranchNarrative_eq_voice, emitLines_eq_voice, pause_eq_voice, waitFor_suspend_eq_voice]
  rw [← voice_append, ← voice_append, ← voice_append]
  simp only [List.singleton_append, List.append_assoc]
  rfl

end Playthrough.Seat

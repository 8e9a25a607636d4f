import Playthrough.Interpreter.State
import Playthrough.Pacing
import Playthrough.Task.Program
import Playthrough.Warning

/-!
Contract: how an interpreter plays the nodes of its scene.

Owns: the seat of an interpreter in a larger world, the script of every kind of node, the branches
of choices, and the walk from node to node.

Does not own: starting, resetting and choosing; those are in `Interpreter.Operations`.

The walk looks at the node at the current place, plays it and moves on. It stops at a choice, at the
transition marker of a text scene, at a system event that ends the scene, and after the last node. A
block that is followed by a choice with options moves on to that choice at once.
-/

namespace Playthrough

/-- Where an interpreter lives: the driver that plays it, the name of its walk, and its place in the
store of its world. -/
structure Seat (Store Driver Procedure Answer : Type) where
  driver : Driver
  walk : Procedure
  get : Store → Interpreter
  modify : (Interpreter → Interpreter) → Store → Store
  /-- Writes an event to the log and gives it to the listeners. -/
  record : SceneEvent → Store → Store
  /-- Reports the points of a choice. -/
  award : Int → Store → Store
  /-- Reports the end of the scene. -/
  onFinish : Program Store Driver Procedure Answer
  /-- Reports a warning. -/
  warn : Warning → Store → Store

/-! ## Fixed beats -/

namespace Beat

/-- After a stage direction. -/
def action : Duration := ⟨400⟩

/-- Between two lines of somebody else. -/
def npcLine : Duration := ⟨400⟩

/-- Between two of the player's own messages. -/
def playerLine : Duration := ⟨150⟩

/-- After the messages of a block. -/
def messagesEnd : Duration := ⟨200⟩

/-- After the lines of a dialogue. -/
def dialogueEnd : Duration := ⟨300⟩

/-- Before each message of a branch. -/
def branchMessage : Duration := ⟨250⟩

/-- After the narrative of a branch. -/
def branchNarrative : Duration := ⟨500⟩

/-- Between two lines of a branch. -/
def branchLine : Duration := ⟨500⟩

/-- After a branch. -/
def branchEnd : Duration := ⟨400⟩

/-- A reaction in a dialogue up to this long passes without being shown. -/
def dialogueThinking : Duration := ⟨500⟩

/-- A reaction to a choice up to this long passes without being shown. -/
def branchThinking : Duration := ⟨400⟩

end Beat

namespace Seat

variable {Store Driver Procedure Answer : Type}

/-! ## What scripts are made of -/

/-- Shows an event. -/
def emit (seat : Seat Store Driver Procedure Answer) (kind : EventKind) (text : String)
    (next : Program Store Driver Procedure Answer) : Program Store Driver Procedure Answer :=
  .check (.update (seat.record (.plain kind text)) next)

/-- Shows lines with a beat between two of them. -/
def emitLines (seat : Seat Store Driver Procedure Answer) (kind : EventKind) (beat : Duration)
    (next : Program Store Driver Procedure Answer) :
    List String → Program Store Driver Procedure Answer
  | [] => next
  | [text] => seat.emit kind text next
  | text :: rest => seat.emit kind text (.pause beat (seat.emitLines kind beat next rest))

/-- Shows lines with a beat before each of them. -/
def emitAfterBeats (seat : Seat Store Driver Procedure Answer) (kind : EventKind) (beat : Duration)
    (next : Program Store Driver Procedure Answer) :
    List String → Program Store Driver Procedure Answer
  | [] => next
  | text :: rest => .pause beat (seat.emit kind text (seat.emitAfterBeats kind beat next rest))

/-- Waits for a length that the clock may not hold. -/
def waitFor (wait : Option Duration)
    (waiting : Duration → Program Store Driver Procedure Answer) :
    Program Store Driver Procedure Answer :=
  match wait with
  | none => .fail .overflow
  | some duration => waiting duration

/-- Waits, and shows that the scene is held up when the wait exceeds the threshold. However the wait
ends, the indicator is taken back. -/
def suspend (seat : Seat Store Driver Procedure Answer) (threshold : Duration)
    (next : Program Store Driver Procedure Answer) (duration : Duration) :
    Program Store Driver Procedure Answer :=
  if duration.exceeds threshold then
    .update (seat.modify fun interpreter => interpreter.setSuspended true)
      (.ensure (.pause duration .stop)
        (.update (seat.modify fun interpreter => interpreter.setSuspended false) .stop)
        next)
  else .pause duration next

/-- The count of characters of all the texts. -/
def totalLength : List String → Nat
  | [] => 0
  | text :: rest => text.length + totalLength rest

/-! ## Nodes -/

/-- Plays a passage of narration. -/
def playNarrative (seat : Seat Store Driver Procedure Answer) (interpreter : Interpreter)
    (block : NarrativeBlock) (next : Program Store Driver Procedure Answer) :
    Program Store Driver Procedure Answer :=
  match block.description with
  | none => next
  | some description =>
      let text := interpreter.say description
      seat.emit .narrative text
        (.pause (interpreter.preferences.pacing.forText text.length) next)

/-- Plays text messages. The other side types first; after the player's own messages an authored
pause may follow. -/
def playMessages (seat : Seat Store Driver Procedure Answer) (interpreter : Interpreter)
    (block : MessageBlock) (next : Program Store Driver Procedure Answer) :
    Program Store Driver Procedure Answer :=
  let texts := interpreter.sayAll block.messages
  let pacing := interpreter.preferences.pacing
  if texts.isEmpty then next
  else if block.isPlayer then
    let pause : Program Store Driver Procedure Answer :=
      waitFor (pacing.scripted block.responseHint) fun duration =>
        if duration.exceeds .zero then seat.suspend .zero next duration else next
    seat.emitLines .player Beat.playerLine pause texts
  else
    seat.suspend .zero (seat.emitLines .npc Beat.npcLine next texts)
      (pacing.forText (totalLength texts))

/-- The lines of a dialogue, after the reaction of a speaker who is not the player. -/
def playLines (seat : Seat Store Driver Procedure Answer) (interpreter : Interpreter)
    (block : DialogueBlock) (next : Program Store Driver Procedure Answer) :
    Program Store Driver Procedure Answer :=
  let kind : EventKind := if block.isPlayer then .player else .npc
  let lines := seat.emitLines kind Beat.npcLine next (interpreter.sayAll block.lines)
  if block.isPlayer || block.reactionHint.isNone then lines
  else
    waitFor (interpreter.preferences.pacing.reaction block.reactionHint)
      (seat.suspend Beat.dialogueThinking lines)

/-- Plays spoken lines, after a stage direction if there is one. -/
def playDialogue (seat : Seat Store Driver Procedure Answer) (interpreter : Interpreter)
    (block : DialogueBlock) (next : Program Store Driver Procedure Answer) :
    Program Store Driver Procedure Answer :=
  let lines := seat.playLines interpreter block next
  match block.action with
  | none => lines
  | some action => seat.emit .action (interpreter.say action) (.pause Beat.action lines)

/-- Shows the label of a system event. -/
def playLabel (seat : Seat Store Driver Procedure Answer) (interpreter : Interpreter)
    (label : Localized) (next : Program Store Driver Procedure Answer) :
    Program Store Driver Procedure Answer :=
  let beats := interpreter.preferences.pacing.label
  .pause beats.1 (seat.emit .system (interpreter.say label) (.pause beats.2 next))

/-! ## Where the walk stops -/

/-- Offers the choices of a node. -/
def awaitChoice (seat : Seat Store Driver Procedure Answer) (node : ChoiceNode) :
    Program Store Driver Procedure Answer :=
  .check (.update (seat.modify fun interpreter => interpreter.offer node) .stop)

/-- Says that the scene can be left. -/
def readyToTransition (seat : Seat Store Driver Procedure Answer) (interpreter : Interpreter) :
    Program Store Driver Procedure Answer :=
  .pause interpreter.preferences.pacing.marker
    (.update (seat.modify Interpreter.becomeReady) .stop)

/-- Ends the scene. The end is reported once between two resets. -/
def finish (seat : Seat Store Driver Procedure Answer) : Program Store Driver Procedure Answer :=
  .check (.update (seat.modify Interpreter.terminate)
    (.look fun store =>
      if (seat.get store).finished then .stop
      else .update (seat.modify Interpreter.reportEnd) seat.onFinish))

/-! ## The walk -/

/-- Goes on at the current place. -/
def walkOn (seat : Seat Store Driver Procedure Answer) : Program Store Driver Procedure Answer :=
  .call seat.walk .stop

/-- Goes on at the next place. -/
def advanceAndWalk (seat : Seat Store Driver Procedure Answer) :
    Program Store Driver Procedure Answer :=
  .update (seat.modify Interpreter.advance) seat.walkOn

/-- Goes on after a block, at once to a choice that follows it. -/
def afterBlock (seat : Seat Store Driver Procedure Answer) :
    Program Store Driver Procedure Answer :=
  .look fun store =>
    match (seat.get store).following? with
    | some (.choice node) =>
        if node.options.isEmpty then seat.advanceAndWalk
        else .update (seat.modify Interpreter.advance) (seat.awaitChoice node)
    | _ => seat.advanceAndWalk

/-- Whether an event is the marker that stops a scene. -/
def isMarker (interpreter : Interpreter) (event : Option String) : Bool :=
  interpreter.scenario.stopsAtMarker && event == some transitionMarker

/-- Plays a node and goes on. -/
def playNode (seat : Seat Store Driver Procedure Answer) (interpreter : Interpreter) :
    Node → Program Store Driver Procedure Answer
  | .narrative block => seat.playNarrative interpreter block seat.advanceAndWalk
  | .messages block =>
      seat.playMessages interpreter block
        (if isMarker interpreter block.event then seat.readyToTransition interpreter
         else .pause Beat.messagesEnd seat.afterBlock)
  | .dialogue block =>
      seat.playDialogue interpreter block (.pause Beat.dialogueEnd seat.afterBlock)
  | .choice node =>
      if node.options.isEmpty then
        .update (seat.warn (.choiceNodeEmpty node.id)) seat.advanceAndWalk
      else seat.awaitChoice node
  | .system event =>
      if isMarker interpreter event.event then seat.readyToTransition interpreter
      else
        match event.label with
        | none => seat.finish
        | some label =>
            if interpreter.scenario.labelsContinue then
              seat.playLabel interpreter label seat.advanceAndWalk
            else seat.finish
  | .foreign node =>
      .update (seat.warn (.nodeKindUnknown node.kind interpreter.nodeIndex)) seat.advanceAndWalk

/-- The walk from the current place on, under the name `seat.walk`. -/
def walkBody (seat : Seat Store Driver Procedure Answer) : Program Store Driver Procedure Answer :=
  .look fun store =>
    let interpreter := seat.get store
    match interpreter.node? with
    | none => seat.finish
    | some node => .check (seat.playNode interpreter node)

/-- The walk from the first node on; an encounter waits a moment before it. -/
def openScene (seat : Seat Store Driver Procedure Answer) : Program Store Driver Procedure Answer :=
  .look fun store =>
    let interpreter := seat.get store
    match interpreter.scenario.kind with
    | .text => seat.walkOn
    | .encounter => .pause interpreter.preferences.pacing.intro seat.walkOn

/-! ## Branches -/

/-- The narrative of a branch, if it has one. -/
def playBranchNarrative (seat : Seat Store Driver Procedure Answer) (interpreter : Interpreter)
    (choice : Choice) (next : Program Store Driver Procedure Answer) :
    Program Store Driver Procedure Answer :=
  match choice.narrative with
  | none => next
  | some narrative =>
      seat.emit .action (interpreter.say narrative) (.pause Beat.branchNarrative next)

/-- How long the other side types before the messages of a branch: as long as hinted, or as long as
the messages take. A hint of zero is none. -/
def branchTyping (interpreter : Interpreter) (choice : Choice) (texts : List String) :
    Option Duration :=
  let pacing := interpreter.preferences.pacing
  if choice.reactionHint.getD 0 = 0 then some (pacing.forText (totalLength texts))
  else pacing.reaction choice.reactionHint

/-- The branch of a choice in a text scene: the narrative, then the messages. -/
def playTextBranch (seat : Seat Store Driver Procedure Answer) (interpreter : Interpreter)
    (choice : Choice) (next : Program Store Driver Procedure Answer) :
    Program Store Driver Procedure Answer :=
  let texts := interpreter.sayAll choice.lines
  let finish : Program Store Driver Procedure Answer := .pause Beat.branchEnd next
  seat.playBranchNarrative interpreter choice
    (if texts.isEmpty then finish
     else
      waitFor (branchTyping interpreter choice texts)
        (seat.suspend .zero (seat.emitAfterBeats .npc Beat.branchMessage finish texts)))

/-- The branch of a choice in an encounter: the reaction, the narrative, then the lines. -/
def playEncounterBranch (seat : Seat Store Driver Procedure Answer) (interpreter : Interpreter)
    (choice : Choice) (next : Program Store Driver Procedure Answer) :
    Program Store Driver Procedure Answer :=
  let lines := interpreter.sayAll choice.lines
  waitFor (interpreter.preferences.pacing.reaction choice.reactionHint)
    (seat.suspend Beat.branchThinking
      (seat.playBranchNarrative interpreter choice
        (seat.emitLines .npc Beat.branchLine (.pause Beat.branchEnd next) lines)))

/-- The branch of a choice, if one was found. -/
def playBranch (seat : Seat Store Driver Procedure Answer) (choice : Option Choice)
    (next : Program Store Driver Procedure Answer) : Program Store Driver Procedure Answer :=
  match choice with
  | none => next
  | some choice =>
      .look fun store =>
        let interpreter := seat.get store
        match interpreter.scenario.kind with
        | .text => seat.playTextBranch interpreter choice next
        | .encounter => seat.playEncounterBranch interpreter choice next

/-- Goes on after a choice node. A marker block right there is not played. -/
def afterChoice (seat : Seat Store Driver Procedure Answer) :
    Program Store Driver Procedure Answer :=
  .update (seat.modify Interpreter.advance)
    (.look fun store =>
      let interpreter := seat.get store
      match interpreter.node? with
      | some (.messages block) =>
          if isMarker interpreter block.event then seat.readyToTransition interpreter
          else seat.walkOn
      | _ => seat.walkOn)

/-- What is played once a choice was made. -/
def resume (seat : Seat Store Driver Procedure Answer) (choice : Option Choice) :
    Program Store Driver Procedure Answer :=
  seat.playBranch choice seat.afterChoice

end Seat

end Playthrough

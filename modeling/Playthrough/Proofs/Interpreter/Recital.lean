import Playthrough.Interpreter.Walk

/-!
Contract: what a scene comes to, as a recursion over its nodes.

Owns: the script of every kind of node and of every branch as a list of cues, and the recital of a
scene: everything that is shown, waited for and awarded, in order, and where the scene stops.

Does not own: tasks, permissions, turns, and every shortcut that the walk takes.

A recital is made node by node. Each node contributes its own script and either lets the next node
follow or stops the scene. Choices are given beforehand; each choice node that is reached takes the
next one. A wait that the clock cannot hold ends the recital where it stands.
-/

namespace Playthrough

/-- What a script asks for. -/
inductive Cue where
  | event (event : SceneEvent)
  /-- A wait, none when the clock cannot hold it, and whether the scene is held up meanwhile. -/
  | wait (duration : Option Duration) (held : Bool)
deriving DecidableEq, Repr

/-- One entry of a transcript. -/
inductive Mark where
  | shown (event : SceneEvent)
  | waited (duration : Duration) (shown : List Indicator)
  | awarded (points : Int)
deriving DecidableEq, Repr

/-- What a scene of a kind shows while it is held up. -/
def SceneKind.indicator : SceneKind → Indicator
  | .text => .typing
  | .encounter => .thinking

theorem SceneKind.text_or_encounter (kind : SceneKind) : kind = .text ∨ kind = .encounter := by
  cases kind <;> simp

/-! ## Scripts -/

namespace Cue

/-- Texts in one language. -/
def lines (language : Language) (texts : Option (List Localized)) : List String :=
  (texts.getD []).map fun text => text.resolve language

/-- A wait that is shown when it exceeds the threshold. -/
def hold (threshold : Duration) : Option Duration → Cue
  | none => .wait none false
  | some duration => .wait (some duration) (duration.exceeds threshold)

/-- A wait that is never shown. -/
def beat (duration : Duration) : Cue := .wait (some duration) false

/-- Lines with a beat between two of them. -/
def spoken (kind : EventKind) (pause : Duration) : List String → List Cue
  | [] => []
  | [text] => [.event (.plain kind text)]
  | text :: rest => .event (.plain kind text) :: beat pause :: spoken kind pause rest

/-- Lines with a beat before each of them. -/
def typed (kind : EventKind) (pause : Duration) : List String → List Cue
  | [] => []
  | text :: rest => beat pause :: .event (.plain kind text) :: typed kind pause rest

/-- An authored pause after the player's own messages, none when there is no time to it. -/
def scripted : Option Duration → List Cue
  | none => [.wait none false]
  | some duration => if duration.exceeds .zero then [.wait (some duration) true] else []

end Cue

section Scripts

variable (kind : SceneKind) (preferences : Preferences)

/-- A passage of narration, and the time to read it. -/
def NarrativeBlock.cues (block : NarrativeBlock) : List Cue :=
  match block.description with
  | none => []
  | some description =>
      let text := description.resolve preferences.language
      [.event (.plain .narrative text), .beat (preferences.pacing.forText text.length)]

/-- Text messages. The other side types first; the player's own may be followed by a pause. -/
def MessageBlock.cues (block : MessageBlock) : List Cue :=
  let texts := Cue.lines preferences.language block.messages
  if texts.isEmpty then []
  else if block.isPlayer then
    Cue.spoken .player Beat.playerLine texts
      ++ Cue.scripted (preferences.pacing.scripted block.responseHint)
  else
    .hold .zero (some (preferences.pacing.forText (Seat.totalLength texts)))
      :: Cue.spoken .npc Beat.npcLine texts

/-- A stage direction, a reaction of a speaker who is not the player, and the spoken lines. -/
def DialogueBlock.cues (block : DialogueBlock) : List Cue :=
  let direction : List Cue :=
    match block.action with
    | none => []
    | some action =>
        [.event (.plain .action (action.resolve preferences.language)), .beat Beat.action]
  let reaction : List Cue :=
    if block.isPlayer || block.reactionHint.isNone then []
    else [.hold Beat.dialogueThinking (preferences.pacing.reaction block.reactionHint)]
  direction ++ reaction
    ++ Cue.spoken (if block.isPlayer then .player else .npc) Beat.npcLine
      (Cue.lines preferences.language block.lines)

/-- Whether an event is the marker that stops a scene of a kind. -/
def SceneKind.stopsAt (event : Option String) : Bool :=
  kind == .text && event == some transitionMarker

/-- The script of a node. -/
def Node.cues : Node → List Cue
  | .narrative block => block.cues preferences
  | .messages block =>
      block.cues preferences
        ++ [.beat (if kind.stopsAt block.event then preferences.pacing.marker
              else Beat.messagesEnd)]
  | .dialogue block => block.cues preferences ++ [.beat Beat.dialogueEnd]
  | .choice _ => []
  | .system event =>
      if kind.stopsAt event.event then [.beat preferences.pacing.marker]
      else
        match kind, event.label with
        | .text, some label =>
            [ .beat preferences.pacing.label.1,
              .event (.plain .system (label.resolve preferences.language)),
              .beat preferences.pacing.label.2 ]
        | _, _ => []
  | .foreign _ => []

/-- The narrative of a branch. -/
def Choice.narrativeCues (choice : Choice) : List Cue :=
  match choice.narrative with
  | none => []
  | some narrative =>
      [ .event (.plain .action (narrative.resolve preferences.language)),
        .beat Beat.branchNarrative ]

/-- How long the other side types before the messages of a branch. A hint of zero is none. -/
def Choice.typing (choice : Choice) (texts : List String) : Option Duration :=
  if choice.reactionHint.getD 0 = 0 then
    some (preferences.pacing.forText (Seat.totalLength texts))
  else preferences.pacing.reaction choice.reactionHint

/-- The script of a branch. -/
def Choice.cues (choice : Choice) : List Cue :=
  let texts := Cue.lines preferences.language choice.lines
  match kind with
  | .text =>
      choice.narrativeCues preferences
        ++ (if texts.isEmpty then []
            else
              .hold .zero (choice.typing preferences texts)
                :: Cue.typed .npc Beat.branchMessage texts)
        ++ [.beat Beat.branchEnd]
  | .encounter =>
      .hold Beat.branchThinking (preferences.pacing.reaction choice.reactionHint)
        :: (choice.narrativeCues preferences
          ++ Cue.spoken .npc Beat.branchLine texts
          ++ [.beat Beat.branchEnd])

end Scripts

/-! ## Recitals -/

/-- Where a scene stops. -/
inductive Halt where
  /-- At a node that offers choices. -/
  | offering (index : Nat) (node : ChoiceNode)
  /-- Before the encounter. -/
  | ready (index : Nat)
  /-- At the end. -/
  | ended (index : Nat)
  /-- At a wait that the clock cannot hold. -/
  | stuck (index : Nat)

/-- The place of a stop. -/
def Halt.index : Halt → Nat
  | .offering index _ => index
  | .ready index => index
  | .ended index => index
  | .stuck index => index

/-- What is heard of a scene, and where it stops. -/
structure Recital where
  marks : List Mark
  halt : Halt

namespace Recital

/-- A recital of which nothing is heard. -/
def silent (halt : Halt) : Recital := { marks := [], halt := halt }

/-- Marks before a recital. -/
def after (marks : List Mark) (recital : Recital) : Recital :=
  { recital with marks := marks ++ recital.marks }

/-- Plays cues at a place, and then the rest of a recital. -/
def perform (kind : SceneKind) (index : Nat) (rest : Recital) : List Cue → Recital
  | [] => rest
  | .event event :: cues => (perform kind index rest cues).after [.shown event]
  | .wait none _ :: _ => silent (.stuck index)
  | .wait (some duration) held :: cues =>
      (perform kind index rest cues).after
        [.waited duration (if held then [kind.indicator] else [])]

end Recital

/-- How a scene goes on after a node. -/
inductive Passage where
  | onward
  | offer (node : ChoiceNode)
  | ready
  | ended

/-- What is heard after a node: what comes next, what is heard of an offer, or nothing. -/
def Passage.lead (index : Nat) (next : Recital) (offered : ChoiceNode → Recital) :
    Passage → Recital
  | .onward => next
  | .offer node => offered node
  | .ready => .silent (.ready index)
  | .ended => .silent (.ended index)

/-- How a scene of a kind goes on after a node. Choice nodes without options and nodes that are not
played let the next one follow. -/
def Node.passage (kind : SceneKind) : Node → Passage
  | .narrative _ => .onward
  | .messages block => if kind.stopsAt block.event then .ready else .onward
  | .dialogue _ => .onward
  | .choice node => if node.options.isEmpty then .onward else .offer node
  | .system event =>
      if kind.stopsAt event.event then .ready
      else
        match kind, event.label with
        | .text, some _ => .onward
        | _, _ => .ended
  | .foreign _ => .onward

/-- Whether the node after a choice is a block with the marker. -/
def markerFollows (kind : SceneKind) : List Node → Bool
  | .messages block :: _ => kind.stopsAt block.event
  | _ => false

section Recite

variable (kind : SceneKind) (preferences : Preferences)

/-- What is heard when a choice is made, before its branch. -/
def Offer.marks (offer : Offer) : List Mark :=
  [.shown (.plain .player offer.text), .awarded offer.points]

/-- The branch of a choice, if one was found. -/
def branchCues (choice : Option Choice) : List Cue :=
  (choice.map fun choice => choice.cues kind preferences).getD []

/-- What comes after the node of a choice. A block with the marker right there is not played; the
scene is then ready at once. -/
def Recital.landing (index : Nat) (rest : List Node) (walked : Recital) : Recital :=
  if markerFollows kind rest then
    Recital.perform kind index (.silent (.ready index)) [.beat preferences.pacing.marker]
  else walked

/-- What is heard after the player's line. -/
def Recital.resumed (index : Nat) (rest : List Node) (walked : Recital) (choice : Option Choice) :
    Recital :=
  Recital.perform kind index (Recital.landing kind preferences (index + 1) rest walked)
    (branchCues kind preferences choice)

/-- The recital of the nodes from a place on, with the choices that are made. -/
def recite : List Node → Nat → List Offer → Recital
  | [], index, _ => .silent (.ended index)
  | node :: rest, index, offers =>
      Recital.perform kind index
        ((node.passage kind).lead index (recite rest (index + 1) offers) fun choiceNode =>
          match offers with
          | [] => .silent (.offering index choiceNode)
          | offer :: later =>
              (Recital.resumed kind preferences index rest (recite rest (index + 1) later)
                (choiceNode.find? offer.tag)).after offer.marks)
        (node.cues kind preferences)

/-- What is heard before the first node. -/
def Scenario.headerMarks (scenario : Scenario) : List Mark :=
  scenario.header.map fun line => .shown (.plain line.1 (line.2.resolve preferences.language))

/-- The wait before the first node. -/
def SceneKind.openingCues : List Cue :=
  match kind with
  | .text => []
  | .encounter => [.beat preferences.pacing.intro]

/-- The recital of a whole scene. -/
def Scenario.recital (scenario : Scenario) (offers : List Offer) : Recital :=
  (Recital.perform scenario.kind 0 (recite scenario.kind preferences scenario.nodes 0 offers)
    (scenario.kind.openingCues preferences)).after (scenario.headerMarks preferences)

end Recite

/-! ## What is seen in the end -/

/-- The event that a mark shows. -/
def Mark.event? : Mark → Option SceneEvent
  | .shown event => some event
  | _ => none

/-- The events among marks. -/
def Mark.events (marks : List Mark) : List SceneEvent := marks.filterMap Mark.event?

/-- The stage at a stop. -/
def Halt.progress : Halt → Progress
  | .offering _ _ => .awaitingChoice
  | .ready _ => .transitionReady
  | .ended _ => .terminal
  | .stuck _ => .running

/-- What is on offer at a stop. -/
def Halt.offers (language : Language) : Halt → List Offer
  | .offering _ node => node.options.map fun choice => choice.offer language
  | _ => []

/-- Whether a scene of a kind can be left at a stop. -/
def Halt.leavable (kind : SceneKind) : Halt → Bool
  | .ready _ => true
  | .ended _ => kind == .text
  | _ => false

/-- What the outside sees of a scene at the end of its recital. -/
def Recital.snapshot (recital : Recital) (kind : SceneKind) (language : Language) :
    Interpreter.Snapshot :=
  { progress := recital.halt.progress
    nodeIndex := recital.halt.index
    events := Mark.events recital.marks
    choices := recital.halt.offers language
    typing := false
    thinking := false
    transitionReady := recital.halt.leavable kind }

end Playthrough

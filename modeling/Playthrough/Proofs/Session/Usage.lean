import Playthrough.Session.Alone

/-!
Contract: how a play-through is used.

Owns: the operations that are asked for from outside, the history of a play-through, and the worlds
that occur when operations follow one another.

Does not own: what holds in these worlds.

An operation begins when the one before it has completed, at any moment between two turns. At any
such moment any wait may end. The text scene is begun once after a play-through was made and once
after every restart; nothing else is asked of the order of operations.
-/

namespace Playthrough.Session

/-- The place that the current scene has come to. -/
def place? (session : Session) : Option (SceneKind × Nat) :=
  session.currentKind?.map fun kind => (kind, (session.interpreter kind).nodeIndex)

/-- The place whose choices are on offer. -/
def offering? (session : Session) : Option (SceneKind × Nat) :=
  session.place?.filter fun place => (session.interpreter place.1).progress = .awaitingChoice

namespace Alone

/-- What is asked for from outside. -/
inductive Operation where
  | begin
  | triggerTransition
  | beginEncounter
  | select (id : String)
  | restart (preferences : Option Preferences)
  | settle

namespace Operation

/-- The program of an operation. -/
def plan : Operation → Plan
  | .begin => Alone.begin
  | .triggerTransition => Alone.triggerTransition
  | .beginEncounter => Alone.beginEncounter
  | .select id => Alone.select id
  | .restart preferences => Alone.restart preferences
  | .settle => Alone.settle

/-- Whether an operation goes back to the beginning. -/
def isRestart : Operation → Bool
  | .restart _ => true
  | _ => false

/-- Whether a play-through accepts an operation. -/
def isAccepted (session : Session) : Operation → Bool
  | .triggerTransition => session.phase == .textScene && session.text.transitionReady
  | .beginEncounter => session.phase == .transition
  | .select id =>
      match session.currentKind? with
      | none => false
      | some kind => (session.interpreter kind).choices.any fun offer => offer.tag == id
  | _ => true

/-- What an operation answers that was accepted or refused. -/
def answer (accepts : Bool) : Operation → Option Reply
  | .triggerTransition => some (.verdict accepts)
  | .beginEncounter => some (.verdict accepts)
  | .select _ => some (.verdict accepts)
  | _ => none

/-- The phase that an operation leaves when it is accepted. -/
def leaves? : Operation → Option Phase
  | .triggerTransition => some .textScene
  | .beginEncounter => some .transition
  | _ => none

end Operation

/-- An operation that has begun and has not completed. -/
structure Flight where
  task : TaskId
  operation : Operation
  /-- The place that the scene had come to at the beginning of the operation. -/
  place : Option (SceneKind × Nat)
  /-- Whether it was accepted at its beginning. -/
  accepts : Bool

/-- What was done to a play-through so far. -/
structure History where
  flight : Option Flight
  /-- Whether the text scene was not begun since the last restart. -/
  fresh : Bool
  /-- The phases since the last restart, each once, the oldest first. -/
  phases : List Phase
  /-- The place whose choices are on offer. -/
  showing : Option (SceneKind × Nat)
  /-- The places since the last restart whose choices came on offer, each as often as they did, the
  oldest first. -/
  offered : List (SceneKind × Nat)
  /-- The places since the last restart at which a choice was accepted, the oldest first. -/
  taken : List (SceneKind × Nat)

namespace History

/-- Before anything was done. -/
def initial : History :=
  { flight := none, fresh := true, phases := [.textScene], showing := none, offered := [], taken := [] }

/-- Whether the play-through is on its way back to the beginning. -/
def restarting (history : History) : Bool :=
  match history.flight with
  | some flight => flight.operation.isRestart
  | none => false

/-- An operation begins. -/
def began (history : History) (operation : Operation) (world : Setting) : History :=
  { history with
    flight := some
      { task := world.tasks.length
        operation := operation
        place := world.store.session.place?
        accepts := operation.isAccepted world.store.session } }

/-- Writes down a phase, if it has changed. -/
def notePhase (history : History) (phase : Phase) : History :=
  if history.phases.getLast? = some phase then history
  else { history with phases := history.phases ++ [phase] }

/-- Writes down whose choices are on offer, if that has changed. -/
def noteOffer (history : History) (place : Option (SceneKind × Nat)) : History :=
  if history.showing = place then history
  else { history with showing := place, offered := history.offered ++ place.toList }

/-- Writes down what has changed between two turns. -/
def noted (history : History) (world : Setting) : History :=
  if world.running = none ∧ history.restarting = false then
    (history.notePhase world.store.session.phase).noteOffer world.store.session.offering?
  else history

/-- An operation completes. -/
def completed (history : History) (flight : Flight) (outcome : Outcome Reply) : History :=
  match flight.operation with
  | .begin => { history with flight := none, fresh := false }
  | .restart _ => .initial
  | .select _ =>
      if outcome = .finished (some (.verdict true)) then
        { history with flight := none, taken := history.taken ++ flight.place.toList }
      else { history with flight := none }
  | _ => { history with flight := none }

/-- What is written down does not end an operation. -/
theorem flight_noted (history : History) (world : Setting) :
    (history.noted world).flight = history.flight := by
  unfold noted notePhase noteOffer
  split
  · split <;> split <;> rfl
  · rfl

/-- When an operation has completed another one may begin. -/
theorem flight_completed (history : History) (flight : Flight) (outcome : Outcome Reply) :
    (history.completed flight outcome).flight = none := by
  unfold completed
  split <;> try rfl
  split <;> rfl

end History

/-- The worlds that occur when a play-through of two scenes is used, with what was done to it. -/
inductive Occurs (textScene : Option TextScene) (encounterScene : Option EncounterScene)
    (preferences : Preferences) : History → Setting → Prop where
  | construct : Occurs textScene encounterScene preferences .initial
      (World.initial (initial textScene encounterScene preferences))
  | begin {history : History} {world : Setting} (operation : Operation)
      (before : Occurs textScene encounterScene preferences history world)
      (noTurn : world.running = none) (free : history.flight = none)
      (timely : operation = .begin → history.fresh = true) :
      Occurs textScene encounterScene preferences (history.began operation world)
        (world.begin operation.plan).2
  | step {history : History} {world : Setting}
      (before : Occurs textScene encounterScene preferences history world) :
      Occurs textScene encounterScene preferences (history.noted (world.step machine))
        (world.step machine)
  | release {history : History} {world released : Setting}
      (before : Occurs textScene encounterScene preferences history world)
      (noTurn : world.running = none) (position : Nat)
      (wait : world.release? position = some released) :
      Occurs textScene encounterScene preferences history released
  | complete {history : History} {world : Setting} {flight : Flight} {outcome : Outcome Reply}
      (before : Occurs textScene encounterScene preferences history world)
      (noTurn : world.running = none) (inFlight : history.flight = some flight)
      (ended : world.outcome? flight.task = some outcome) :
      Occurs textScene encounterScene preferences (history.completed flight outcome) world

/-- So many steps. -/
def History.stepped : Nat → History → Setting → History × Setting
  | 0, history, world => (history, world)
  | count + 1, history, world =>
      (history.noted (world.step machine)).stepped count (world.step machine)

variable {textScene : Option TextScene} {encounterScene : Option EncounterScene}
variable {preferences : Preferences} {history : History} {world : Setting}

theorem Occurs.stepped (occurs : Occurs textScene encounterScene preferences history world)
    (count : Nat) :
    Occurs textScene encounterScene preferences (history.stepped count world).1
      (history.stepped count world).2 := by
  induction count generalizing history world with
  | zero => exact occurs
  | succ count inductionHypothesis => exact inductionHypothesis occurs.step

end Alone

end Playthrough.Session

import Playthrough.Interpreter.Operations
import Playthrough.Session.State

/-!
Contract: moving a play-through from phase to phase.

Owns: the seat of a play-through in a larger world, the seats of its three drivers, and everything
that can be done to it, as programs that go on with what the caller wants done next.

The encounter's own task starts the epilogue when the encounter ends. Everything else that changes
the phase is done from outside.
-/

namespace Playthrough.Session

/-- Where a play-through lives: its drivers, the names of its walks, and its place in the store of
its world. -/
structure Seat (Store Driver Procedure : Type) where
  driver : Role → Driver
  walk : SceneKind → Procedure
  get : Store → Session
  modify : (Session → Session) → Store → Store
  /-- Gives an event of a driver to its listeners. -/
  deliver : Role → SceneEvent → Store → Store
  /-- Reports a warning. -/
  warn : Warning → Store → Store

/-- The driver that plays a kind of scene. -/
def roleOf : SceneKind → Role
  | .text => .text
  | .encounter => .encounter

namespace Seat

variable {Store Driver Procedure Answer : Type}

/-- The drivers in order. -/
def drivers (seat : Seat Store Driver Procedure) : List Driver :=
  Role.all.map seat.driver

/-- The seat of the epilogue. -/
def epilogue (seat : Seat Store Driver Procedure) : Epilogue.Seat Store Driver :=
  { driver := seat.driver .epilogue
    modify := fun change => seat.modify (modifyEpilogue change)
    record := fun event store =>
      seat.deliver .epilogue event
        (seat.modify (modifyEpilogue fun epilogue => epilogue.record event) store) }

/-- Ends the encounter: the ending that the score has earned is played. -/
def finishEncounter (seat : Seat Store Driver Procedure)
    (next : Program Store Driver Procedure Answer) : Program Store Driver Procedure Answer :=
  .look fun store =>
    let session := seat.get store
    .update (seat.modify (enter .epilogue))
      (seat.epilogue.play session.preferences session.earnedEnding (some session.tier) next)

/-- The seat of an interpreter. The end of the encounter is reported, that of the text scene is not.
-/
def interpreter (seat : Seat Store Driver Procedure) (kind : SceneKind) :
    Playthrough.Seat Store Driver Procedure Answer :=
  { driver := seat.driver (roleOf kind)
    walk := seat.walk kind
    get := fun store => (seat.get store).interpreter kind
    modify := fun change => seat.modify (modifyInterpreter kind change)
    record := fun event store =>
      seat.deliver (roleOf kind) event
        (seat.modify (modifyInterpreter kind fun interpreter => interpreter.record event) store)
    award := fun points => seat.modify (Session.award points)
    onFinish :=
      match kind with
      | .text => .stop
      | .encounter => seat.finishEncounter .stop
    warn := seat.warn }

/-- Plays the text scene from the top. -/
def begin (seat : Seat Store Driver Procedure) (next : Program Store Driver Procedure Answer) :
    Program Store Driver Procedure Answer :=
  .update (seat.modify (enter .textScene))
    (.look fun store => (seat.interpreter .text).start (seat.get store).preferences next)

/-- Plays the encounter from the top. -/
def enterEncounter (seat : Seat Store Driver Procedure)
    (next : Program Store Driver Procedure Answer) : Program Store Driver Procedure Answer :=
  .update (seat.modify (enter .encounter))
    (.look fun store => (seat.interpreter .encounter).start (seat.get store).preferences next)

/-- Leaves the text scene, once it can be left. Fast pacing skips the transition screen. -/
def triggerTransition (seat : Seat Store Driver Procedure)
    (refused accepted : Program Store Driver Procedure Answer) :
    Program Store Driver Procedure Answer :=
  .look fun store =>
    let session := seat.get store
    if session.phase = .textScene ∧ session.text.transitionReady = true then
      .cancel (seat.driver .text)
        (.look fun store =>
          if (seat.get store).preferences.pacing = .fast then seat.enterEncounter accepted
          else .update (seat.modify (enter .transition)) accepted)
    else
      .update (seat.warn (.transitionIgnored session.phase session.text.transitionReady)) refused

/-- Confirms the transition screen. -/
def beginEncounter (seat : Seat Store Driver Procedure)
    (refused accepted : Program Store Driver Procedure Answer) :
    Program Store Driver Procedure Answer :=
  .look fun store =>
    let session := seat.get store
    if session.phase = .transition then seat.enterEncounter accepted
    else .update (seat.warn (.encounterIgnored session.phase)) refused

/-- Goes back to a clean text scene, which is not played yet. -/
def restart (seat : Seat Store Driver Procedure) (preferences : Option Preferences)
    (next : Program Store Driver Procedure Answer) : Program Store Driver Procedure Answer :=
  (seat.interpreter .text).reset
    ((seat.interpreter .encounter).reset
      (seat.epilogue.reset (.update (seat.modify (restarted preferences)) next)))

/-- Makes the choice of an id, if it is on offer. -/
def select (seat : Seat Store Driver Procedure) (id : String)
    (refused accepted : Program Store Driver Procedure Answer) :
    Program Store Driver Procedure Answer :=
  .look fun store =>
    let session := seat.get store
    match session.currentKind? with
    | none => refused
    | some kind =>
        match (session.interpreter kind).choices.find? fun offer => offer.tag == id with
        | some offer => (seat.interpreter kind).select offer refused accepted
        | none => .update (seat.warn (.optionNotOffered id session.phase)) refused

/-- Waits until none of the drivers plays. -/
def settle (seat : Seat Store Driver Procedure) (next : Program Store Driver Procedure Answer) :
    Program Store Driver Procedure Answer :=
  .settleAll seat.drivers next

/-- Stops every driver. -/
def close (seat : Seat Store Driver Procedure) (next : Program Store Driver Procedure Answer) :
    Program Store Driver Procedure Answer :=
  .cancel (seat.driver .text)
    (.cancel (seat.driver .encounter) (.cancel (seat.driver .epilogue) next))

/-- Adds points to the score. -/
def addPoints (seat : Seat Store Driver Procedure) (points : Int)
    (next : Program Store Driver Procedure Answer) : Program Store Driver Procedure Answer :=
  .update (seat.modify (award points)) next

end Seat

end Playthrough.Session

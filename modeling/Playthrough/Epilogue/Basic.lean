import Playthrough.Pacing
import Playthrough.Scene.Event
import Playthrough.Task.Program

/-!
Contract: playing an earned ending, one text at a time.

Owns: the state of an epilogue, its script, and what can be done to it from outside.
-/

namespace Playthrough

/-- The state of an epilogue. -/
structure Epilogue where
  tier : Option Tier
  events : List SceneEvent
  /-- Whether the ending was played to its end. -/
  restartReady : Bool
deriving DecidableEq, Repr, Inhabited

namespace Epilogue

/-- Nothing was played. -/
def blank : Epilogue := { tier := none, events := [], restartReady := false }

/-- Writes an event. -/
def record (epilogue : Epilogue) (event : SceneEvent) : Epilogue :=
  { epilogue with events := epilogue.events ++ [event] }

/-- Begins an ending of a tier. -/
def begin (epilogue : Epilogue) (tier : Option Tier) : Epilogue :=
  { epilogue with tier := tier, events := [], restartReady := false }

/-- Says that the ending was played to its end. -/
def complete (epilogue : Epilogue) : Epilogue := { epilogue with restartReady := true }

@[simp] theorem events_record (epilogue : Epilogue) (event : SceneEvent) :
    (epilogue.record event).events = epilogue.events ++ [event] := rfl

@[simp] theorem events_begin (epilogue : Epilogue) (tier : Option Tier) :
    (epilogue.begin tier).events = [] := rfl

@[simp] theorem events_complete (epilogue : Epilogue) :
    epilogue.complete.events = epilogue.events := rfl

/-- The beat after the last text. -/
def closingBeat : Duration := ⟨600⟩

/-- Where an epilogue lives. -/
structure Seat (Store Driver : Type) where
  driver : Driver
  modify : (Epilogue → Epilogue) → Store → Store
  /-- Writes an event to the log and gives it to the listeners. -/
  record : SceneEvent → Store → Store

namespace Seat

variable {Store Driver Procedure Answer : Type}

/-- Shows the texts of an ending, each after the wait for it. -/
def playTexts (seat : Seat Store Driver) (preferences : Preferences) (tier : Option Tier)
    (next : Program Store Driver Procedure Answer) :
    List Localized → Program Store Driver Procedure Answer
  | [] => next
  | localized :: rest =>
      let text := localized.resolve preferences.language
      .pause (preferences.pacing.forText text.length)
        (.check
          (.update (seat.record { kind := .ending, text := text, tier := tier })
            (seat.playTexts preferences tier next rest)))

/-- The script of an ending after its label. -/
def script (seat : Seat Store Driver) (preferences : Preferences) (ending : Ending)
    (tier : Option Tier) : Program Store Driver Procedure Answer :=
  .pause preferences.pacing.epilogue
    (seat.playTexts preferences tier (.pause closingBeat (.update (seat.modify complete) .stop))
      ending.texts)

/-- Plays an ending from its label on, in place of whatever is being played. -/
def play (seat : Seat Store Driver) (preferences : Preferences) (ending : Ending)
    (tier : Option Tier) (next : Program Store Driver Procedure Answer) :
    Program Store Driver Procedure Answer :=
  .update (seat.modify fun epilogue => epilogue.begin tier)
    (.update (seat.record (.plain .system (ending.label.resolve preferences.language)))
      (.spawn seat.driver (seat.script preferences ending tier) next))

/-- Stops the ending and forgets it. -/
def reset (seat : Seat Store Driver) (next : Program Store Driver Procedure Answer) :
    Program Store Driver Procedure Answer :=
  .cancel seat.driver (.update (seat.modify fun _ => blank) next)

end Seat

end Epilogue

end Playthrough

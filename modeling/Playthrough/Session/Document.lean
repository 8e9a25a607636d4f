import Playthrough.Scene.Check
import Playthrough.Scene.Encode
import Playthrough.Session.State

/-!
Contract: documents of snapshots.

Owns: the schema and the document form of what the outside sees of interpreters, epilogues and
play-throughs.
-/

namespace Playthrough

open Schema

namespace Interpreter.Snapshot

/-- The schema of an interpreter's snapshot. -/
def check : Json → Validation Snapshot :=
  checkModel fun fields =>
    Snapshot.mk
      <$> required "state" (checkListed Progress.ofName?) fields
      <*> required "node_index" checkInteger fields
      <*> required "events" (checkList SceneEvent.check) fields
      <*> required "choices" (checkList Offer.check) fields
      <*> defaulted "typing" false checkBoolean fields
      <*> defaulted "thinking" false checkBoolean fields
      <*> defaulted "transition_ready" false checkBoolean fields

/-- The document of an interpreter's snapshot. -/
def encode (snapshot : Snapshot) : Json :=
  .object
    [ ("state", .text snapshot.progress.name),
      ("node_index", .integer snapshot.nodeIndex),
      ("events", .ofList SceneEvent.encode snapshot.events),
      ("choices", .ofList Offer.encode snapshot.choices),
      ("typing", .boolean snapshot.typing),
      ("thinking", .boolean snapshot.thinking),
      ("transition_ready", .boolean snapshot.transitionReady) ]

end Interpreter.Snapshot

namespace Epilogue

/-- The schema of an epilogue's snapshot. -/
def check : Json → Validation Epilogue :=
  checkModel fun fields =>
    Epilogue.mk
      <$> required "tier" (checkOptional (checkListed Tier.ofName?)) fields
      <*> required "events" (checkList SceneEvent.check) fields
      <*> defaulted "restart_ready" false checkBoolean fields

/-- The document of an epilogue's snapshot. -/
def encode (epilogue : Epilogue) : Json :=
  .object
    [ ("tier", .ofOption (fun tier : Tier => .text tier.name) epilogue.tier),
      ("events", .ofList SceneEvent.encode epilogue.events),
      ("restart_ready", .boolean epilogue.restartReady) ]

end Epilogue

namespace Session.Snapshot

/-- The schema of a snapshot of a play-through. Its transition delay may be any number. -/
def check : Json → Validation (Session.Snapshot Binary64) :=
  checkModel fun fields =>
    Session.Snapshot.mk
      <$> required "phase" (checkListed Phase.ofName?) fields
      <*> required "total_score" checkInteger fields
      <*> required "preferences" Preferences.check fields
      <*> required "transition_delay" checkReal fields
      <*> required "text_scene" Interpreter.Snapshot.check fields
      <*> required "encounter" Interpreter.Snapshot.check fields
      <*> required "epilogue" Epilogue.check fields

/-- The document of a snapshot of a play-through, with the given document of the transition delay.
-/
def encode {Delay : Type} (snapshot : Session.Snapshot Delay) (delay : Delay → Json) : Json :=
  .object
    [ ("phase", .text snapshot.phase.name),
      ("total_score", .integer snapshot.score),
      ("preferences", snapshot.preferences.encode),
      ("transition_delay", delay snapshot.transitionDelay),
      ("text_scene", snapshot.text.encode),
      ("encounter", snapshot.encounter.encode),
      ("epilogue", snapshot.epilogue.encode) ]

end Session.Snapshot

end Playthrough

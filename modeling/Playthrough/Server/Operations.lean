import Playthrough.Server.Request
import Playthrough.Task.Run

/-!
Contract: how a server answers calls.

Owns: the programs of all calls, the procedure that makes room for one more play-through, and the
machine of a server's world.

Whoever asks for a registered play-through makes it the one used last, even when the answer is a
refusal. Making a play-through reads everything that it needs before anybody is evicted, and
restarting one reads the preferences before anything is stopped.
-/

namespace Playthrough.Server

/-- What can be called by name. -/
inductive Procedure where
  /-- The walk of a play-through through one of its scenes. -/
  | walk (id : SessionId) (kind : SceneKind)
  /-- Making room. -/
  | evict
deriving DecidableEq, Repr

/-- A driver of a play-through. -/
abbrev DriverId := SessionId × Role

/-- The programs of a server. -/
abbrev Plan := Program Server DriverId Procedure Reply

/-- The world of a server. -/
abbrev Setting := World Server DriverId Procedure Reply

/-- The seat of a play-through. -/
def seat (id : SessionId) : Session.Seat Server DriverId Procedure :=
  { driver := fun role => (id, role)
    walk := .walk id
    get := fun server => server.session id
    modify := modifySession id
    deliver := fun _ _ server => server
    warn := fun _ server => server }

/-- Ends with a response. -/
def respond (response : Response) : Plan := .give (.ok response)

/-- Ends without a response. -/
def failWith (fault : Fault) : Plan := .give (.error fault)

/-- Goes on with what the storage answers. -/
def ask {α : Type} (question : Storage → Except Storage.Fault α) (next : α → Plan) : Plan :=
  .look fun server =>
    match question server.storage with
    | .ok value => next value
    | .error fault => failWith (.storage fault)

/-- Responds with a play-through as it is then. -/
def showSession (id : SessionId) : Plan :=
  .look fun server => respond (.session id (server.session id).snapshot)

/-- Responds with a play-through, after it has settled if that was asked for. -/
def conclude (id : SessionId) (wait : Bool) : Plan :=
  if wait then (seat id).settle (showSession id) else showSession id

/-- Goes on with the registered play-through of a name, which is used by that. -/
def withSession (name : String) (next : SessionId → Plan) : Plan :=
  .look fun server =>
    match server.find? name with
    | none => respond .sessionNotFound
    | some id => .update (touch id) (next id)

/-- Closes the least recently used play-throughs until there is room for one more. -/
def evictProgram : Plan :=
  .look fun server =>
    match server.isFull, server.registry with
    | true, oldest :: _ =>
        .update (unregister oldest) ((seat oldest).close (.call .evict .stop))
    | _, _ => .stop

/-- Makes a play-through of the chosen scenes and starts it. -/
def create (wait : Bool) : Plan :=
  ask Storage.settings fun settings =>
    ask (fun storage => storage.chosen storage.textScene settings.textScene) fun textScene =>
      ask (fun storage => storage.chosen storage.encounterScene settings.encounter) fun encounterScene =>
        ask Storage.preferences fun preferences =>
          .call .evict
            (.look fun server =>
              if server.isFull then failWith .noRoom
              else
                let id := server.sessions.length
                .update (register (.initial textScene.value encounterScene.value preferences))
                  ((seat id).begin (conclude id wait)))

/-- Goes back to the beginning with the preferences as they are now. -/
def restart (name : String) (wait : Bool) : Plan :=
  withSession name fun id =>
    ask Storage.preferences fun preferences =>
      (seat id).restart (some preferences) ((seat id).begin (conclude id wait))

/-- Stops a play-through and forgets its name. -/
def remove (name : String) : Plan :=
  .look fun server =>
    match server.find? name with
    | none => respond .sessionNotFound
    | some id => .update (unregister id) ((seat id).close (respond .removed))

/-- Changes the settings. -/
def changeSettings (fields : Json.Fields) : Plan :=
  .look fun server =>
    match server.storage.change fields with
    | (.ok settings, storage) =>
        .update (setStorage storage) (.give (Reply.ofDocument settings.encode))
    | (.error fault, _) =>
        match Fault.complaint? fault with
        | some complaint => respond (.refused 400 complaint)
        | none => failWith (.storage fault)

/-- The document of a scene as it is stored; a document that is null counts as missing. -/
def readScene (name : String) : Plan :=
  ask (·.sceneDocument name) fun found =>
    match found.value with
    | none => respond .sceneNotFound
    | some .null => respond .sceneNotFound
    | some document => .give (Reply.ofDocument document)

/-- The program of a call. -/
def program : Call → Plan
  | .health => respond .healthy
  | .readSettings => ask Storage.settings fun settings => .give (Reply.ofDocument settings.encode)
  | .changeSettings fields => changeSettings fields
  | .listScenes =>
      ask Storage.sceneNames fun names => respond (.document (.array (names.map Json.text)))
  | .readScene name => readScene name
  | .create wait => create wait
  | .observe name wait => withSession name fun id => conclude id wait
  | .select name option wait =>
      withSession name fun id =>
        (seat id).select option (respond .notOnOffer) (conclude id wait)
  | .leave name wait =>
      withSession name fun id =>
        (seat id).triggerTransition (respond .notReady) (conclude id wait)
  | .enter name wait =>
      withSession name fun id =>
        (seat id).beginEncounter (respond .noTransition) (conclude id wait)
  | .restart name wait => restart name wait
  | .remove name => remove name

/-- The program of a request. -/
def Request.program (request : Request) : Plan :=
  match request.call with
  | .ok call => Server.program call
  | .error response => respond response

/-- The procedures by name. A server shows nothing beside its responses. -/
def machine : Machine Server DriverId Procedure Reply :=
  { body := fun
      | .walk id kind => ((seat id).interpreter kind).walkBody
      | .evict => evictProgram
    shown := fun _ => [] }

/-- The name of the data folder of a server. -/
def dataName : String := "data"

/-- The world of a server on the given files, which opens its storage with the built-in presets. -/
def open? (files : Folder) (limit : Nat) : Except Storage.Fault Setting :=
  match (Storage.closed files).openAt [dataName] .builtin with
  | (.ok (), storage) => .ok (World.initial (initial storage limit))
  | (.error fault, _) => .error fault

end Playthrough.Server

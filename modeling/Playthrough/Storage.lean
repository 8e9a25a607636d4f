import Playthrough.Json.Writer
import Playthrough.Repository
import Playthrough.Scene.Check
import Playthrough.Settings

/-!
Contract: the data folder, with the settings and the player's own scenes, before the presets.

Owns: where settings and scenes are kept, the reading and the changing of settings, and the
repository of scenes.

Nothing can be asked before the storage is opened. Opening makes the data folder and the folder of
scenes in it. Settings that were never stored are the standard ones.
-/

namespace Playthrough

/-- Where the presets are. -/
inductive PresetSource where
  /-- The built-in scenes. -/
  | builtin
  /-- The folder of scenes in a folder. -/
  | folder (path : Path)
deriving DecidableEq, Repr

/-- The files, the data folder once it was chosen, and the presets once they were. -/
structure Storage where
  files : Folder
  data : Option Path
  presets : Option PresetSource

namespace Storage

/-- Why the storage does not answer. -/
inductive Fault where
  | notOpen
  | invalidSetting (issue : Settings.Issue)
  /-- The stored settings are no JSON; the text is kept for the report. -/
  | malformed (error : Json.ReadError) (source : String)
  /-- The stored settings are a document of the wrong form. -/
  | unusable
  | undecodable (refusal : Text.Utf8.Refusal)
  | nameTooLong
  | files (problem : FileProblem)
deriving Repr, Inhabited

/-- The fault of a search in a repository. -/
def Fault.ofRepository : Repository.Fault → Fault
  | .nameTooLong => .nameTooLong
  | .undecodable refusal => .undecodable refusal
  | .unusable => .unusable

/-- What is said when nothing was opened. -/
def notOpenMessage : String := "Call init_storage() before using storage"

/-- A storage that is not open. -/
def closed (files : Folder) : Storage := { files := files, data := none, presets := none }

/-- The name of the folder of scenes. -/
def scenesName : String := "scenes"

/-- The name of the file of settings. -/
def settingsName : String := "config.json"

/-! ## Places -/

/-- The data folder. -/
def dataPath (storage : Storage) : Except Fault Path :=
  match storage.data with
  | some path => .ok path
  | none => .error .notOpen

/-- The folder of the player's scenes. -/
def scenesPath (storage : Storage) : Except Fault Path :=
  storage.dataPath.map (· ++ [scenesName])

/-- The file of settings. -/
def settingsPath (storage : Storage) : Except Fault Path :=
  storage.dataPath.map (· ++ [settingsName])

/-- The presets. -/
def presetSource (storage : Storage) : Except Fault PresetSource :=
  match storage.presets with
  | some source => .ok source
  | none => .error .notOpen

/-- Opens the storage. The data folder is chosen even when its folders cannot be made. -/
def openAt (storage : Storage) (data : Path) (presets : PresetSource) :
    Except Fault Unit × Storage :=
  let chosen := { storage with data := some data }
  match chosen.files.makeFolder data with
  | .error problem => (.error (.files problem), chosen)
  | .ok withData =>
      match withData.makeFolder (data ++ [scenesName]) with
      | .error problem => (.error (.files problem), { chosen with files := withData })
      | .ok withScenes => (.ok (), { chosen with files := withScenes, presets := some presets })

/-! ## Scenes -/

/-- The folder of the built-in scenes. -/
def builtinFolder : Folder :=
  Presets.catalogue.map fun preset =>
    (preset.1 ++ Repository.ending, .file (.text preset.2.write))

/-- The folder of preset scenes, if it is there. -/
def presetFolder? (storage : Storage) : PresetSource → Option Folder
  | .builtin => some builtinFolder
  | .folder path => storage.files.folderAt? (path ++ [scenesName])

/-- The repository of the player's scenes before the presets. -/
def repository (storage : Storage) : Except Fault Repository := do
  let scenes ← storage.scenesPath
  let presets ← storage.presetSource
  return {
    folders := (storage.files.folderAt? scenes).toList ++ (storage.presetFolder? presets).toList }

/-- The names of all scenes. -/
def sceneNames (storage : Storage) : Except Fault (List String) :=
  storage.repository.map Repository.names

/-- The document of a scene as it is stored. -/
def sceneDocument (storage : Storage) (name : String) : Except Fault (Repository.Finding Json) := do
  let repository ← storage.repository
  (repository.document name).mapError .ofRepository

/-- The text scene of a name. -/
def textScene (storage : Storage) (name : String) :
    Except Fault (Repository.Finding TextScene) := do
  let repository ← storage.repository
  (repository.load (Schema.checkSource TextScene.check) name).mapError .ofRepository

/-- The encounter of a name. -/
def encounterScene (storage : Storage) (name : String) :
    Except Fault (Repository.Finding EncounterScene) := do
  let repository ← storage.repository
  (repository.load (Schema.checkSource EncounterScene.check) name).mapError .ofRepository

/-- The scene of a name as it is set, by the search for texts. -/
def chosen {α : Type} (storage : Storage)
    (search : String → Except Fault (Repository.Finding α)) :
    SceneName → Except Fault (Repository.Finding α)
  | .text name => search name
  | .loose codePoints => do
      let repository ← storage.repository
      (repository.loadLoose codePoints).mapError .ofRepository

/-! ## Settings -/

/-- The settings of a stored text. -/
def settingsOf (source : String) : Except Fault Settings :=
  match Json.read .lenient source with
  | .error error => .error (.malformed error source)
  | .ok document =>
      match Settings.ofDocument? document with
      | some settings => .ok settings
      | none => .error .unusable

/-- The settings in the files. -/
def settings (storage : Storage) : Except Fault Settings := do
  let path ← storage.settingsPath
  match storage.files.contentAt? path with
  | none => return .standard
  | some content =>
      match content.read with
      | .error refusal => throw (.undecodable refusal)
      | .ok source => settingsOf source

/-- The preferences in the files. -/
def preferences (storage : Storage) : Except Fault Preferences :=
  storage.settings.map Settings.preferences

/-- The content of the file of settings. -/
def settingsContent (settings : Settings) : Content :=
  .text settings.encode.writeIndented

/-- The settings after a change, and the files with them. -/
def changed (storage : Storage) (fields : Json.Fields) : Except Fault (Settings × Folder) := do
  let change ← (Settings.Change.ofFields fields).mapError Fault.invalidSetting
  let settings ← storage.settings
  let path ← storage.settingsPath
  let changed := settings.apply change
  let files ← (storage.files.writeFile (settingsContent changed) path).mapError Fault.files
  return (changed, files)

/-- Changes settings and stores all of them. A change that is refused leaves the files alone. -/
def change (storage : Storage) (fields : Json.Fields) : Except Fault Settings × Storage :=
  match storage.changed fields with
  | .ok (settings, files) => (.ok settings, { storage with files := files })
  | .error fault => (.error fault, storage)

/-- A change that is refused leaves the files alone. -/
theorem change_of_error {storage : Storage} {fields : Json.Fields} {fault : Fault}
    (refused : (storage.change fields).1 = .error fault) :
    (storage.change fields).2 = storage := by
  unfold change at refused ⊢
  split
  · rename_i success
    simp [success] at refused
  · rfl

end Storage

end Playthrough

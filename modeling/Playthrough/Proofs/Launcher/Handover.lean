import Mathlib
import Playthrough.Launcher.Launch
import Playthrough.Proofs.Files.Frame
import Playthrough.Proofs.Storage.Keeping

/-!
Contract: what a launch comes to, and which settings its server reads.

Owns: the settings in a data folder (`settingsIn`), the launches whose server uses another data folder than the one
that was stored into (`Diverted`), those that can store what is given (`Usable`), and what a launch comes to
(`Comes`).

Does not own: the reading of arguments, and what the server does.

The launcher and its server choose their data folders on their own. They choose the same one when a folder is given,
and when the surroundings name none. When only the surroundings name one, the server takes it and the launcher does
not look at it: what was given is then stored where nobody reads it.
-/

namespace Playthrough

/-! ## Data folders on the way -/

/-- A folder beside a file that is written stays as it is. -/
theorem Folder.folderAt?_writeFile {folder written below : Folder} {content : Content} {path : Path}
    {name other : String} (success : folder.writeFile content (path ++ [name]) = .ok written)
    (there : folder.folderAt? (path ++ [other]) = some below) : written.folderAt? (path ++ [other]) = some below := by
  obtain ⟨entries, above, stands⟩ := folderAt?_append_eq_some.mp there
  have free : ∀ inner, entries.get? name ≠ some (.folder inner) := by
    intro inner taken
    rw [writeFile_of_folder content above taken] at success
    cases success
  have different : name ≠ other := fun same => free below (same ▸ stands)
  obtain ⟨again, successAgain, holds⟩ := writeFile_of_folderAt? content above free
  obtain rfl : again = written := Except.ok.inj (successAgain.symm.trans success)
  exact folderAt?_append_eq_some.mpr ⟨_, holds, (get?_put_of_ne _ _ different).trans stands⟩

namespace Storage

variable {storage opened : Storage} {data : Path} {presets : PresetSource}

/-- A data folder that was opened has its folder of scenes, and every file is as it was. -/
theorem openAt_eq_ok (success : storage.openAt data presets = (.ok (), opened)) :
    opened.data = some data ∧ (∃ scenes, opened.files.folderAt? (data ++ [scenesName]) = some scenes)
      ∧ ∀ other, opened.files.contentAt? other = storage.files.contentAt? other := by
  unfold openAt at success
  dsimp only at success
  split at success
  · simp at success
  · next withData made =>
      split at success
      · simp at success
      · next withScenes madeBelow =>
          obtain ⟨-, rfl⟩ := Prod.mk.inj success
          exact ⟨rfl, Folder.folderAt?_makeFolder madeBelow, fun other =>
            (Folder.contentAt?_makeFolder madeBelow other).trans (Folder.contentAt?_makeFolder made other)⟩

/-- A data folder that has its folder of scenes is opened as it is. -/
theorem openAt_of_scenes {scenes : Folder} (below : storage.files.folderAt? (data ++ [scenesName]) = some scenes) :
    storage.openAt data presets = (.ok (), { storage with data := some data, presets := some presets }) := by
  obtain ⟨entries, there, -⟩ := Folder.folderAt?_append_eq_some.mp below
  simp [openAt, Folder.makeFolder_of_folderAt? there, Folder.makeFolder_of_folderAt? below]

/-- Settings that cannot be read cannot be changed. -/
theorem change_of_unreadable {update : Json.Fields} {change : Settings.Change} {fault : Fault}
    (accepted : Settings.Change.ofFields update = .ok change) (unreadable : storage.settings = .error fault) :
    storage.change update = (.error fault, storage) := by
  simp [Storage.change, changed, accepted, unreadable, Except.mapError, bind, Except.bind]

/-- Settings cannot be stored where a folder has the name of their file. -/
theorem change_of_folder {update : Json.Fields} {change : Settings.Change} {entries below : Folder}
    (accepted : Settings.Change.ofFields update = .ok change) (chosen : storage.data = some data)
    (there : storage.files.folderAt? data = some entries) (taken : entries.get? settingsName = some (.folder below)) :
    ∃ fault, storage.change update = (.error fault, storage) := by
  cases reads : storage.settings with
  | error fault => exact ⟨fault, change_of_unreadable accepted reads⟩
  | ok settings =>
      refine ⟨.files .folderThere, ?_⟩
      simp [Storage.change, changed, settingsPath, dataPath, accepted, reads, chosen, Folder.writeFile_of_folder _ there
        taken, Except.mapError, Except.map, bind, Except.bind]

end Storage

namespace Launcher

variable {surroundings : Surroundings} {options : Options} {signal : Option StopSignal} {files : Folder}

/-! ## Data folders -/

/-- The settings in a data folder. -/
def settingsIn (files : Folder) (data : Path) : Except Storage.Fault Settings :=
  ({ files := files, data := some data, presets := none } : Storage).settings

/-- Only the surroundings name a data folder, and it is not the one in the folder of the program. -/
def Diverted (surroundings : Surroundings) (options : Options) : Prop :=
  options.dataFolder = none ∧ ∃ written, surroundings.dataFolder = some written
    ∧ resolve surroundings.home written ≠ surroundings.standardData

/-- The server uses the data folder that was stored into unless it is diverted. -/
theorem servedData_eq_iff : servedData surroundings options = storedData surroundings options ↔
    ¬Diverted surroundings options := by
  unfold servedData storedData givenData Diverted
  cases options.dataFolder with
  | some written => simp
  | none => cases surroundings.dataFolder <;> simp

/-- The settings in a data folder are those in its file. -/
theorem settings_eq_settingsIn {storage : Storage} {data : Path} (opened : storage.data = some data)
    (same : storage.files.contentAt? (data ++ [Storage.settingsName]) =
      files.contentAt? (data ++ [Storage.settingsName])) :
    storage.settings = settingsIn files data := by
  rw [settingsIn, Storage.settings_eq opened, Storage.settings_eq rfl, same]

/-! ## Opening the storage -/

theorem contentAt?_makeWay {place : Path} {fresh : Bool} {segments : List String} {made : Folder}
    (success : makeWay files place fresh segments = .ok made) (other : Path) :
    made.contentAt? other = files.contentAt? other := by
  induction segments generalizing files place fresh with
  | nil =>
      obtain rfl : files = made := by simpa [makeWay] using success
      rfl
  | cons segment rest inductionHypothesis =>
      rw [makeWay] at success
      split at success
      · cases success
      · split at success
        · cases success
        · next between step =>
            exact (inductionHypothesis success).trans (Folder.contentAt?_makeFolder step other)

/-- A storage that the launcher opened has the folder of scenes, and every file is as it was. -/
theorem openStorage_eq_ok {storage : Storage} (success : openStorage surroundings options files = .ok storage) :
    storage.data = some (storedData surroundings options)
      ∧ (∃ scenes, storage.files.folderAt? (storedData surroundings options ++ [Storage.scenesName]) = some scenes)
      ∧ ∀ other, storage.files.contentAt? other = files.contentAt? other := by
  unfold openStorage at success
  cases prepared : prepareWay surroundings options files with
  | error fault => simp [prepared, bind, Except.bind] at success
  | ok ready =>
      simp only [prepared, bind, Except.bind] at success
      split at success
      · cases success
      · next opened isOpen =>
          obtain rfl := Except.ok.inj success
          obtain ⟨chosen, below, kept⟩ := Storage.openAt_eq_ok isOpen
          have before : ∀ other, ready.contentAt? other = files.contentAt? other := by
            unfold prepareWay at prepared
            split at prepared
            · exact contentAt?_makeWay prepared
            · obtain rfl := Except.ok.inj prepared
              exact fun _ => rfl
          exact ⟨chosen, below, fun other => (kept other).trans (before other)⟩

/-! ## Storing preferences -/

/-- Whether preferences are given. -/
def GivesPreferences (options : Options) : Prop := options.pacing ≠ none ∨ options.language ≠ none

/-- Settings with the given preferences in the place of the old ones. -/
def withPreferences (options : Options) (settings : Settings) : Settings :=
  { settings with
    language := options.language.getD settings.language
    pacing := options.pacing.getD settings.pacing }

theorem isEmpty_preferenceFields : (preferenceFields options).isEmpty = true ↔ ¬GivesPreferences options := by
  cases pacing : options.pacing <;> cases language : options.language <;>
    simp [preferenceFields, GivesPreferences, pacing, language]

/-- The given preferences are a change that is accepted. -/
theorem ofFields_preferenceFields (options : Options) : Settings.Change.ofFields (preferenceFields options) =
    .ok { language := options.language, pacing := options.pacing, textScene := none, encounter := none } := by
  obtain ⟨dataFolder, pacing, language, port, reload⟩ := options
  have languageRead (language : Language) : Settings.languageOf? (.text language.name) = some language :=
    Language.ofName?_name language
  have pacingRead (pacing : Pacing) : Settings.pacingOf? (.text pacing.name) = some pacing :=
    Pacing.ofName?_name pacing
  cases pacing <;> cases language <;>
    simp [Settings.Change.ofFields, Settings.given, preferenceFields, Json.Fields.get?_cons, Settings.languageField,
      Settings.pacingField, Settings.textSceneField, Settings.encounterField, languageRead, pacingRead, bind,
      Except.bind, pure, Except.pure]

/-- The launcher can store preferences: the data folder can be opened, its settings can be read, and they can be
written. -/
def Usable (surroundings : Surroundings) (options : Options) (files : Folder) : Prop :=
  ∃ storage settings, openStorage surroundings options files = .ok storage
    ∧ storage.Ready (storedData surroundings options)
    ∧ settingsIn files (storedData surroundings options) = .ok settings

/-- What is in the files after the given preferences were stored. -/
structure Stored (surroundings : Surroundings) (options : Options) (files stored : Folder) (settings : Settings) :
    Prop where
  before : settingsIn files (storedData surroundings options) = .ok settings
  after : settingsIn stored (storedData surroundings options) = .ok (withPreferences options settings)
  elsewhere : ∀ data, data ≠ storedData surroundings options → settingsIn stored data = settingsIn files data
  scenes : ∃ scenes, stored.folderAt? (storedData surroundings options ++ [Storage.scenesName]) = some scenes

theorem storePreferences_eq (gives : GivesPreferences options) {storage : Storage}
    (isOpen : openStorage surroundings options files = .ok storage) :
    storePreferences surroundings options files =
      (storage.change (preferenceFields options)).1.map fun _ => (storage.change (preferenceFields options)).2.files := by
  have asked : (preferenceFields options).isEmpty = false := by
    simpa using mt isEmpty_preferenceFields.mp (not_not_intro gives)
  simp only [storePreferences, asked, isOpen, bind, Except.bind, Bool.false_eq_true, if_false]
  rcases storage.change (preferenceFields options) with ⟨fault | settings, changed⟩ <;> rfl

theorem storePreferences_of_usable (gives : GivesPreferences options)
    (usable : Usable surroundings options files) :
    ∃ stored settings, storePreferences surroundings options files = .ok stored
      ∧ Stored surroundings options files stored settings := by
  obtain ⟨storage, settings, isOpen, ready, before⟩ := usable
  obtain ⟨chosen, ⟨scenes, below⟩, kept⟩ := openStorage_eq_ok isOpen
  have reads : storage.settings = .ok settings := (settings_eq_settingsIn chosen (kept _)).trans before
  obtain ⟨written, success, changed, -⟩ := Storage.change_of_ready ready reads (ofFields_preferenceFields options)
  have sound := Storage.sound_of_settings reads
  have soundAfter : (withPreferences options settings).Sound := ⟨sound.textScene, sound.encounter⟩
  refine ⟨written, settings, ?_, ⟨before, ?_, ?_, ⟨scenes, Folder.folderAt?_writeFile success below⟩⟩⟩
  · rw [storePreferences_eq gives isOpen, changed]
    rfl
  · have again := Storage.settings_of_written chosen soundAfter success
    have same : ({ storage with files := written } : Storage).settings = settingsIn written _ :=
      settings_eq_settingsIn chosen rfl
    exact same.symm.trans again
  · intro data different
    have apart : data ++ [Storage.settingsName] ≠ storedData surroundings options ++ [Storage.settingsName] :=
      fun same => different (List.append_cancel_right same)
    exact settings_eq_settingsIn rfl ((Folder.contentAt?_writeFile_of_ne success apart).trans (kept _))

theorem storePreferences_of_not_usable (gives : GivesPreferences options)
    (unusable : ¬Usable surroundings options files) :
    ∃ fault, storePreferences surroundings options files = .error fault := by
  cases isOpen : openStorage surroundings options files with
  | error fault =>
      have asked : (preferenceFields options).isEmpty = false := by
        simpa using mt isEmpty_preferenceFields.mp (not_not_intro gives)
      exact ⟨fault, by simp [storePreferences, asked, isOpen, bind, Except.bind]⟩
  | ok storage =>
      obtain ⟨chosen, ⟨scenes, below⟩, kept⟩ := openStorage_eq_ok isOpen
      obtain ⟨entries, there, -⟩ := Folder.folderAt?_append_eq_some.mp below
      have refused : ∃ fault, storage.change (preferenceFields options) = (.error fault, storage) := by
        cases reads : settingsIn files (storedData surroundings options) with
        | error fault =>
            have unreadable := (settings_eq_settingsIn chosen (kept _)).trans reads
            exact ⟨fault, Storage.change_of_unreadable (ofFields_preferenceFields options) unreadable⟩
        | ok settings =>
            obtain ⟨inner, taken⟩ : ∃ inner, entries.get? Storage.settingsName = some (.folder inner) := by
              by_contra free
              have ready : storage.Ready (storedData surroundings options) :=
                ⟨chosen, entries, there, fun inner taken => free ⟨inner, taken⟩⟩
              exact unusable ⟨storage, settings, isOpen, ready, reads⟩
            exact Storage.change_of_folder (ofFields_preferenceFields options) chosen there taken
      obtain ⟨fault, refused⟩ := refused
      exact ⟨fault, by rw [storePreferences_eq gives isOpen, refused]; rfl⟩

/-! ## Launches -/

/-- Whether a server is started. -/
def Act.isStart : Act → Bool
  | .start _ _ => true
  | _ => false

/-- The servers that a launch starts. -/
def Launch.starts (launch : Launch) : List Act := launch.acts.filter Act.isStart

/-- The server of options. -/
def serverOf (surroundings : Surroundings) (options : Options) : Act :=
  .start (command surroundings options) (givenData surroundings options)

/-- The settings that the server reads once it has opened its data folder. -/
def servedSettings (surroundings : Surroundings) (options : Options) (files : Folder) :
    Except Storage.Fault Settings :=
  match (Storage.closed files).openAt (servedData surroundings options) .builtin with
  | (.error fault, _) => .error fault
  | (.ok (), storage) => storage.settings

/-- A server reads what is in its data folder when it starts. -/
theorem servedSettings_eq_ok {settings : Settings} (read : servedSettings surroundings options files = .ok settings) :
    settingsIn files (servedData surroundings options) = .ok settings := by
  unfold servedSettings at read
  split at read
  · cases read
  · next storage isOpen =>
      obtain ⟨chosen, -, kept⟩ := Storage.openAt_eq_ok isOpen
      exact (settings_eq_settingsIn chosen (kept _)).symm.trans read

/-- The server of a launch that is not diverted reads the given preferences in the place of the old ones. -/
theorem servedSettings_of_stored {stored : Folder} {settings : Settings}
    (holds : Stored surroundings options files stored settings) (here : ¬Diverted surroundings options) :
    settingsIn files (servedData surroundings options) = .ok settings
      ∧ servedSettings surroundings options stored = .ok (withPreferences options settings) := by
  rw [servedSettings, servedData_eq_iff.mpr here]
  obtain ⟨scenes, below⟩ := holds.scenes
  rw [Storage.openAt_of_scenes (show (Storage.closed stored).files.folderAt? _ = some scenes from below)]
  exact ⟨holds.before, (settings_eq_settingsIn rfl rfl).trans holds.after⟩

/-- What a launch comes to, by what was read of the arguments. -/
inductive Comes (surroundings : Surroundings) (files : Folder) : Reading → Except Storage.Fault Launch → Prop where
  | rejected : Comes surroundings files .rejected (.ok { acts := [], guarded := false, status := some 2, files := files })
  | help : Comes surroundings files .help (.ok { acts := [], guarded := false, status := some 0, files := files })
  /-- Nothing is to be stored. -/
  | plain {options : Options} {launch : Launch} (silent : ¬GivesPreferences options) (untouched : launch.files = files)
      (starts : launch.starts = [serverOf surroundings options]) : Comes surroundings files (.options options) (.ok launch)
  /-- The launcher fails before it does anything. -/
  | fails {options : Options} {fault : Storage.Fault} (gives : GivesPreferences options)
      (unusable : ¬Usable surroundings options files) : Comes surroundings files (.options options) (.error fault)
  /-- The preferences are stored before the server is started, which reads them unless it is diverted. -/
  | stores {options : Options} {launch : Launch} {settings : Settings} (gives : GivesPreferences options)
      (usable : Usable surroundings options files)
      (starts : launch.starts = [serverOf surroundings options])
      (holds : Stored surroundings options files launch.files settings)
      (serves : ¬Diverted surroundings options →
        settingsIn files (servedData surroundings options) = .ok settings
          ∧ servedSettings surroundings options launch.files = .ok (withPreferences options settings))
      (misses : Diverted surroundings options →
        settingsIn launch.files (servedData surroundings options) = settingsIn files (servedData surroundings options)) :
      Comes surroundings files (.options options) (.ok launch)

/-- What a launch comes to, for all surroundings, arguments and files, and whatever stops it. -/
theorem comes_of_launch (surroundings : Surroundings) (arguments : List String) (signal : Option StopSignal)
    (files : Folder) : Comes surroundings files (read arguments) (launch surroundings arguments signal files) := by
  unfold launch
  cases read arguments with
  | rejected => exact .rejected
  | help => exact .help
  | options options =>
      have starts (stored : Folder) : Launch.starts
          { acts := actsFor surroundings options signal, guarded := true, status := signal.map fun _ => 0,
            files := stored } = [serverOf surroundings options] := by
        cases signal <;> rfl
      by_cases gives : GivesPreferences options
      · by_cases usable : Usable surroundings options files
        · obtain ⟨stored, settings, success, holds⟩ := storePreferences_of_usable gives usable
          simp only [success]
          refine .stores gives usable (starts stored) holds (servedSettings_of_stored holds) fun diverted => ?_
          exact holds.elsewhere _ (mt servedData_eq_iff.mp (not_not_intro diverted))
        · obtain ⟨fault, failure⟩ := storePreferences_of_not_usable gives usable
          simp only [failure]
          exact .fails gives usable
      · have silent : storePreferences surroundings options files = .ok files := by
          simp [storePreferences, isEmpty_preferenceFields.mpr gives]
        simp only [silent]
        exact .plain gives rfl (starts files)

/-! ## A launch where the surroundings name a data folder -/

/-- Surroundings that name a data folder outside the folder of the program. -/
def awayFromHome : Surroundings :=
  { current := ["work"], home := ["home"], dataFolder := some "/srv/aware", host := none, port := none }

/-- Options to play fast. -/
def hasty : Options := { Options.none with pacing := some .fast }

theorem usable_hasty : Usable awayFromHome hasty [] := by
  refine ⟨_, .standard, rfl, ⟨rfl, [(Storage.scenesName, .folder [])], rfl, ?_⟩, rfl⟩
  simp [Folder.get?_cons, Storage.scenesName, Storage.settingsName]

/-- Where only the surroundings name the data folder, the server does not read what was given. -/
theorem not_serves_awayFromHome :
    ¬∀ (surroundings : Surroundings) (arguments : List String) (signal : Option StopSignal) (files : Folder)
      (options : Options) (launch : Launch) (settings : Settings), read arguments = .options options →
      GivesPreferences options → Launcher.launch surroundings arguments signal files = .ok launch →
      settingsIn files (servedData surroundings options) = .ok settings →
      servedSettings surroundings options launch.files = .ok (withPreferences options settings) := by
  intro serves
  have asked : read ["--pacing", "fast"] = .options hasty := by decide +kernel
  have gives : GivesPreferences hasty := .inl (by simp [hasty])
  have served : servedData awayFromHome hasty = ["srv", "aware"] := by decide +kernel
  obtain ⟨stored, settings, success, holds⟩ := storePreferences_of_usable gives usable_hasty
  have launched : ∃ launch, Launcher.launch awayFromHome ["--pacing", "fast"] none [] = .ok launch
      ∧ launch.files = stored := by
    simp only [Launcher.launch, asked, success]
    exact ⟨_, rfl, rfl⟩
  obtain ⟨launch, launched, rfl⟩ := launched
  have before : settingsIn [] (servedData awayFromHome hasty) = .ok .standard := by
    rw [served]
    rfl
  have reads := servedSettings_eq_ok (serves _ _ none _ hasty launch _ asked gives launched before)
  rw [holds.elsewhere _ (by rw [served]; decide), before] at reads
  have same : Settings.standard = withPreferences hasty .standard := Except.ok.inj reads
  exact absurd (congrArg Settings.pacing same) (by decide)

end Launcher

end Playthrough

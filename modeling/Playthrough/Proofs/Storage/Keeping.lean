import Mathlib
import Playthrough.Proofs.Json.Objects
import Playthrough.Proofs.Storage.Fields
import Playthrough.Storage

/-!
Contract: that settings are kept: what was read or changed is read again.

Owns: settings that are read again from their text (`Sound`), the place where they are kept
(`Storage.Ready`), what is stored there (`Storage.Stored`), and the law of every history of changes.

Does not own: what the fields may hold.

The state is nothing but a text. A change reads it, and writes the whole of the changed settings; so
the law rests on the reading of what was written, for every string that a scene name can be.
-/

namespace Playthrough

/-! ## Settings that are read again -/

/-- A scene name that is read again from its document when that was written and read. -/
structure SceneName.Lasting (name : SceneName) : Prop where
  reads : Settings.sceneNameOf? name.encode = some name
  stands : name.encode.Stands

/-- A name that is read from a string that stands for itself lasts. -/
theorem SceneName.lasting_of_read {value : Json} {name : SceneName}
    (read : Settings.sceneNameOf? value = some name) (stands : value.StandsIfString) :
    name.Lasting := by
  have written : name.encode = value := (Settings.readsField_scene (.inl rfl)).writes read
  constructor
  · rw [written, read]
  · rw [written]
    cases value with
    | text text => exact .text text
    | looseText points => exact stands points rfl
    | _ => simp [Settings.sceneNameOf?] at read

/-- Settings whose scene names last. -/
structure Settings.Sound (settings : Settings) : Prop where
  textScene : settings.textScene.Lasting
  encounter : settings.encounter.Lasting

namespace Settings

theorem sound_standard : Sound standard where
  textScene := { reads := by decide, stands := .text _ }
  encounter := { reads := by decide, stands := .text _ }

/-- What is read of a field is none of the loose strings that do not stand for themselves. -/
theorem lasting_of_stored {fields : Json.Fields} {name : String} {standard : SceneName}
    (stands : ∀ value, fields.get? name = some value → value.StandsIfString)
    (lasting : standard.Lasting) :
    (((fields.get? name).bind sceneNameOf?).getD standard).Lasting := by
  cases there : fields.get? name with
  | none => exact lasting
  | some value =>
      cases read : sceneNameOf? value with
      | none => simpa [read] using lasting
      | some found => simpa [read] using SceneName.lasting_of_read read (stands value there)

/-- The strings in the document of sound settings stand for themselves. -/
theorem Sound.stands {settings : Settings} (sound : settings.Sound) {fields : Json.Fields}
    (document : settings.encode = .object fields) : ∀ field ∈ fields, Json.Stands field.2 := by
  rw [← Json.object.inj document]
  simp only [List.mem_cons, List.not_mem_nil, or_false]
  rintro field (rfl | rfl | rfl | rfl)
  · exact .text _
  · exact .text _
  · exact sound.textScene.stands
  · exact sound.encounter.stands

/-- The document of sound settings is read as those settings after it was written. -/
theorem settingsOf_encode {settings : Settings} (sound : settings.Sound) :
    Storage.settingsOf settings.encode.writeIndented = .ok settings := by
  have read : Json.read .lenient settings.encode.writeIndented = .ok settings.encode :=
    Json.read_writeIndented (sound.stands rfl) (show fieldNames.Nodup by decide)
  have document : ofDocument? settings.encode = some settings := by
    have language : languageOf? (.text settings.language.name) = some settings.language :=
      Language.ofName?_name settings.language
    have pacing : pacingOf? (.text settings.pacing.name) = some settings.pacing :=
      Pacing.ofName?_name settings.pacing
    simp [ofDocument?, ofFields, encode, Json.Fields.get?_cons, languageField, pacingField,
      textSceneField, encounterField, language, pacing, sound.textScene.reads, sound.encounter.reads]
  unfold Storage.settingsOf
  rw [read]
  simp only [document]

/-- Settings of stored fields are sound when the strings among these stand for themselves. -/
theorem sound_ofFields {fields : Json.Fields}
    (stands : ∀ name value, fields.get? name = some value → value.StandsIfString) :
    (ofFields fields).Sound where
  textScene := lasting_of_stored (stands textSceneField) sound_standard.textScene
  encounter := lasting_of_stored (stands encounterField) sound_standard.encounter

/-- A document gives the settings of its fields, or the standard ones if it has none. -/
theorem ofDocument?_eq_some {document : Json} {settings : Settings} (held : ofDocument? document = some settings) :
    (∃ fields, document = .object fields ∧ ofFields fields = settings) ∨ settings = standard := by
  unfold ofDocument? at held
  split at held
  · next fields => exact .inl ⟨fields, rfl, Option.some.inj held⟩
  · exact .inr (Option.some.inj (Option.ite_none_left_eq_some.mp held).2).symm
  · exact .inr (Option.some.inj (Option.ite_none_left_eq_some.mp held).2).symm
  · exact .inr (Option.some.inj (Option.ite_none_left_eq_some.mp held).2).symm
  · cases held

/-- Settings that are read from a text are sound. -/
theorem sound_of_settingsOf {source : String} {settings : Settings}
    (reads : Storage.settingsOf source = .ok settings) : settings.Sound := by
  unfold Storage.settingsOf at reads
  split at reads
  · cases reads
  · next document parsed =>
      split at reads
      · next found held =>
          obtain rfl := Except.ok.inj reads
          obtain ⟨fields, rfl, rfl⟩ | rfl := ofDocument?_eq_some held
          · exact sound_ofFields fun name value found =>
              Json.standsIfString_of_read parsed _ (Json.Fields.mem_of_get? found)
          · exact sound_standard
      · cases reads

/-- A change in which every scene name is a text. -/
def IsScalar (update : Json.Fields) : Prop :=
  ∀ name ∈ [textSceneField, encounterField], ∀ points, update.get? name ≠ some (.looseText points)

/-- Such a change leaves sound settings sound. -/
theorem Sound.apply {settings : Settings} (sound : settings.Sound) {update : Json.Fields}
    (scalar : IsScalar update) {change : Change} (accepted : Change.ofFields update = .ok change) :
    (settings.apply change).Sound := by
  have changed := decides_ofFields update
  unfold Decides at changed
  split at changed
  · rw [accepted] at changed
    obtain rfl := Except.ok.inj changed
    have stands : ∀ name ∈ [textSceneField, encounterField], ∀ value,
        update.get? name = some value → value.StandsIfString := by
      rintro name inside value there points rfl
      exact absurd there (scalar name inside points)
    exact {
      textScene := lasting_of_stored (stands _ (by simp)) sound.textScene
      encounter := lasting_of_stored (stands _ (by simp)) sound.encounter }
  · obtain ⟨issue, refused⟩ := changed
    simp [accepted] at refused

end Settings

/-! ## The file of settings -/

namespace Folder

/-- A file can be written into a folder that is there, where no folder has its name. -/
theorem writeFile_of_folderAt? {folder entries : Folder} {path : Path} {name : String} (content : Content)
    (there : folder.folderAt? path = some entries)
    (free : ∀ below, entries.get? name ≠ some (.folder below)) :
    ∃ written, folder.writeFile content (path ++ [name]) = .ok written
      ∧ written.folderAt? path = some (entries.put name (.file content)) := by
  induction path generalizing folder with
  | nil =>
      obtain rfl : folder = entries := by simpa [folderAt?, at?] using there
      refine ⟨folder.put name (.file content), ?_, rfl⟩
      cases found : folder.get? name with
      | none => simp [writeFile, found]
      | some node =>
          cases node with
          | file _ => simp [writeFile, found]
          | folder below => exact absurd found (free below)
  | cons first rest inductionHypothesis =>
      cases found : folder.get? first with
      | none => simp [folderAt?, at?, found] at there
      | some node =>
          cases node with
          | file _ => cases rest <;> simp [folderAt?, at?, found] at there
          | folder below =>
              have deeper : Folder.folderAt? below rest = some entries := by
                simpa [folderAt?, at?, found] using there
              obtain ⟨written, success, stands⟩ := inductionHypothesis deeper
              refine ⟨folder.put first (.folder written), ?_, ?_⟩
              · obtain ⟨next, more, follows⟩ : ∃ next more, rest ++ [name] = next :: more :=
                  List.exists_cons_of_ne_nil (by simp)
                rw [List.cons_append, follows, writeFile, found, ← follows]
                · simp [success, bind, Except.bind, pure, Except.pure]
                · simp
              · simpa [folderAt?, at?] using stands

end Folder

namespace Storage

open Settings

/-- The place of the settings is ready: the storage is open, its folder is there, and in it no folder
has the name of the file of settings. -/
structure Ready (storage : Storage) (data : Path) : Prop where
  opened : storage.data = some data
  folder : ∃ entries, storage.files.folderAt? data = some entries
    ∧ ∀ below, entries.get? settingsName ≠ some (.folder below)

/-- The fields that are stored: none where there is no file, or those of the object in the file. -/
inductive Stored (storage : Storage) (data : Path) : Json.Fields → Prop where
  | absent (missing : storage.files.contentAt? (data ++ [settingsName]) = none) :
      Stored storage data []
  | object {content : Content} {source : String} {fields : Json.Fields}
      (there : storage.files.contentAt? (data ++ [settingsName]) = some content)
      (readable : content.read = .ok source)
      (holds : Json.read .lenient source = .ok (.object fields)) : Stored storage data fields

variable {storage : Storage} {data : Path}

theorem settings_eq (opened : storage.data = some data) :
    storage.settings =
      match storage.files.contentAt? (data ++ [settingsName]) with
      | none => .ok .standard
      | some content =>
          match content.read with
          | .error refusal => .error (.undecodable refusal)
          | .ok source => settingsOf source := by
  unfold settings settingsPath dataPath
  simp only [opened, Except.map, bind, Except.bind]
  cases storage.files.contentAt? (data ++ [settingsName]) with
  | none => rfl
  | some content => cases content.read <;> rfl

/-- Settings that are read are sound, whatever is stored. -/
theorem sound_of_settings {settings : Settings} (reads : storage.settings = .ok settings) : settings.Sound := by
  cases opened : storage.data with
  | none => simp [Storage.settings, settingsPath, dataPath, opened, Except.map, bind, Except.bind] at reads
  | some data =>
      rw [settings_eq opened] at reads
      split at reads
      · cases reads
        exact sound_standard
      · split at reads
        · cases reads
        · exact sound_of_settingsOf reads

/-- Settings that were written are read again. -/
theorem settings_of_written {settings : Settings} {written : Folder} (opened : storage.data = some data)
    (sound : settings.Sound)
    (success : storage.files.writeFile (settingsContent settings) (data ++ [settingsName]) = .ok written) :
    ({ storage with files := written } : Storage).settings = .ok settings := by
  have readable : (settingsContent settings).read = .ok settings.encode.writeIndented :=
    Content.read_text (Json.return_not_mem_writeIndented (sound.stands rfl))
  have read := settings_eq (show ({ storage with files := written } : Storage).data = some data from opened)
  rw [read, Folder.contentAt?_writeFile success]
  simp only [readable]
  exact settingsOf_encode sound

/-- A change that is accepted is written where the settings are kept. -/
theorem change_of_ready {settings : Settings} {update : Json.Fields} {change : Change} (ready : storage.Ready data)
    (reads : storage.settings = .ok settings) (accepted : Change.ofFields update = .ok change) :
    ∃ written, storage.files.writeFile (settingsContent (settings.apply change)) (data ++ [settingsName]) = .ok written
      ∧ storage.change update = (.ok (settings.apply change), { storage with files := written })
      ∧ ({ storage with files := written } : Storage).Ready data := by
  obtain ⟨opened, entries, there, free⟩ := ready
  obtain ⟨written, success, kept⟩ :=
    Folder.writeFile_of_folderAt? (settingsContent (settings.apply change)) there free
  refine ⟨written, success, ?_, opened, _, kept, by simp⟩
  unfold Storage.change changed settingsPath dataPath
  simp [accepted, reads, opened, success, Except.mapError, Except.map, bind, Except.bind, pure, Except.pure]

/-- A change that is accepted is written to where the settings are kept, and read again from there. -/
theorem change_of_admissible {settings : Settings} (ready : storage.Ready data)
    (reads : storage.settings = .ok settings) (sound : settings.Sound) {update fields : Json.Fields}
    (scalar : IsScalar update) (admitted : admissible update = true)
    (document : settings.encode = .object fields) :
    ∃ changed files, storage.change update = (.ok changed, { storage with files := files })
      ∧ changed.encode = .object (overwritten fields update) ∧ changed.Sound
      ∧ ({ storage with files := files } : Storage).Ready data
      ∧ ({ storage with files := files } : Storage).settings = .ok changed := by
  obtain ⟨change, accepted, rewritten⟩ := ofFields_of_admissible fields admitted
  obtain ⟨written, success, changed, readyAfter⟩ := change_of_ready ready reads accepted
  have soundAfter := sound.apply scalar accepted
  exact ⟨settings.apply change, written, changed, rewritten settings document, soundAfter, readyAfter,
    settings_of_written ready.opened soundAfter success⟩

/-- A change that is refused leaves everything as it is. -/
theorem change_of_not_admissible (storage : Storage) {update : Json.Fields}
    (bad : admissible update = false) :
    ∃ issue, storage.change update = (.error (.invalidSetting issue), storage) := by
  obtain ⟨issue, refused⟩ := ofFields_of_not_admissible bad
  exact ⟨issue, by simp [Storage.change, changed, refused, Except.mapError, bind, Except.bind]⟩

/-! ## Histories -/

/-- What is kept through every history: the place is ready, and what is read there are sound settings
with the fields in question. -/
structure Keeps (storage : Storage) (data : Path) (fields : Json.Fields) : Prop where
  ready : storage.Ready data
  reads : ∃ settings, storage.settings = .ok settings ∧ settings.encode = .object fields
    ∧ settings.Sound

theorem Keeps.change {fields update : Json.Fields} (keeps : storage.Keeps data fields)
    (scalar : IsScalar update) : (storage.change update).2.Keeps data (updated fields update) := by
  obtain ⟨ready, settings, reads, document, sound⟩ := keeps
  unfold updated
  cases admitted : admissible update with
  | true =>
      obtain ⟨changed, files, success, documentAfter, soundAfter, readyAfter, readsAfter⟩ :=
        change_of_admissible ready reads sound scalar admitted document
      rw [success]
      exact ⟨readyAfter, changed, readsAfter, documentAfter, soundAfter⟩
  | false =>
      obtain ⟨issue, refused⟩ := storage.change_of_not_admissible admitted
      rw [refused]
      exact ⟨ready, settings, reads, document, sound⟩

/-- What holds of a storage whose settings have the given fields. -/
structure Lawful (storage : Storage) (fields : Json.Fields) : Prop where
  /-- The settings are read, and they have these fields. -/
  reads : ∃ settings, storage.settings = .ok settings ∧ settings.encode = .object fields
  /-- There are no others. -/
  names : fields.names = fieldNames
  /-- The preferences are read as well, and are those of the fields. -/
  preferences : ∃ preferences, storage.preferences = .ok preferences
    ∧ fields.get? languageField = some (.text preferences.language.name)
    ∧ fields.get? pacingField = some (.text preferences.pacing.name)
  /-- A change whose known fields all admit their values is answered with the settings that it leads
  to, and the same settings are read from what was stored. -/
  accepts : ∀ update, IsScalar update → admissible update = true →
    ∃ settings, (storage.change update).1 = .ok settings
      ∧ (storage.change update).2.settings = .ok settings
      ∧ settings.encode = .object (overwritten fields update)
  /-- Every other change is refused, and what is stored stays. -/
  refuses : ∀ update, admissible update = false →
    (∃ issue, (storage.change update).1 = .error (.invalidSetting issue))
      ∧ (storage.change update).2 = storage

theorem Keeps.lawful {fields : Json.Fields} (keeps : storage.Keeps data fields) :
    storage.Lawful fields := by
  obtain ⟨ready, settings, reads, document, sound⟩ := keeps
  exact {
    reads := ⟨settings, reads, document⟩
    names := by
      rw [← Json.object.inj document]
      rfl
    preferences := by
      have read : storage.preferences = .ok settings.preferences := by
        unfold preferences
        rw [reads]
        rfl
      rw [← Json.object.inj document]
      exact ⟨settings.preferences, read, rfl, rfl⟩
    accepts := by
      intro update scalar admitted
      obtain ⟨changed, files, success, documentAfter, -, -, readsAfter⟩ :=
        change_of_admissible ready reads sound scalar admitted document
      rw [success]
      exact ⟨changed, rfl, readsAfter, documentAfter⟩
    refuses := by
      intro update bad
      obtain ⟨issue, refused⟩ := storage.change_of_not_admissible bad
      rw [refused]
      exact ⟨⟨issue, rfl⟩, rfl⟩ }

/-- A storage whose settings were edited by hand: a language that is none, a scene name with an unpaired
surrogate, and a field that is none of the settings. -/
def edited : Storage :=
  { files :=
      [ ("data", .folder
          [ ("config.json", .file (.text
              "\x7b\"language\": \"klingon\", \"text_scene\": \"\\ud800\", \"volume\": 11\x7d")) ]) ]
    data := some ["data"]
    presets := none }

end Storage

end Playthrough

import Playthrough.Settings

/-!
Contract: what settings are made of stored fields, and of the fields of a change.

Owns: which values the fields may hold (`admits`), the settings as fields (`merged`, `overwritten`),
and that reading and changing settings does exactly that to their document.

Does not own: files, and the texts in them.
-/

namespace Playthrough.Settings

/-! ## Fields -/

/-- Whether a field of the settings may hold a value. -/
def admits (field : String) : Json → Bool
  | .text name =>
      field = languageField && Language.all.any (fun language => language.name == name)
        || field = pacingField && Pacing.all.any (fun pacing => pacing.name == name)
        || (field = textSceneField || field = encounterField) && !Text.isAllBlank name
  | .looseText _ => field = textSceneField || field = encounterField
  | _ => false

/-- Whether every field of the settings that is to be changed admits its value. -/
def admissible (update : Json.Fields) : Bool :=
  fieldNames.all fun name => (update.get? name).all (admits name)

/-- The fields of the settings with the known ones of a change in the place of the old ones. -/
def overwritten (fields update : Json.Fields) : Json.Fields :=
  fields.map fun field => (field.1, (update.get? field.1).getD field.2)

/-- The fields of the settings after a change, which is refused as a whole or carried out. -/
def updated (fields update : Json.Fields) : Json.Fields :=
  if admissible update then overwritten fields update else fields

/-! ## Readings that succeed or are refused -/

/-- A reading succeeds with a value if a condition holds, and is refused otherwise. -/
def Decides {Refusal Value : Type} (accepted : Bool) (reading : Except Refusal Value) (value : Value) : Prop :=
  if accepted then reading = .ok value else ∃ refusal, reading = .error refusal

/-- Of two readings one after the other the first that is refused ends them. -/
theorem Decides.bind {Refusal Value Next : Type} {first second : Bool} {reading : Except Refusal Value}
    {next : Value → Except Refusal Next} {value : Value} {last : Next} (begins : Decides first reading value)
    (ends : Decides second (next value) last) : Decides (first && second) (reading >>= next) last := by
  cases first with
  | true =>
      have same : reading = .ok value := begins
      rw [same, Bool.true_and]
      exact ends
  | false =>
      obtain ⟨refusal, refused⟩ : ∃ refusal, reading = .error refusal := begins
      rw [refused]
      exact ⟨refusal, rfl⟩

theorem Decides.last {Refusal Value Result : Type} {accepted : Bool} {reading : Except Refusal Value}
    {value : Value} (decides : Decides accepted reading value) (result : Value → Result) :
    Decides accepted (reading >>= fun value => pure (result value)) (result value) := by
  rw [← Bool.and_true accepted]
  exact decides.bind rfl

/-! ## Reading one field -/

/-- A field is read to the values that it admits, each of which is written as it was. -/
structure ReadsField {α : Type} (name : String) (read : Json → Option α) (write : α → Json) : Prop where
  admits : ∀ value, admits name value = (read value).isSome
  writes : ∀ {value found}, read value = some found → write found = value

theorem isSome_find? {α : Type} (found : α → Bool) (values : List α) :
    (values.find? found).isSome = values.any found := by
  rw [Bool.eq_iff_iff, List.find?_isSome, List.any_eq_true]

theorem readsField_language :
    ReadsField languageField languageOf? fun language => .text language.name where
  admits value := by
    cases value with
    | text name =>
        simp only [languageOf?, Language.ofName?, isSome_find?]
        simp [Settings.admits, languageField, pacingField, textSceneField, encounterField]
    | _ => simp [Settings.admits, languageOf?, languageField, textSceneField, encounterField]
  writes {value found} read := by
    cases value with
    | text name =>
        have named : found.name = name := by simpa using List.find?_some read
        exact congrArg Json.text named
    | _ => simp [languageOf?] at read

theorem readsField_pacing : ReadsField pacingField pacingOf? fun pacing => .text pacing.name where
  admits value := by
    cases value with
    | text name =>
        simp only [pacingOf?, Pacing.ofName?, isSome_find?]
        simp [Settings.admits, languageField, pacingField, textSceneField, encounterField]
    | _ => simp [Settings.admits, pacingOf?, pacingField, textSceneField, encounterField]
  writes {value found} read := by
    cases value with
    | text name =>
        have named : found.name = name := by simpa using List.find?_some read
        exact congrArg Json.text named
    | _ => simp [pacingOf?] at read

theorem readsField_scene {name : String} (isScene : name = textSceneField ∨ name = encounterField) :
    ReadsField name sceneNameOf? SceneName.encode where
  admits value := by
    cases value with
    | text text =>
        have others : name ≠ languageField ∧ name ≠ pacingField := by
          rcases isScene with rfl | rfl <;> decide
        cases blank : Text.isAllBlank text <;>
          simp [Settings.admits, sceneNameOf?, blank, isScene, others]
    | looseText points => simp [Settings.admits, sceneNameOf?, isScene]
    | _ => simp [Settings.admits, sceneNameOf?]
  writes {value found} read := by
    cases value with
    | text text =>
        cases blank : Text.isAllBlank text with
        | true => simp [sceneNameOf?, blank] at read
        | false =>
            obtain rfl : SceneName.text text = found := by simpa [sceneNameOf?, blank] using read
            rfl
    | looseText points =>
        obtain rfl : SceneName.loose points = found := by simpa [sceneNameOf?] using read
        rfl
    | _ => simp [sceneNameOf?] at read

section Reading

variable {α : Type} {name : String} {read : Json → Option α} {write : α → Json}

/-- A stored field is as it is stored if it admits that, and standard otherwise. -/
theorem ReadsField.stored (reads : ReadsField name read write) (fields : Json.Fields) (standard : α) :
    write (((fields.get? name).bind read).getD standard)
      = ((fields.get? name).filter (Settings.admits name)).getD (write standard) := by
  cases fields.get? name with
  | none => rfl
  | some value =>
      cases found : read value with
      | none => simp [Option.filter, reads.admits, found]
      | some setting => simp [Option.filter, reads.admits, found, reads.writes found]

/-- A field of a change is accepted exactly if it admits its value. -/
theorem ReadsField.given (reads : ReadsField name read write) (fields : Json.Fields)
    (issue : Json → Issue) :
    Decides ((fields.get? name).all (Settings.admits name)) (Settings.given fields name read issue)
      ((fields.get? name).bind read) := by
  unfold Decides Settings.given
  cases fields.get? name with
  | none => simp
  | some value => cases found : read value <;> simp [reads.admits, found]

/-- After a change that is accepted a field is as the change has it, or as it was. -/
theorem ReadsField.changed (reads : ReadsField name read write) {fields : Json.Fields}
    (admitted : (fields.get? name).all (Settings.admits name) = true) (old : α) :
    write (((fields.get? name).bind read).getD old) = (fields.get? name).getD (write old) := by
  cases there : fields.get? name with
  | none => rfl
  | some value =>
      rw [there, Option.all_some, reads.admits] at admitted
      obtain ⟨setting, found⟩ := Option.isSome_iff_exists.mp admitted
      simp [found, reads.writes found]

end Reading

/-! ## All fields -/

theorem admissible_eq (update : Json.Fields) :
    admissible update =
      ((update.get? languageField).all (admits languageField)
        && ((update.get? pacingField).all (admits pacingField)
          && ((update.get? textSceneField).all (admits textSceneField)
            && (update.get? encounterField).all (admits encounterField)))) := by
  simp [admissible, fieldNames]

/-- A change is accepted if it is admissible, and refused for one of its fields otherwise. -/
theorem decides_ofFields (update : Json.Fields) :
    Decides (admissible update) (Change.ofFields update)
      { language := (update.get? languageField).bind languageOf?
        pacing := (update.get? pacingField).bind pacingOf?
        textScene := (update.get? textSceneField).bind sceneNameOf?
        encounter := (update.get? encounterField).bind sceneNameOf? } := by
  have language := readsField_language.given update .unknownLanguage
  have pacing := readsField_pacing.given update .unknownPacing
  have textScene := (readsField_scene (.inl rfl)).given update fun _ => .blankTextScene
  have encounter := (readsField_scene (.inr rfl)).given update fun _ => .blankEncounter
  rw [admissible_eq, Change.ofFields]
  exact language.bind (pacing.bind (textScene.bind (encounter.last _)))

/-- A change that is not admissible is refused. -/
theorem ofFields_of_not_admissible {update : Json.Fields} (bad : admissible update = false) :
    ∃ issue, Change.ofFields update = .error issue := by
  simpa [Decides, bad] using decides_ofFields update

/-- The document of changed settings has the fields of the change in the place of the old ones. -/
theorem ofFields_of_admissible {update : Json.Fields} (fields : Json.Fields)
    (admitted : admissible update = true) :
    ∃ change, Change.ofFields update = .ok change
      ∧ ∀ settings : Settings, settings.encode = .object fields →
          (settings.apply change).encode = .object (overwritten fields update) := by
  have accepted := decides_ofFields update
  rw [admitted, Decides, if_pos rfl] at accepted
  refine ⟨_, accepted, ?_⟩
  intro settings document
  rw [admissible_eq] at admitted
  simp only [Bool.and_eq_true] at admitted
  obtain ⟨language, pacing, textScene, encounter⟩ := admitted
  rw [← Json.object.inj document]
  unfold encode apply
  rw [readsField_language.changed language, readsField_pacing.changed pacing,
    (readsField_scene (.inl rfl)).changed textScene, (readsField_scene (.inr rfl)).changed encounter]
  rfl

end Playthrough.Settings

import Mathlib
import Playthrough.Proofs.Repository.Loading
import Playthrough.Proofs.Task.Turn
import Playthrough.Server.Operations

/-!
Contract: what a server makes of the scenes that it finds, and of those that it does not find.

Owns: the questions that the making of a play-through begins with, what follows when all of them are
answered, and when one of them is not.

Does not own: evictions, and what becomes of the play-through afterwards.

The questions are all asked in the first turn of the operation, so that the storage is the same for
each. A scene that is not stored is no obstacle: the play-through is made with an empty scene in its
place. A search that fails ends the operation before anybody is evicted.
-/

namespace Playthrough

open Repository

/-- What is used of a name in a repository: the scene stored under it, or none where there is no
such scene. -/
def Repository.Supplies {α : Type} (repository : Repository) (check : Json → Schema.Validation α)
    (name : String) : Option α → Prop
  | some scene => repository.Stores check name scene
  | none => ∀ scene, ¬ repository.Stores check name scene

/-- What is used of a name as it is set: under one that is no text no scene is stored. -/
def Repository.SuppliesChosen {α : Type} (repository : Repository)
    (check : Json → Schema.Validation α) : SceneName → Option α → Prop
  | .text name, value => repository.Supplies check name value
  | .loose _, value => value = none

/-- Why the search for a name as it is set fails: one that is no text can only be too long. -/
def Repository.DefeatsChosen (repository : Repository) : SceneName → Repository.Fault → Prop
  | .text name, fault => repository.Defeats name fault
  | .loose codePoints, fault => fault = .nameTooLong ∧ repository.isTooLong codePoints = true

/-- A search that nothing defeats supplies a scene, or none. -/
theorem Repository.Answers.supplied {α : Type} {repository : Repository}
    {check : Json → Schema.Validation α} {name : String} (answers : repository.Answers check name)
    (survives : ∀ fault, ¬ repository.Defeats name fault) :
    ∃ value : Option α, repository.Supplies check name value ∧
      repository.load (Schema.checkSource check) name =
        .ok { value := value, warned := value.isNone } := by
  obtain ⟨scene, stored, found⟩ | ⟨missing, reported⟩ := answers.finding survives
  · exact ⟨some scene, stored, found⟩
  · exact ⟨none, missing, reported⟩

namespace World

variable {Store Driver Procedure Answer : Type} [DecidableEq Driver]
variable {machine : Machine Store Driver Procedure Answer}
variable {world : World Store Driver Procedure Answer}

/-- An operation that begins with a question is, one step later, the rest of it. -/
theorem drain_begin_look (choose : Store → Program Store Driver Procedure Answer) (fuel : Nat) :
    drain machine (fuel + 1) (world.begin (.look choose)).2 =
      drain machine fuel (world.begin (choose world.store)).2 := by
  have inside : world.tasks.length <
      (world.tasks ++ [Task.fresh none (choose world.store)]).length := by simp
  have focused (program : Program Store Driver Procedure Answer) :
      (world.begin program).2 =
        ({ world with tasks := world.tasks ++ [Task.fresh none (choose world.store)] } :
          World Store Driver Procedure Answer).focus world.tasks.length
            ((Task.fresh none program).on (.run program) []) world.store := by
    simp [begin, focus, Task.on, Task.fresh]
  have busy : (world.begin (.look choose)).2.isIdle = false := by
    simp [begin, isIdle]
  rw [drain, busy, focused, focused]
  exact congrArg (drain machine fuel) (step_look inside choose)

end World

namespace Server

variable {world : Setting}

/-- A question that the storage answers. -/
theorem drain_ask_of_ok {α : Type} {question : Storage → Except Storage.Fault α} {value : α}
    (answer : question world.store.storage = .ok value) (next : α → Plan) (fuel : Nat) :
    World.drain machine (fuel + 1) (world.begin (ask question next)).2 =
      World.drain machine fuel (world.begin (next value)).2 := by
  rw [ask, World.drain_begin_look]
  simp only [answer]

/-- A question that the storage does not answer ends the operation. -/
theorem drain_ask_of_error {α : Type} {question : Storage → Except Storage.Fault α}
    {fault : Storage.Fault} (answer : question world.store.storage = .error fault)
    (next : α → Plan) (fuel : Nat) :
    World.drain machine (fuel + 1) (world.begin (ask question next)).2 =
      World.drain machine fuel (world.begin (failWith (.storage fault))).2 := by
  rw [ask, World.drain_begin_look]
  simp only [answer]

end Server

/-- Every search of the storage is one in its repository. -/
theorem Storage.textScene_eq {storage : Storage} {repository : Repository}
    (opened : storage.repository = .ok repository) (name : String) :
    storage.textScene name =
      (repository.load (Schema.checkSource TextScene.check) name).mapError .ofRepository := by
  simp [Storage.textScene, opened, bind, Except.bind]

theorem Storage.encounterScene_eq {storage : Storage} {repository : Repository}
    (opened : storage.repository = .ok repository) (name : String) :
    storage.encounterScene name =
      (repository.load (Schema.checkSource EncounterScene.check) name).mapError .ofRepository := by
  simp [Storage.encounterScene, opened, bind, Except.bind]

/-- A search for a name as it is set that nothing defeats supplies a scene, or none. -/
theorem Storage.chosen_supplied {α : Type} {storage : Storage} {repository : Repository}
    {check : Json → Schema.Validation α} {search : String → Except Storage.Fault (Finding α)}
    (opened : storage.repository = .ok repository)
    (searches : ∀ name, search name =
      (repository.load (Schema.checkSource check) name).mapError .ofRepository)
    (answers : ∀ name, repository.Answers check name) {name : SceneName}
    (survives : ∀ fault, ¬ repository.DefeatsChosen name fault) :
    ∃ value : Option α, repository.SuppliesChosen check name value ∧
      storage.chosen search name = .ok { value := value, warned := value.isNone } := by
  cases name with
  | text name =>
      obtain ⟨value, supplied, found⟩ := (answers name).supplied survives
      refine ⟨value, supplied, ?_⟩
      rw [Storage.chosen, searches, found]
      rfl
  | loose codePoints =>
      have short : repository.isTooLong codePoints = false := by
        simpa [Repository.DefeatsChosen] using survives .nameTooLong
      refine ⟨none, rfl, ?_⟩
      simp [Storage.chosen, opened, bind, Except.bind, loadLoose, short, Except.mapError]

/-- What the making of a play-through goes on with after its questions: with room for it, it is made
of the scenes that were found. -/
def Server.Makes (textScene : Option TextScene) (encounterScene : Option EncounterScene)
    (preferences : Preferences) (program : Server.Plan) : Prop :=
  ∃ choose, program = .call .evict (.look choose) ∧
    ∀ server : Server, server.isFull = false →
      ∃ rest, choose server =
        .update (register (.initial textScene encounterScene preferences)) rest

theorem Server.drain_create {world : Server.Setting} {settings : Settings}
    {textScene : Repository.Finding TextScene} {encounterScene : Repository.Finding EncounterScene}
    (readable : world.store.storage.settings = .ok settings)
    (textAnswer : world.store.storage.chosen world.store.storage.textScene settings.textScene =
      .ok textScene)
    (encounterAnswer : world.store.storage.chosen world.store.storage.encounterScene
      settings.encounter = .ok encounterScene)
    (wait : Bool) :
    ∃ program,
      World.drain Server.machine 4 (world.begin (Server.create wait)).2 =
        (world.begin program).2 ∧
      Server.Makes textScene.value encounterScene.value settings.preferences program := by
  have preferred : world.store.storage.preferences = .ok settings.preferences := by
    simp [Storage.preferences, readable, Except.map]
  rw [Server.create, Server.drain_ask_of_ok readable, Server.drain_ask_of_ok textAnswer,
    Server.drain_ask_of_ok encounterAnswer, Server.drain_ask_of_ok preferred]
  refine ⟨_, rfl, _, rfl, ?_⟩
  intro server room
  simp only [room, Bool.false_eq_true, if_false]
  exact ⟨_, rfl⟩

/-- Every search for a scene answers by what is stored, and fails only for the three reasons. Where
neither search of a new play-through fails, it is made of the scenes that are stored, with an empty
scene in place of each that is not. -/
theorem Server.supplied_unless_defeated (repository : Repository) :
    (∀ name : String,
      repository.Answers TextScene.check name ∧ repository.Answers EncounterScene.check name) ∧
    ∀ (world : Server.Setting) (settings : Settings) (wait : Bool),
      world.store.storage.settings = .ok settings →
      world.store.storage.repository = .ok repository →
      (∀ fault, ¬ repository.DefeatsChosen settings.textScene fault) →
      (∀ fault, ¬ repository.DefeatsChosen settings.encounter fault) →
      ∃ textScene encounterScene program,
        repository.SuppliesChosen TextScene.check settings.textScene textScene ∧
        repository.SuppliesChosen EncounterScene.check settings.encounter encounterScene ∧
        World.drain Server.machine 4 (world.begin (Server.create wait)).2 =
          (world.begin program).2 ∧
        Server.Makes textScene encounterScene settings.preferences program := by
  refine ⟨fun name => ⟨answers_textScene repository name, answers_encounter repository name⟩, ?_⟩
  intro world settings wait readable opened textSurvives encounterSurvives
  obtain ⟨textScene, textSupplied, textAnswer⟩ :=
    Storage.chosen_supplied opened (Storage.textScene_eq opened) (answers_textScene repository)
      textSurvives
  obtain ⟨encounterScene, encounterSupplied, encounterAnswer⟩ :=
    Storage.chosen_supplied opened (Storage.encounterScene_eq opened)
      (answers_encounter repository) encounterSurvives
  obtain ⟨program, drained, makes⟩ := Server.drain_create readable textAnswer encounterAnswer wait
  exact ⟨textScene, encounterScene, program, textSupplied, encounterSupplied, drained, makes⟩

/-- A storage whose only file is the standard text scene, cut short after its first character. -/
def Storage.cutShort : Storage :=
  { files :=
      [("data", .folder [("scenes", .folder [("text_scene_01.json", .file (.text "\x7b"))])])]
    data := some ["data"]
    presets := some (.folder ["presets"]) }

/-- The repository of that storage. -/
def Repository.cutShort : Repository :=
  { folders := [[("text_scene_01.json", .file (.text "\x7b"))]] }

/-- Neither the scene that was cut short nor the encounter that is not there stops the making of a
play-through. -/
theorem Server.supplied_at_cut_short :
    ∃ textScene encounterScene program,
      Repository.cutShort.Supplies TextScene.check "text_scene_01" textScene ∧
      Repository.cutShort.Supplies EncounterScene.check "encounter_01" encounterScene ∧
      World.drain Server.machine 4
          ((World.initial (Server.initial .cutShort 64) : Server.Setting).begin
            (Server.create false)).2 =
        ((World.initial (Server.initial .cutShort 64) : Server.Setting).begin program).2 ∧
      Server.Makes textScene encounterScene .standard program := by
  have textReported : Repository.cutShort.load (Schema.checkSource TextScene.check)
      "text_scene_01" = .ok { value := none, warned := true } := by cbv
  have encounterReported : Repository.cutShort.load (Schema.checkSource EncounterScene.check)
      "encounter_01" = .ok { value := none, warned := true } := by cbv
  have textSurvives : ∀ fault, ¬ Repository.cutShort.DefeatsChosen Settings.standard.textScene fault :=
    ((answers_textScene .cutShort _).reported.mp textReported).2
  have encounterSurvives :
      ∀ fault, ¬ Repository.cutShort.DefeatsChosen Settings.standard.encounter fault :=
    ((answers_encounter .cutShort _).reported.mp encounterReported).2
  exact (Server.supplied_unless_defeated .cutShort).2 (World.initial (Server.initial .cutShort 64))
    Settings.standard false rfl rfl textSurvives encounterSurvives

/-- A repository with two files that are no scenes: octets that are no text, and a node whose kind is
a list. -/
def Repository.spoiled : Repository :=
  { folders :=
      [[("octets.json", .file (.octets [0xff])),
        ("kind.json", .file (.text "\x7b\"nodes\":[\x7b\"type\":[]\x7d]\x7d"))]] }

/-- A scene that cannot be used is not always reported as missing. -/
theorem Repository.not_answered_at_spoiled :
    ¬ ∀ (repository : Repository) (name : String),
      (∃ finding, repository.load (Schema.checkSource TextScene.check) name = .ok finding) ∧
        ∃ finding, repository.load (Schema.checkSource EncounterScene.check) name =
          .ok finding := by
  intro answered
  have undecodable : Repository.spoiled.load (Schema.checkSource TextScene.check) "octets" =
      .error (.undecodable ⟨.invalidStart, 0, 1, 0xff⟩) := by cbv
  obtain ⟨⟨finding, found⟩, -⟩ := answered .spoiled "octets"
  simp [undecodable] at found

/-- The kind of a node is looked up before the document is checked. -/
example : Repository.spoiled.load (Schema.checkSource EncounterScene.check) "kind" =
    .error .unusable := by cbv

end Playthrough

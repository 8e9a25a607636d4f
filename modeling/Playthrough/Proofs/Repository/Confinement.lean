import Mathlib
import Playthrough.Proofs.Files.Frame
import Playthrough.Proofs.Repository.Listing
import Playthrough.Proofs.Server.Creation

/-!
Contract: which files the answer for a scene's name can depend on.

Owns: the two files of a name (`Storage.ownFile?`, `Storage.presetFile?`), file systems that agree on them
(`Storage.Agrees`), what is the same in such file systems (`Storage.SameAnswers`, `Server.GoOnAlike`), and the one
exception.

Does not own: what is made of the files that a name leads to.

A name is looked up as one segment below two folders, and whatever could make more than one segment of it is refused
before. So a search reads at most two entries, and the second one only when the first is no file. There is one way in
which something else shows: a name that is too long for a file fails where there is a folder to look into, and finds
nothing where there is none.
-/

namespace Playthrough

open Repository

/-- The names that are refused are those that are empty or hidden, or hold a character that no segment of a path may
hold. -/
theorem Repository.refuses_eq_decide (name : String) :
    refuses name = decide (name = "" ∨ '/' ∈ name.toList ∨ '\\' ∈ name.toList ∨ ['.'] <+: name.toList
      ∨ '\x00' ∈ name.toList) := by
  have hidden : name.startsWith "." = decide (['.'] <+: name.toList) := by
    rw [Bool.eq_iff_iff]
    simp [String.startsWith_string_iff]
  have empty : name.isEmpty = decide (name = "") := by
    rw [Bool.eq_iff_iff]
    simp
  simp only [refuses, String.contains_char_eq, hidden, empty, Bool.decide_or, Bool.or_assoc]

namespace Storage

/-! ## The files of a name -/

/-- The file of a scene's name among the player's scenes. -/
def ownFile? (storage : Storage) (name : String) : Option Content :=
  storage.data.bind fun data => storage.files.contentAt? (data ++ [scenesName] ++ [name ++ ending])

/-- The file of a scene's name among the presets. -/
def presetFile? (storage : Storage) (name : String) : Option Content :=
  storage.presets.bind fun presets =>
    match presets with
    | .builtin => (builtinFolder.get? (name ++ ending)).bind FileNode.content?
    | .folder path => storage.files.contentAt? (path ++ [scenesName] ++ [name ++ ending])

/-- The same places with other files in them. -/
def withFiles (storage : Storage) (others : Folder) : Storage := { storage with files := others }

/-- In other files a name has the same file among the player's scenes and, where it has none there, the same one among
the presets. A string that is no text is the name of no file. -/
def Agrees (storage : Storage) (others : Folder) : SceneName → Prop
  | .text name =>
      (storage.withFiles others).ownFile? name = storage.ownFile? name ∧
        (storage.ownFile? name = none →
          (storage.withFiles others).presetFile? name = storage.presetFile? name)
  | .loose _ => True

/-- A name for which no file can be looked up because it is too long for one, and there is a folder to look into. -/
def TooLong (storage : Storage) (name : SceneName) : Prop :=
  ∃ repository, storage.repository = .ok repository ∧
    match name with
    | .text name => repository.TooLong name
    | .loose codePoints => repository.isTooLong codePoints = true

/-- For one name two storages answer the same, whatever they are asked. -/
structure SameAnswers (storage other : Storage) (name : SceneName) : Prop where
  textScene : other.chosen other.textScene name = storage.chosen storage.textScene name
  encounter : other.chosen other.encounterScene name = storage.chosen storage.encounterScene name
  document : ∀ text, name = .text text → other.sceneDocument text = storage.sceneDocument text

/-- Under a name there is nothing. -/
structure FindsNothing (storage : Storage) (name : String) : Prop where
  textScene : storage.textScene name = .ok { value := none, warned := true }
  encounter : storage.encounterScene name = .ok { value := none, warned := true }
  document : storage.sceneDocument name = .ok { value := none, warned := false }

variable {storage other : Storage} {name : String}

/-- The search goes through the folders in order and takes the first file. -/
theorem search_append (fileName : String) (first second : List Folder) :
    search fileName (first ++ second) = (search fileName first).or (search fileName second) := by
  induction first with
  | nil => simp [search]
  | cons folder rest inductionHypothesis =>
      simp only [List.cons_append, search]
      split
      · rfl
      · exact inductionHypothesis

theorem search_toList (fileName : String) (folder? : Option Folder) :
    search fileName folder?.toList =
      folder?.bind fun entries => (entries.get? fileName).bind FileNode.content? := by
  cases folder? with
  | none => rfl
  | some entries =>
      simp only [Option.toList_some, search, Option.bind_some]
      cases entries.get? fileName with
      | none => rfl
      | some node => cases node <;> rfl

theorem repository_eq {data : Path} {presets : PresetSource} (opened : storage.data = some data)
    (given : storage.presets = some presets) :
    storage.repository = .ok {
      folders := (storage.files.folderAt? (data ++ [scenesName])).toList
        ++ (storage.presetFolder? presets).toList } := by
  simp [repository, scenesPath, dataPath, presetSource, opened, given, Except.map, bind, Except.bind, pure,
    Except.pure]

/-- A storage that is not open has no repository. -/
theorem repository_of_closed (closed : storage.data = none ∨ storage.presets = none) :
    storage.repository = .error .notOpen := by
  cases opened : storage.data with
  | none => simp [repository, scenesPath, dataPath, opened, Except.map, bind, Except.bind]
  | some data =>
      have given : storage.presets = none := by simpa [opened] using closed
      simp [repository, scenesPath, dataPath, presetSource, opened, given, Except.map, bind, Except.bind]

/-- In an open storage a search comes to the first of the two files of a name. -/
theorem search_eq {repository : Repository} (opened : storage.repository = .ok repository) (name : String) :
    search (name ++ ending) repository.folders = (storage.ownFile? name).or (storage.presetFile? name) := by
  cases data : storage.data with
  | none => simp [repository_of_closed (.inl data)] at opened
  | some path =>
      cases presets : storage.presets with
      | none => simp [repository_of_closed (.inr presets)] at opened
      | some source =>
          rw [repository_eq data presets] at opened
          obtain rfl := Except.ok.inj opened
          simp only [search_append, search_toList, ownFile?, presetFile?, data, presets, Option.bind_some,
            Folder.contentAt?_append]
          cases source <;> rfl

/-! ## Two storages -/

/-- Where the search finds the same, everything is answered the same. -/
theorem sameAnswers_of_find {former latter : Repository} (opened : storage.repository = .ok former)
    (reopened : other.repository = .ok latter) (same : latter.find name = former.find name) :
    storage.SameAnswers other (.text name) := by
  have source : latter.source name = former.source name := by simp only [Repository.source, same]
  have load (α : Type) (check : String → Schema.Validation α) :
      latter.load check name = former.load check name := by simp only [Repository.load, source]
  have document : latter.document name = former.document name := by simp only [Repository.document, source]
  constructor
  · show other.textScene name = storage.textScene name
    rw [textScene_eq opened, textScene_eq reopened, load]
  · show other.encounterScene name = storage.encounterScene name
    rw [encounterScene_eq opened, encounterScene_eq reopened, load]
  · rintro text ⟨⟩
    simp [sceneDocument, opened, reopened, document, bind, Except.bind]

/-- Two searches that come to the same file find the same, if the name is too long for both or for neither. -/
theorem find_eq_of_search {former latter : Repository}
    (same : search (name ++ ending) latter.folders = search (name ++ ending) former.folders)
    (even : former.TooLong name ↔ latter.TooLong name) : latter.find name = former.find name := by
  by_cases long : former.TooLong name
  · rw [find_eq_error_iff.mpr ⟨rfl, long⟩, find_eq_error_iff.mpr ⟨rfl, even.mp long⟩]
  · have answered (repository : Repository) (short : ¬ repository.TooLong name) :
        repository.find name =
          .ok (if refuses name then none else search (name ++ ending) repository.folders) := by
      unfold find
      split
      · rfl
      · rename_i allowed
        rw [if_neg]
        rintro ⟨long, searched⟩
        exact short ⟨by simpa using allowed, long, searched⟩
    rw [answered former long, answered latter (mt even.mpr long), same]

/-- The search for a name fails because of its length exactly if it is too long. -/
theorem textScene_eq_nameTooLong_iff {repository : Repository} (opened : storage.repository = .ok repository) :
    storage.textScene name = .error .nameTooLong ↔ repository.TooLong name := by
  have defeats : repository.Defeats name .nameTooLong ↔ repository.TooLong name :=
    ⟨fun | .nameTooLong long => long, .nameTooLong⟩
  rw [textScene_eq opened, ← defeats, ← (answers_textScene repository name).defeated]
  cases repository.load (Schema.checkSource TextScene.check) name with
  | ok finding => simp [Except.mapError]
  | error fault => cases fault <;> simp [Except.mapError, Fault.ofRepository]

theorem tooLong_text_iff {repository : Repository} (opened : storage.repository = .ok repository) :
    storage.TooLong (.text name) ↔ repository.TooLong name := by
  simp [TooLong, opened]

theorem tooLong_loose_iff {repository : Repository} (opened : storage.repository = .ok repository)
    {codePoints : List Nat} : storage.TooLong (.loose codePoints) ↔ repository.isTooLong codePoints = true := by
  simp [TooLong, opened]

/-- What is answered for a string that is no text depends on nothing but whether it is too long. -/
theorem chosen_loose {α : Type} {repository : Repository} (opened : storage.repository = .ok repository)
    (search : String → Except Fault (Finding α)) (codePoints : List Nat) :
    storage.chosen search (.loose codePoints) =
      if repository.isTooLong codePoints then .error .nameTooLong
      else .ok { value := none, warned := true } := by
  simp only [chosen, opened, bind, Except.bind, loadLoose]
  split <;> rfl

/-- A storage that is not open answers nothing, whatever its files. -/
theorem sameAnswers_of_closed (closed : storage.repository = .error .notOpen)
    (alsoClosed : other.repository = .error .notOpen) (name : SceneName) : storage.SameAnswers other name := by
  cases name <;>
    constructor <;>
    simp [chosen, textScene, encounterScene, sceneDocument, closed, alsoClosed, bind, Except.bind]

/-- For a name on which two file systems agree they answer the same exactly if the name is too long to be looked up in
both or in neither. -/
theorem sameAnswers_iff_of_agrees {others : Folder} {name : SceneName} (agrees : storage.Agrees others name) :
    storage.SameAnswers (storage.withFiles others) name ↔
      (storage.TooLong name ↔ (storage.withFiles others).TooLong name) := by
  by_cases closed : storage.data = none ∨ storage.presets = none
  · have former := repository_of_closed closed
    have latter : (storage.withFiles others).repository = .error .notOpen := repository_of_closed closed
    exact iff_of_true (sameAnswers_of_closed former latter name) (by simp [TooLong, former, latter])
  · obtain ⟨notClosed, notBare⟩ := not_or.mp closed
    obtain ⟨data, opened⟩ := Option.ne_none_iff_exists'.mp notClosed
    obtain ⟨presets, given⟩ := Option.ne_none_iff_exists'.mp notBare
    have former := repository_eq opened given
    have latter := @repository_eq (storage.withFiles others) data presets opened given
    cases name with
    | text name =>
        rw [tooLong_text_iff former, tooLong_text_iff latter]
        constructor
        · intro same
          have alike : (storage.withFiles others).textScene name = storage.textScene name := same.textScene
          rw [← textScene_eq_nameTooLong_iff former, ← textScene_eq_nameTooLong_iff latter, alike]
        · intro even
          refine sameAnswers_of_find former latter (find_eq_of_search ?_ even)
          rw [search_eq former, search_eq latter, agrees.1]
          cases own : storage.ownFile? name with
          | some content => rfl
          | none => rw [Option.none_or, Option.none_or, agrees.2 own]
    | loose codePoints =>
        rw [tooLong_loose_iff former, tooLong_loose_iff latter]
        constructor
        · intro same
          have alike := same.textScene
          rw [chosen_loose former, chosen_loose latter] at alike
          split at alike <;> split at alike <;> simp_all
        · intro even
          constructor
          · rw [chosen_loose former, chosen_loose latter]
            simp only [even]
          · rw [chosen_loose former, chosen_loose latter]
            simp only [even]
          · rintro text ⟨⟩

/-- A name with a file among the player's scenes is too long for both of two storages or for neither: both have a
folder to look into. -/
theorem tooLong_iff_of_found {former latter : Repository} {fileName : String}
    {content found : Content} (there : search fileName former.folders = some content)
    (alsoThere : search fileName latter.folders = some found) :
    former.TooLong name ↔ latter.TooLong name := by
  have searched : former.folders ≠ [] := by rintro none; simp [none, search] at there
  have alsoSearched : latter.folders ≠ [] := by rintro none; simp [none, search] at alsoThere
  exact ⟨fun long => ⟨long.allowed, long.long, alsoSearched⟩, fun long => ⟨long.allowed, long.long, searched⟩⟩

/-- Where the player has a file of a name, neither the presets nor anything else matters. -/
theorem sameAnswers_of_ownFile {former latter : Repository} (opened : storage.repository = .ok former)
    (reopened : other.repository = .ok latter) {content : Content} (own : storage.ownFile? name = some content)
    (alsoOwn : other.ownFile? name = some content) : storage.SameAnswers other (.text name) := by
  have found := search_eq opened name
  have foundAgain := search_eq reopened name
  rw [own, Option.some_or] at found
  rw [alsoOwn, Option.some_or] at foundAgain
  exact sameAnswers_of_find opened reopened
    (find_eq_of_search (foundAgain.trans found.symm) (tooLong_iff_of_found found foundAgain))

/-- Under a name that is refused there is nothing. -/
theorem findsNothing_of_refuses {repository : Repository} (opened : storage.repository = .ok repository)
    (refused : refuses name = true) : storage.FindsNothing name := by
  have found : repository.find name = .ok none := by simp [find, refused]
  obtain ⟨document, load⟩ := nothing_of_find_eq_none found
  constructor
  · rw [textScene_eq opened, load]
    rfl
  · rw [encounterScene_eq opened, load]
    rfl
  · simp [sceneDocument, opened, document, bind, Except.bind, Except.mapError]

end Storage

namespace Server

/-! ## Two servers -/

/-- A request has asked its storage all that it asks: it answers, or makes room for a play-through. -/
inductive HasAsked : Plan → Prop where
  | answers (reply : Reply) : HasAsked (.give reply)
  | makesRoom (rest : Plan) : HasAsked (.call .evict rest)

/-- In two servers a program has asked all that it asks after as many steps, and goes on as the same one. -/
def GoOnAlike (world elsewhere : Setting) (program : Plan) : Prop :=
  ∃ steps next, HasAsked next ∧
    World.drain machine steps (world.begin program).2 = (world.begin next).2 ∧
    World.drain machine steps (elsewhere.begin program).2 = (elsewhere.begin next).2

variable {world elsewhere : Setting}

theorem HasAsked.goOnAlike {program : Plan} (asked : HasAsked program) : GoOnAlike world elsewhere program :=
  ⟨0, program, asked, rfl, rfl⟩

/-- A question that both storages answer in the same way. -/
theorem goOnAlike_ask {α : Type} {question : Storage → Except Storage.Fault α} {next : α → Plan}
    (same : question elsewhere.store.storage = question world.store.storage)
    (goesOn : ∀ value, question world.store.storage = .ok value → GoOnAlike world elsewhere (next value)) :
    GoOnAlike world elsewhere (ask question next) := by
  cases answer : question world.store.storage with
  | error fault =>
      refine ⟨1, failWith (.storage fault), .answers _, ?_, ?_⟩
      · exact drain_ask_of_error answer next 0
      · exact drain_ask_of_error (same.trans answer) next 0
  | ok value =>
      obtain ⟨steps, after, asked, here, there⟩ := goesOn value answer
      refine ⟨steps + 1, after, asked, ?_, ?_⟩
      · rw [drain_ask_of_ok answer, here]
      · rw [drain_ask_of_ok (same.trans answer), there]

/-- A document is served alike where it is found alike. -/
theorem goOnAlike_readScene {name : String}
    (same : world.store.storage.SameAnswers elsewhere.store.storage (.text name)) :
    GoOnAlike world elsewhere (readScene name) := by
  refine goOnAlike_ask (same.document name rfl) fun found _ => ?_
  split <;> exact (HasAsked.answers _).goOnAlike

/-- A play-through is made alike where the settings are the same and their scenes are found alike. -/
theorem goOnAlike_create {settings : Settings} (readable : world.store.storage.settings = .ok settings)
    (alsoReadable : elsewhere.store.storage.settings = .ok settings)
    (textScene : world.store.storage.SameAnswers elsewhere.store.storage settings.textScene)
    (encounter : world.store.storage.SameAnswers elsewhere.store.storage settings.encounter) (wait : Bool) :
    GoOnAlike world elsewhere (create wait) := by
  refine goOnAlike_ask (alsoReadable.trans readable.symm) fun found isFound => ?_
  obtain rfl : settings = found := Except.ok.inj (readable.symm.trans isFound)
  refine goOnAlike_ask textScene.textScene fun _ _ => goOnAlike_ask encounter.encounter fun _ _ => ?_
  refine goOnAlike_ask ?_ fun _ _ => (HasAsked.makesRoom _).goOnAlike
  simp only [Storage.preferences, readable, alsoReadable]

end Server

/-! ## Confinement -/

/-- The answers for scenes' names come from the files of these names in two folders. -/
structure Storage.Confined (storage : Storage) : Prop where
  /-- Other files that agree on a name lead to the same answers, exactly if the name is not too long in one case
  only. -/
  agreeing : ∀ (others : Folder) (name : SceneName), storage.Agrees others name →
    (storage.SameAnswers (storage.withFiles others) name ↔
      (storage.TooLong name ↔ (storage.withFiles others).TooLong name))
  /-- Where the player has a file of a name, even one that is no scene, nothing else matters: neither other files nor
  other presets. -/
  own : ∀ (other : Storage) (former latter : Repository) (name : String) (content : Content),
    storage.repository = .ok former → other.repository = .ok latter →
    storage.ownFile? name = some content → other.ownFile? name = some content →
      storage.SameAnswers other (.text name)
  /-- Names that could lead anywhere else lead to nothing. -/
  outside : ∀ (repository : Repository) (name : String), storage.repository = .ok repository →
    (name = "" ∨ '/' ∈ name.toList ∨ '\\' ∈ name.toList ∨ ['.'] <+: name.toList) → storage.FindsNothing name
  /-- A document that is asked for is served alike by all servers whose storages answer the same. -/
  served : ∀ (other : Storage) (world elsewhere : Server.Setting) (request : Server.Request) (name : String),
    world.store.storage = storage → elsewhere.store.storage = other →
    request.call = .ok (.readScene name) → storage.SameAnswers other (.text name) →
      Server.GoOnAlike world elsewhere request.program
  /-- A play-through is made alike by all servers whose storages answer the same for the scenes that are set. -/
  played : ∀ (other : Storage) (world elsewhere : Server.Setting) (request : Server.Request) (wait : Bool)
      (settings : Settings),
    world.store.storage = storage → elsewhere.store.storage = other → request.call = .ok (.create wait) →
    storage.settings = .ok settings → other.settings = .ok settings →
    storage.SameAnswers other settings.textScene → storage.SameAnswers other settings.encounter →
      Server.GoOnAlike world elsewhere request.program

/-- Whatever name is asked for or set, nothing shows of any file but the player's of that name and, where there is none,
the preset's: except that a name that is too long for a file is answered otherwise where there is no folder at all. -/
theorem Storage.confined_unless_too_long (storage : Storage) : storage.Confined where
  agreeing _ _ agrees := sameAnswers_iff_of_agrees agrees
  own _ _ _ _ _ opened reopened own alsoOwn := sameAnswers_of_ownFile opened reopened own alsoOwn
  outside repository name opened strange := by
    refine findsNothing_of_refuses opened ?_
    rw [refuses_eq_decide, decide_eq_true_eq]
    exact strange.imp_right (Or.imp_right (Or.imp_right .inl))
  served := by
    rintro other world elsewhere request name rfl rfl asked same
    rw [Server.Request.program, asked]
    exact Server.goOnAlike_readScene same
  played := by
    rintro other world elsewhere request wait settings rfl rfl asked readable alsoReadable textScene encounter
    rw [Server.Request.program, asked]
    exact Server.goOnAlike_create readable alsoReadable textScene encounter wait

/-- A storage that is open, with nothing in it. -/
def Storage.deserted : Storage :=
  { files := []
    data := some ["data"]
    presets := some (.folder ["presets"]) }

/-- A file system in which nothing but the folder of the player's scenes has been made. -/
def Storage.unfurnished : Folder := [("data", .folder [("scenes", .folder [])])]

/-- A name that is too long for a file. -/
def Repository.endless : String := String.ofList (List.replicate 251 'a')

/-- For a name that is too long, two file systems without any scene do not answer the same. -/
theorem Storage.not_confined_at_endless :
    ¬ ∀ (storage : Storage) (others : Folder) (name : SceneName), storage.Agrees others name →
      storage.SameAnswers (storage.withFiles others) name := by
  intro confined
  have agrees : deserted.Agrees unfurnished (.text endless) := ⟨rfl, fun _ => rfl⟩
  have former : deserted.repository = .ok { folders := [] } := rfl
  have latter : (deserted.withFiles unfurnished).repository = .ok { folders := [[]] } := rfl
  have even := (sameAnswers_iff_of_agrees agrees).mp (confined _ _ _ agrees)
  rw [tooLong_text_iff former, tooLong_text_iff latter] at even
  have allowed : refuses endless = false := by
    rw [refuses_eq_decide]
    decide +kernel
  have long : Repository.TooLong { folders := [[]] } endless := ⟨allowed, by decide +kernel, by simp⟩
  exact (even.mpr long).searched rfl

end Playthrough

import Playthrough.Proofs.Scene.Usability
import Playthrough.Repository

/-!
Contract: what a search for a scene answers, for every content of the folders and every name.

Owns: when a scene is found, when its absence is reported, and the three ways in which a search
fails instead.

Does not own: what is made of an answer.

A file that cannot be a scene counts as missing in all but three cases: its octets are no text, one
of its nodes states a kind that is an array or an object, or the name asked for is too long for a
file. Every layer of the search is described by what it takes to come to each of its outcomes.
-/

namespace Playthrough.Repository

open Schema

variable {α : Type} {repository : Repository} {check : Json → Validation α} {name : String}

/-! ## Files and their texts -/

/-- A file that a name leads to. -/
structure Leads (repository : Repository) (name : String) (content : Content) : Prop where
  allowed : refuses name = false
  short : (name ++ ending).utf8ByteSize ≤ longestFileName
  found : search (name ++ ending) repository.folders = some content

/-- A name for which no file can be looked up because it is too long for one. -/
structure TooLong (repository : Repository) (name : String) : Prop where
  allowed : refuses name = false
  long : longestFileName < (name ++ ending).utf8ByteSize
  searched : repository.folders ≠ []

theorem find_eq_error_iff {fault : Fault} :
    repository.find name = .error fault ↔ fault = .nameTooLong ∧ repository.TooLong name := by
  unfold find
  split
  · rename_i refused
    simp only [reduceCtorEq, false_iff, not_and]
    rintro - ⟨allowed, -, -⟩
    simp [refused] at allowed
  · rename_i allowed
    split
    · rename_i long
      simp only [Except.error.injEq, eq_comm (a := Fault.nameTooLong), iff_self_and]
      exact fun _ => ⟨by simpa using allowed, long.1, long.2⟩
    · rename_i short
      simp only [reduceCtorEq, false_iff, not_and]
      rintro - ⟨-, long, searched⟩
      exact short ⟨long, searched⟩

/-- The search finds a file exactly when the name leads to it. -/
theorem find_eq_some_iff {content : Content} :
    repository.find name = .ok (some content) ↔ repository.Leads name content := by
  unfold find
  split
  · rename_i refused
    simp only [Except.ok.injEq, reduceCtorEq, false_iff]
    rintro ⟨allowed, -, -⟩
    simp [refused] at allowed
  · rename_i allowed
    split
    · rename_i long
      simp only [reduceCtorEq, false_iff]
      rintro ⟨-, short, -⟩
      omega
    · rename_i short
      rw [Except.ok.injEq]
      constructor
      · intro found
        -- without a folder nothing is found, so that the name is short here
        have searched : repository.folders ≠ [] := by
          intro none
          simp [none, search] at found
        exact ⟨by simpa using allowed, by simpa [searched] using short, found⟩
      · exact Leads.found

theorem source_eq_error_iff {fault : Fault} :
    repository.source name = .error fault ↔
      (fault = .nameTooLong ∧ repository.TooLong name) ∨
        ∃ content refusal, repository.Leads name content ∧ content.read = .error refusal ∧
          fault = .undecodable refusal := by
  simp only [← find_eq_error_iff, ← find_eq_some_iff, source]
  cases repository.find name with
  | error _ => simp [bind, Except.bind]
  | ok found =>
      cases found with
      | none => simp [bind, Except.bind, pure, Except.pure]
      | some content =>
          cases read : content.read <;>
            simp [bind, Except.bind, pure, Except.pure, throw, throwThe, MonadExceptOf.throw, read,
              eq_comm]

theorem source_eq_some_iff {text : String} :
    repository.source name = .ok (some text) ↔
      ∃ content, repository.Leads name content ∧ content.read = .ok text := by
  simp only [← find_eq_some_iff, source]
  cases repository.find name with
  | error _ => simp [bind, Except.bind]
  | ok found =>
      cases found with
      | none => simp [bind, Except.bind, pure, Except.pure]
      | some content =>
          cases read : content.read <;>
            simp [bind, Except.bind, pure, Except.pure, throw, throwThe, MonadExceptOf.throw, read]

/-! ## Scenes -/

/-- A text that is stored under a name, and the document in it. -/
def Holds (repository : Repository) (name : String) (document : Json) : Prop :=
  ∃ content text, repository.Leads name content ∧ content.read = .ok text ∧
    Json.read .strict text = .ok document

/-- The scene that is stored under a name, by the schema of its kind. -/
def Stores (repository : Repository) (check : Json → Validation α) (name : String) (scene : α) :
    Prop :=
  ∃ document, repository.Holds name document ∧ check document = .accepted scene

/-- Why a search for a scene fails. -/
inductive Defeats (repository : Repository) (name : String) : Fault → Prop where
  | nameTooLong (long : repository.TooLong name) : Defeats repository name .nameTooLong
  | undecodable {content : Content} {refusal : Text.Utf8.Refusal}
      (leads : repository.Leads name content) (refused : content.read = .error refusal) :
      Defeats repository name (.undecodable refusal)
  | unusable {document : Json} (holds : repository.Holds name document)
      (compound : document.HoldsCompoundKind) : Defeats repository name .unusable

theorem checkSource_eq_accepted_iff {text : String} {scene : α} :
    checkSource check text = .accepted scene ↔
      ∃ document, Json.read .strict text = .ok document ∧ check document = .accepted scene := by
  unfold checkSource
  cases Json.read .strict text <;> simp [Validation.issue]

theorem checkSource_eq_unusable_iff (fails : FailsOnCompoundKinds check) {text : String} :
    checkSource check text = .unusable ↔
      ∃ document, Json.read .strict text = .ok document ∧ document.HoldsCompoundKind := by
  unfold checkSource
  cases Json.read .strict text <;> simp [fails _]

/-- A scene is found exactly when it is stored. -/
theorem load_eq_scene_iff {scene : α} :
    repository.load (checkSource check) name = .ok { value := some scene, warned := false } ↔
      repository.Stores check name scene := by
  have composed : repository.Stores check name scene ↔
      ∃ text, repository.source name = .ok (some text) ∧
        checkSource check text = .accepted scene := by
    simp only [source_eq_some_iff, checkSource_eq_accepted_iff, Stores, Holds]
    constructor
    · rintro ⟨document, ⟨content, text, leads, read, parsed⟩, accepted⟩
      exact ⟨text, ⟨content, leads, read⟩, document, parsed, accepted⟩
    · rintro ⟨text, ⟨content, leads, read⟩, document, parsed, accepted⟩
      exact ⟨document, ⟨content, text, leads, read, parsed⟩, accepted⟩
  rw [composed, load]
  cases repository.source name with
  | error _ => simp [bind, Except.bind]
  | ok found =>
      cases found with
      | none => simp [bind, Except.bind, pure, Except.pure]
      | some text =>
          cases outcome : checkSource check text <;>
            simp [bind, Except.bind, pure, Except.pure, throw, throwThe, MonadExceptOf.throw,
              outcome]

/-- A search fails for three reasons and no other. -/
theorem load_eq_error_iff (fails : FailsOnCompoundKinds check) {fault : Fault} :
    repository.load (checkSource check) name = .error fault ↔ repository.Defeats name fault := by
  have composed : repository.Defeats name fault ↔
      repository.source name = .error fault ∨
        fault = .unusable ∧ ∃ text, repository.source name = .ok (some text) ∧
          checkSource check text = .unusable := by
    simp only [source_eq_error_iff, source_eq_some_iff, checkSource_eq_unusable_iff fails]
    constructor
    · rintro (long | ⟨leads, refused⟩ | ⟨⟨content, text, leads, read, parsed⟩, compound⟩)
      · exact .inl (.inl ⟨rfl, long⟩)
      · exact .inl (.inr ⟨_, _, leads, refused, rfl⟩)
      · exact .inr ⟨rfl, text, ⟨content, leads, read⟩, _, parsed, compound⟩
    · rintro ((⟨rfl, long⟩ | ⟨_, _, leads, refused, rfl⟩) |
        ⟨rfl, text, ⟨content, leads, read⟩, document, parsed, compound⟩)
      · exact .nameTooLong long
      · exact .undecodable leads refused
      · exact .unusable ⟨content, text, leads, read, parsed⟩ compound
  rw [composed, load]
  cases repository.source name with
  | error _ => simp [bind, Except.bind]
  | ok found =>
      cases found with
      | none => simp [bind, Except.bind, pure, Except.pure]
      | some text =>
          cases outcome : checkSource check text <;>
            simp [bind, Except.bind, pure, Except.pure, throw, throwThe, MonadExceptOf.throw,
              outcome, eq_comm]

/-- A search that does not fail reports exactly that it found nothing. -/
theorem warned_of_load {finding : Finding α}
    (found : repository.load (checkSource check) name = .ok finding) :
    finding.warned = finding.value.isNone := by
  unfold load at found
  cases read : repository.source name with
  | error _ => simp [read, bind, Except.bind] at found
  | ok text? =>
      cases text? with
      | none =>
          simp only [read, bind, Except.bind, pure, Except.pure, Except.ok.injEq] at found
          simp [← found]
      | some text =>
          cases outcome : checkSource check text with
          | unusable =>
              simp [read, outcome, bind, Except.bind, throw, throwThe, MonadExceptOf.throw] at found
          | accepted scene | refused issues =>
              simp only [read, outcome, bind, Except.bind, pure, Except.pure, Except.ok.injEq]
                at found
              simp [← found]

/-! ## The answer -/

/-- What a search for the scene of a name answers, by the schema of its kind. -/
structure Answers (repository : Repository) (check : Json → Validation α) (name : String) :
    Prop where
  /-- A scene that is stored is found, and nothing is reported. -/
  scene : ∀ scene : α,
    repository.load (checkSource check) name = .ok { value := some scene, warned := false } ↔
      repository.Stores check name scene
  /-- Where no scene is stored this is reported, unless the search fails. -/
  reported :
    repository.load (checkSource check) name = .ok { value := none, warned := true } ↔
      (∀ scene, ¬ repository.Stores check name scene) ∧
        ∀ fault, ¬ repository.Defeats name fault
  /-- The search fails for these reasons and no other. -/
  defeated : ∀ fault,
    repository.load (checkSource check) name = .error fault ↔ repository.Defeats name fault

theorem answers_of_failsOnCompoundKinds (repository : Repository)
    (fails : FailsOnCompoundKinds check) (name : String) : repository.Answers check name where
  scene _ := load_eq_scene_iff
  defeated _ := load_eq_error_iff fails
  reported := by
    simp only [← load_eq_scene_iff, ← load_eq_error_iff fails]
    constructor
    · intro answer
      simp [answer]
    · rintro ⟨missing, survives⟩
      cases answer : repository.load (checkSource check) name with
      | error fault => exact absurd answer (survives fault)
      | ok finding =>
          have warned := warned_of_load answer
          obtain ⟨value, _⟩ := finding
          cases value with
          | none => simp_all
          | some scene => simp_all

/-- Every search for a text scene answers so. -/
theorem answers_textScene (repository : Repository) (name : String) :
    repository.Answers TextScene.check name :=
  answers_of_failsOnCompoundKinds repository TextScene.failsOnCompoundKinds name

/-- Every search for an encounter answers so. -/
theorem answers_encounter (repository : Repository) (name : String) :
    repository.Answers EncounterScene.check name :=
  answers_of_failsOnCompoundKinds repository EncounterScene.failsOnCompoundKinds name

/-- A search that no fault defeats finds something or reports that it found nothing. -/
theorem Answers.finding {check : Json → Validation α} (answers : repository.Answers check name)
    (survives : ∀ fault, ¬ repository.Defeats name fault) :
    (∃ scene, repository.Stores check name scene ∧
      repository.load (checkSource check) name = .ok { value := some scene, warned := false }) ∨
    (∀ scene, ¬ repository.Stores check name scene) ∧
      repository.load (checkSource check) name = .ok { value := none, warned := true } := by
  by_cases stored : ∃ scene, repository.Stores check name scene
  · obtain ⟨scene, stored⟩ := stored
    exact .inl ⟨scene, stored, (answers.scene scene).mpr stored⟩
  · have missing : ∀ scene, ¬ repository.Stores check name scene := by simpa using stored
    exact .inr ⟨missing, answers.reported.mpr ⟨missing, survives⟩⟩

end Playthrough.Repository

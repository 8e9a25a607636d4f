import Mathlib
import Playthrough.Proofs.Json.Leniency
import Playthrough.Proofs.Repository.Loading

/-!
Contract: that a document is served as it is played.

Owns: the document that is served under the name of a scene that is found.

Does not own: what is served under other names.

A scene is read in the strict dialect and a document is served in the lenient one. Both come from one
file, and the lenient dialect reads whatever the strict one reads as the same value.
-/

namespace Playthrough.Repository

open Schema

variable {α : Type} {repository : Repository} {check : Json → Validation α} {name : String}

/-- What is served under a name is an object that holds a scene. -/
def Serves (repository : Repository) (check : Json → Validation α) (name : String) (scene : α) :
    Prop :=
  ∃ fields, repository.document name = .ok { value := some (.object fields), warned := false } ∧
    check (.object fields) = .accepted scene

/-- The document that a scene would be read from is served. -/
theorem document_of_holds {document : Json} (holds : repository.Holds name document) :
    repository.document name = .ok { value := some document, warned := false } := by
  obtain ⟨content, text, leads, decoded, read⟩ := holds
  have found : repository.source name = .ok (some text) :=
    source_eq_some_iff.mpr ⟨content, leads, decoded⟩
  have served : Json.read .lenient text = .ok document := Json.read_lenient_of_read_strict read
  simp [Repository.document, found, served, bind, Except.bind, pure, Except.pure]

/-- The checks by which scenes are loaded. -/
inductive ChecksScenes : {α : Type} → (Json → Validation α) → Prop where
  | textScene : ChecksScenes TextScene.check
  | encounter : ChecksScenes EncounterScene.check

/-- A model accepts nothing but objects. -/
theorem eq_object_of_checkModel {checkFields : Json.Fields → Validation α} {document : Json}
    {scene : α} (accepted : checkModel checkFields document = .accepted scene) :
    ∃ fields, document = .object fields := by
  cases document with
  | object fields => exact ⟨fields, rfl⟩
  | _ => simp [checkModel, Validation.issue] at accepted

theorem ChecksScenes.eq_object (checks : ChecksScenes check) {document : Json} {scene : α}
    (accepted : check document = .accepted scene) : ∃ fields, document = .object fields := by
  cases checks with
  | textScene => exact eq_object_of_checkModel accepted
  | encounter => exact eq_object_of_checkModel accepted

/-- Whichever scene is found under a name, text scene or encounter, the document that is served under
the name is an object, and it holds that scene. -/
theorem serves_what_is_played (repository : Repository) (name : String) (checks : ChecksScenes check)
    {finding : Finding α} {scene : α}
    (loaded : repository.load (checkSource check) name = .ok finding)
    (found : finding.value = some scene) : repository.Serves check name scene := by
  have silent : finding.warned = false := by simp [warned_of_load loaded, found]
  obtain ⟨value, warned⟩ := finding
  subst found silent
  obtain ⟨document, holds, accepted⟩ := load_eq_scene_iff.mp loaded
  obtain ⟨fields, rfl⟩ := checks.eq_object accepted
  exact ⟨fields, document_of_holds holds, accepted⟩

/-- A repository with a text scene without nodes. Its file gives one of the fields twice. -/
def silentThread : Repository :=
  { folders := [[("quiet.json", .file (.text
      "\x7b\"chapter\":2,\"scene_id\":\"q\",\"scene_type\":\"t\",\"chapter\":1\x7d"))]] }

theorem serves_at_silentThread :
    silentThread.load (checkSource TextScene.check) "quiet" =
        .ok { value := some ⟨1, "q", "t", [], []⟩, warned := false } ∧
      silentThread.Serves TextScene.check "quiet" ⟨1, "q", "t", [], []⟩ := by
  have loaded : silentThread.load (checkSource TextScene.check) "quiet" =
      .ok { value := some ⟨1, "q", "t", [], []⟩, warned := false } := by cbv
  exact ⟨loaded, serves_what_is_played silentThread "quiet" .textScene loaded rfl⟩

end Playthrough.Repository

import Mathlib
import Playthrough.Proofs.Repository.Loading

/-!
Contract: how the list of scenes goes with the search for one.

Owns: which names are listed, their order, and which listed names a search finds a file for.

Does not own: what is made of the file.

The list takes everything whose name ends as that of a document, and the search refuses some names
and takes files alone. So every name that is found is listed, and a listed name is not found when it
is one that the search refuses, or when nothing but a folder stands under it.
-/

namespace Playthrough.Repository

open Schema

variable {repository : Repository} {name : String}

/-! ## Names of files -/

/-- A scene's name comes from the file of that name with the ending. The ending alone is a name by
itself. -/
theorem sceneName?_eq_some_iff {fileName : String} :
    sceneName? fileName = some name ↔
      (name ≠ "" ∧ fileName = name ++ ending) ∨ (name = ending ∧ fileName = ending) := by
  unfold sceneName?
  split
  case isTrue bare =>
      subst bare
      constructor
      · intro found
        exact .inr ⟨(Option.some.inj found).symm, rfl⟩
      · rintro (⟨filled, whole⟩ | ⟨rfl, -⟩)
        · exact absurd (String.append_eq_right_iff.mp whole.symm) filled
        · rfl
  case isFalse notBare =>
      split
      case isTrue ends =>
          -- what is left of the file's name before the ending
          obtain ⟨front, whole⟩ := List.isSuffixOf_iff_suffix.mp ends
          have split : fileName = String.ofList front ++ ending := by
            apply String.toList_inj.mp
            rw [String.toList_append, String.toList_ofList, whole]
          have taken : fileName.toList.take (fileName.length - ending.length) = front := by
            rw [← String.length_toList, ← String.length_toList, ← whole]
            simp
          rw [taken, Option.some.injEq]
          constructor
          · rintro rfl
            refine .inl ⟨?_, split⟩
            rintro empty
            exact notBare (by simpa [empty] using split)
          · rintro (⟨-, whole⟩ | ⟨-, bare⟩)
            · exact String.append_left_inj ending |>.mp (split.symm.trans whole)
            · exact absurd bare notBare
      case isFalse endsOtherwise =>
          simp only [reduceCtorEq, false_iff, not_or, not_and]
          refine ⟨fun _ whole => endsOtherwise ?_, fun _ bare => notBare bare⟩
          rw [whole, String.toList_append]
          exact List.isSuffixOf_iff_suffix.mpr (List.suffix_append _ _)

/-- The name that comes from a file that can be looked up. -/
theorem sceneName?_of_allowed (allowed : refuses name = false) :
    sceneName? (name ++ ending) = some name := by
  refine sceneName?_eq_some_iff.mpr (.inl ⟨?_, rfl⟩)
  rintro rfl
  simp [refuses] at allowed

/-! ## The list -/

theorem pairwise_insertName {names : List String} (increasing : names.Pairwise (· < ·)) :
    (insertName name names).Pairwise (· < ·) := by
  induction names with
  | nil => simp [insertName]
  | cons first rest inductionHypothesis =>
      obtain ⟨below, increasingRest⟩ := List.pairwise_cons.mp increasing
      unfold insertName
      split
      · exact increasing
      · rename_i different
        split
        · rename_i before
          refine List.pairwise_cons.mpr ⟨?_, increasing⟩
          rintro other (_ | ⟨_, inRest⟩)
          · exact before
          · exact lt_trans before (below other inRest)
        · rename_i notBefore
          refine List.pairwise_cons.mpr ⟨?_, inductionHypothesis increasingRest⟩
          intro other inserted
          rcases mem_insertName.mp inserted with rfl | inRest
          · exact lt_of_le_of_ne (le_of_not_gt notBefore) (Ne.symm different)
          · exact below other inRest

theorem pairwise_foldr_insertName (found : List String) :
    (found.foldr insertName []).Pairwise (· < ·) := by
  induction found with
  | nil => exact .nil
  | cons name rest inductionHypothesis => exact pairwise_insertName inductionHypothesis

theorem mem_foldr_insertName {found : List String} :
    name ∈ found.foldr insertName [] ↔ name ∈ found := by
  induction found with
  | nil => simp
  | cons first rest inductionHypothesis => simp [inductionHypothesis]

/-- The list is that of the names that come from entries of the folders. -/
theorem mem_names_iff :
    name ∈ repository.names ↔
      ∃ folder ∈ repository.folders, ∃ entry ∈ folder, sceneName? entry.1 = some name := by
  simp only [names, mem_foldr_insertName, List.mem_filterMap, List.mem_flatMap, List.mem_map]
  constructor
  · rintro ⟨fileName, ⟨folder, inside, entry, inFolder, rfl⟩, named⟩
    exact ⟨folder, inside, entry, inFolder, named⟩
  · rintro ⟨folder, inside, entry, inFolder, named⟩
    exact ⟨entry.1, ⟨folder, inside, entry, inFolder, rfl⟩, named⟩

/-! ## The search -/

/-- A file of a name in one of the folders. -/
def HasFile (repository : Repository) (fileName : String) : Prop :=
  ∃ folder ∈ repository.folders, ∃ content, folder.get? fileName = some (.file content)

theorem search_isSome_iff {fileName : String} {folders : List Folder} :
    (∃ content, search fileName folders = some content) ↔
      ∃ folder ∈ folders, ∃ content, folder.get? fileName = some (.file content) := by
  induction folders with
  | nil => simp [search]
  | cons folder rest inductionHypothesis =>
      unfold search
      split
      · rename_i content found
        simp [found]
      · rename_i other
        rw [inductionHypothesis]
        simp only [List.mem_cons, exists_eq_or_imp]
        constructor
        · exact .inr
        · rintro (⟨content, found⟩ | inRest)
          · exact absurd found (other content)
          · exact inRest

/-- Something that stands under a name in a folder is an entry of it. -/
theorem exists_entry_of_get? {folder : Folder} {fileName : String} {node : FileNode}
    (found : folder.get? fileName = some node) : ∃ entry ∈ folder, entry.1 = fileName := by
  unfold Folder.get? at found
  obtain ⟨entry, first, -⟩ := Option.map_eq_some_iff.mp found
  exact ⟨entry, List.mem_of_find?_eq_some first, by simpa using List.find?_some first⟩

/-- The names in the folders are names that files can have. -/
def Possible (repository : Repository) : Prop :=
  ∀ folder ∈ repository.folders, ∀ entry ∈ folder, entry.1.utf8ByteSize ≤ longestFileName

/-- A search finds a file for a name. -/
def Finds (repository : Repository) (name : String) : Prop :=
  ∃ content, repository.find name = .ok (some content)

/-- A name that a search finds nothing for, even where it is listed: one that it refuses, or one
under which there is no file. -/
inductive Spurious (repository : Repository) (name : String) : Prop where
  | refused (refused : refuses name = true)
  | noFile (noFile : ¬ repository.HasFile (name ++ ending))

theorem not_spurious_iff :
    ¬ repository.Spurious name ↔ refuses name = false ∧ repository.HasFile (name ++ ending) := by
  constructor
  · intro sound
    refine ⟨?_, ?_⟩
    · by_contra refused
      exact sound (.refused (by simpa using refused))
    · by_contra noFile
      exact sound (.noFile noFile)
  · rintro ⟨allowed, file⟩ (refused | noFile)
    · simp [refused] at allowed
    · exact noFile file

theorem not_spurious_of_leads {content : Content} (leads : repository.Leads name content) :
    ¬ repository.Spurious name :=
  not_spurious_iff.mpr ⟨leads.allowed, search_isSome_iff.mp ⟨content, leads.found⟩⟩

/-- A name with a file comes from an entry with the file's name. -/
theorem HasFile.exists_entry {fileName : String} (file : repository.HasFile fileName) :
    ∃ folder ∈ repository.folders, ∃ entry ∈ folder, entry.1 = fileName := by
  obtain ⟨folder, inside, content, stands⟩ := file
  obtain ⟨entry, inFolder, named⟩ := exists_entry_of_get? stands
  exact ⟨folder, inside, entry, inFolder, named⟩

/-- Every name that is not spurious is listed. -/
theorem mem_names_of_not_spurious (sound : ¬ repository.Spurious name) :
    name ∈ repository.names := by
  obtain ⟨allowed, file⟩ := not_spurious_iff.mp sound
  obtain ⟨folder, inside, entry, inFolder, named⟩ := file.exists_entry
  exact mem_names_iff.mpr ⟨folder, inside, entry, inFolder, named ▸ sceneName?_of_allowed allowed⟩

/-- A listed name that the search allows is not too long for it. -/
theorem short_of_mem_names (possible : repository.Possible) (listed : name ∈ repository.names)
    (allowed : refuses name = false) : (name ++ ending).utf8ByteSize ≤ longestFileName := by
  obtain ⟨folder, inside, entry, inFolder, named⟩ := mem_names_iff.mp listed
  rcases sceneName?_eq_some_iff.mp named with ⟨-, whole⟩ | ⟨rfl, -⟩
  · exact whole ▸ possible folder inside entry inFolder
  · -- the ending alone is a hidden name
    have refused : refuses ending = true := by cbv
    simp [refused] at allowed

/-- What the search answers for a listed name. -/
theorem find_of_mem_names (possible : repository.Possible) (listed : name ∈ repository.names) :
    repository.find name =
      .ok (if refuses name then none else search (name ++ ending) repository.folders) := by
  unfold find
  split
  · rfl
  · rename_i allowed
    have short := short_of_mem_names possible listed (by simpa using allowed)
    rw [if_neg (by omega)]

theorem finds_iff (possible : repository.Possible) :
    repository.Finds name ↔ name ∈ repository.names ∧ ¬ repository.Spurious name := by
  constructor
  · rintro ⟨content, found⟩
    have sound := not_spurious_of_leads (find_eq_some_iff.mp found)
    exact ⟨mem_names_of_not_spurious sound, sound⟩
  · rintro ⟨listed, sound⟩
    obtain ⟨allowed, file⟩ := not_spurious_iff.mp sound
    obtain ⟨content, found⟩ := search_isSome_iff.mpr file
    exact ⟨content, by simp [find_of_mem_names possible listed, allowed, found]⟩

/-- A listed name that is spurious is treated as one of no file. -/
theorem find_eq_none_of_spurious (possible : repository.Possible) (listed : name ∈ repository.names)
    (spurious : repository.Spurious name) : repository.find name = .ok none := by
  rw [find_of_mem_names possible listed]
  split
  · rfl
  · rename_i allowed
    cases found : search (name ++ ending) repository.folders with
    | none => rfl
    | some content =>
        exact absurd spurious (not_spurious_iff.mpr
          ⟨by simpa using allowed, search_isSome_iff.mp ⟨content, found⟩⟩)

/-! ## Documents and scenes -/

/-- Where the search finds no file there is neither a document nor a scene. -/
theorem nothing_of_find_eq_none (found : repository.find name = .ok none) :
    repository.document name = .ok { value := none, warned := false } ∧
      ∀ (α : Type) (check : String → Validation α),
        repository.load check name = .ok { value := none, warned := true } := by
  have source : repository.source name = .ok none := by
    simp [source, found, bind, Except.bind, pure, Except.pure]
  exact ⟨by simp [document, source, bind, Except.bind, pure, Except.pure],
    fun _ _ => by simp [load, source, bind, Except.bind, pure, Except.pure]⟩

/-- Something that a text gives is found only where there is a text, and so under a listed name. -/
theorem mem_names_of_source {α : Type} {finding : Finding α} {value : α}
    {answer : Option String → Except Fault (Finding α)} {absent : Finding α}
    (unanswered : answer none = .ok absent) (nothing : absent.value = none)
    (answered : (repository.source name).bind answer = .ok finding)
    (found : finding.value = some value) : name ∈ repository.names := by
  cases read : repository.source name with
  | error fault => simp [read, Except.bind] at answered
  | ok text? =>
      cases text? with
      | none =>
          rw [read] at answered
          obtain rfl : absent = finding := Except.ok.inj (unanswered.symm.trans answered)
          simp [nothing] at found
      | some text =>
          obtain ⟨content, leads, -⟩ := source_eq_some_iff.mp read
          exact mem_names_of_not_spurious (not_spurious_of_leads leads)

/-! ## The list and the search -/

/-- How the list of scenes goes with the search for one. -/
structure Lists (repository : Repository) : Prop where
  /-- The list is in order and holds each name once. -/
  increasing : repository.names.Pairwise (· < ·)
  /-- A search finds a file for the listed names that are not spurious, and for no other. -/
  found : ∀ name, repository.Finds name ↔ name ∈ repository.names ∧ ¬ repository.Spurious name
  /-- A listed name that is spurious is one of no file for whoever asks for it. -/
  spurious : ∀ name ∈ repository.names, repository.Spurious name →
    repository.document name = .ok { value := none, warned := false } ∧
      ∀ (α : Type) (check : String → Validation α),
        repository.load check name = .ok { value := none, warned := true }
  /-- A name under which a document is found is listed. -/
  documents : ∀ name finding document, repository.document name = .ok finding →
    finding.value = some document → name ∈ repository.names
  /-- A name under which a scene is found is listed. -/
  scenes : ∀ (α : Type) (check : String → Validation α) name finding scene,
    repository.load check name = .ok finding → finding.value = some scene →
      name ∈ repository.names

/-- For whatever stands in the folders under names that files can have, the list is in order, and its
names are those that a search finds a file for, unless they are spurious. -/
theorem lists_unless_spurious (repository : Repository) (possible : repository.Possible) :
    repository.Lists where
  increasing := pairwise_foldr_insertName _
  found _ := finds_iff possible
  spurious _ listed spurious :=
    nothing_of_find_eq_none (find_eq_none_of_spurious possible listed spurious)
  documents _ _ _ answered found := mem_names_of_source rfl rfl answered found
  scenes _ _ _ _ _ answered found := mem_names_of_source rfl rfl answered found

/-- A repository with a scene in both folders, and with three entries that look like scenes: a folder,
a hidden file and a file with a backslash in its name. -/
def cluttered : Repository :=
  { folders :=
      [[("b.json", .file (.text "")), ("d.json", .folder []), (".h.json", .file (.text ""))],
        [("b.json", .file (.text "")), ("a.json", .file (.text "")),
          ("back\\slash.json", .file (.text ""))]] }

theorem possible_cluttered : cluttered.Possible := by
  intro folder inside entry inFolder
  simp only [cluttered, List.mem_cons, List.not_mem_nil, or_false] at inside
  rcases inside with rfl | rfl
  · simp only [List.mem_cons, List.not_mem_nil, or_false] at inFolder
    rcases inFolder with rfl | rfl | rfl <;> decide
  · simp only [List.mem_cons, List.not_mem_nil, or_false] at inFolder
    rcases inFolder with rfl | rfl | rfl <;> decide

theorem lists_at_cluttered : cluttered.Possible ∧ cluttered.Lists :=
  ⟨possible_cluttered, lists_unless_spurious cluttered possible_cluttered⟩

/-- Not every listed name is one that a search finds a file for. -/
theorem not_listed_iff_found_at_cluttered :
    ¬ ∀ repository : Repository, repository.Possible → ∀ name,
      name ∈ repository.names ↔ repository.Finds name := by
  intro agree
  have listed : "d" ∈ cluttered.names := by
    have names : cluttered.names = [".h", "a", "b", "back\\slash", "d"] := by cbv
    simp [names]
  obtain ⟨content, found⟩ := (agree cluttered possible_cluttered "d").mp listed
  have missed : cluttered.find "d" = .ok none := by cbv
  simp [missed] at found

end Playthrough.Repository

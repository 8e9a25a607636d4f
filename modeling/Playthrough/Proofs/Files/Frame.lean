import Playthrough.Files.Tree

/-!
Contract: what the changes of a tree leave alone.

Owns: the content of a file found from its folder (`Folder.contentAt?_append`), and that making folders keeps
every file, that folders which are there need not be made, and that writing one file keeps every other one.

Does not own: when a change is refused.

A place is reached through folders alone. So a change can only touch what stands at its own place, and nothing
can stand below a file.
-/

namespace Playthrough.Folder

variable {folder made : Folder} {name : String} {path other : Path}

/-! ## Places -/

@[simp] theorem folderAt?_nil (folder : Folder) : folder.folderAt? [] = some folder := rfl

@[simp] theorem contentAt?_nil (folder : Folder) : folder.contentAt? [] = none := rfl

/-- What stands below a name is what stands in the folder of that name. -/
theorem folderAt?_cons (folder : Folder) (name : String) (rest : Path) :
    folder.folderAt? (name :: rest) =
      match folder.get? name with
      | some (.folder entries) => folderAt? entries rest
      | _ => none := by
  unfold folderAt?
  rw [at?]
  cases folder.get? name with
  | none => rfl
  | some node => cases node <;> cases rest <;> rfl

theorem contentAt?_cons (folder : Folder) (name : String) (rest : Path) :
    folder.contentAt? (name :: rest) =
      match folder.get? name with
      | some (.folder entries) => contentAt? entries rest
      | some (.file content) => if rest.isEmpty then some content else none
      | none => none := by
  unfold contentAt?
  rw [at?]
  cases folder.get? name with
  | none => rfl
  | some node => cases node <;> cases rest <;> rfl

/-- What stands below a place stands in the folder at that place. -/
theorem folderAt?_append (folder : Folder) (path other : Path) :
    folder.folderAt? (path ++ other) = (folder.folderAt? path).bind fun entries => folderAt? entries other := by
  induction path generalizing folder with
  | nil => simp
  | cons first rest inductionHypothesis =>
      rw [List.cons_append, folderAt?_cons, folderAt?_cons]
      cases folder.get? first with
      | none => rfl
      | some node =>
          cases node with
          | file content => rfl
          | folder entries => exact inductionHypothesis entries

/-- A folder is found in the folder above it. -/
theorem folderAt?_append_eq_some {below : Folder} :
    folder.folderAt? (path ++ [name]) = some below ↔
      ∃ entries, folder.folderAt? path = some entries ∧ get? entries name = some (.folder below) := by
  rw [folderAt?_append, Option.bind_eq_some_iff]
  refine exists_congr fun entries => and_congr_right fun _ => ?_
  rw [folderAt?_cons]
  cases get? entries name with
  | none => simp
  | some node => cases node <;> simp

/-- A file is found in its folder. -/
theorem contentAt?_append (folder : Folder) (path : Path) (name : String) :
    folder.contentAt? (path ++ [name]) =
      (folder.folderAt? path).bind fun entries => (get? entries name).bind FileNode.content? := by
  induction path generalizing folder with
  | nil =>
      rw [List.nil_append, contentAt?_cons, folderAt?_nil, Option.bind_some]
      cases folder.get? name with
      | none => rfl
      | some node => cases node <;> rfl
  | cons first rest inductionHypothesis =>
      rw [List.cons_append, contentAt?_cons, folderAt?_cons]
      cases folder.get? first with
      | none => rfl
      | some node =>
          cases node with
          | file content => simp
          | folder entries => exact inductionHypothesis entries

/-! ## Making folders -/

/-- Putting back what stands there changes nothing. -/
theorem put_of_get? {node : FileNode} (there : folder.get? name = some node) :
    folder.put name node = folder := by
  induction folder with
  | nil => simp at there
  | cons entry rest inductionHypothesis =>
      rw [get?_cons] at there
      unfold put
      by_cases same : entry.1 == name
      · obtain ⟨first, second⟩ := entry
        obtain rfl : second = node := by simpa [same] using there
        obtain rfl : first = name := by simpa using same
        simp
      · simp only [same, Bool.false_eq_true, ↓reduceIte] at there ⊢
        rw [inductionHypothesis there]

/-- A folder that is there need not be made. -/
theorem makeFolder_of_folderAt? {entries : Folder} (there : folder.folderAt? path = some entries) :
    folder.makeFolder path = .ok folder := by
  induction path generalizing folder with
  | nil => rfl
  | cons first rest inductionHypothesis =>
      rw [folderAt?_cons] at there
      rw [makeFolder]
      split at there
      · next below found =>
          simp only [found, inductionHypothesis there, bind, Except.bind, pure, Except.pure]
          rw [put_of_get? found]
      · simp at there

/-- What the making of a folder below a name comes to: that folder, in what stood under the name or in a new
folder. -/
theorem makeFolder_cons {rest : Path} (success : folder.makeFolder (name :: rest) = .ok made) :
    ∃ entries below : Folder,
      (folder.get? name = some (.folder entries) ∨ folder.get? name = none ∧ entries = []) ∧
        entries.makeFolder rest = .ok below ∧ made = folder.put name (.folder below) := by
  have below : ∀ entries : Folder,
      (do let made ← entries.makeFolder rest; return folder.put name (.folder made)) = Except.ok made →
        ∃ below, entries.makeFolder rest = .ok below ∧ made = folder.put name (.folder below) := by
    intro entries success
    cases inner : entries.makeFolder rest with
    | error problem => simp [inner, bind, Except.bind] at success
    | ok below => exact ⟨below, rfl, by simpa [inner, bind, Except.bind, pure, Except.pure, eq_comm] using success⟩
  rw [makeFolder] at success
  split at success
  · next absent =>
      obtain ⟨deeper, inner, whole⟩ := below [] success
      exact ⟨[], deeper, .inr ⟨absent, rfl⟩, inner, whole⟩
  · next entries found =>
      obtain ⟨deeper, inner, whole⟩ := below entries success
      exact ⟨entries, deeper, .inl found, inner, whole⟩
  · simp at success

/-- A folder that was made is there. -/
theorem folderAt?_makeFolder (success : folder.makeFolder path = .ok made) :
    ∃ entries, made.folderAt? path = some entries := by
  induction path generalizing folder made with
  | nil => exact ⟨made, rfl⟩
  | cons first rest inductionHypothesis =>
      obtain ⟨_, below, -, inner, rfl⟩ := makeFolder_cons success
      obtain ⟨entries, stands⟩ := inductionHypothesis inner
      exact ⟨entries, by simpa [folderAt?_cons] using stands⟩

/-- Below a folder that is put somewhere stands what is in it, and elsewhere what stood there. -/
theorem contentAt?_put_folder (folder : Folder) (name : String) (entries : Folder) (first : String) (rest : Path) :
    (folder.put name (.folder entries)).contentAt? (first :: rest) =
      if first = name then contentAt? entries rest else folder.contentAt? (first :: rest) := by
  rw [contentAt?_cons]
  by_cases same : first = name
  · subst same
    simp
  · rw [get?_put_of_ne _ _ (Ne.symm same), if_neg same, contentAt?_cons]

/-- Making folders keeps every file and adds none. -/
theorem contentAt?_makeFolder (success : folder.makeFolder path = .ok made) (other : Path) :
    made.contentAt? other = folder.contentAt? other := by
  induction path generalizing folder made other with
  | nil =>
      obtain rfl : folder = made := by simpa [makeFolder] using success
      rfl
  | cons name deeper inductionHypothesis =>
      obtain ⟨entries, below, stood, inner, rfl⟩ := makeFolder_cons success
      cases other with
      | nil => rfl
      | cons first rest =>
          rw [contentAt?_put_folder, inductionHypothesis inner]
          split
          · next same =>
              subst same
              rw [contentAt?_cons folder]
              obtain found | ⟨absent, rfl⟩ := stood
              · rw [found]
              · rw [absent]
                cases rest <;> simp [contentAt?_cons]
          · rfl

/-! ## Writing a file -/

/-- Where a folder has the name of a file, that file cannot be written. -/
theorem writeFile_of_folder {entries below : Folder} (content : Content)
    (there : folder.folderAt? path = some entries) (taken : entries.get? name = some (.folder below)) :
    folder.writeFile content (path ++ [name]) = .error .folderThere := by
  induction path generalizing folder with
  | nil =>
      obtain rfl : folder = entries := by simpa using there
      simp [writeFile, taken]
  | cons first rest inductionHypothesis =>
      rw [folderAt?_cons] at there
      split at there
      · next inner found =>
          obtain ⟨next, more, follows⟩ : ∃ next more, rest ++ [name] = next :: more :=
            List.exists_cons_of_ne_nil (by simp)
          have refused := inductionHypothesis there
          rw [List.cons_append, follows] at *
          simp [writeFile, found, refused, bind, Except.bind]
      · cases there

/-- Writing a file keeps every other one and adds no other. -/
theorem contentAt?_writeFile_of_ne {written : Folder} {content : Content}
    (success : folder.writeFile content path = .ok written) (different : other ≠ path) :
    written.contentAt? other = folder.contentAt? other := by
  induction path generalizing folder written other with
  | nil => simp [writeFile] at success
  | cons name deeper inductionHypothesis =>
      cases other with
      | nil => rfl
      | cons first rest =>
          cases deeper with
          | nil =>
              rw [writeFile] at success
              split at success
              · simp at success
              · next noFolder =>
                  obtain rfl : folder.put name (.file content) = written := by simpa using success
                  rw [contentAt?_cons, contentAt?_cons]
                  by_cases same : first = name
                  · -- below the place of a file nothing stands, neither before nor after
                    subst same
                    have below : rest ≠ [] := by simpa using different
                    rw [get?_put_self]
                    cases found : folder.get? first with
                    | none => simp [below]
                    | some node =>
                        cases node with
                        | file _ => simp [below]
                        | folder entries => exact absurd found (noFolder entries)
                  · rw [get?_put_of_ne _ _ (Ne.symm same)]
          | cons next further =>
              rw [writeFile] at success
              split at success
              · simp at success
              · next entries found =>
                  cases inner : writeFile entries content (next :: further) with
                  | error problem => simp [inner, bind, Except.bind] at success
                  | ok below =>
                      obtain rfl : folder.put name (.folder below) = written := by
                        simpa [inner, bind, Except.bind, pure, Except.pure] using success
                      rw [contentAt?_put_folder]
                      split
                      · next same =>
                          subst same
                          have apart : rest ≠ next :: further := by simpa using different
                          rw [inductionHypothesis inner apart]
                          simp [contentAt?_cons, found]
                      · rfl
              · simp at success
              · simp

end Playthrough.Folder

import Playthrough.Files.Content

/-!
Contract: files and folders.

Owns: the tree, the way to a place in it, and the changes that can be made to it.

A folder maps names to what stands under them. A change names the place that it is for; it is
refused when the way there does not lead through folders, or when something of the wrong kind stands
there.
-/

namespace Playthrough

/-- What stands under a name. -/
inductive FileNode where
  | file (content : Content)
  | folder (entries : List (String × FileNode))
deriving Inhabited

/-- The entries of a folder. -/
abbrev Folder := List (String × FileNode)

/-- The names on the way to a place. -/
abbrev Path := List String

/-- Why a change is refused. -/
inductive FileProblem where
  | missing
  | folderThere
  | fileThere
  | fileOnTheWay
deriving DecidableEq, Repr, Inhabited

/-- The content of a file. -/
def FileNode.content? : FileNode → Option Content
  | .file content => some content
  | .folder _ => none

namespace Folder

/-- What stands under a name. -/
def get? (folder : Folder) (name : String) : Option FileNode :=
  (folder.find? fun entry => entry.1 == name).map Prod.snd

/-- Puts something under a name, in place of what stands there. -/
def put (folder : Folder) (name : String) (node : FileNode) : Folder :=
  match folder with
  | [] => [(name, node)]
  | entry :: rest =>
      if entry.1 == name then (name, node) :: rest else entry :: put rest name node

/-- Takes away what stands under a name. -/
def erase (folder : Folder) (name : String) : Folder :=
  folder.filter fun entry => entry.1 != name

/-- What stands at a place. -/
def at? (folder : Folder) : Path → Option FileNode
  | [] => some (.folder folder)
  | name :: rest =>
      match folder.get? name with
      | none => none
      | some (.folder entries) => at? entries rest
      | some (.file content) => if rest.isEmpty then some (.file content) else none

/-- The content of the file at a place. -/
def contentAt? (folder : Folder) (path : Path) : Option Content :=
  (folder.at? path).bind FileNode.content?

/-- The folder at a place. -/
def folderAt? (folder : Folder) (path : Path) : Option Folder :=
  match folder.at? path with
  | some (.folder entries) => some entries
  | _ => none

/-- Makes a folder and every folder on the way to it. One that is there is kept. -/
def makeFolder (folder : Folder) : Path → Except FileProblem Folder
  | [] => .ok folder
  | name :: rest =>
      match folder.get? name with
      | none => do
          let made ← makeFolder [] rest
          return folder.put name (.folder made)
      | some (.folder entries) => do
          let made ← makeFolder entries rest
          return folder.put name (.folder made)
      | some (.file _) => .error (if rest.isEmpty then .fileThere else .fileOnTheWay)

/-- Writes a file into a folder that is there. -/
def writeFile (folder : Folder) (content : Content) : Path → Except FileProblem Folder
  | [] => .error .folderThere
  | [name] =>
      match folder.get? name with
      | some (.folder _) => .error .folderThere
      | _ => .ok (folder.put name (.file content))
  | name :: rest =>
      match folder.get? name with
      | none => .error .missing
      | some (.folder entries) => do
          let written ← writeFile entries content rest
          return folder.put name (.folder written)
      | some (.file _) => .error .fileOnTheWay

/-- Writes a file after making the folders on the way to it. -/
def install (folder : Folder) (path : Path) (content : Content) : Except FileProblem Folder := do
  let ready ← folder.makeFolder path.dropLast
  ready.writeFile content path

/-- Takes away what stands at a place, with everything below it. -/
def remove (folder : Folder) : Path → Folder
  | [] => []
  | [name] => folder.erase name
  | name :: rest =>
      match folder.get? name with
      | some (.folder entries) => folder.put name (.folder (remove entries rest))
      | _ => folder

@[simp] theorem get?_nil (name : String) : get? [] name = none := rfl

theorem get?_cons (entry : String × FileNode) (rest : Folder) (name : String) :
    get? (entry :: rest) name = if entry.1 == name then some entry.2 else get? rest name := by
  by_cases same : entry.1 == name <;> simp [get?, List.find?, same]

/-- What was put under a name stands there. -/
@[simp] theorem get?_put_self (folder : Folder) (name : String) (node : FileNode) :
    (put folder name node).get? name = some node := by
  induction folder with
  | nil => simp [put, get?]
  | cons entry rest inductionHypothesis =>
      unfold put
      by_cases same : entry.1 == name
      · simp [same, get?_cons]
      · simp only [same, Bool.false_eq_true, ↓reduceIte, get?_cons]
        exact inductionHypothesis

/-- Putting something under a name leaves every other name alone. -/
theorem get?_put_of_ne (folder : Folder) {name other : String} (node : FileNode)
    (different : name ≠ other) : (put folder name node).get? other = folder.get? other := by
  induction folder with
  | nil => simp [put, get?, different]
  | cons entry rest inductionHypothesis =>
      unfold put
      by_cases same : entry.1 == name
      · have entryName : entry.1 = name := by simpa using same
        simp [get?_cons, entryName, different]
      · simp only [same, Bool.false_eq_true, ↓reduceIte, get?_cons]
        split
        · rfl
        · exact inductionHypothesis

/-- What was written is there. -/
theorem contentAt?_writeFile {folder written : Folder} {content : Content} {path : Path}
    (success : folder.writeFile content path = .ok written) :
    written.contentAt? path = some content := by
  fun_induction writeFile folder content path generalizing written with
  | case1 => simp at success
  | case2 => simp at success
  | case3 folder name =>
      cases success
      simp [contentAt?, at?, FileNode.content?]
  | case4 => simp at success
  | case5 folder name rest _ entries _ inductionHypothesis =>
      cases inner : writeFile entries content rest with
      | error problem => simp [inner, bind, Except.bind] at success
      | ok below =>
          simp only [inner, bind, Except.bind, pure, Except.pure, Except.ok.injEq] at success
          subst success
          have found := inductionHypothesis inner
          simpa [contentAt?, at?] using found
  | case6 => simp at success

end Folder

end Playthrough

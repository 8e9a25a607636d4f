import Playthrough.Files.Tree
import Playthrough.Json.Reader
import Playthrough.Schema.Validation

/-!
Contract: scene documents by name.

Owns: which names can be looked up, the search through folders in order, the documents found, and
the list of names.

The document of a name is the file of that name with the ending of documents, in the first folder
that has such a file. A name cannot lead out of the folders. What is found may still be no document;
then it counts as missing, which is reported. Three things are not survived: octets that are no
text, a document that cannot be checked at all, and a name that is too long for a file.
-/

namespace Playthrough

/-- The folders that are searched, the first one first. A folder that is not there is left out. -/
structure Repository where
  folders : List Folder

namespace Repository

/-- Why a search does not even answer that nothing was found. -/
inductive Fault where
  | nameTooLong
  | undecodable (refusal : Text.Utf8.Refusal)
  | unusable
deriving DecidableEq, Repr, Inhabited

/-- What a search answers. -/
structure Finding (α : Type) where
  value : Option α
  /-- Whether the search reports that something is wrong. -/
  warned : Bool
deriving Repr

/-- The ending of the names of documents. -/
def ending : String := ".json"

/-- The longest name of a file, in octets. -/
def longestFileName : Nat := 255

/-- Whether nothing can be found under a name. -/
def refuses (name : String) : Bool :=
  name.isEmpty || name.contains '/' || name.contains '\\' || name.startsWith "."
    || name.contains '\x00'

/-- The file of a name in the first folder that has one. -/
def search (fileName : String) : List Folder → Option Content
  | [] => none
  | folder :: rest =>
      match folder.get? fileName with
      | some (.file content) => some content
      | _ => search fileName rest

/-- The file of a scene's name. -/
def find (repository : Repository) (name : String) : Except Fault (Option Content) :=
  if refuses name then .ok none
  else if longestFileName < (name ++ ending).utf8ByteSize ∧ repository.folders ≠ [] then
    .error .nameTooLong
  else .ok (search (name ++ ending) repository.folders)

/-- The text of a scene's file. -/
def source (repository : Repository) (name : String) : Except Fault (Option String) := do
  match ← repository.find name with
  | none => return none
  | some content =>
      match content.read with
      | .ok source => return some source
      | .error refusal => throw (.undecodable refusal)

/-- The document of a name, as it is stored. -/
def document (repository : Repository) (name : String) : Except Fault (Finding Json) := do
  match ← repository.source name with
  | none => return { value := none, warned := false }
  | some source =>
      match Json.read .lenient source with
      | .ok document => return { value := some document, warned := false }
      | .error _ => return { value := none, warned := true }

/-- The scene of a name, by the schema of its kind. -/
def load {α : Type} (repository : Repository) (check : String → Schema.Validation α)
    (name : String) : Except Fault (Finding α) := do
  match ← repository.source name with
  | none => return { value := none, warned := true }
  | some source =>
      match check source with
      | .accepted scene => return { value := some scene, warned := false }
      | .refused _ => return { value := none, warned := true }
      | .unusable => throw .unusable

/-- How many octets a code point takes in the name of a file. There the surrogates from DC80 to DCFF
stand for single octets, and no other surrogate can stand at all. -/
def octets? (codePoint : Nat) : Option Nat :=
  if 0xDC80 ≤ codePoint ∧ codePoint ≤ 0xDCFF then some 1
  else if Json.isSurrogate codePoint then none
  else some (Char.ofNat codePoint).utf8Size

/-- Whether a string with unpaired surrogates can be the name of a file, but for its length. -/
def isTooLong (repository : Repository) (codePoints : List Nat) : Bool :=
  match codePoints.mapM octets? with
  | none => false
  | some sizes =>
      !refuses (Json.replacingSurrogates codePoints)
        && longestFileName < sizes.foldl (· + ·) ending.utf8ByteSize && !repository.folders.isEmpty

/-- The scene of a string with unpaired surrogates. No file has such a name. -/
def loadLoose {α : Type} (repository : Repository) (codePoints : List Nat) :
    Except Fault (Finding α) :=
  if repository.isTooLong codePoints then .error .nameTooLong
  else .ok { value := none, warned := true }

/-- The scene's name in the name of a file, which keeps its ending when there is nothing else. -/
def sceneName? (fileName : String) : Option String :=
  if fileName = ending then some fileName
  else if ending.toList.isSuffixOf fileName.toList then
    some (String.ofList (fileName.toList.take (fileName.length - ending.length)))
  else none

/-- Adds a name to an ordered list, unless it is there. -/
def insertName (name : String) : List String → List String
  | [] => [name]
  | first :: rest =>
      if name = first then first :: rest
      else if name < first then name :: first :: rest
      else first :: insertName name rest

/-- The names of scenes in all folders, in order and each once. -/
def names (repository : Repository) : List String :=
  ((repository.folders.flatMap fun folder => folder.map Prod.fst).filterMap sceneName?).foldr
    insertName []

@[simp] theorem mem_insertName {name other : String} {names : List String} :
    other ∈ insertName name names ↔ other = name ∨ other ∈ names := by
  induction names with
  | nil => simp [insertName]
  | cons first rest inductionHypothesis =>
      unfold insertName
      split
      · rename_i same
        subst same
        simp
      · split
        · simp
        · simp only [List.mem_cons, inductionHypothesis]
          constructor
          · rintro (same | same | inside)
            · exact .inr (.inl same)
            · exact .inl same
            · exact .inr (.inr inside)
          · rintro (same | same | inside)
            · exact .inr (.inl same)
            · exact .inl same
            · exact .inr (.inr inside)

end Repository

end Playthrough

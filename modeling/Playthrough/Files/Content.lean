import Playthrough.Text.Utf8

/-!
Contract: what a file holds, and its reading as text.

Owns: contents, and the reading that takes every line end for a line feed.

A content is kept as it was given, as a text or as octets. Reading decides whether octets are a
text.
-/

namespace Playthrough

/-- What a file holds. -/
inductive Content where
  /-- The octets of a text. -/
  | text (value : String)
  | octets (values : List UInt8)
deriving DecidableEq, Repr, Inhabited

namespace Content

/-- A carriage return, with the line feed that follows it or alone, becomes a line feed. -/
def unifyLineEnds : List Char → List Char
  | [] => []
  | '\r' :: '\n' :: rest => '\n' :: unifyLineEnds rest
  | '\r' :: rest => '\n' :: unifyLineEnds rest
  | character :: rest => character :: unifyLineEnds rest

/-- The characters of a content. -/
def characters : Content → Except Text.Utf8.Refusal (List Char)
  | .text value => .ok value.toList
  | .octets values => Text.Utf8.decode values

/-- The text of a content. -/
def read (content : Content) : Except Text.Utf8.Refusal String :=
  content.characters.map fun characters => String.ofList (unifyLineEnds characters)

/-- Where there is no carriage return nothing changes. -/
theorem unifyLineEnds_of_not_mem {characters : List Char} (absent : '\r' ∉ characters) :
    unifyLineEnds characters = characters := by
  fun_induction unifyLineEnds characters with
  | case1 => rfl
  | case2 => simp at absent
  | case3 => simp at absent
  | case4 character rest _ _ inductionHypothesis =>
      simp only [List.mem_cons, not_or] at absent
      rw [inductionHypothesis absent.2]

/-- A text without carriage returns is read as it stands. -/
theorem read_text {value : String} (absent : '\r' ∉ value.toList) :
    (Content.text value).read = .ok value := by
  simp [read, characters, Except.map, unifyLineEnds_of_not_mem absent]

end Content

end Playthrough

import Playthrough.Json.Reader

/-!
Contract: that the two dialects read one grammar.

Owns: the complaints that only the strict dialect makes, and the comparison of what the two dialects
make of a text.

Does not own: which texts are read at all.

The strict dialect reads what the lenient one reads until it refuses. It never reads a text as
another value, so that a document that was validated as it was read is the one that is passed on.
-/

namespace Playthrough.Json

/-- The complaints of a dialect about what the grammar allows. -/
def Complaint.OfDialect (complaint : Complaint) : Prop :=
  complaint = .unpairedSurrogate ∨ complaint = .nestingTooDeep

/-- How what the strict dialect reads goes with what the lenient one reads: it is the same, unless
the strict dialect refuses what the lenient one may well take. -/
inductive Tightens {α : Type} : Except Stop α → Except Stop α → Prop where
  | same {outcome : Except Stop α} : Tightens outcome outcome
  | refused {stop : Stop} {outcome : Except Stop α} (ofDialect : stop.complaint.OfDialect) :
      Tightens (.error stop) outcome

namespace Tightens

variable {α β : Type} {strict lenient : Except Stop α}

theorem map (tightens : Tightens strict lenient) (change : α → β) :
    Tightens (strict.map change) (lenient.map change) := by
  cases tightens with
  | same => exact .same
  | refused ofDialect => exact .refused ofDialect

/-- What the two dialects come to. -/
theorem outcomes (tightens : Tightens strict lenient) :
    (∃ value, strict = .ok value ∧ lenient = .ok value) ∨
      (∃ stop, strict = .error stop ∧ lenient = .error stop) ∨
      ∃ stop, strict = .error stop ∧ stop.complaint.OfDialect := by
  cases tightens with
  | refused ofDialect => exact .inr (.inr ⟨_, rfl, ofDialect⟩)
  | same =>
      cases strict with
      | error stop => exact .inr (.inl ⟨stop, rfl, rfl⟩)
      | ok value => exact .inl ⟨value, rfl, rfl⟩

end Tightens

theorem stringAfterQuote_tightens (opening characters : List Char) :
    Tightens (stringAfterQuote .strict opening characters)
      (stringAfterQuote .lenient opening characters) := by
  unfold stringAfterQuote
  cases pieces opening characters with
  | error stop => exact .same
  | ok found =>
      dsimp only
      split
      · exact .same
      · exact .refused (.inl rfl)

/-! ## Values -/

/-- That the readers go together as long as the fuel lasts. -/
structure ReadersTighten (fuel : Nat) : Prop where
  values : ∀ depth characters,
    Tightens (readValue .strict fuel depth characters) (readValue .lenient fuel depth characters)
  items : ∀ depth characters,
    Tightens (readItems .strict fuel depth characters) (readItems .lenient fuel depth characters)
  members : ∀ depth before characters,
    Tightens (readMembers .strict fuel depth before characters)
      (readMembers .lenient fuel depth before characters)

section Succ

variable {fuel : Nat} (readers : ReadersTighten fuel) (depth : Nat)
include readers

theorem readValue_succ_tightens (characters : List Char) :
    Tightens (readValue .strict (fuel + 1) depth characters)
      (readValue .lenient (fuel + 1) depth characters) := by
  unfold readValue
  split
  case h_1 rest => exact (stringAfterQuote_tightens _ rest).map _
  case h_2 rest =>
      dsimp only
      split
      · exact .same
      · split
        · exact .refused (.inr rfl)
        · exact (readers.items _ _).map _
  case h_3 rest =>
      dsimp only
      split
      · exact .same
      · split
        · exact .refused (.inr rfl)
        · exact (readers.members _ _ _).map _
  case h_4 => exact .same

theorem readItems_succ_tightens (characters : List Char) :
    Tightens (readItems .strict (fuel + 1) depth characters)
      (readItems .lenient (fuel + 1) depth characters) := by
  unfold readItems
  obtain ⟨found, strictFirst, lenientFirst⟩ | ⟨stop, strictFirst, lenientFirst⟩ |
      ⟨stop, strictFirst, ofDialect⟩ := (readers.values depth characters).outcomes
  · simp only [strictFirst, lenientFirst]
    split
    · exact .same
    · exact (readers.items _ _).map _
    · exact .same
  · simp only [strictFirst, lenientFirst]
    exact .same
  · simp only [strictFirst]
    exact .refused ofDialect

/-- The members of an object are read alike, their names and their values. -/
theorem readMembers_succ_tightens (before : Fields) (characters : List Char) :
    Tightens (readMembers .strict (fuel + 1) depth before characters)
      (readMembers .lenient (fuel + 1) depth before characters) := by
  unfold readMembers
  split
  case h_2 => exact .same
  case h_1 afterQuote =>
      obtain ⟨found, strictName, lenientName⟩ | ⟨stop, strictName, lenientName⟩ |
          ⟨stop, strictName, ofDialect⟩ :=
        (stringAfterQuote_tightens ('"' :: afterQuote) afterQuote).outcomes
      · simp only [strictName, lenientName]
        split
        case h_2 => exact .same
        case h_1 afterColon _ =>
            obtain ⟨value, strictValue, lenientValue⟩ | ⟨stop, strictValue, lenientValue⟩ |
                ⟨stop, strictValue, ofDialect⟩ :=
              (readers.values depth (skipBlanks afterColon)).outcomes
            · simp only [strictValue, lenientValue]
              split
              · exact .same
              · exact readers.members _ _ _
              · exact .same
            · simp only [strictValue, lenientValue]
              exact .same
            · simp only [strictValue]
              exact .refused ofDialect
      · simp only [strictName, lenientName]
        exact .same
      · simp only [strictName]
        exact .refused ofDialect

end Succ

theorem readers_tighten (fuel : Nat) : ReadersTighten fuel := by
  induction fuel with
  | zero => exact ⟨fun _ _ => .same, fun _ _ => .same, fun _ _ _ => .same⟩
  | succ fuel readers =>
      exact
        { values := readValue_succ_tightens readers
          items := readItems_succ_tightens readers
          members := readMembers_succ_tightens readers }

/-! ## Whole texts -/

theorem readCharacters_tightens (characters : List Char) :
    Tightens (readCharacters .strict characters) (readCharacters .lenient characters) := by
  unfold readCharacters
  split
  · exact .same
  · obtain ⟨found, strictValue, lenientValue⟩ | ⟨stop, strictValue, lenientValue⟩ |
        ⟨stop, strictValue, ofDialect⟩ :=
      ((readers_tighten (2 * characters.length + 1)).values 0 (skipBlanks characters)).outcomes
    · simp only [strictValue, lenientValue]
      exact .same
    · simp only [strictValue, lenientValue]
      exact .same
    · simp only [strictValue]
      exact .refused ofDialect

/-- The strict dialect reads a text as the lenient one does, or it complains about what the grammar
allows. -/
theorem read_lenient_or_ofDialect (source : String) :
    read .strict source = read .lenient source ∨
      ∃ error, read .strict source = .error error ∧ error.complaint.OfDialect := by
  unfold read
  obtain ⟨found, strictValue, lenientValue⟩ | ⟨stop, strictValue, lenientValue⟩ |
      ⟨stop, strictValue, ofDialect⟩ := (readCharacters_tightens source.toList).outcomes
  · simp only [strictValue, lenientValue, true_or]
  · simp only [strictValue, lenientValue, true_or]
  · simp only [strictValue]
    exact .inr ⟨_, rfl, ofDialect⟩

/-- A document that the strict dialect reads is what the lenient dialect reads. -/
theorem read_lenient_of_read_strict {source : String} {document : Json}
    (found : read .strict source = .ok document) : read .lenient source = .ok document := by
  rcases read_lenient_or_ofDialect source with same | ⟨error, refused, -⟩
  · rw [← same, found]
  · simp [found] at refused

end Playthrough.Json

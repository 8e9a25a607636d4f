import Playthrough.Proofs.Json.Strings

/-!
Contract: that an object of strings that was written with one field a line is read as it was.

Owns: the strings that stand for themselves as values (`Stands`), the reading of a written object of
such values, and that every string among the fields of an object that was read is one of them.

Does not own: other values in written texts.
-/

namespace Playthrough.Json

/-! ## Strings as values -/

/-- A string that is read again when it is written: every text, and what joins no pairs and is no
text. -/
inductive Stands : Json → Prop where
  | text (value : String) : Stands (.text value)
  | loose {points : List Nat} (unpaired : Unpaired points) (none : textOf? points = none) :
      Stands (.looseText points)

/-- A written string is read as a value. -/
theorem readValue_of_stands {value : Json} (stands : Stands value) (layout : WriteLayout)
    (place fuel depth : Nat) (rest : List Char) :
    readValue .lenient (fuel + 1) depth (writeAt layout place value ++ rest) = .ok (value, rest) := by
  cases stands with
  | text value =>
      simp only [writeAt, writeText, writeCodePoints, List.cons_append, List.append_assoc,
        List.nil_append]
      rw [readValue, stringAfterQuote_text]
      rfl
  | @loose points unpaired none =>
      simp only [writeAt, writeCodePoints, List.cons_append, List.append_assoc, List.nil_append]
      rw [readValue, stringAfterQuote_written unpaired, none]
      rfl

/-! ## Written objects -/

/-- Blanks before something else are passed over. -/
theorem skipBlanks_lineBreak (place : Nat) {next : Char} (solid : isBlank next = false)
    (rest : List Char) :
    skipBlanks (WriteLayout.lineBreak .indented place ++ next :: rest) = next :: rest := by
  unfold skipBlanks
  rw [List.dropWhile_append_of_pos]
  · simp [solid]
  · intro character inside
    simp only [WriteLayout.lineBreak, List.mem_cons, List.mem_replicate] at inside
    rcases inside with rfl | ⟨-, rfl⟩ <;> rfl

/-- The fields that are read after some others, each given its value in turn. -/
def putAll (fields others : Fields) : Fields :=
  others.foldl (fun fields field => fields.put field.1 field.2) fields

/-- A written string begins with its quote. -/
theorem skipBlanks_of_stands {value : Json} (stands : Stands value) (layout : WriteLayout)
    (place : Nat) (rest : List Char) :
    skipBlanks (' ' :: (writeAt layout place value ++ rest)) = writeAt layout place value ++ rest := by
  cases stands <;> rfl

/-- A written member before the closing brace is the last one that is read. -/
theorem readMembers_last {value : Json} (stands : Stands value) (layout : WriteLayout)
    (name : String) (place fuel depth : Nat) (earlier : Fields) {rest after : List Char}
    (closes : skipBlanks rest = '\x7d' :: after) :
    readMembers .lenient (fuel + 2) depth earlier
        (writeText name ++ ':' :: ' ' :: (writeAt layout place value ++ rest))
      = .ok (earlier.put name value, after) := by
  simp only [writeText, writeCodePoints, List.cons_append, List.append_assoc, List.nil_append]
  rw [readMembers, stringAfterQuote_text]
  have colon : skipBlanks (':' :: ' ' :: (writeAt layout place value ++ rest))
      = ':' :: ' ' :: (writeAt layout place value ++ rest) := rfl
  simp only [colon, skipBlanks_of_stands stands, readValue_of_stands stands, closes]

/-- A written member before a comma is read before the others. -/
theorem readMembers_more {value : Json} (stands : Stands value) (layout : WriteLayout)
    (name : String) (place fuel depth : Nat) (earlier : Fields) {rest after : List Char}
    (follows : skipBlanks rest = ',' :: after) :
    readMembers .lenient (fuel + 2) depth earlier
        (writeText name ++ ':' :: ' ' :: (writeAt layout place value ++ rest))
      = readMembers .lenient (fuel + 1) depth (earlier.put name value) (skipBlanks after) := by
  simp only [writeText, writeCodePoints, List.cons_append, List.append_assoc, List.nil_append]
  rw [readMembers, stringAfterQuote_text]
  have colon : skipBlanks (':' :: ' ' :: (writeAt layout place value ++ rest))
      = ':' :: ' ' :: (writeAt layout place value ++ rest) := rfl
  simp only [colon, skipBlanks_of_stands stands, readValue_of_stands stands, follows]

/-- The members of a written object are read one after the other. -/
theorem readMembers_written {fields : Fields} {depth : Nat} {after : List Char} :
    ∀ {name : String} {value : Json} {fuel : Nat} {earlier : Fields},
      Stands value → (∀ field ∈ fields, Stands field.2) → fields.length + 2 ≤ fuel →
      readMembers .lenient fuel depth earlier
          (writeText name ++ ':' :: ' ' :: (writeAt .indented 1 value
            ++ (writeFields .indented 1 fields ++ '\n' :: '\x7d' :: after)))
        = .ok (putAll earlier ((name, value) :: fields), after) := by
  induction fields with
  | nil =>
      intro name value fuel earlier stands _ enough
      obtain ⟨fuel, rfl⟩ := Nat.exists_eq_add_of_le' enough
      exact readMembers_last stands _ _ _ _ _ _ rfl
  | cons field rest inductionHypothesis =>
      intro name value fuel earlier stands others enough
      obtain ⟨fuel, rfl⟩ := Nat.exists_eq_add_of_le' enough
      obtain ⟨next, content⟩ := field
      have remaining : readMembers .lenient (fuel + rest.length + 2) depth (earlier.put name value)
          (writeText next ++ ':' :: ' ' :: (writeAt .indented 1 content
            ++ (writeFields .indented 1 rest ++ '\n' :: '\x7d' :: after)))
          = .ok (putAll (earlier.put name value) ((next, content) :: rest), after) :=
        inductionHypothesis (others _ List.mem_cons_self)
          (fun field inside => others field (List.mem_cons_of_mem _ inside)) (by omega)
      have written : writeFields .indented 1 ((next, content) :: rest) ++ '\n' :: '\x7d' :: after
          = ',' :: (WriteLayout.lineBreak .indented 1 ++ (writeText next ++ ':' :: ' ' ::
              (writeAt .indented 1 content ++ (writeFields .indented 1 rest ++ '\n' :: '\x7d' :: after)))) := by
        simp [writeFields, WriteLayout.separator]
      rw [written]
      calc
        _ = readMembers .lenient (fuel + rest.length + 2) depth (earlier.put name value)
              (skipBlanks (WriteLayout.lineBreak .indented 1 ++ (writeText next ++ ':' :: ' ' ::
                (writeAt .indented 1 content
                  ++ (writeFields .indented 1 rest ++ '\n' :: '\x7d' :: after))))) :=
            readMembers_more stands _ name 1 (fuel + rest.length + 1) depth earlier rfl
        _ = .ok (putAll (earlier.put name value) ((next, content) :: rest), after) := by
            rw [← remaining]
            exact congrArg _ (skipBlanks_lineBreak 1 rfl _)

/-- A name that is not there is put at the end. -/
theorem put_of_not_mem {fields : Fields} {name : String} (fresh : name ∉ fields.names) (value : Json) :
    fields.put name value = fields ++ [(name, value)] := by
  induction fields with
  | nil => rfl
  | cons field rest inductionHypothesis =>
      simp only [Fields.names, List.map_cons, List.mem_cons, not_or] at fresh
      unfold Fields.put
      rw [inductionHypothesis fresh.2]
      simp [Ne.symm fresh.1]

/-- Fields with names of their own are put one behind the other. -/
theorem putAll_of_nodup {fields others : Fields} (nodup : Fields.names (fields ++ others) |>.Nodup) :
    putAll fields others = fields ++ others := by
  induction others generalizing fields with
  | nil => simp [putAll]
  | cons field rest inductionHypothesis =>
      have regrouped : fields ++ field :: rest = fields ++ [field] ++ rest := by simp
      have fresh : field.1 ∉ fields.names := by
        intro inside
        simp only [Fields.names, List.map_append, List.map_cons, List.nodup_append] at nodup
        exact nodup.2.2 _ inside _ List.mem_cons_self rfl
      have others : putAll (fields ++ [field]) rest = fields ++ [field] ++ rest :=
        inductionHypothesis (by rwa [← regrouped])
      calc
        putAll fields (field :: rest) = putAll (fields.put field.1 field.2) rest := rfl
        _ = putAll (fields ++ [field]) rest := by rw [put_of_not_mem fresh]
        _ = fields ++ field :: rest := by rw [others, regrouped]

theorem length_le_length_writeFields (layout : WriteLayout) (place : Nat) (fields : Fields) :
    fields.length ≤ (writeFields layout place fields).length := by
  induction fields with
  | nil => exact Nat.zero_le _
  | cons field rest inductionHypothesis =>
      simp only [writeFields, List.length_append, List.length_cons]
      omega

/-- An object is read when its members are. -/
theorem readValue_object {fuel depth : Nat} {tail after : List Char} {fields : Fields}
    (members : readMembers .lenient fuel (depth + 1) [] ('"' :: tail) = .ok (fields, after)) :
    readValue .lenient (fuel + 1) depth
        ('\x7b' :: (WriteLayout.lineBreak .indented 1 ++ '"' :: tail))
      = .ok (.object fields, after) := by
  rw [readValue, skipBlanks_lineBreak 1 rfl]
  simp only [Dialect.refuses, Dialect.lenient, Bool.false_eq_true, if_false]
  change Except.map _ (readMembers .lenient fuel (depth + 1) [] ('"' :: tail)) = _
  rw [members]
  rfl

/-- An object of strings that was written with one field a line is read as that object. -/
theorem read_writeIndented {fields : Fields} (stands : ∀ field ∈ fields, Stands field.2)
    (nodup : fields.names.Nodup) :
    Json.read .lenient (writeIndented (.object fields)) = .ok (.object fields) := by
  cases fields with
  | nil => rfl
  | cons field rest =>
      obtain ⟨name, value⟩ := field
      have written : writeAt .indented 0 (.object ((name, value) :: rest))
          = '\x7b' :: (WriteLayout.lineBreak .indented 1 ++ (writeText name ++ ':' :: ' ' ::
              (writeAt .indented 1 value ++ (writeFields .indented 1 rest ++ '\n' :: '\x7d' :: [])))) := by
        simp [writeAt, WriteLayout.lineBreak]
      have members : ∀ {fuel depth : Nat}, rest.length + 2 ≤ fuel →
          readMembers .lenient fuel depth []
            (writeText name ++ ':' :: ' ' :: (writeAt .indented 1 value
              ++ (writeFields .indented 1 rest ++ '\n' :: '\x7d' :: [])))
            = .ok ((name, value) :: rest, []) := by
        intro fuel depth enough
        rw [readMembers_written (stands _ List.mem_cons_self)
          (fun field inside => stands field (List.mem_cons_of_mem _ inside)) enough,
          putAll_of_nodup nodup]
        rfl
      have enough : rest.length + 2 ≤ 2 * (writeAt .indented 0 (.object ((name, value) :: rest))).length := by
        have least := length_le_length_writeFields .indented 1 rest
        rw [written]
        simp only [List.length_cons, List.length_append]
        omega
      have isRead : readValue .lenient
          (2 * (writeAt .indented 0 (.object ((name, value) :: rest))).length + 1) 0
          (writeAt .indented 0 (.object ((name, value) :: rest)))
          = .ok (.object ((name, value) :: rest), []) := by
        have read := @members _ 1 enough
        revert read
        generalize 2 * (writeAt .indented 0 (.object ((name, value) :: rest))).length = fuel
        rw [written]
        exact readValue_object
      have document : readCharacters .lenient (writeAt .indented 0 (.object ((name, value) :: rest)))
          = .ok (.object ((name, value) :: rest)) := by
        have begins : skipBlanks (writeAt .indented 0 (.object ((name, value) :: rest)))
            = writeAt .indented 0 (.object ((name, value) :: rest)) := by
          rw [written]
          rfl
        unfold readCharacters
        rw [begins, isRead]
        rw [written]
        rfl
      simp only [Json.read, writeIndented, String.toList_ofList, document]

/-! ## What is never written -/

theorem return_not_mem_writeText (value : String) : '\r' ∉ writeText value :=
  return_not_mem_writeCodePoints (unpaired_text value).1

theorem return_not_mem_of_stands {value : Json} (stands : Stands value) (layout : WriteLayout)
    (place : Nat) : '\r' ∉ writeAt layout place value := by
  cases stands with
  | text value => exact return_not_mem_writeText value
  | loose unpaired none => exact return_not_mem_writeCodePoints unpaired.1

theorem return_not_mem_lineBreak (layout : WriteLayout) (place : Nat) : '\r' ∉ layout.lineBreak place := by
  cases layout <;> simp [WriteLayout.lineBreak]

theorem return_not_mem_writeFields {fields : Fields} (stands : ∀ field ∈ fields, Stands field.2)
    (place : Nat) : '\r' ∉ writeFields .indented place fields := by
  induction fields with
  | nil => simp [writeFields]
  | cons field rest inductionHypothesis =>
      have first := return_not_mem_of_stands (stands field List.mem_cons_self) .indented place
      have others := inductionHypothesis fun field inside => stands field (List.mem_cons_of_mem _ inside)
      simp [writeFields, WriteLayout.separator, return_not_mem_writeText, return_not_mem_lineBreak,
        first, others]

/-- No carriage return is written for an object of strings, so that the text is read as it stands. -/
theorem return_not_mem_writeIndented {fields : Fields} (stands : ∀ field ∈ fields, Stands field.2) :
    '\r' ∉ (writeIndented (.object fields)).toList := by
  unfold writeIndented
  rw [String.toList_ofList]
  cases fields with
  | nil => decide
  | cons field rest =>
      have first := return_not_mem_of_stands (stands field List.mem_cons_self) .indented 1
      have others := return_not_mem_writeFields
        (fun field inside => stands field (List.mem_cons_of_mem _ inside)) 1
      simp [writeAt, return_not_mem_writeText, return_not_mem_lineBreak, first, others]

/-! ## Strings that were read -/

/-- A value stands for itself if it is a string at all. -/
def StandsIfString (value : Json) : Prop :=
  ∀ points, value = .looseText points → Stands value

/-- A value that is neither a string nor made of others. -/
inductive Simple : Json → Prop where
  | null : Simple .null
  | boolean (value : Bool) : Simple (.boolean value)
  | integer (value : Int) : Simple (.integer value)
  | real (value : Binary64) : Simple (.real value)

theorem simple_of_word? {characters rest : List Char} {value : Json}
    (found : word? characters = some (value, rest)) : Simple value := by
  obtain ⟨word, inside, same⟩ := List.exists_of_findSome?_eq_some found
  split at same
  · obtain ⟨rfl, -⟩ := Prod.mk.inj (Option.some.inj same)
    simp only [words, List.mem_cons, List.not_mem_nil, or_false] at inside
    rcases inside with rfl | rfl | rfl | rfl | rfl | rfl <;> constructor
  · simp at same

theorem simple_of_number? {characters rest : List Char} {value : Json}
    (found : number? characters = some (value, rest)) : Simple value := by
  simp only [number?] at found
  split at found
  · simp at found
  · split at found <;> obtain ⟨rfl, -⟩ := Prod.mk.inj (Option.some.inj found) <;> constructor

/-- What a value is read from. -/
inductive ReadFrom (dialect : Dialect) (fuel depth : Nat) : Json → List Char → Prop where
  | string {opening characters rest : List Char} {value : Json} {name : String}
      (read : stringAfterQuote dialect opening characters = .ok ((value, name), rest)) :
      ReadFrom dialect fuel depth value rest
  | array (values : List Json) {rest : List Char} : ReadFrom dialect fuel depth (.array values) rest
  | noFields {rest : List Char} : ReadFrom dialect fuel depth (.object []) rest
  | members {characters rest : List Char} {fields : Fields}
      (read : readMembers dialect fuel (depth + 1) [] characters = .ok (fields, rest)) :
      ReadFrom dialect fuel depth (.object fields) rest
  | simple {value : Json} {rest : List Char} (simple : Simple value) :
      ReadFrom dialect fuel depth value rest

theorem readFrom_of_readValue {dialect : Dialect} {fuel depth : Nat} {characters rest : List Char}
    {value : Json} (read : readValue dialect (fuel + 1) depth characters = .ok (value, rest)) :
    ReadFrom dialect fuel depth value rest := by
  rw [readValue.eq_def] at read
  simp only at read
  split at read
  · obtain ⟨⟨⟨value, name⟩, after⟩, string, same⟩ := exists_of_map_eq_ok read
    obtain ⟨rfl, rfl⟩ := Prod.mk.inj same
    exact .string string
  · split at read
    · obtain ⟨rfl, -⟩ := Prod.mk.inj (Except.ok.inj read)
      exact .array []
    · split at read
      · simp [stopAt] at read
      · obtain ⟨⟨values, after⟩, -, same⟩ := exists_of_map_eq_ok read
        obtain ⟨rfl, -⟩ := Prod.mk.inj same
        exact .array values
  · split at read
    · obtain ⟨rfl, -⟩ := Prod.mk.inj (Except.ok.inj read)
      exact .noFields
    · split at read
      · simp [stopAt] at read
      · obtain ⟨⟨fields, after⟩, members, same⟩ := exists_of_map_eq_ok read
        obtain ⟨rfl, rfl⟩ := Prod.mk.inj same
        exact .members members
  · split at read
    · rename_i found
      rw [Except.ok.inj read] at found
      exact .simple (simple_of_word? found)
    · split at read
      · rename_i found
        rw [Except.ok.inj read] at found
        exact .simple (simple_of_number? found)
      · simp [stopAt] at read

/-- A string that was read as a value stands for itself. -/
theorem standsIfString_of_readValue {dialect : Dialect} {fuel depth : Nat} {characters rest : List Char}
    {value : Json} (read : readValue dialect fuel depth characters = .ok (value, rest)) :
    StandsIfString value := by
  rintro points rfl
  cases fuel with
  | zero => simp [readValue, stopAt] at read
  | succ fuel =>
      cases readFrom_of_readValue read with
      | string isString =>
          rcases stringAfterQuote_value isString with ⟨text, same⟩ | ⟨_, same, unpaired, noText⟩
          · simp at same
          · obtain rfl := Json.looseText.inj same
            exact .loose unpaired noText
      | simple simple => cases simple

theorem mem_put {fields : Fields} {name : String} {value : Json} {field : String × Json}
    (inside : field ∈ fields.put name value) : field = (name, value) ∨ field ∈ fields := by
  induction fields with
  | nil => exact .inl (by simpa [Fields.put] using inside)
  | cons head rest inductionHypothesis =>
      unfold Fields.put at inside
      split at inside
      · rcases List.mem_cons.mp inside with same | inside
        · exact .inl same
        · exact .inr (List.mem_cons_of_mem head inside)
      · rcases List.mem_cons.mp inside with rfl | inside
        · exact .inr List.mem_cons_self
        · exact (inductionHypothesis inside).imp id (List.mem_cons_of_mem head)

/-- Every string among members that were read stands for itself. -/
theorem standsIfString_of_readMembers {dialect : Dialect} {fuel depth : Nat} {earlier fields : Fields}
    {characters rest : List Char} (sound : ∀ field ∈ earlier, StandsIfString field.2)
    (read : readMembers dialect fuel depth earlier characters = .ok (fields, rest)) :
    ∀ field ∈ fields, StandsIfString field.2 := by
  induction fuel generalizing earlier characters with
  | zero => simp [readMembers, stopAt] at read
  | succ fuel inductionHypothesis =>
      rw [readMembers.eq_def] at read
      simp only at read
      split at read
      · split at read
        · simp at read
        · split at read
          · split at read
            · simp at read
            · rename_i value after isValue
              have sounder : ∀ name, ∀ field ∈ earlier.put name value, StandsIfString field.2 := by
                intro name field inside
                rcases mem_put inside with rfl | inside
                · exact standsIfString_of_readValue isValue
                · exact sound field inside
              split at read
              · simp only [Except.ok.injEq, Prod.mk.injEq] at read
                rw [← read.1]
                exact sounder _
              · exact inductionHypothesis (sounder _) read
              · simp [stopAt] at read
          · simp [stopAt] at read
      · simp [stopAt] at read

/-- Every string among the fields of an object that was read as a value stands for itself. -/
theorem standsIfString_of_readObject {dialect : Dialect} {fuel depth : Nat}
    {characters rest : List Char} {fields : Fields}
    (read : readValue dialect fuel depth characters = .ok (.object fields, rest)) :
    ∀ field ∈ fields, StandsIfString field.2 := by
  cases fuel with
  | zero => simp [readValue, stopAt] at read
  | succ fuel =>
      cases readFrom_of_readValue read with
      | string isString =>
          rcases stringAfterQuote_value isString with ⟨text, same⟩ | ⟨points, same, -⟩ <;>
            simp at same
      | noFields => simp
      | members members => exact standsIfString_of_readMembers (by simp) members
      | simple simple => cases simple

/-- Every string among the fields of an object that was read stands for itself. -/
theorem standsIfString_of_read {dialect : Dialect} {source : String} {fields : Fields}
    (read : Json.read dialect source = .ok (.object fields)) :
    ∀ field ∈ fields, StandsIfString field.2 := by
  have isRead : readCharacters dialect source.toList = .ok (.object fields) := by
    unfold Json.read at read
    cases found : readCharacters dialect source.toList with
    | error stop => simp [found] at read
    | ok document => simpa [found] using read
  unfold readCharacters at isRead
  split at isRead
  · simp [stopAt] at isRead
  · split at isRead
    · simp at isRead
    · rename_i value rest isValue
      split at isRead
      · obtain rfl := Except.ok.inj isRead
        exact standsIfString_of_readObject isValue
      · simp [stopAt] at isRead

end Playthrough.Json

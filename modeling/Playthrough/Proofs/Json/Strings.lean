import Mathlib.Data.List.Chain
import Playthrough.Json.Reader
import Playthrough.Json.Writer

/-!
Contract: that a string that was written is read as it was.

Owns: the elements that a written code point is read as, the sequences of code points that stand for
themselves (`Unpaired`), and the reading of a whole written string, with that of its use as a name.

Does not own: strings among other values.

Two surrogates in the right order would be read as one code point. A string that was read never holds
such a pair, and a text holds no surrogates at all.
-/

namespace Playthrough.Json

/-! ## Hexadecimal digits -/

/-- A number in at least two digits ends with its last digit. -/
theorem digits_succ {base : Nat} (proper : 1 < base) (width value : Nat) :
    Text.digits base (width + 2) value
      = Text.digits base (width + 1) (value / base) ++ [(value % base).digitChar] := by
  unfold Text.digits
  by_cases small : value < base
  · have quotient : value / base = 0 := Nat.div_eq_of_lt small
    rw [Nat.toDigits_of_lt_base small, quotient, Nat.toDigits_of_lt_base (by omega),
      Nat.mod_eq_of_lt small]
    simp [List.replicate_succ']
  · rw [Nat.toDigits_of_base_le proper (by omega)]
    simp only [List.length_append, List.length_cons, List.length_nil, List.append_assoc]
    congr 2
    omega

/-- Sixteen bits are four hexadecimal digits. -/
theorem hexadecimal_four {bits : Nat} (bounded : bits < 0x10000) :
    Text.hexadecimal 4 bits
      = [ (bits / 16 / 16 / 16).digitChar, (bits / 16 / 16 % 16).digitChar,
          (bits / 16 % 16).digitChar, (bits % 16).digitChar ] := by
  have last : Text.digits 16 1 (bits / 16 / 16 / 16) = [(bits / 16 / 16 / 16).digitChar] := by
    unfold Text.digits
    rw [Nat.toDigits_of_lt_base (by omega)]
    rfl
  unfold Text.hexadecimal
  rw [digits_succ (by decide), digits_succ (by decide), digits_succ (by decide), last]
  rfl

/-- A hexadecimal digit has the value that it was written for. -/
theorem hexValue?_digitChar {value : Nat} (small : value < 16) :
    Text.hexValue? value.digitChar = some value := by
  have each : ∀ digit : Fin 16, Text.hexValue? digit.val.digitChar = some digit.val := by decide
  exact each ⟨value, small⟩

/-- Four written digits are read as the bits that they were written for. -/
theorem unitOf?_digitChars {bits : Nat} (bounded : bits < 0x10000) :
    unitOf? (bits / 16 / 16 / 16).digitChar (bits / 16 / 16 % 16).digitChar
      (bits / 16 % 16).digitChar (bits % 16).digitChar = some bits := by
  unfold unitOf?
  rw [hexValue?_digitChar (by omega), hexValue?_digitChar (by omega), hexValue?_digitChar (by omega),
    hexValue?_digitChar (by omega)]
  simp only [Option.bind_eq_bind, Option.bind_some, Option.pure_def, Option.some.injEq]
  omega

/-! ## Code points and their elements -/

/-- The elements that a written code point is read as. -/
def piecesOf (point : Nat) : List Piece :=
  if point ∈ [0x22, 0x5c, 0x08, 0x0c, 0x0a, 0x0d, 0x09] ∨ 0x20 ≤ point ∧ point < 0x7f then
    [.plain (Char.ofNat point)]
  else if point < 0x10000 then [.unit point]
  else [.unit (0xD800 + (point - 0x10000) / 0x400), .unit (0xDC00 + (point - 0x10000) % 0x400)]

/-- A code escape before something is read as its bits. -/
theorem pieces_codeEscape {opening : List Char} {bits : Nat} (bounded : bits < 0x10000)
    {next : Char} {rest : List Char} :
    pieces opening (codeEscape bits ++ next :: rest)
      = (pieces opening (next :: rest)).map fun (tail, after) => (.unit bits :: tail, after) := by
  unfold codeEscape
  rw [hexadecimal_four bounded]
  simp only [List.cons_append, List.nil_append]
  rw [pieces]
  simp only [unitOf?_digitChars bounded]

/-- A code point that is no surrogate is that of its character. -/
theorem toNat_ofNat {point : Nat} (bounded : point < 0x110000) (lone : isSurrogate point = false) :
    (Char.ofNat point).toNat = point := by
  have valid : point.isValidChar := by
    simp only [isSurrogate, Bool.and_eq_false_iff, decide_eq_false_iff_not] at lone
    unfold Nat.isValidChar
    omega
  rw [Char.ofNat, dif_pos valid]
  rfl

/-- A printable character of ASCII, besides the quote and the backslash, is read as it stands. -/
theorem pieces_printable {opening rest : List Char} {point : Nat} (least : 0x20 ≤ point)
    (greatest : point < 0x7f) (noQuote : point ≠ 0x22) (noBackslash : point ≠ 0x5c) :
    pieces opening (Char.ofNat point :: rest)
      = (pieces opening rest).map fun (tail, after) => (.plain (Char.ofNat point) :: tail, after) := by
  have code : (Char.ofNat point).toNat = point :=
    toNat_ofNat (by omega) (by simp only [isSurrogate, Bool.and_eq_false_iff, decide_eq_false_iff_not]; omega)
  have notQuote : Char.ofNat point ≠ '"' := fun same => noQuote (by rw [← code, same]; rfl)
  have notBackslash : Char.ofNat point ≠ '\\' := fun same => noBackslash (by rw [← code, same]; rfl)
  have visible : ¬ (Char.ofNat point).toNat < 32 := by omega
  rw [pieces.eq_def]
  split <;> simp_all

/-- A written code point before something is read as its elements. -/
theorem pieces_writeCodePoint {opening : List Char} {point : Nat} (bounded : point < 0x110000)
    {next : Char} {rest : List Char} :
    pieces opening (writeCodePoint point ++ next :: rest)
      = (pieces opening (next :: rest)).map fun (tail, after) => (piecesOf point ++ tail, after) := by
  by_cases escaped : point ∈ [0x22, 0x5c, 0x08, 0x0c, 0x0a, 0x0d, 0x09]
  · have elements : piecesOf point = [.plain (Char.ofNat point)] := if_pos (.inl escaped)
    rw [elements]
    simp only [List.mem_cons, List.not_mem_nil, or_false] at escaped
    rcases escaped with rfl | rfl | rfl | rfl | rfl | rfl | rfl <;> rfl
  · simp only [List.mem_cons, List.not_mem_nil, or_false, not_or] at escaped
    obtain ⟨noQuote, noBackslash, noBackspace, noFeed, noLine, noReturn, noTab⟩ := escaped
    unfold writeCodePoint piecesOf
    simp only [noQuote, noBackslash, noBackspace, noFeed, noLine, noReturn, noTab, if_false,
      List.mem_cons, List.not_mem_nil, or_false, false_or]
    by_cases printable : 0x20 ≤ point ∧ point < 0x7f
    · rw [if_pos printable, if_pos printable]
      exact pieces_printable printable.1 printable.2 noQuote noBackslash
    · rw [if_neg printable, if_neg printable]
      by_cases short : point < 0x10000
      · rw [if_pos short, if_pos short]
        exact pieces_codeEscape short
      · rw [if_neg short, if_neg short, List.append_assoc]
        -- the second escape is what follows the first one, so it is opened for the first to be read
        change pieces opening (codeEscape _ ++ '\\' :: ('u' :: Text.hexadecimal 4 _ ++ next :: rest)) = _
        rw [pieces_codeEscape (by omega)]
        change (pieces opening (codeEscape _ ++ next :: rest)).map _ = _
        rw [pieces_codeEscape (by omega)]
        cases pieces opening (next :: rest) <;> rfl

/-- Written code points before a quote are read as their elements. -/
theorem pieces_writeCodePoints {opening rest : List Char} {points : List Nat}
    (bounded : ∀ point ∈ points, point < 0x110000) :
    pieces opening (points.flatMap writeCodePoint ++ '"' :: rest)
      = .ok (points.flatMap piecesOf, rest) := by
  induction points with
  | nil =>
      rw [List.flatMap_nil, List.nil_append, pieces]
      rfl
  | cons point points inductionHypothesis =>
      have first : point < 0x110000 := bounded point List.mem_cons_self
      have others := inductionHypothesis fun other inside => bounded other (List.mem_cons_of_mem point inside)
      obtain ⟨next, more, follows⟩ : ∃ next more,
          points.flatMap writeCodePoint ++ '"' :: rest = next :: more :=
        List.exists_cons_of_ne_nil (by simp)
      rw [List.flatMap_cons, List.append_assoc, follows, pieces_writeCodePoint first, ← follows, others]
      rfl

/-! ## Sequences that stand for themselves -/

/-- Code points none of which would join the next one to a pair. -/
def Unpaired (points : List Nat) : Prop :=
  (∀ point ∈ points, point < 0x110000)
    ∧ points.IsChain fun high low => (isHighSurrogate high && isLowSurrogate low) = false

/-- Bits that do not join what follows stand for themselves. -/
theorem codePoints_unit {bits : Nat} {rest : List Piece}
    (alone : ∀ low, rest.head? = some (.unit low) → (isHighSurrogate bits && isLowSurrogate low) = false) :
    codePoints (.unit bits :: rest) = bits :: codePoints rest := by
  cases rest with
  | nil => rfl
  | cons next rest =>
      cases next with
      | plain character => rfl
      | unit low => simp [codePoints, alone low rfl]

/-- The elements of a code point begin with no second half of a pair, unless it is one. -/
theorem head?_piecesOf {point low : Nat} (bounded : point < 0x110000)
    (first : (piecesOf point).head? = some (.unit low)) (isLow : isLowSurrogate low = true) :
    low = point := by
  unfold piecesOf at first
  split at first
  · simp at first
  · split at first
    · simpa using first.symm
    · simp only [List.head?_cons, Option.some.injEq, Piece.unit.injEq] at first
      simp only [isLowSurrogate, Bool.and_eq_true, decide_eq_true_eq] at isLow
      omega

theorem piecesOf_ne_nil (point : Nat) : piecesOf point ≠ [] := by
  unfold piecesOf
  split
  · simp
  · split <;> simp

/-- A code point that joins nothing in what follows is found again in its elements. -/
theorem codePoints_piecesOf_append {point : Nat} {rest : List Piece} (bounded : point < 0x110000)
    (alone : ∀ low, rest.head? = some (.unit low) → (isHighSurrogate point && isLowSurrogate low) = false) :
    codePoints (piecesOf point ++ rest) = point :: codePoints rest := by
  unfold piecesOf
  split
  · rename_i small
    have code : (Char.ofNat point).toNat = point := by
      apply toNat_ofNat bounded
      simp only [List.mem_cons, List.not_mem_nil, or_false] at small
      simp only [isSurrogate, Bool.and_eq_false_iff, decide_eq_false_iff_not]
      omega
    change (Char.ofNat point).toNat :: codePoints rest = _
    rw [code]
  · split
    · exact codePoints_unit alone
    · have high : isHighSurrogate (0xD800 + (point - 0x10000) / 0x400) = true := by
        simp only [isHighSurrogate, Bool.and_eq_true, decide_eq_true_eq]
        omega
      have low : isLowSurrogate (0xDC00 + (point - 0x10000) % 0x400) = true := by
        simp only [isLowSurrogate, Bool.and_eq_true, decide_eq_true_eq]
        omega
      have joined : joinSurrogates (0xD800 + (point - 0x10000) / 0x400)
          (0xDC00 + (point - 0x10000) % 0x400) = point := by
        unfold joinSurrogates
        omega
      simp only [List.cons_append, List.nil_append, codePoints, high, low, Bool.and_self, if_true,
        joined]

/-- Code points that join no pairs are found again in their elements. -/
theorem codePoints_piecesOf {points : List Nat} (unpaired : Unpaired points) :
    codePoints (points.flatMap piecesOf) = points := by
  induction points with
  | nil => rfl
  | cons point rest inductionHypothesis =>
      obtain ⟨bounded, chain⟩ := unpaired
      have others : codePoints (rest.flatMap piecesOf) = rest :=
        inductionHypothesis
          ⟨fun other inside => bounded other (List.mem_cons_of_mem point inside), chain.tail⟩
      have alone : ∀ low, (rest.flatMap piecesOf).head? = some (.unit low) →
          (isHighSurrogate point && isLowSurrogate low) = false := by
        intro low begins
        cases rest with
        | nil => simp at begins
        | cons next more =>
            rw [List.flatMap_cons, List.head?_append_of_ne_nil _ (piecesOf_ne_nil next)] at begins
            by_cases isLow : isLowSurrogate low = true
            · have same : low = next :=
                head?_piecesOf (bounded next (by simp)) begins isLow
              rw [same]
              exact chain.rel
            · simp [isLow]
      rw [List.flatMap_cons, codePoints_piecesOf_append (bounded point List.mem_cons_self) alone, others]

/-- No character is a surrogate. -/
theorem isSurrogate_toNat (character : Char) : isSurrogate character.toNat = false := by
  have valid : character.toNat.isValidChar := character.valid
  unfold Nat.isValidChar at valid
  simp only [isSurrogate, Bool.and_eq_false_iff, decide_eq_false_iff_not]
  omega

theorem toNat_lt (character : Char) : character.toNat < 0x110000 := by
  have valid : character.toNat.isValidChar := character.valid
  unfold Nat.isValidChar at valid
  omega

/-- Neither half of a pair is anything but a surrogate. -/
theorem isSurrogate_of_isHighSurrogate {bits : Nat} (high : isHighSurrogate bits = true) :
    isSurrogate bits = true := by
  simp only [isHighSurrogate, isSurrogate, Bool.and_eq_true, decide_eq_true_eq] at high ⊢
  omega

theorem isSurrogate_of_isLowSurrogate {bits : Nat} (low : isLowSurrogate bits = true) :
    isSurrogate bits = true := by
  simp only [isLowSurrogate, isSurrogate, Bool.and_eq_true, decide_eq_true_eq] at low ⊢
  omega

/-- A pair is a code point beyond sixteen bits. -/
theorem joinSurrogates_bounds {high low : Nat} (isHigh : isHighSurrogate high = true)
    (isLow : isLowSurrogate low = true) :
    0x10000 ≤ joinSurrogates high low ∧ joinSurrogates high low < 0x110000 := by
  simp only [isHighSurrogate, Bool.and_eq_true, decide_eq_true_eq] at isHigh
  simp only [isLowSurrogate, Bool.and_eq_true, decide_eq_true_eq] at isLow
  unfold joinSurrogates
  omega

/-- Nothing beyond sixteen bits is a surrogate. -/
theorem isSurrogate_of_le {point : Nat} (beyond : 0x10000 ≤ point) : isSurrogate point = false := by
  simp only [isSurrogate, Bool.and_eq_false_iff, decide_eq_false_iff_not]
  omega

theorem isHighSurrogate_eq_false {point : Nat} (plain : isSurrogate point = false) :
    isHighSurrogate point = false := by
  by_contra isHigh
  simp [isSurrogate_of_isHighSurrogate (by simpa using isHigh)] at plain

theorem isLowSurrogate_eq_false {point : Nat} (plain : isSurrogate point = false) :
    isLowSurrogate point = false := by
  by_contra isLow
  simp [isSurrogate_of_isLowSurrogate (by simpa using isLow)] at plain

/-- The code points of a text stand for themselves. -/
theorem unpaired_text (value : String) : Unpaired (value.toList.map Char.toNat) := by
  constructor
  · intro point inside
    obtain ⟨character, -, rfl⟩ := List.mem_map.mp inside
    exact toNat_lt character
  · rw [List.isChain_map]
    apply List.Pairwise.isChain
    apply List.pairwise_of_forall
    intro high low
    simp [isHighSurrogate_eq_false (isSurrogate_toNat high)]

/-- One more code point in front joins no pair unless it joins the first one. -/
theorem Unpaired.cons {point : Nat} {points : List Nat} (unpaired : Unpaired points)
    (bounded : point < 0x110000)
    (alone : ∀ low, points.head? = some low → (isHighSurrogate point && isLowSurrogate low) = false) :
    Unpaired (point :: points) := by
  constructor
  · intro other inside
    rcases List.mem_cons.mp inside with rfl | inside
    · exact bounded
    · exact unpaired.1 other inside
  · apply List.isChain_cons.mpr
    exact ⟨alone, unpaired.2⟩

/-- The code points of elements stand for themselves: every pair among the elements was joined. -/
theorem unpaired_codePoints {found : List Piece} (bounded : ∀ bits, .unit bits ∈ found → bits < 0x10000) :
    Unpaired (codePoints found)
      ∧ ∀ low, (codePoints found).head? = some low → isLowSurrogate low = true →
          found.head? = some (.unit low) := by
  fun_induction codePoints found with
  | case1 => exact ⟨⟨by simp, .nil⟩, by simp⟩
  | case2 character rest inductionHypothesis =>
      obtain ⟨unpaired, -⟩ := inductionHypothesis fun bits inside =>
        bounded bits (List.mem_cons_of_mem _ inside)
      constructor
      · apply unpaired.cons (toNat_lt character)
        intro low _
        simp [isHighSurrogate_eq_false (isSurrogate_toNat character)]
      · intro low begins isLow
        obtain rfl : character.toNat = low := by simpa using begins
        simp [isLowSurrogate_eq_false (isSurrogate_toNat character)] at isLow
  | case3 high low rest pair inductionHypothesis =>
      obtain ⟨unpaired, -⟩ := inductionHypothesis fun bits inside =>
        bounded bits (List.mem_cons_of_mem _ (List.mem_cons_of_mem _ inside))
      obtain ⟨isHigh, isLow⟩ := Bool.and_eq_true_iff.mp pair
      obtain ⟨beyond, below⟩ := joinSurrogates_bounds isHigh isLow
      have plain := isSurrogate_of_le beyond
      constructor
      · apply unpaired.cons below
        intro next _
        simp [isHighSurrogate_eq_false plain]
      · intro next begins nextLow
        obtain rfl : joinSurrogates high low = next := by simpa using begins
        simp [isLowSurrogate_eq_false plain] at nextLow
  | case4 high low rest apart inductionHypothesis =>
      obtain ⟨unpaired, begin⟩ := inductionHypothesis fun bits inside =>
        bounded bits (List.mem_cons_of_mem _ inside)
      constructor
      · apply unpaired.cons (Nat.lt_trans (bounded high List.mem_cons_self) (by decide))
        intro next begins
        by_cases isLow : isLowSurrogate next = true
        · obtain rfl : low = next := by simpa using begin next begins isLow
          simpa using apart
        · simp [isLow]
      · intro next begins _
        simpa using begins
  | case5 bits rest noUnit inductionHypothesis =>
      obtain ⟨unpaired, begin⟩ := inductionHypothesis fun other inside =>
        bounded other (List.mem_cons_of_mem _ inside)
      constructor
      · apply unpaired.cons (Nat.lt_trans (bounded bits List.mem_cons_self) (by decide))
        intro next begins
        by_cases isLow : isLowSurrogate next = true
        · obtain ⟨more, follows⟩ := List.head?_eq_some_iff.mp (begin next begins isLow)
          exact absurd follows (noUnit next more)
        · simp [isLow]
      · intro next begins _
        simpa using begins

/-- A hexadecimal digit is four bits. -/
theorem hexValue?_lt {digit : Char} {value : Nat} (read : Text.hexValue? digit = some value) :
    value < 16 := by
  have zero : '0'.toNat = 48 ∧ '9'.toNat = 57 := ⟨rfl, rfl⟩
  have capital : 'A'.toNat = 65 ∧ 'F'.toNat = 70 := ⟨rfl, rfl⟩
  have small : 'a'.toNat = 97 ∧ 'f'.toNat = 102 := ⟨rfl, rfl⟩
  have ordered : ∀ first second : Char, first ≤ second ↔ first.toNat ≤ second.toNat :=
    fun first second => by rw [Char.le_def, UInt32.le_iff_toNat_le]; rfl
  unfold Text.hexValue? at read
  simp only [Char.isDigit_iff_toNat, ordered] at read
  split at read
  · obtain rfl := Option.some.inj read
    omega
  · split at read
    · obtain rfl := Option.some.inj read
      omega
    · split at read
      · obtain rfl := Option.some.inj read
        omega
      · simp at read

/-- Four hexadecimal digits are sixteen bits. -/
theorem unitOf?_lt {first second third fourth : Char} {bits : Nat}
    (read : unitOf? first second third fourth = some bits) : bits < 0x10000 := by
  simp only [unitOf?, Option.bind_eq_bind, Option.bind_eq_some_iff, Option.pure_def,
    Option.some.injEq] at read
  obtain ⟨one, isOne, two, isTwo, three, isThree, four, isFour, rfl⟩ := read
  have oneSmall := hexValue?_lt isOne
  have twoSmall := hexValue?_lt isTwo
  have threeSmall := hexValue?_lt isThree
  have fourSmall := hexValue?_lt isFour
  omega

/-- What was changed after it was read was read. -/
theorem exists_of_map_eq_ok {α β : Type} {change : α → β} {reading : Except Stop α} {result : β}
    (read : reading.map change = .ok result) : ∃ value, reading = .ok value ∧ change value = result := by
  cases reading with
  | error stop => simp [Except.map] at read
  | ok value => exact ⟨value, rfl, Except.ok.inj read⟩

/-- The code escapes that are read are of sixteen bits. -/
theorem pieces_bounded {opening characters rest : List Char} {found : List Piece}
    (read : pieces opening characters = .ok (found, rest)) :
    ∀ bits, .unit bits ∈ found → bits < 0x10000 := by
  fun_induction pieces opening characters generalizing found with
  | case2 rest =>
      simp only [Except.ok.injEq, Prod.mk.injEq] at read
      simp [← read.1]
  | case4 first second third fourth next rest bits isUnit inductionHypothesis =>
      obtain ⟨⟨tail, after⟩, others, same⟩ := exists_of_map_eq_ok read
      obtain ⟨rfl, rfl⟩ := Prod.mk.inj same
      intro other inside
      rcases List.mem_cons.mp inside with same | inside
      · obtain rfl : other = bits := by simpa using same
        exact unitOf?_lt isUnit
      · exact inductionHypothesis others other inside
  | case8 escape rest _ _ character _ inductionHypothesis
  | case10 character rest _ _ _ _ _ _ inductionHypothesis =>
      obtain ⟨⟨tail, after⟩, others, same⟩ := exists_of_map_eq_ok read
      obtain ⟨rfl, rfl⟩ := Prod.mk.inj same
      intro bits inside
      exact inductionHypothesis others bits (by simpa using inside)
  | _ => simp [stopAt] at read

/-! ## Strings -/

/-- A written string is read as a text if it is one, and as its code points otherwise. -/
theorem stringAfterQuote_written {opening rest : List Char} {points : List Nat}
    (unpaired : Unpaired points) :
    stringAfterQuote .lenient opening (points.flatMap writeCodePoint ++ '"' :: rest)
      = match textOf? points with
        | some value => .ok ((.text value, value), rest)
        | none => .ok ((.looseText points, replacingSurrogates points), rest) := by
  have read : pieces opening (points.flatMap writeCodePoint ++ '"' :: rest)
      = .ok (points.flatMap piecesOf, rest) := pieces_writeCodePoints unpaired.1
  have found := codePoints_piecesOf unpaired
  unfold stringAfterQuote
  rw [read]
  simp only [found]
  cases textOf? points <;> rfl

/-- The text of the code points of a text is that text. -/
theorem textOf?_text (value : String) : textOf? (value.toList.map Char.toNat) = some value := by
  have plain : (value.toList.map Char.toNat).any isSurrogate = false := by
    simp [isSurrogate_toNat]
  unfold textOf?
  rw [plain]
  simp [Function.comp_def]

/-- A written text is read as that text. -/
theorem stringAfterQuote_text {opening rest : List Char} (value : String) :
    stringAfterQuote .lenient opening
        ((value.toList.map Char.toNat).flatMap writeCodePoint ++ '"' :: rest)
      = .ok ((.text value, value), rest) := by
  rw [stringAfterQuote_written (unpaired_text value), textOf?_text]

/-- What is read as a string is a text, or stands for itself. -/
theorem stringAfterQuote_value {dialect : Dialect} {opening characters rest : List Char}
    {value : Json} {name : String}
    (read : stringAfterQuote dialect opening characters = .ok ((value, name), rest)) :
    (∃ text, value = .text text)
      ∨ ∃ points, value = .looseText points ∧ Unpaired points ∧ textOf? points = none := by
  unfold stringAfterQuote at read
  cases isRead : pieces opening characters with
  | error stop => simp [isRead] at read
  | ok found =>
      obtain ⟨found, after⟩ := found
      have unpaired := (unpaired_codePoints (pieces_bounded isRead)).1
      cases isText : textOf? (codePoints found) with
      | some text =>
          simp only [isRead, isText, Except.ok.injEq, Prod.mk.injEq] at read
          exact .inl ⟨text, read.1.1.symm⟩
      | none =>
          by_cases loose : dialect.looseSurrogates = true
          · simp only [isRead, isText, loose, if_true, Except.ok.injEq, Prod.mk.injEq] at read
            exact .inr ⟨_, read.1.1.symm, unpaired, isText⟩
          · simp [isRead, isText, loose, stopAt] at read

/-! ## What is never written -/

theorem return_not_mem_codeEscape {bits : Nat} (bounded : bits < 0x10000) : '\r' ∉ codeEscape bits := by
  have digit : ∀ value : Fin 16, '\r' ≠ value.val.digitChar := by decide
  unfold codeEscape
  rw [hexadecimal_four bounded]
  simp only [List.mem_cons, List.not_mem_nil, or_false, not_or]
  exact ⟨by decide, by decide, digit ⟨bits / 16 / 16 / 16, by omega⟩,
    digit ⟨bits / 16 / 16 % 16, by omega⟩, digit ⟨bits / 16 % 16, by omega⟩, digit ⟨bits % 16, by omega⟩⟩

/-- A carriage return is written as an escape. -/
theorem return_not_mem_writeCodePoint {point : Nat} (bounded : point < 0x110000) :
    '\r' ∉ writeCodePoint point := by
  by_cases escaped : point ∈ [0x22, 0x5c, 0x08, 0x0c, 0x0a, 0x0d, 0x09]
  · simp only [List.mem_cons, List.not_mem_nil, or_false] at escaped
    rcases escaped with rfl | rfl | rfl | rfl | rfl | rfl | rfl <;> decide
  · simp only [List.mem_cons, List.not_mem_nil, or_false, not_or] at escaped
    obtain ⟨noQuote, noBackslash, noBackspace, noFeed, noLine, noReturn, noTab⟩ := escaped
    unfold writeCodePoint
    simp only [noQuote, noBackslash, noBackspace, noFeed, noLine, noReturn, noTab, if_false]
    split
    · rename_i printable
      have code : (Char.ofNat point).toNat = point := by
        apply toNat_ofNat bounded
        simp only [isSurrogate, Bool.and_eq_false_iff, decide_eq_false_iff_not]
        omega
      intro inside
      have same : '\r' = Char.ofNat point := by simpa using inside
      rw [← same] at code
      exact noReturn code.symm
    · split
      · exact return_not_mem_codeEscape (by omega)
      · rw [List.mem_append, not_or]
        exact ⟨return_not_mem_codeEscape (by omega), return_not_mem_codeEscape (by omega)⟩

theorem return_not_mem_writeCodePoints {points : List Nat} (bounded : ∀ point ∈ points, point < 0x110000) :
    '\r' ∉ writeCodePoints points := by
  unfold writeCodePoints
  simp only [List.mem_cons, List.mem_append, List.mem_flatMap, List.not_mem_nil, or_false, not_or,
    not_exists, not_and]
  refine ⟨⟨by decide, ?_⟩, by decide⟩
  intro point inside
  exact return_not_mem_writeCodePoint (bounded point inside)

end Playthrough.Json

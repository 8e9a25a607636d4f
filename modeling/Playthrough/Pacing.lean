import Playthrough.Duration
import Playthrough.Preferences

/-!
Contract: how long each kind of wait takes.

Owns: the length of every wait as a function of the pacing mode and of a text's length or an
authored hint, and the same functions for a mode given by name.

Fast pacing is near-instant, medium pacing keeps a fixed beat, native pacing grows with the length
of the text. A wait that the clock cannot hold is `none`. Only hints beyond every authored scene and
counts beyond the length of every text come to that: the wait for a text that is there, `forText`,
always exists.
-/

namespace Playthrough.Pacing

/-- What one character of a text adds under native pacing. -/
def perCharacter : Nat := 55

/-- The shortest wait for a text under native pacing. -/
def shortestText : Nat := 800

/-- The longest wait for a text under native pacing. -/
def longestText : Nat := 7000

/-- The longest scripted pause. -/
def longestScripted : Duration := ⟨8000⟩

/-- The length of text that a reaction without a hint waits for. -/
def reactionLength : Int := 20

/-- The wait for a text of so many characters under native pacing. -/
def nativeText (characters : Int) : Duration :=
  ⟨min (max (characters.toNat * perCharacter) shortestText) longestText⟩

/-- The wait before a text of so many characters. -/
def text (pacing : Pacing) (characters : Int) : Option Duration :=
  match pacing with
  | .fast => some ⟨150⟩
  | .medium => some ⟨2000⟩
  | .native =>
      if characters.natAbs < Duration.clockLimit then some (nativeText characters) else none

/-- The wait before a text that is there. The clock has room for far more than its length. -/
def forText (pacing : Pacing) (characters : Nat) : Duration :=
  match pacing with
  | .fast => ⟨150⟩
  | .medium => ⟨2000⟩
  | .native => nativeText characters

/-- The positive part of an optional hint: one that is absent, zero or negative counts as none. -/
def positiveHint? (hint : Option Int) : Option Nat :=
  match hint with
  | none => none
  | some value => if 0 < value then some value.toNat else none

/-- The wait before somebody reacts, as long as for a short text when there is no hint. -/
def reaction (pacing : Pacing) (hint : Option Int) : Option Duration :=
  match positiveHint? hint with
  | none => text pacing reactionLength
  | some milliseconds =>
      if pacing = .fast then some ⟨200⟩ else Duration.ofMilliseconds? milliseconds

/-- How long the transition screen is held. -/
def transition (pacing : Pacing) : Duration :=
  match pacing with
  | .fast => ⟨0⟩
  | .medium => ⟨1500⟩
  | .native => ⟨2500⟩

/-- The pause after an encounter's header. -/
def intro (pacing : Pacing) : Duration :=
  if pacing = .fast then ⟨300⟩ else ⟨1500⟩

/-- The pause after an ending's label. -/
def epilogue (pacing : Pacing) : Duration :=
  if pacing = .fast then ⟨300⟩ else ⟨1200⟩

/-- The pause before a text scene says that it is ready to move on. -/
def marker (pacing : Pacing) : Duration :=
  if pacing = .fast then ⟨100⟩ else ⟨800⟩

/-- The pauses before and after a system label. -/
def label (pacing : Pacing) : Duration × Duration :=
  if pacing = .fast then (⟨200⟩, ⟨300⟩) else (⟨800⟩, ⟨1200⟩)

/-- The authored pause after the player's own texts, under native pacing only. -/
def scripted (pacing : Pacing) (hint : Option Int) : Option Duration :=
  match pacing, positiveHint? hint with
  | .native, some milliseconds =>
      (Duration.ofMilliseconds? milliseconds).map fun duration => duration.atMost longestScripted
  | _, _ => some .zero

/-! ## Modes by name

A name that is not listed is paced as native, except that no scripted pause is taken. -/

/-- The mode that a name is paced as. -/
def forName (name : String) : Pacing :=
  (ofName? name).getD .native

/-- The scripted pause of a mode given by name. -/
def scriptedForName (name : String) (hint : Option Int) : Option Duration :=
  match ofName? name with
  | none => some .zero
  | some pacing => scripted pacing hint

@[simp] theorem forName_name (pacing : Pacing) : forName pacing.name = pacing := by
  simp [forName]

/-- Up to the limit of the clock, a count is waited for like a text of that length. -/
theorem text_eq_forText (pacing : Pacing) {characters : Nat}
    (short : characters < Duration.clockLimit) :
    text pacing characters = some (forText pacing characters) := by
  cases pacing with
  | fast => rfl
  | medium => rfl
  | native =>
      have fits : (characters : Int).natAbs < Duration.clockLimit := by
        rwa [Int.natAbs_natCast]
      simp only [text, forText, if_pos fits]

/-- Without a positive hint a reaction waits as long as a short text. -/
theorem reaction_of_no_hint {pacing : Pacing} {hint : Option Int}
    (absent : positiveHint? hint = none) : reaction pacing hint = text pacing reactionLength := by
  simp [reaction, absent]

end Playthrough.Pacing

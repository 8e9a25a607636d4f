/-!
Contract: what a player can choose before a run.

Owns: the languages, the pacing modes, their names, and the pair of both that a run is started with.
-/

namespace Playthrough

/-- A language that every text is written in. -/
inductive Language where
  | english
  | italian
  | georgian
  | persian
deriving DecidableEq, Repr, Inhabited

namespace Language

/-- The languages in the order in which they are listed. -/
def all : List Language := [.english, .italian, .georgian, .persian]

/-- The short name of a language. -/
def name : Language → String
  | .english => "en"
  | .italian => "it"
  | .georgian => "ka"
  | .persian => "fa"

/-- The language of a short name. -/
def ofName? (name : String) : Option Language :=
  all.find? fun language => language.name == name

@[simp] theorem ofName?_name (language : Language) : ofName? language.name = some language := by
  cases language <;> rfl

end Language

/-- How long a run waits between what it shows. -/
inductive Pacing where
  | fast
  | medium
  | native
deriving DecidableEq, Repr, Inhabited

namespace Pacing

/-- The modes in the order in which they are listed. -/
def all : List Pacing := [.fast, .medium, .native]

/-- The name of a mode. -/
def name : Pacing → String
  | .fast => "fast"
  | .medium => "medium"
  | .native => "native"

/-- The mode of a name. -/
def ofName? (name : String) : Option Pacing :=
  all.find? fun pacing => pacing.name == name

@[simp] theorem ofName?_name (pacing : Pacing) : ofName? pacing.name = some pacing := by
  cases pacing <;> rfl

end Pacing

/-- The settings that one run is played with. -/
structure Preferences where
  language : Language
  pacing : Pacing
deriving DecidableEq, Repr

/-- What is played with when nothing was chosen. -/
def Preferences.standard : Preferences := { language := .english, pacing := .medium }

instance : Inhabited Preferences := ⟨Preferences.standard⟩

end Playthrough

import Playthrough.Presets.Encounter
import Playthrough.Presets.TextScene

/-!
Contract: the built-in scenes by name.
-/

namespace Playthrough.Presets

/-- The name of the text scene that is played when none was chosen. -/
def textSceneName : String := "text_scene_01"

/-- The name of the encounter that is played when none was chosen. -/
def encounterName : String := "encounter_01"

/-- The built-in scenes. -/
def catalogue : List (String × Json) :=
  [(textSceneName, textScene), (encounterName, encounter)]

/-- The built-in scene of a name. -/
def find? (name : String) : Option Json :=
  (catalogue.find? fun preset => preset.1 == name).map Prod.snd

end Playthrough.Presets

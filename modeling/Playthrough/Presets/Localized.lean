import Playthrough.Json.Value

/-!
Contract: documents of localized texts, as built-in scenes write them.
-/

namespace Playthrough.Presets

/-- The document of a text in every language. -/
def localized (english italian georgian persian : String) : Json :=
  .object
    [ ("en", .text english),
      ("it", .text italian),
      ("ka", .text georgian),
      ("fa", .text persian) ]

end Playthrough.Presets

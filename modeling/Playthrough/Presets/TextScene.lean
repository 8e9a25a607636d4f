import Playthrough.Presets.Localized

/-!
Contract: a built-in scene, as a document.

Owns: the texts and the branches of the scene `text_scene_01`.
-/

namespace Playthrough.Presets

/-- The built-in text scene. -/
def textScene : Json :=
  .object
    [ ("chapter", .integer 1),
      ("scene_id", .text "text_scene_01"),
      ("scene_type", .text "text_message_thread"),
      ("characters", .array
        [ .text "Andreas" ]),
      ("nodes", .array
        [ .object
            [ ("id", .text "m1"),
              ("type", .text "message_block"),
              ("sender", .text "Andreas"),
              ("messages", .array
                [ localized
                    "hey"
                    "ehi"
                    "ჰეი"
                    "سلام",
                  localized
                    "are you free tonight?"
                    "sei libero stasera?"
                    "ამაღამ თავისუფალი ხარ?"
                    "امشب وقت داری؟" ]) ],
          .object
            [ ("id", .text "c1"),
              ("type", .text "player_choice"),
              ("options", .array
                [ .object
                    [ ("option_id", .text "c1_warm"),
                      ("text", localized
                        "sure, what's up?"
                        "certo, che succede?"
                        "კი, რა ხდება?"
                        "حتماً، چی شده؟"),
                      ("points", .integer 4),
                      ("branch_messages", .array
                        [ localized
                            "good. I was hoping you'd say that"
                            "bene. speravo lo dicessi"
                            "კარგია. ვიმედოვნებდი, ამას იტყოდი"
                            "خوبه. امیدوار بودم همینو بگی" ]) ],
                  .object
                    [ ("option_id", .text "c1_guarded"),
                      ("text", localized
                        "maybe. why?"
                        "forse. perché?"
                        "შეიძლება. რატომ?"
                        "شاید. چرا؟"),
                      ("points", .integer 2) ],
                  .object
                    [ ("option_id", .text "c1_cold"),
                      ("text", localized
                        "busy."
                        "impegnato."
                        "დაკავებული ვარ."
                        "سرم شلوغه."),
                      ("points", .integer 0),
                      ("response_delay_ms", .integer 2500),
                      ("branch_messages", .array
                        [ localized
                            "oh"
                            "ah"
                            "აა"
                            "آها",
                          localized
                            "it won't take long"
                            "non ci vorrà molto"
                            "დიდხანს არ გაგრძელდება"
                            "زیاد طول نمی‌کشه" ]) ] ]) ],
          .object
            [ ("id", .text "m2"),
              ("type", .text "message_block"),
              ("sender", .text "Andreas"),
              ("messages", .array
                [ localized
                    "there's something I need to tell you. in person"
                    "devo dirti una cosa. di persona"
                    "რაღაც უნდა გითხრა. პირადად"
                    "یه چیزی هست که باید بهت بگم. حضوری" ]) ],
          .object
            [ ("id", .text "m3"),
              ("type", .text "message_block"),
              ("sender", .text "Player"),
              ("response_delay_ms", .integer 1500),
              ("messages", .array
                [ localized
                    "that sounds serious"
                    "sembra una cosa seria"
                    "სერიოზულად ჟღერს"
                    "جدی به نظر میاد" ]) ],
          .object
            [ ("id", .text "s1"),
              ("type", .text "system_event"),
              ("label", localized
                "Andreas shared a location"
                "Andreas ha condiviso una posizione"
                "ანდრეასმა ლოკაცია გააზიარა"
                "آندریاس یک موقعیت مکانی فرستاد") ],
          .object
            [ ("id", .text "m4"),
              ("type", .text "message_block"),
              ("sender", .text "Andreas"),
              ("system_event", .text "transition_to_encounter"),
              ("messages", .array
                [ localized
                    "café roma. 8pm"
                    "café roma. alle 20"
                    "კაფე რომა. 8 საათზე"
                    "کافه روما. ساعت ۸" ]) ] ]) ]

end Playthrough.Presets

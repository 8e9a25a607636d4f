import Playthrough.Presets.Localized

/-!
Contract: a built-in scene, as a document.

Owns: the texts and the branches of the scene `encounter_01`.
-/

namespace Playthrough.Presets

/-- The built-in encounter. -/
def encounter : Json :=
  .object
    [ ("chapter", .integer 1),
      ("scene_id", .text "encounter_01"),
      ("scene_type", .text "in_person_interaction"),
      ("location", localized
        "CAFÉ ROMA — 20:04"
        "CAFÉ ROMA — 20:04"
        "კაფე რომა — 20:04"
        "کافه روما — ۲۰:۰۴"),
      ("atmosphere", localized
        "Rain on the windows. Andreas is already at the corner table."
        "Pioggia sui vetri. Andreas è già al tavolo d'angolo."
        "ფანჯრებზე წვიმა. ანდრეასი უკვე კუთხის მაგიდასთან ზის."
        "باران روی شیشه‌ها. آندریاس از قبل پشت میز گوشه نشسته."),
      ("nodes", .array
        [ .object
            [ ("id", .text "n1"),
              ("type", .text "narrative_block"),
              ("description", localized
                "He doesn't look up when you sit down. Two cups of coffee, one already cold."
                "Non alza lo sguardo quando ti siedi. Due tazze di caffè, una già fredda."
                "როცა სხდები, თვალს არ გისწორებს. ორი ფინჯანი ყავა, ერთი უკვე გაციებული."
                "وقتی می‌نشینی سرش را بلند نمی‌کند. دو فنجان قهوه، یکی‌اش سرد شده.") ],
          .object
            [ ("id", .text "d1"),
              ("type", .text "dialogue_block"),
              ("speaker", .text "Andreas"),
              ("narrative_action", localized
                "He turns the cup in his hands."
                "Gira la tazza tra le mani."
                "ფინჯანს ხელებში ატრიალებს."
                "فنجان را در دستانش می‌چرخاند."),
              ("reaction_delay_ms", .integer 1200),
              ("lines", .array
                [ localized
                    "Thanks for coming."
                    "Grazie di essere venuto."
                    "მადლობა, რომ მოხვედი."
                    "ممنون که اومدی.",
                  localized
                    "I didn't know who else to talk to."
                    "Non sapevo con chi altro parlare."
                    "არ ვიცოდი, სხვა ვისთვის მეთქვა."
                    "نمی‌دونستم با کی دیگه حرف بزنم." ]) ],
          .object
            [ ("id", .text "c1"),
              ("type", .text "player_choice"),
              ("options", .array
                [ .object
                    [ ("option_id", .text "c1_listen"),
                      ("text", localized
                        "I'm here. Take your time."
                        "Sono qui. Prenditi il tuo tempo."
                        "აქ ვარ. ნუ იჩქარებ."
                        "من اینجام. عجله نکن."),
                      ("points", .integer 6),
                      ("reaction_delay_ms", .integer 1500),
                      ("branch_narrative", localized
                        "His shoulders drop a little."
                        "Le sue spalle si rilassano un poco."
                        "მხრები ოდნავ ეშვება."
                        "شانه‌هایش کمی پایین می‌افتد."),
                      ("branch_lines", .array
                        [ localized
                            "Okay."
                            "Va bene."
                            "კარგი."
                            "باشه." ]) ],
                  .object
                    [ ("option_id", .text "c1_rush"),
                      ("text", localized
                        "What is it? Just say it."
                        "Cosa c'è? Dillo e basta."
                        "რა ხდება? უბრალოდ თქვი."
                        "چی شده؟ فقط بگو."),
                      ("points", .integer 2),
                      ("branch_lines", .array
                        [ localized
                            "Right. Sorry."
                            "Giusto. Scusa."
                            "კარგი. ბოდიში."
                            "باشه. ببخشید." ]) ],
                  .object
                    [ ("option_id", .text "c1_phone"),
                      ("text", localized
                        "(Check your phone.)"
                        "(Controlli il telefono.)"
                        "(ტელეფონს ამოწმებ.)"
                        "(گوشی‌ات را چک می‌کنی.)"),
                      ("points", .integer 0),
                      ("reaction_delay_ms", .integer 2000),
                      ("branch_narrative", localized
                        "He watches you scroll."
                        "Ti guarda scorrere lo schermo."
                        "გიყურებს, როგორ ფურცლავ ეკრანს."
                        "نگاهت می‌کند که صفحه را بالا و پایین می‌کنی.") ] ]) ],
          .object
            [ ("id", .text "d2"),
              ("type", .text "dialogue_block"),
              ("speaker", .text "Andreas"),
              ("reaction_delay_ms", .integer 2200),
              ("lines", .array
                [ localized
                    "I'm leaving the city. Next week."
                    "Lascio la città. La settimana prossima."
                    "ქალაქს ვტოვებ. მომავალ კვირას."
                    "دارم از شهر می‌رم. هفته‌ی بعد." ]) ],
          .object
            [ ("id", .text "c2"),
              ("type", .text "player_choice"),
              ("options", .array
                [ .object
                    [ ("option_id", .text "c2_support"),
                      ("text", localized
                        "Then let's make this week count."
                        "Allora facciamo che questa settimana conti."
                        "მაშინ ეს კვირა დავაფასოთ."
                        "پس بیا این هفته رو قدر بدونیم."),
                      ("points", .integer 5),
                      ("branch_lines", .array
                        [ localized
                            "I'd like that."
                            "Mi piacerebbe."
                            "ეს მომეწონება."
                            "دوست دارم.",
                          localized
                            "More than you know."
                            "Più di quanto immagini."
                            "უფრო მეტად, ვიდრე გგონია."
                            "بیشتر از اونی که فکر می‌کنی." ]) ],
                  .object
                    [ ("option_id", .text "c2_hurt"),
                      ("text", localized
                        "And you tell me now?"
                        "E me lo dici adesso?"
                        "და ახლა მეუბნები?"
                        "و حالا بهم می‌گی؟"),
                      ("points", .integer 3),
                      ("reaction_delay_ms", .integer 1800),
                      ("branch_lines", .array
                        [ localized
                            "I know. I'm sorry."
                            "Lo so. Mi dispiace."
                            "ვიცი. ბოდიში."
                            "می‌دونم. متأسفم." ]) ],
                  .object
                    [ ("option_id", .text "c2_shrug"),
                      ("text", localized
                        "Okay. Good luck."
                        "Ok. Buona fortuna."
                        "კარგი. წარმატებები."
                        "باشه. موفق باشی."),
                      ("points", .integer 0) ] ]) ],
          .object
            [ ("id", .text "d3"),
              ("type", .text "dialogue_block"),
              ("speaker", .text "Andreas"),
              ("narrative_action", localized
                "The rain gets heavier."
                "La pioggia si fa più fitta."
                "წვიმა ძლიერდება."
                "باران تندتر می‌شود."),
              ("lines", .array
                [ localized
                    "I should go."
                    "Dovrei andare."
                    "წასვლის დროა."
                    "باید برم." ]) ],
          .object
            [ ("id", .text "e1"),
              ("type", .text "system_event"),
              ("event", .text "scene_end") ] ]),
      ("endings", .object
        [ ("good", .object
            [ ("threshold", .integer 14),
              ("post_scene_label", localized
                "Andreas — online"
                "Andreas — online"
                "ანდრეასი — ონლაინ"
                "آندریاس — آنلاین"),
              ("final_texts", .array
                [ localized
                    "thank you for tonight"
                    "grazie per stasera"
                    "მადლობა ამ საღამოსთვის"
                    "ممنون بابت امشب",
                  localized
                    "see you tomorrow?"
                    "ci vediamo domani?"
                    "ხვალ შევხვდებით?"
                    "فردا می‌بینمت؟" ]) ]),
          ("neutral", .object
            [ ("threshold", .integer 8),
              ("post_scene_label", localized
                "Andreas — last seen recently"
                "Andreas — visto di recente"
                "ანდრეასი — ბოლოს ნანახი ახლახან"
                "آندریاس — اخیراً بازدید"),
              ("final_texts", .array
                [ localized
                    "got home. thanks for listening"
                    "arrivato a casa. grazie per avermi ascoltato"
                    "სახლში ვარ. მადლობა, რომ მომისმინე"
                    "رسیدم خونه. ممنون که گوش دادی" ]) ]),
          ("bad", .object
            [ ("threshold", .integer 0),
              ("post_scene_label", localized
                "Andreas — last seen a long time ago"
                "Andreas — visto molto tempo fa"
                "ანდრეასი — ბოლოს ნანახი დიდი ხნის წინ"
                "آندریاس — مدت‌ها پیش بازدید"),
              ("final_texts", .array
                [ localized
                    "never mind."
                    "lascia stare."
                    "არაფერი."
                    "بی‌خیال." ]) ]) ]) ]

end Playthrough.Presets

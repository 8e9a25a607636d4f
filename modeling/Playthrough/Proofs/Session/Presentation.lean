import Playthrough.Proofs.Session.Plays

/-!
Contract: one play-through with two settings.

Owns: what two play-throughs of the same scenes have in common when they are played with different
preferences (`Alike`), and that they have it from stop to stop.

Does not own: what is heard of a scene; that is in `Interpreter.Presentation`.

The preferences choose the texts and the lengths of waits, and whether the transition screen is shown.
They do not choose where a scene stops, what is on offer there, or what it is worth.
-/

namespace Playthrough

/-- What a choice is, whatever its text says. -/
def Offer.terms (offer : Offer) : String × Int := (offer.tag, offer.points)

/-- What two interpreters of one scene have in common. -/
structure Interpreter.Alike (first second : Preferences) (interpreter other : Interpreter) : Prop where
  scenario : interpreter.scenario = other.scenario
  progress : interpreter.progress = other.progress
  nodeIndex : interpreter.nodeIndex = other.nodeIndex
  offers : interpreter.choices.map Offer.terms = other.choices.map Offer.terms
  transitionReady : interpreter.transitionReady = other.transitionReady
  manners : interpreter.events.map SceneEvent.manner = other.events.map SceneEvent.manner
  events : first.language = second.language → interpreter.events = other.events

/-- What two epilogues have in common. -/
structure Epilogue.Alike (first second : Preferences) (epilogue other : Epilogue) : Prop where
  tier : epilogue.tier = other.tier
  restartReady : epilogue.restartReady = other.restartReady
  manners : epilogue.events.map SceneEvent.manner = other.events.map SceneEvent.manner
  events : first.language = second.language → epilogue.events = other.events

/-- What two play-throughs of the same scenes have in common. -/
structure Session.Alike (first second : Preferences) (session other : Session) : Prop where
  endings : session.endings = other.endings
  phase : session.phase = other.phase
  score : session.score = other.score
  interpreters : ∀ kind, (session.interpreter kind).Alike first second (other.interpreter kind)
  epilogue : session.epilogue.Alike first second other.epilogue

variable {first second : Preferences}

/-! ## Interpreters -/

namespace Interpreter.Alike

variable {interpreter other : Interpreter}

/-- What is heard alike leaves interpreters alike. -/
theorem heard {marks others : List Mark} (alike : interpreter.Alike first second other)
    (told : Mark.Alike first second marks others) (index : Nat) :
    (interpreter.heard marks index).Alike first second (other.heard others index) where
  scenario := alike.scenario
  progress := alike.progress
  nodeIndex := rfl
  offers := alike.offers
  transitionReady := alike.transitionReady
  manners := by
    simp only [Interpreter.heard, List.map_append, alike.manners, told.manners]
  events sameLanguage := by
    simp only [Interpreter.heard, alike.events sameLanguage, told.events sameLanguage]

/-- At the same stop interpreters are alike. -/
theorem halted (alike : interpreter.Alike first second other) (halt : Halt) :
    (interpreter.halted halt).Alike first second (other.halted halt) := by
  obtain ⟨scenario, progress, nodeIndex, offers, transitionReady, manners, events⟩ := alike
  cases halt with
  | offering index node =>
      refine ⟨scenario, rfl, nodeIndex, ?_, transitionReady, manners, events⟩
      simp only [Interpreter.halted, offer, List.map_map]
      rfl
  | ready index => exact ⟨scenario, rfl, nodeIndex, offers, rfl, manners, events⟩
  | ended index =>
      refine ⟨scenario, rfl, nodeIndex, offers, ?_, manners, events⟩
      simp only [Interpreter.halted, terminate, reportEnd, scenario, transitionReady]
  | stuck index => exact ⟨scenario, progress, nodeIndex, offers, transitionReady, manners, events⟩

theorem claim (alike : interpreter.Alike first second other) :
    interpreter.claim.Alike first second other.claim :=
  ⟨alike.scenario, rfl, alike.nodeIndex, rfl, alike.transitionReady, alike.manners, alike.events⟩

/-- Where a scene begins interpreters are alike. -/
theorem begin (same : interpreter.scenario = other.scenario) :
    (interpreter.reset.begin first).Alike first second (other.reset.begin second) :=
  ⟨same, rfl, rfl, rfl, rfl, rfl, fun _ => rfl⟩

end Interpreter.Alike

/-! ## Play-throughs -/

namespace Session.Alike

variable {session other : Session}

/-- Interpreters of one kind are changed alike. -/
theorem modify (alike : session.Alike first second other) (kind : SceneKind)
    {change otherChange : Interpreter → Interpreter}
    (also : (change (session.interpreter kind)).Alike first second
      (otherChange (other.interpreter kind))) :
    (session.modifyInterpreter kind change).Alike first second
      (other.modifyInterpreter kind otherChange) := by
  obtain ⟨endings, phase, score, interpreters, epilogue⟩ := alike
  cases kind with
  | text =>
      refine ⟨endings, phase, score, ?_, epilogue⟩
      intro kind
      cases kind with
      | text => exact also
      | encounter => exact interpreters .encounter
  | encounter =>
      refine ⟨endings, phase, score, ?_, epilogue⟩
      intro kind
      cases kind with
      | text => exact interpreters .text
      | encounter => exact also

theorem enter (alike : session.Alike first second other) (phase : Phase) :
    (session.enter phase).Alike first second (other.enter phase) :=
  ⟨alike.endings, rfl, alike.score, alike.interpreters, alike.epilogue⟩

theorem award (alike : session.Alike first second other) (points : Int) :
    (session.award points).Alike first second (other.award points) :=
  ⟨alike.endings, alike.phase, congrArg (· + points) alike.score, alike.interpreters, alike.epilogue⟩

/-- The score has earned the same ending. -/
theorem tier (alike : session.Alike first second other) : session.tier = other.tier := by
  rw [Session.tier, Session.tier, alike.endings, alike.score]

theorem earnedEnding (alike : session.Alike first second other) :
    session.earnedEnding = other.earnedEnding := by
  rw [Session.earnedEnding, Session.earnedEnding, alike.endings, alike.tier]

theorem currentKind? (alike : session.Alike first second other) :
    session.currentKind? = other.currentKind? := by
  rw [Session.currentKind?, Session.currentKind?, alike.phase]

/-- The same choices are on offer. -/
theorem onOffer (alike : session.Alike first second other) :
    session.onOffer.map Offer.terms = other.onOffer.map Offer.terms := by
  rw [Session.onOffer, Session.onOffer, ← alike.currentKind?]
  cases session.currentKind? with
  | none => rfl
  | some kind => exact (alike.interpreters kind).offers

end Session.Alike

namespace Session.Alone

variable {session other : Session} {kind : SceneKind} {recital otherRecital : Recital}

/-! ## From stop to stop -/

/-- A scene is opened alike. -/
theorem alike_opensScene (alike : session.Alike first second other) (kind : SceneKind) :
    (opensScene kind first session).Alike first second (opensScene kind second other) := by
  have same := (alike.interpreters kind).scenario
  rw [opensScene, opensScene, withInterpreter, withInterpreter, same]
  refine alike.modify kind ?_
  exact (Interpreter.Alike.begin same).heard (Scenario.alike_headerMarks _) 0

/-- A choice is made alike. -/
theorem alike_answered (alike : session.Alike first second other)
    (voice : (session.interpreter kind).preferences = first)
    (otherVoice : (other.interpreter kind).preferences = second) (choice : Choice) :
    (answered kind choice session).Alike first second (answered kind choice other) := by
  refine Alike.award (alike.modify kind ?_) choice.points
  rw [playerLine, playerLine, voice, otherVoice, Interpreter.record_eq_heard, Interpreter.record_eq_heard,
    show (session.interpreter kind).claim.nodeIndex = (other.interpreter kind).claim.nodeIndex from
      (alike.interpreters kind).nodeIndex]
  exact (alike.interpreters kind).claim.heard (.said .player choice.text) _

theorem alike_stoppedAt (alike : session.Alike first second other)
    (recitals : recital.Alike first second otherRecital) :
    (stoppedAt kind recital session).Alike first second (stoppedAt kind otherRecital other) := by
  refine alike.modify kind ?_
  rw [← recitals.halt]
  exact ((alike.interpreters kind).heard recitals.marks _).halted _

/-- The endings that were earned are played alike. -/
theorem alike_earnedEpilogue (alike : session.Alike first second other)
    (preferences_eq : session.preferences = first) (otherPreferences_eq : other.preferences = second) :
    (earnedEpilogue session).Alike first second (earnedEpilogue other) := by
  simp only [earnedEpilogue, ← alike.earnedEnding, ← alike.tier, preferences_eq, otherPreferences_eq]
  refine ⟨rfl, rfl, ?_, ?_⟩
  · simp only [wholeEpilogue, List.map_cons, List.map_map]
    rfl
  · intro sameLanguage
    rw [sameLanguage]

/-- The waits of an ending are the same when both runs are fast or both are medium. -/
theorem epiloguePauses_same (samePacing : first.pacing = second.pacing) (steady : first.pacing ≠ .native)
    (ending : Ending) : epiloguePauses first ending = epiloguePauses second ending := by
  have texts : (ending.texts.map fun text =>
      (first.pacing.forText (text.resolve first.language).length, ([] : List Indicator))) =
        ending.texts.map fun text =>
          (second.pacing.forText (text.resolve second.language).length, []) := by
    refine List.map_congr_left ?_
    intro text _
    rw [Pacing.forText_same samePacing steady]
  rw [epiloguePauses, epiloguePauses, texts, samePacing]

/-- What comes of a scene that is heard alike is alike, and so are its waits when both runs are fast or
both are medium. -/
theorem alike_sceneEnd (alike : session.Alike first second other) (tended : Tended first session)
    (otherTended : Tended second other) (recitals : recital.Alike first second otherRecital) :
    (sceneEnd kind recital session).Alike first second (sceneEnd kind otherRecital other)
      ∧ (first.pacing = second.pacing → first.pacing ≠ .native →
        scenePauses kind recital session = scenePauses kind otherRecital other) := by
  have stopped : (stoppedAt kind recital session).Alike first second
      (stoppedAt kind otherRecital other) := alike_stoppedAt alike recitals
  have preferences_eq := (tended.stoppedAt kind recital).preferences_eq
  have otherPreferences_eq := (otherTended.stoppedAt kind otherRecital).preferences_eq
  simp only [sceneEnd, scenePauses, ← recitals.halt]
  by_cases isEnd : kind = .encounter ∧ ∃ index, recital.halt = .ended index
  · obtain ⟨rfl, index, ended⟩ := isEnd
    rw [ended]
    refine ⟨?_, ?_⟩
    · exact ⟨stopped.endings, rfl, stopped.score, stopped.interpreters,
        alike_earnedEpilogue stopped preferences_eq otherPreferences_eq⟩
    · intro samePacing steady
      simp only [pausesBeyond, ← stopped.earnedEnding, preferences_eq, otherPreferences_eq,
        epiloguePauses_same samePacing steady, recitals.marks.waits samePacing steady]
  · have rests : kind = .encounter → ∀ index, recital.halt ≠ .ended index := by
      intro encounter index same
      exact isEnd ⟨encounter, index, same⟩
    rw [(settledAt_of_rest rests).1, (settledAt_of_rest rests).1, (settledAt_of_rest rests).2,
      (settledAt_of_rest rests).2]
    refine ⟨stopped, ?_⟩
    intro samePacing steady
    rw [recitals.marks.waits samePacing steady]

/-! ## Two play-throughs -/

/-- What two settled play-throughs of the same scenes have in common that are played with different
preferences: everything that is not a text, the texts when they are in one language, and the waits of
each driver when both are fast or both are medium. -/
structure Alike (first second : Preferences) (world other : Setting) : Prop where
  session : world.store.session.Alike first second other.store.session
  tier : world.store.session.tier = other.store.session.tier
  waits : first.pacing = second.pacing → first.pacing ≠ .native →
    ∀ role, world.waitsOf role = other.waitsOf role

variable {textScene : Option TextScene} {encounterScene : Option EncounterScene}
variable {told otherTold : Role → List Pause} {world otherWorld : Setting}

/-- Two play-throughs that have settled alike. -/
structure Twins (textScene : Option TextScene) (encounterScene : Option EncounterScene)
    (first second : Preferences) (told otherTold : Role → List Pause) (world otherWorld : Setting) :
    Prop where
  stop : Stop textScene encounterScene first told world
  otherStop : Stop textScene encounterScene second otherTold otherWorld
  alike : world.store.session.Alike first second otherWorld.store.session
  waits : first.pacing = second.pacing → first.pacing ≠ .native → told = otherTold

theorem Stop.waitsOf {preferences : Preferences} (stop : Stop textScene encounterScene preferences told world)
    (role : Role) : world.waitsOf role = told role := by
  obtain ⟨_, _, _, _, rests, _⟩ := stop
  exact rests.noted.waits role

theorem Stop.tended {preferences : Preferences} (stop : Stop textScene encounterScene preferences told world) :
    Tended preferences world.store.session := by
  obtain ⟨_, _, _, _, _, tended⟩ := stop
  exact tended

namespace Twins

variable (twins : Twins textScene encounterScene first second told otherTold world otherWorld)

include twins

theorem toAlike : Alike first second world otherWorld where
  session := twins.alike
  tier := twins.alike.tier
  waits samePacing steady role := by
    rw [twins.stop.waitsOf, twins.otherStop.waitsOf, twins.waits samePacing steady]

/-- The same ids are accepted. -/
theorem isAccepted_select (tag : String) :
    (Operation.select tag).isAccepted world.store.session =
      (Operation.select tag).isAccepted otherWorld.store.session := by
  simp only [Operation.isAccepted, ← twins.alike.currentKind?]
  cases world.store.session.currentKind? with
  | none => rfl
  | some kind =>
      have offers := congrArg (fun terms => terms.any fun offer => offer.1 == tag)
        (twins.alike.interpreters kind).offers
      rw [List.any_map, List.any_map] at offers
      exact offers

/-- The text scene can be left in both or in none. -/
theorem isAccepted_leaving : Operation.triggerTransition.isAccepted world.store.session =
    Operation.triggerTransition.isAccepted otherWorld.store.session := by
  simp only [Operation.isAccepted, twins.alike.phase,
    show world.store.session.text.transitionReady = otherWorld.store.session.text.transitionReady from
      (twins.alike.interpreters .text).transitionReady]

/-- Choices are on offer in both or in none. -/
theorem silent_iff : world.store.session.onOffer = [] ↔ otherWorld.store.session.onOffer = [] := by
  rw [← List.map_eq_nil_iff, twins.alike.onOffer, List.map_eq_nil_iff]

end Twins

section Moves

variable (fits : ∀ kind, ((Scenes.given textScene encounterScene).scenario kind).HintsFit)
variable {chosen settled otherChosen otherSettled left entered otherLeft otherEntered : Setting}

/-- A scene that was heard alike leaves twins. -/
theorem Twins.of_scene (alike : session.Alike first second other) (tended : Tended first session)
    (otherTended : Tended second other) (recitals : recital.Alike first second otherRecital)
    (waits : first.pacing = second.pacing → first.pacing ≠ .native → told = otherTold)
    (stop : Stop textScene encounterScene first (thereafter told (scenePauses kind recital session)) world
      ∧ world.store.session = sceneEnd kind recital session)
    (otherStop : Stop textScene encounterScene second
        (thereafter otherTold (scenePauses kind otherRecital other)) otherWorld
      ∧ otherWorld.store.session = sceneEnd kind otherRecital other) :
    ∃ total otherTotal, Twins textScene encounterScene first second total otherTotal world otherWorld := by
  obtain ⟨ends, pauses⟩ := alike_sceneEnd alike tended otherTended recitals
  refine ⟨_, _, stop.1, otherStop.1, ?_, ?_⟩
  · rw [stop.2, otherStop.2]
    exact ends
  · intro samePacing steady
    rw [waits samePacing steady, pauses samePacing steady]

include fits

/-- An id is selected in both. -/
theorem Twins.select {tag : String} {accepts otherwise : Bool}
    (twins : Twins textScene encounterScene first second told otherTold world otherWorld)
    (selects : Carries world (.select tag) accepts chosen) (settles : Carries chosen .settle true settled)
    (otherSelects : Carries otherWorld (.select tag) otherwise otherChosen)
    (otherSettles : Carries otherChosen .settle true otherSettled) :
    accepts = otherwise ∧ ∃ total otherTotal,
      Twins textScene encounterScene first second total otherTotal settled otherSettled := by
  cases accepted : (Operation.select tag).isAccepted world.store.session with
  | false =>
      have refused := (twins.isAccepted_select tag).symm.trans accepted
      obtain ⟨rfl, stop, session_eq⟩ := twins.stop.refuses accepted selects settles
      obtain ⟨rfl, otherStop, otherSession_eq⟩ :=
        twins.otherStop.refuses refused otherSelects otherSettles
      refine ⟨rfl, told, otherTold, stop, otherStop, ?_, twins.waits⟩
      rw [session_eq, otherSession_eq]
      exact twins.alike
  | true =>
      have otherAccepted := (twins.isAccepted_select tag).symm.trans accepted
      obtain ⟨rfl, kind, index, node, choice, offers, found, stop⟩ :=
        twins.stop.chooses accepted selects settles
      obtain ⟨rfl, otherKind, otherIndex, otherNode, otherChoice, otherOffers, otherFound, otherStop⟩ :=
        twins.otherStop.chooses otherAccepted otherSelects otherSettles
      -- Both stand at the same choice node, and the id says the same choice.
      obtain rfl : kind = otherKind := by
        refine phaseOf_injective ?_
        rw [← offers.phase, ← otherOffers.phase]
        exact twins.alike.phase
      obtain rfl : index = otherIndex := by
        have place := offers.place
        have otherPlace := otherOffers.place
        rw [place?, ← twins.alike.currentKind?, currentKind_eq_some.mpr offers.phase] at otherPlace
        rw [place?, currentKind_eq_some.mpr offers.phase] at place
        have same := (twins.alike.interpreters kind).nodeIndex
        simp only [Option.map_some, Option.some.injEq, Prod.mk.injEq, true_and] at place otherPlace
        rw [← place, ← otherPlace, same]
      obtain rfl : node = otherNode := by
        have here := offers.here
        rw [otherOffers.here] at here
        simpa using here.symm
      obtain rfl : choice = otherChoice := by
        rw [found] at otherFound
        simpa using otherFound
      have tended := twins.stop.tended
      have otherTended := twins.otherStop.tended
      have recitals : Recital.Alike first second _ _ :=
        Scenario.alike_continuation (fits kind) offers.here tag
      rw [found] at recitals
      exact ⟨rfl, Twins.of_scene
        (alike_answered twins.alike (tended.voice kind offers.phase)
          (otherTended.voice kind otherOffers.phase) choice)
        (tended.answered kind choice) (otherTended.answered kind choice) recitals twins.waits stop
        otherStop⟩

/-- The text scene is left in both, with a transition screen or without one. -/
theorem Twins.leave (twins : Twins textScene encounterScene first second told otherTold world otherWorld)
    (ready : Operation.triggerTransition.isAccepted world.store.session = true)
    (leaves : Carries world .triggerTransition true left) (confirms : Confirms left entered)
    (settles : Carries entered .settle true settled)
    (otherLeaves : Carries otherWorld .triggerTransition true otherLeft)
    (otherConfirms : Confirms otherLeft otherEntered)
    (otherSettles : Carries otherEntered .settle true otherSettled) :
    ∃ total otherTotal,
      Twins textScene encounterScene first second total otherTotal settled otherSettled := by
  have otherReady := twins.isAccepted_leaving.symm.trans ready
  have tended := twins.stop.tended
  have otherTended := twins.otherStop.tended
  exact Twins.of_scene (alike_opensScene (twins.alike.enter .encounter) .encounter)
    (tended_opensScene tended.preferences_eq tended.clear .encounter)
    (tended_opensScene otherTended.preferences_eq otherTended.clear .encounter)
    (Scenario.alike_opening (fits .encounter)) twins.waits
    (twins.stop.leaves ready leaves confirms settles)
    (twins.otherStop.leaves otherReady otherLeaves otherConfirms otherSettles)

/-- Two play-throughs that have settled alike are played on alike. -/
theorem Twins.plays {ids : List String} {answers otherAnswers : List Bool} {stops others : List Setting}
    (twins : Twins textScene encounterScene first second told otherTold world otherWorld)
    (plays : Plays world ids answers stops) (otherPlays : Plays otherWorld ids otherAnswers others) :
    answers = otherAnswers ∧ List.Forall₂ (Alike first second) stops others := by
  induction plays generalizing told otherTold otherWorld otherAnswers others with
  | selects offers selects settles _ inductionHypothesis =>
      cases otherPlays with
      | selects _ otherSelects otherSettles rest =>
          obtain ⟨rfl, total, otherTotal, next⟩ :=
            twins.select fits selects settles otherSelects otherSettles
          obtain ⟨rfl, stops⟩ := inductionHypothesis next rest
          exact ⟨rfl, .cons next.toAlike stops⟩
      | leaves silent _ _ _ _ _ => exact absurd (twins.silent_iff.mpr silent) offers
      | ends _ silent _ => exact absurd (twins.silent_iff.mpr silent) offers
  | leaves silent ready leaves confirms settles _ inductionHypothesis =>
      cases otherPlays with
      | leaves _ _ otherLeaves otherConfirms otherSettles rest =>
          obtain ⟨total, otherTotal, next⟩ := twins.leave fits ready leaves confirms settles otherLeaves
            otherConfirms otherSettles
          obtain ⟨rfl, stops⟩ := inductionHypothesis next rest
          exact ⟨rfl, .cons next.toAlike stops⟩
      | selects offers _ _ _ => exact absurd (twins.silent_iff.mp silent) offers
      | waits offers => exact absurd (twins.silent_iff.mp silent) offers
      | ends _ _ final =>
          rw [← twins.isAccepted_leaving, ready] at final
          cases final
  | waits offers =>
      cases otherPlays with
      | waits _ => exact ⟨rfl, .nil⟩
      | leaves silent _ _ _ _ _ => exact absurd (twins.silent_iff.mpr silent) offers
      | ends _ silent _ => exact absurd (twins.silent_iff.mpr silent) offers
  | ends ids silent final =>
      cases otherPlays with
      | ends _ _ _ => exact ⟨rfl, .nil⟩
      | selects offers _ _ _ => exact absurd (twins.silent_iff.mp silent) offers
      | waits offers => exact absurd (twins.silent_iff.mp silent) offers
      | leaves _ ready _ _ _ _ =>
          rw [← twins.isAccepted_leaving, final] at ready
          cases ready

end Moves

theorem alike_initial (textScene : Option TextScene) (encounterScene : Option EncounterScene) :
    (Session.initial textScene encounterScene first).Alike first second
      (Session.initial textScene encounterScene second) := by
  refine ⟨rfl, rfl, rfl, ?_, rfl, rfl, rfl, fun _ => rfl⟩
  intro kind
  cases kind <;> exact ⟨rfl, rfl, rfl, rfl, rfl, rfl, fun _ => rfl⟩

/-- Preferences change how a play-through is presented and nothing else. Every list of ids can be played
with any preferences. Of two play-throughs with the same ids the same selections are accepted, and at
every stop the play-throughs have everything in common that is not a text; they have the texts in common
when they are in one language, and the waits of every driver when both are fast or both are medium. -/
theorem preferences_only_present
    (fits : ∀ kind, ((Scenes.given textScene encounterScene).scenario kind).HintsFit)
    (first second : Preferences) (ids : List String) :
    (∀ preferences, ∃ answers stops,
        PlaysThrough textScene encounterScene preferences ids answers stops)
      ∧ ∀ answers stops otherAnswers others,
        PlaysThrough textScene encounterScene first ids answers stops →
        PlaysThrough textScene encounterScene second ids otherAnswers others →
        answers = otherAnswers ∧ List.Forall₂ (Alike first second) stops others := by
  refine ⟨fun preferences => playsThrough textScene encounterScene preferences ids, ?_⟩
  rintro answers stops otherAnswers others ⟨begun, settled, later, begins, settles, plays, rfl⟩
    ⟨otherBegun, otherSettled, otherLater, otherBegins, otherSettles, otherPlays, rfl⟩
  have clear : ∀ preferences kind,
      ((Session.initial textScene encounterScene preferences).interpreter kind).suspended = false := by
    intro preferences kind
    cases kind <;> rfl
  have alike : (Session.initial textScene encounterScene first).Alike first second
      (Session.initial textScene encounterScene second) := alike_initial textScene encounterScene
  obtain ⟨total, otherTotal, twins⟩ : ∃ total otherTotal, Twins textScene encounterScene first second
      total otherTotal settled otherSettled :=
    Twins.of_scene (alike_opensScene (alike.enter .textScene) .text)
      (tended_opensScene rfl (clear first) .text) (tended_opensScene rfl (clear second) .text)
      (Scenario.alike_opening (fits .text)) (fun _ _ => rfl) (stop_of_begin begins settles)
      (stop_of_begin otherBegins otherSettles)
  obtain ⟨same, stops⟩ := twins.plays fits plays otherPlays
  exact ⟨same, .cons twins.toAlike stops⟩

/-- A text scene that asks, answered with an id that it does not offer and one that it does, in two
languages and at two paces. -/
theorem preferences_only_present_at_choice :
    ∃ answers stops others,
      (∀ kind, ((Scenes.given (some asking) none).scenario kind).HintsFit)
        ∧ PlaysThrough (some asking) none ⟨.english, .fast⟩ ["no", "yes"] answers stops
        ∧ PlaysThrough (some asking) none ⟨.italian, .native⟩ ["no", "yes"] answers others
        ∧ List.Forall₂ (Alike ⟨.english, .fast⟩ ⟨.italian, .native⟩) stops others := by
  have fits : ∀ kind, ((Scenes.given (some asking) none).scenario kind).HintsFit := by
    intro kind hint member
    cases kind with
    | text =>
        obtain rfl : hint = none := List.mem_singleton.mp member
        intro milliseconds held
        cases held
    | encounter => cases member
  obtain ⟨playable, alike⟩ :=
    preferences_only_present fits ⟨.english, .fast⟩ ⟨.italian, .native⟩ ["no", "yes"]
  obtain ⟨answers, stops, plays⟩ := playable ⟨.english, .fast⟩
  obtain ⟨_, others, otherPlays⟩ := playable ⟨.italian, .native⟩
  obtain ⟨rfl, same⟩ := alike _ _ _ _ plays otherPlays
  exact ⟨answers, stops, others, fits, plays, otherPlays, same⟩

end Session.Alone

end Playthrough

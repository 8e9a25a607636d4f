import Playthrough.Proofs.Interpreter.Stops
import Playthrough.Proofs.Interpreter.Walkthrough
import Playthrough.Session.Alone

/-!
Contract: what the drivers of a play-through do when nobody stops them.

Owns: the terms on which scenes and the epilogue are played in a play-through, and that each of them
comes to its end on these terms.

Does not own: tasks and turns, and what is done to a play-through from outside.

A scene leaves everything alone but its own interpreter; only the last instructions of an encounter
enter the epilogue. An epilogue leaves everything alone but itself. Nobody writes anything down about
a play-through but how many waits begin.
-/

namespace Playthrough.Session.Alone

/-- Counts the waits that begin. -/
def tally : Observer Alone Unit where
  change _ _ := []
  wait _ _ := [()]
  change_self _ := rfl

/-- The seat of an interpreter of the only play-through. -/
abbrev sceneSeat (kind : SceneKind) : Playthrough.Seat Alone Role SceneKind Reply :=
  seat.interpreter kind

/-- The other kind of scene. -/
def rival : SceneKind → SceneKind
  | .text => .encounter
  | .encounter => .text

/-- The phase in which a scene is played. -/
def phaseOf : SceneKind → Phase
  | .text => .textScene
  | .encounter => .encounter

theorem currentKind_eq_some {session : Session} {kind : SceneKind} :
    session.currentKind? = some kind ↔ session.phase = phaseOf kind := by
  rw [currentKind?]
  cases session.phase <;> cases kind <;> simp [phaseOf]

theorem phaseOf_injective {kind other : SceneKind} (same : phaseOf kind = phaseOf other) :
    kind = other := by
  cases kind <;> cases other <;> first | rfl | cases same

/-! ## What an epilogue shows -/

/-- The event of a text of an ending. -/
def endingEvent (language : Language) (tier : Tier) (text : Localized) : SceneEvent :=
  { kind := .ending, text := text.resolve language, tier := some tier }

/-- The epilogue of an ending, when it was played to its end: its label, and then its texts. -/
def wholeEpilogue (language : Language) (ending : Ending) (tier : Tier) : Epilogue :=
  { tier := some tier
    events := .plain .system (ending.label.resolve language)
      :: ending.texts.map (endingEvent language tier)
    restartReady := true }

/-- The epilogue that the score has earned. -/
def earnedEpilogue (session : Session) : Epilogue :=
  wholeEpilogue session.preferences.language session.earnedEnding session.tier

/-- What it shows after the label. -/
def earnedTexts (session : Session) : List SceneEvent :=
  session.earnedEnding.texts.map (endingEvent session.preferences.language session.tier)

/-- An epilogue that has come some way towards its end, or all the way. -/
structure ComesTo (whole epilogue : Epilogue) : Prop where
  tier : epilogue.tier = whole.tier
  events : epilogue.events <+: whole.events
  isOver : epilogue.restartReady = true → epilogue = whole

theorem ComesTo.of_over {whole epilogue : Epilogue} (isOver : epilogue = whole) :
    ComesTo whole epilogue where
  tier := by rw [isOver]
  events := isOver ▸ List.prefix_rfl
  isOver _ := isOver

/-- An epilogue that has still to show some events. -/
structure Lacks (whole : Epilogue) (missing : List SceneEvent) (epilogue : Epilogue) : Prop where
  tier : epilogue.tier = whole.tier
  events : epilogue.events ++ missing = whole.events
  notOver : epilogue.restartReady = false

theorem Lacks.comesTo {whole epilogue : Epilogue} {missing : List SceneEvent}
    (lacks : Lacks whole missing epilogue) : ComesTo whole epilogue where
  tier := lacks.tier
  events := ⟨missing, lacks.events⟩
  isOver isOver := by
    rw [lacks.notOver] at isOver
    cases isOver

/-- The first missing event is shown. -/
theorem Lacks.record {whole epilogue : Epilogue} {event : SceneEvent} {missing : List SceneEvent}
    (lacks : Lacks whole (event :: missing) epilogue) : Lacks whole missing (epilogue.record event) where
  tier := lacks.tier
  events := by
    rw [Epilogue.events_record, List.append_assoc]
    exact lacks.events
  notOver := lacks.notOver

/-- An epilogue that has shown everything is over when it says so. -/
theorem Lacks.complete {whole epilogue : Epilogue} (lacks : Lacks whole [] epilogue)
    (isOver : whole.restartReady = true) : epilogue.complete = whole := by
  have events : epilogue.events = whole.events := by
    have shown := lacks.events
    rwa [List.append_nil] at shown
  rw [Epilogue.complete, lacks.tier, events, ← isOver]

/-! ## Scenes -/

/-- What holds beside an interpreter while its scene is played. -/
structure Around (kind : SceneKind) (session : Session) : Prop where
  phase : session.phase = phaseOf kind
  epilogue : session.epilogue = .blank

/-- What the player of a scene leaves alone. -/
structure Spares (kind : SceneKind) (before after : Session) : Prop where
  score : after.score = before.score
  preferences : after.preferences = before.preferences
  endings : after.endings = before.endings
  rival : after.interpreter (rival kind) = before.interpreter (rival kind)

/-- A play-through in which a scene is being played and is not held up. -/
structure Playing (kind : SceneKind) (scenario : Scenario) (preferences : Preferences)
    (session : Session) : Prop where
  inPlay : Interpreter.InPlay scenario preferences (session.interpreter kind)
  clear : (session.interpreter kind).suspended = false
  around : Around kind session

/-- An interpreter at a stop of its scene. -/
def AtStop (scenario : Scenario) (preferences : Preferences) (halt : Halt)
    (interpreter : Interpreter) : Prop :=
  ∃ base : Interpreter, Interpreter.InPlay scenario preferences base ∧ base.suspended = false ∧
    base.nodeIndex = halt.index ∧ interpreter = base.halted halt

/-- A play-through in which the encounter has just given way to the epilogue, and what the epilogue
plays. -/
structure GivesWay (scenario : Scenario) (session : Session) (driver : Role) (body : Plan) : Prop where
  scenario_eq : session.encounter.scenario = scenario
  driver : driver = .epilogue
  phase : session.phase = .epilogue
  encounter : session.encounter.progress = .terminal
  lacks : Lacks (earnedEpilogue session) (earnedTexts session) session.epilogue
  body : body = seat.epilogue.script session.preferences session.earnedEnding (some session.tier)

/-- How a scene ends that stops at `halt`: there, or in the epilogue. -/
def SceneEnds (kind : SceneKind) (scenario : Scenario) (preferences : Preferences) (halt : Halt)
    (session : Session) : Finale Alone Role SceneKind Reply → Prop
  | .handedOver driver body =>
      kind = .encounter ∧ (∃ index, halt = .ended index) ∧ GivesWay scenario session driver body
  | _ =>
      Around kind session ∧ AtStop scenario preferences halt (session.interpreter kind)
        ∧ (kind = .encounter → ∀ index, halt ≠ .ended index)

theorem sameSession_refl (store : Alone) : store.session = store.session := rfl

/-- The terms on which a scene is played that stops at `halt`. -/
def sceneTerms (kind : SceneKind) (scenario : Scenario) (preferences : Preferences) (halt : Halt) :
    Terms Alone Role SceneKind Reply where
  leaves before after := Spares kind before.session after.session
  leaves_refl _ := ⟨rfl, rfl, rfl, rfl⟩
  leaves_trans first second :=
    ⟨second.score.trans first.score, second.preferences.trans first.preferences,
      second.endings.trans first.endings, second.rival.trans first.rival⟩
  gate frames store :=
    Around kind store.session
      ∧ Interpreter.InPlay scenario preferences (store.session.interpreter kind)
      ∧ (sceneSeat kind).Sheltered frames
  drift before after := after.session = before.session
  drift_refl := sameSession_refl
  post store finale := SceneEnds kind scenario preferences halt store.session finale

/-- What is written down about a mark. -/
def counted : Mark → List Unit
  | .waited _ _ => [()]
  | _ => []

theorem spares_modify (kind : SceneKind) (change : Interpreter → Interpreter) (session : Session) :
    Spares kind session (session.modifyInterpreter kind change) := by
  cases kind <;> exact ⟨rfl, rfl, rfl, rfl⟩

theorem body_walk (kind : SceneKind) :
    machine.body (sceneSeat kind).walk = (sceneSeat kind).walkBody := rfl

theorem onFinish_andThen (kind : SceneKind) :
    (sceneSeat kind).onFinish.andThen .stop = (sceneSeat kind).onFinish := by
  cases kind <;> rfl

theorem get_modify (kind : SceneKind) (change : Interpreter → Interpreter) (store : Alone) :
    (sceneSeat kind).get ((sceneSeat kind).modify change store) = change ((sceneSeat kind).get store) :=
  interpreter_modifyInterpreter _ _ _

theorem get_record (kind : SceneKind) (event : SceneEvent) (store : Alone) :
    (sceneSeat kind).get ((sceneSeat kind).record event store) = ((sceneSeat kind).get store).record event :=
  interpreter_modifyInterpreter _ _ _

theorem get_warn (kind : SceneKind) (warning : Warning) (store : Alone) :
    (sceneSeat kind).get ((sceneSeat kind).warn warning store) = (sceneSeat kind).get store := rfl

/-- Where a scene of a play-through is played. -/
def sceneStage (kind : SceneKind) (scenario : Scenario) (preferences : Preferences) (halt : Halt) :
    Stage Alone Role SceneKind Reply Unit where
  seat := sceneSeat kind
  machine := machine
  observer := tally
  terms := sceneTerms kind scenario preferences halt
  around store := Around kind store.session
  mark := counted
  scenario := scenario
  preferences := preferences
  body := body_walk kind
  onFinish_andThen := onFinish_andThen kind
  get_modify := get_modify kind
  get_record := get_record kind
  get_warn := get_warn kind
  around_modify _ _ around := by cases kind <;> exact ⟨around.phase, around.epilogue⟩
  around_record _ _ around := by cases kind <;> exact ⟨around.phase, around.epilogue⟩
  around_warn _ _ around := around
  leaves_modify _ _ := spares_modify _ _ _
  leaves_record _ _ := by cases kind <;> exact ⟨rfl, rfl, rfl, rfl⟩
  leaves_warn _ _ := ⟨rfl, rfl, rfl, rfl⟩
  change_modify _ _ := rfl
  change_record _ _ := rfl
  change_warn _ _ := rfl
  wait _ _ _ _ := rfl
  get_drift drifted := congrArg (fun session => Session.interpreter session kind) drifted
  around_drift drifted around := by
    rw [show _ = _ from drifted]
    exact around
  gate_open around inPlay sheltered _ := ⟨around, inPlay, sheltered⟩

variable {kind : SceneKind} {scenario : Scenario} {preferences : Preferences} {halt : Halt}
variable {store : Alone}

theorem Playing.isOpen (playing : Playing kind scenario preferences store.session) (halt : Halt) :
    (sceneStage kind scenario preferences halt).Open store :=
  ⟨playing.inPlay, playing.clear, playing.around⟩

/-- The epilogue that the encounter gives way to begins in the encounter's own last turn. -/
theorem plays_finishEncounter (final : store.session.encounter.progress = .terminal)
    (same : store.session.encounter.scenario = scenario) {index : Nat} :
    (sceneStage .encounter scenario preferences (.ended index)).Plays
      (sceneSeat .encounter).onFinish store [] := by
  refine .look (.update ⟨rfl, rfl, rfl, rfl⟩ (.update ⟨rfl, rfl, rfl, rfl⟩
    (.update ⟨rfl, rfl, rfl, rfl⟩ (.handOver _ _ ⟨rfl, ⟨index, rfl⟩, ?_⟩))))
  exact ⟨same, rfl, rfl, final, ⟨rfl, rfl, rfl⟩, rfl⟩

/-- The last instructions at a stop end the scene as they should. -/
theorem plays_conclude (playing : Playing kind scenario preferences store.session)
    (place : (store.session.interpreter kind).nodeIndex = halt.index) :
    (sceneStage kind scenario preferences halt).Plays ((sceneSeat kind).conclude halt) store [] := by
  by_cases isEnd : kind = .encounter ∧ ∃ index, halt = .ended index
  · obtain ⟨rfl, index, rfl⟩ := isEnd
    refine Stage.plays_finish playing.inPlay.notFinished (plays_finishEncounter ?_ ?_)
    · rfl
    · exact playing.inPlay.scenario_eq
  · have notEnded : kind = .encounter → ∀ index, halt ≠ .ended index := by
      intro encounter index same
      exact isEnd ⟨encounter, index, same⟩
    have stopped : ∀ (final : Alone) (finale : Finale Alone Role SceneKind Reply),
        final.session.interpreter kind = (store.session.interpreter kind).halted halt →
        Around kind final.session → (∀ driver body, finale ≠ .handedOver driver body) →
        SceneEnds kind scenario preferences halt final.session finale := by
      intro final finale same finalAround alone
      cases finale with
      | handedOver driver body => exact absurd rfl (alone driver body)
      | done => exact ⟨finalAround, ⟨_, playing.inPlay, playing.clear, place, same⟩, notEnded⟩
      | failed fault => exact ⟨finalAround, ⟨_, playing.inPlay, playing.clear, place, same⟩, notEnded⟩
    by_cases proper : ∃ index, halt = .ended index
    · obtain ⟨index, rfl⟩ := proper
      cases kind with
      | encounter => exact absurd rfl (notEnded rfl index)
      | text =>
          let reached := (sceneStage .text scenario preferences (.ended index)).ended store
          have ends := stopped reached .done rfl ⟨playing.around.phase, playing.around.epilogue⟩ (by simp)
          exact Stage.plays_finish playing.inPlay.notFinished (.done none ends)
    · exact Stage.plays_conclude playing.around (fun index same => proper ⟨index, same⟩) stopped

/-- A program that performs a recital comes to its end. -/
theorem runs_of_recites {program : Plan} {recital : Recital}
    (isOpen : (sceneStage kind scenario preferences recital.halt).Open store)
    (recites : (sceneStage kind scenario preferences recital.halt).Recites program store recital) :
    Runs machine tally (sceneTerms kind scenario preferences recital.halt) program [] store
      (recital.marks.flatMap counted) := by
  have whole := recites [] fun reached place around => by
    have same : reached.session.interpreter kind =
        (store.session.interpreter kind).heard recital.marks recital.halt.index := place
    refine plays_conclude ⟨?_, ?_, around⟩ ?_
    · rw [same]
      exact isOpen.inPlay.heard _ _
    · rw [same]
      exact isOpen.clear
    · rw [same]
      rfl
  rwa [List.append_nil] at whole

/-- A scene that is opened comes to its first stop. -/
theorem runs_openScene (kind : SceneKind) (scenario : Scenario) (preferences : Preferences) :
    ∃ (halt : Halt) (entries : List Unit), halt.Fits scenario 0 ∧ ∀ store : Alone,
      Playing kind scenario preferences store.session →
      (store.session.interpreter kind).nodeIndex = 0 →
      Runs machine tally (sceneTerms kind scenario preferences halt) (sceneSeat kind).openScene []
        store entries := by
  let recital := Recital.perform scenario.kind 0 (recite scenario.kind preferences scenario.nodes 0 [])
    (scenario.kind.openingCues preferences)
  have fits : recital.halt.Fits scenario 0 := by
    have whole : (scenario.recital preferences []).halt.Fits scenario 0 := fits_recital
    exact whole
  refine ⟨recital.halt, recital.marks.flatMap counted, fits, ?_⟩
  intro store playing first
  have recites : (sceneStage kind scenario preferences recital.halt).Recites
      (sceneSeat kind).openScene store recital := Stage.recites_openScene (playing.isOpen _) first
  exact runs_of_recites (playing.isOpen _) recites

/-- A scene that goes on after a choice comes to its next stop, which is further on. -/
theorem runs_resume (kind : SceneKind) (preferences : Preferences) {index : Nat} {node : ChoiceNode}
    (here : scenario.nodes[index]? = some (.choice node)) (tag : String) :
    ∃ (halt : Halt) (entries : List Unit), halt.Fits scenario (index + 1) ∧ ∀ store : Alone,
      Playing kind scenario preferences store.session →
      (store.session.interpreter kind).nodeIndex = index →
      Runs machine tally (sceneTerms kind scenario preferences halt)
        ((sceneSeat kind).resume (node.find? tag)) [] store entries := by
  let recital := scenario.continuation preferences index (node.find? tag) []
  refine ⟨recital.halt, recital.marks.flatMap counted, fits_continuation here tag, ?_⟩
  intro store playing place
  have recites := Stage.recites_resume (node.find? tag) (playing.isOpen recital.halt)
  subst place
  exact runs_of_recites (playing.isOpen _) recites

/-! ## The epilogue -/

/-- The terms on which an epilogue is played. -/
def epilogueTerms (whole : Epilogue) : Terms Alone Role SceneKind Reply where
  leaves before after :=
    after.session = { before.session with epilogue := after.session.epilogue }
  leaves_refl _ := rfl
  leaves_trans first second := by
    rw [second, first]
  gate frames store := frames = [] ∧ ComesTo whole store.session.epilogue
  drift before after := after.session.epilogue = before.session.epilogue
  drift_refl _ := rfl
  post store finale := store.session.epilogue = whole ∧ finale = .done

variable {whole : Epilogue}

/-- A wait of an epilogue that still lacks some events. -/
theorem runs_epiloguePause {missing : List SceneEvent} {duration : Duration} {next : Plan}
    {entries : List Unit} (lacks : Lacks whole missing store.session.epilogue)
    (goesOn : ∀ later : Alone, Lacks whole missing later.session.epilogue →
      Runs machine tally (epilogueTerms whole) next [] later entries) :
    Runs machine tally (epilogueTerms whole) (.pause duration next) [] store (() :: entries) := by
  refine .pause ⟨rfl, lacks.comesTo⟩ ?_
  intro later drifted
  refine goesOn later ?_
  rw [show later.session.epilogue = store.session.epilogue from drifted]
  exact lacks

/-- The texts of an epilogue come to their end, each of them shown in turn. -/
theorem runs_playTexts (preferences : Preferences) (tier : Tier) {next : Plan} {last : List Unit}
    (goesOn : ∀ store : Alone, Lacks whole [] store.session.epilogue →
      Runs machine tally (epilogueTerms whole) next [] store last) (texts : List Localized) :
    ∃ entries : List Unit, ∀ store : Alone,
      Lacks whole (texts.map (endingEvent preferences.language tier)) store.session.epilogue →
      Runs machine tally (epilogueTerms whole)
        (seat.epilogue.playTexts preferences (some tier) next texts) [] store entries := by
  induction texts with
  | nil => exact ⟨last, goesOn⟩
  | cons text rest inductionHypothesis =>
      obtain ⟨entries, runs⟩ := inductionHypothesis
      refine ⟨() :: entries, ?_⟩
      intro store lacks
      refine runs_epiloguePause lacks ?_
      intro later still
      exact .check (.update rfl (runs _ still.record))

/-- The script of an epilogue comes to its end, where everything was shown. -/
theorem runs_script (session : Session) :
    ∃ entries : List Unit, ∀ store : Alone,
      Lacks (earnedEpilogue session) (earnedTexts session) store.session.epilogue →
      Runs machine tally (epilogueTerms (earnedEpilogue session))
        (seat.epilogue.script session.preferences session.earnedEnding (some session.tier)) [] store
        entries := by
  have closes : ∀ store : Alone, Lacks (earnedEpilogue session) [] store.session.epilogue →
      Runs machine tally (epilogueTerms (earnedEpilogue session))
        (.pause Epilogue.closingBeat (.update (seat.epilogue.modify Epilogue.complete) .stop)) [] store
        [()] := by
    intro store lacks
    refine runs_epiloguePause lacks ?_
    intro later still
    exact .update rfl (.done none ⟨still.complete rfl, rfl⟩)
  obtain ⟨entries, runs⟩ :=
    runs_playTexts session.preferences session.tier closes session.earnedEnding.texts
  refine ⟨() :: entries, ?_⟩
  intro store lacks
  exact runs_epiloguePause lacks runs

end Playthrough.Session.Alone

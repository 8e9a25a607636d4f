import Playthrough.Proofs.Session.Rounds

/-!
Contract: play-throughs with the choices given in advance.

Owns: how a play-through is played with a list of ids (`Plays`, `PlaysThrough`), the worlds in which it
settles (`Stop`), what every move of the player makes of them, and that every list can be played.

Does not own: two play-throughs beside each other.

The next id is selected wherever choices are on offer, whether it is one of them or not. The text scene
is left when it can be, and a transition screen is confirmed. After every move the play-through settles.
-/

namespace Playthrough.Session

/-- What the player may choose from. -/
def onOffer (session : Session) : List Offer :=
  match session.currentKind? with
  | none => []
  | some kind => (session.interpreter kind).choices

namespace Alone

/-! ## The player -/

/-- The transition screen is confirmed, if it is shown. -/
inductive Confirms : Setting → Setting → Prop where
  | shown {world after : Setting} (screen : world.store.session.phase = .transition)
      (confirms : Carries world .beginEncounter true after) : Confirms world after
  | skipped {world : Setting} (elsewhere : world.store.session.phase ≠ .transition) :
      Confirms world world

/-- How a play-through that has settled is played on with some ids: whether each of those that were
selected was accepted, and the worlds in which it settled after every move. -/
inductive Plays : Setting → List String → List Bool → List Setting → Prop where
  | selects {world chosen settled : Setting} {id : String} {ids : List String} {accepts : Bool}
      {answers : List Bool} {stops : List Setting} (offers : world.store.session.onOffer ≠ [])
      (selects : Carries world (.select id) accepts chosen) (settles : Carries chosen .settle true settled)
      (rest : Plays settled ids answers stops) :
      Plays world (id :: ids) (accepts :: answers) (settled :: stops)
  | leaves {world left entered settled : Setting} {ids : List String} {answers : List Bool}
      {stops : List Setting} (silent : world.store.session.onOffer = [])
      (ready : Operation.triggerTransition.isAccepted world.store.session = true)
      (leaves : Carries world .triggerTransition true left) (confirms : Confirms left entered)
      (settles : Carries entered .settle true settled) (rest : Plays settled ids answers stops) :
      Plays world ids answers (settled :: stops)
  | waits {world : Setting} (offers : world.store.session.onOffer ≠ []) : Plays world [] [] []
  | ends {world : Setting} (ids : List String) (silent : world.store.session.onOffer = [])
      (final : Operation.triggerTransition.isAccepted world.store.session = false) :
      Plays world ids [] []

/-- How a play-through of two scenes is played from its beginning. -/
def PlaysThrough (textScene : Option TextScene) (encounterScene : Option EncounterScene)
    (preferences : Preferences) (ids : List String) (answers : List Bool) (stops : List Setting) : Prop :=
  ∃ begun settled later,
    Carries (World.initial (Alone.initial textScene encounterScene preferences)) .begin true begun
      ∧ Carries begun .settle true settled ∧ Plays settled ids answers later ∧ stops = settled :: later

/-! ## Play-throughs that are played with their own preferences -/

variable {kind : SceneKind} {recital : Recital} {session final : Session} {preferences : Preferences}

/-- A play-through with some preferences, with which its current scene is played too, and in which
nothing is held up. -/
structure Tended (preferences : Preferences) (session : Session) : Prop where
  preferences_eq : session.preferences = preferences
  voice : ∀ kind, session.phase = phaseOf kind → (session.interpreter kind).preferences = preferences
  clear : ∀ kind, (session.interpreter kind).suspended = false

namespace Tended

/-- A change of an interpreter that keeps what it is played with and does not hold it up. -/
theorem modify (tended : Tended preferences session) (kind : SceneKind)
    {change : Interpreter → Interpreter}
    (voice : ∀ interpreter, (change interpreter).preferences = interpreter.preferences)
    (clear : ∀ interpreter, (change interpreter).suspended = interpreter.suspended) :
    Tended preferences (session.modifyInterpreter kind change) := by
  cases kind with
  | text =>
      refine ⟨tended.preferences_eq, ?_, ?_⟩
      · intro other phase
        cases other with
        | text => exact (voice session.text).trans (tended.voice .text phase)
        | encounter => exact tended.voice .encounter phase
      · intro other
        cases other with
        | text => exact (clear session.text).trans (tended.clear .text)
        | encounter => exact tended.clear .encounter
  | encounter =>
      refine ⟨tended.preferences_eq, ?_, ?_⟩
      · intro other phase
        cases other with
        | text => exact tended.voice .text phase
        | encounter => exact (voice session.encounter).trans (tended.voice .encounter phase)
      · intro other
        cases other with
        | text => exact tended.clear .text
        | encounter => exact (clear session.encounter).trans (tended.clear .encounter)

theorem stoppedAt (tended : Tended preferences session) (kind : SceneKind) (recital : Recital) :
    Tended preferences (stoppedAt kind recital session) :=
  tended.modify kind (fun _ => Interpreter.preferences_halted _) fun _ => Interpreter.suspended_halted _

theorem settledAt (tended : Tended preferences session) (kind : SceneKind) (halt : Halt) :
    Tended preferences (settledAt kind halt session) := by
  by_cases isEnd : kind = .encounter ∧ ∃ index, halt = .ended index
  · obtain ⟨rfl, index, rfl⟩ := isEnd
    refine ⟨tended.preferences_eq, ?_, ?_⟩
    · intro kind phase
      cases kind <;> cases phase
    · intro kind
      cases kind with
      | text => exact tended.clear .text
      | encounter => exact tended.clear .encounter
  · have rests : kind = .encounter → ∀ index, halt ≠ .ended index := by
      intro encounter index same
      exact isEnd ⟨encounter, index, same⟩
    rw [(settledAt_of_rest rests).1]
    exact tended

theorem sceneEnd (tended : Tended preferences session) (kind : SceneKind) (recital : Recital) :
    Tended preferences (sceneEnd kind recital session) :=
  (tended.stoppedAt kind recital).settledAt kind recital.halt

theorem award (tended : Tended preferences session) (points : Int) :
    Tended preferences (session.award points) :=
  ⟨tended.preferences_eq, tended.voice, tended.clear⟩

theorem answered (tended : Tended preferences session) (kind : SceneKind) (choice : Choice) :
    Tended preferences (answered kind choice session) := by
  refine Tended.award ?_ choice.points
  exact tended.modify kind (fun _ => rfl) fun _ => rfl

end Tended

/-- A scene that is opened is played with the given preferences. -/
theorem tended_opensScene (preferences_eq : session.preferences = preferences)
    (clear : ∀ kind, (session.interpreter kind).suspended = false) (kind : SceneKind) :
    Tended preferences (opensScene kind preferences (session.enter (phaseOf kind))) := by
  cases kind with
  | text =>
      refine ⟨preferences_eq, ?_, ?_⟩
      · intro other phase
        cases other with
        | text => rfl
        | encounter => cases phase
      · intro other
        cases other with
        | text => rfl
        | encounter => exact clear .encounter
  | encounter =>
      refine ⟨preferences_eq, ?_, ?_⟩
      · intro other phase
        cases other with
        | text => cases phase
        | encounter => rfl
      · intro other
        cases other with
        | text => exact clear .text
        | encounter => rfl

/-! ## Stops -/

variable {textScene : Option TextScene} {encounterScene : Option EncounterScene}
variable {history : History} {world after between entered settled : Setting}
variable {told total : Role → List Pause} {operation : Operation} {accepts : Bool} {tag : String}

/-- An operation that is carried out answers as it was to be expected, and what occurs then is free for
the next one. -/
theorem Occurs.carried (occurs : Occurs textScene encounterScene preferences history world)
    (noTurn : world.running = none) (free : history.flight = none)
    (timely : operation = .begin → history.fresh = true)
    (carries : Carries world operation accepts after) :
    operation.answer accepts = operation.answer (operation.isAccepted world.store.session)
      ∧ ∃ later, Occurs textScene encounterScene preferences later after ∧ after.running = none
        ∧ later.flight = none ∧ (operation = .settle → ∀ role, after.isActive role = false) := by
  obtain ⟨later, situation, reached, reaches, completes⟩ :=
    completes_of_occurs occurs noTurn free operation timely
  obtain ⟨rfl, same⟩ := carries.unique completes.carries
  refine ⟨same, _, reaches.complete completes.noTurn completes.inFlight completes.ended,
    completes.noTurn, History.flight_completed _ _ _, ?_⟩
  rintro rfl role
  refine completes.standing.inactive ?_
  intro id performs
  rw [completes.concluded.settled rfl] at performs
  cases performs

/-- A world in which a play-through with some preferences has settled, after some waits. -/
def Stop (textScene : Option TextScene) (encounterScene : Option EncounterScene)
    (preferences : Preferences) (told : Role → List Pause) (world : Setting) : Prop :=
  ∃ history situation, Occurs textScene encounterScene preferences history world
    ∧ history.flight = none ∧ Rests (.given textScene encounterScene) situation told world
    ∧ Tended preferences world.store.session

theorem standing_of_occurs (occurs : Occurs textScene encounterScene preferences history world)
    (noTurn : world.running = none) (free : history.flight = none) :
    ∃ situation, situation.Calm ∧ situation.isFresh = history.fresh
      ∧ Standing (.given textScene encounterScene) situation [] world.outline := by
  obtain ⟨situation, progressing, -⟩ := (Sound.of_occurs occurs).moment noTurn
  cases progressing with
  | free _ calm same standing => exact ⟨situation, calm, same, standing⟩
  | engaged inFlight _ _ _ _ _ =>
      rw [free] at inFlight
      cases inFlight
  | closed inFlight _ _ _ _ =>
      rw [free] at inFlight
      cases inFlight

/-- Where no driver plays, what occurs and has come to its end has settled. -/
theorem rests_of_occurs (occurs : Occurs textScene encounterScene preferences history world)
    (noTurn : world.running = none) (free : history.flight = none)
    (quiet : ∀ role, world.isActive role = false) (noted : world.Noted told)
    (clear : ∀ kind, (world.store.session.interpreter kind).suspended = false) :
    ∃ situation, Rests (.given textScene encounterScene) situation told world := by
  obtain ⟨situation, calm, -, standing⟩ := standing_of_occurs occurs noTurn free
  refine ⟨situation, (Sound.of_occurs occurs).balanced, noTurn, calm, standing, ?_, noted, clear⟩
  cases performs : situation.performer with
  | none => rfl
  | some performer =>
      have active := (standing.active_iff performer.1).mpr ⟨performer.2, performs⟩
      have inactive := quiet performer.1
      rw [World.isActive_eq] at inactive
      rw [show ((world.holdings performer.1).slot.bind world.outline.tasks).isSome = true from active]
        at inactive
      cases inactive

/-- A move after which a play-through has settled has led where it was foreseen. -/
theorem Leads.stop {next : Session} (leads : Leads world operation accepts next final total)
    (occurs : Occurs textScene encounterScene preferences history world)
    (noTurn : world.running = none) (free : history.flight = none)
    (timely : operation = .begin → history.fresh = true) (tended : Tended preferences final)
    {otherwise : Bool} (carries : Carries world operation otherwise between)
    (settles : Carries between .settle true settled) :
    operation.answer otherwise = operation.answer accepts
      ∧ Stop textScene encounterScene preferences total settled ∧ settled.store.session = final := by
  obtain ⟨reached, leadsThere, balanced, stopped, -, comes⟩ := leads
  obtain ⟨rfl, same⟩ := carries.unique leadsThere
  obtain ⟨-, later, occursThen, -, freeThen, -⟩ := occurs.carried noTurn free timely carries
  obtain ⟨-, last, occursLast, rests, freeLast, quiet⟩ :=
    occursThen.carried stopped freeThen (by simp) settles
  obtain ⟨session_eq, noted⟩ := comes.settles balanced stopped settles rests (quiet rfl)
  have clear : ∀ kind, (settled.store.session.interpreter kind).suspended = false := by
    rw [session_eq]
    exact tended.clear
  obtain ⟨situation, settledRests⟩ := rests_of_occurs occursLast rests freeLast (quiet rfl) noted clear
  refine ⟨same, ⟨last, situation, occursLast, freeLast, settledRests, ?_⟩, session_eq⟩
  rw [session_eq]
  exact tended

/-! ## Moves of the player -/

theorem sceneEnd_phase (kind : SceneKind) (recital : Recital) (session : Session) :
    (sceneEnd kind recital session).phase = session.phase
      ∨ (sceneEnd kind recital session).phase = .epilogue := by
  by_cases isEnd : kind = .encounter ∧ ∃ index, recital.halt = .ended index
  · obtain ⟨rfl, index, ended⟩ := isEnd
    rw [sceneEnd, ended]
    exact .inr rfl
  · have rests : kind = .encounter → ∀ index, recital.halt ≠ .ended index := by
      intro encounter index same
      exact isEnd ⟨encounter, index, same⟩
    rw [sceneEnd, (settledAt_of_rest rests).1]
    cases kind <;> exact .inl rfl

theorem rests_initial (textScene : Option TextScene) (encounterScene : Option EncounterScene)
    (preferences : Preferences) :
    Rests (.given textScene encounterScene) .fresh (fun _ => [])
      (World.initial (Alone.initial textScene encounterScene preferences)) := by
  have occurs : Occurs textScene encounterScene preferences .initial _ := .construct
  obtain ⟨situation, calm, same, standing⟩ := standing_of_occurs occurs rfl rfl
  have fresh : situation = .fresh := by
    cases situation with
    | fresh => rfl
    | scene _ _ _ _ | transition | epilogue _ _ _ => cases same
    | leaving | claimed _ _ | clearing _ _ | fading _ _ => exact calm.elim
  subst fresh
  refine ⟨(Sound.of_occurs occurs).balanced, rfl, trivial, standing, rfl, .initial _, ?_⟩
  intro kind
  cases kind <;> rfl

/-- The text scene has been begun. -/
theorem stop_of_begin {begun : Setting}
    (begins : Carries (World.initial (Alone.initial textScene encounterScene preferences)) .begin accepts
      begun) (settles : Carries begun .settle true settled) :
    let opening := opensScene .text preferences
      ((Session.initial textScene encounterScene preferences).enter .textScene)
    let recital := ((Scenes.given textScene encounterScene).scenario .text).opening preferences
    Stop textScene encounterScene preferences
        (thereafter (fun _ => []) (scenePauses .text recital opening)) settled
      ∧ settled.store.session = sceneEnd .text recital opening := by
  intro opening recital
  let initial : Session := .initial textScene encounterScene preferences
  have clear : ∀ kind, (initial.interpreter kind).suspended = false := by
    intro kind
    cases kind <;> rfl
  have opens : Tended preferences opening := tended_opensScene rfl clear .text
  have tended : Tended preferences (sceneEnd .text recital opening) := opens.sceneEnd .text recital
  exact ((rests_initial textScene encounterScene preferences).leads_begin.stop .construct rfl rfl
    (fun _ => rfl) tended begins settles).2

namespace Stop

variable {chosen left : Setting}

/-- An id that is on offer has been selected. -/
theorem chooses (stop : Stop textScene encounterScene preferences told world)
    (accepted : (Operation.select tag).isAccepted world.store.session = true)
    (selects : Carries world (.select tag) accepts chosen) (settles : Carries chosen .settle true settled) :
    accepts = true ∧ ∃ kind index node choice,
      OffersAt (.given textScene encounterScene) kind index node world.store.session
        ∧ node.find? tag = some choice
        ∧ let recital := ((Scenes.given textScene encounterScene).scenario kind).continuation preferences
            index (some choice) []
          Stop textScene encounterScene preferences
              (thereafter told (scenePauses kind recital (answered kind choice world.store.session)))
              settled
            ∧ settled.store.session = sceneEnd kind recital (answered kind choice world.store.session) := by
  obtain ⟨history, situation, occurs, free, rests, tended⟩ := stop
  obtain ⟨kind, index, node, choice, offers, found, leads⟩ := rests.leads_select accepted
  rw [tended.voice kind offers.phase] at leads
  obtain ⟨same, stop, session_eq⟩ := leads.stop occurs rests.noTurn free (by simp)
    ((tended.answered kind choice).sceneEnd kind _) selects settles
  have move : (Operation.select tag).isMove = true := rfl
  have verdict : accepts = true := Operation.answer_injective move same
  exact ⟨verdict, kind, index, node, choice, offers, found, stop, session_eq⟩

/-- An id that is not on offer has been selected. -/
theorem refuses (stop : Stop textScene encounterScene preferences told world)
    (refused : (Operation.select tag).isAccepted world.store.session = false)
    (selects : Carries world (.select tag) accepts chosen) (settles : Carries chosen .settle true settled) :
    accepts = false ∧ Stop textScene encounterScene preferences told settled
      ∧ settled.store.session = world.store.session := by
  obtain ⟨history, situation, occurs, free, rests, tended⟩ := stop
  obtain ⟨same, stop, session_eq⟩ := (rests.refuses_select refused).stop occurs rests.noTurn free
    (by simp) tended selects settles
  have move : (Operation.select tag).isMove = true := rfl
  exact ⟨Operation.answer_injective move same, stop, session_eq⟩

/-- The text scene has been left, with a transition screen or without one. -/
theorem leaves (stop : Stop textScene encounterScene preferences told world)
    (ready : Operation.triggerTransition.isAccepted world.store.session = true)
    (leaves : Carries world .triggerTransition true left) (confirms : Confirms left entered)
    (settles : Carries entered .settle true settled) :
    let opening := opensScene .encounter preferences (world.store.session.enter .encounter)
    let recital := ((Scenes.given textScene encounterScene).scenario .encounter).opening preferences
    Stop textScene encounterScene preferences
        (thereafter told (scenePauses .encounter recital opening)) settled
      ∧ settled.store.session = sceneEnd .encounter recital opening := by
  intro opening recital
  obtain ⟨history, situation, occurs, free, rests, tended⟩ := stop
  have leavable : world.store.session.phase = .textScene
      ∧ world.store.session.text.transitionReady = true := by
    simpa [Operation.isAccepted] using ready
  have ends : Tended preferences (sceneEnd .encounter recital opening) :=
    (tended_opensScene tended.preferences_eq tended.clear .encounter).sceneEnd .encounter recital
  by_cases fast : world.store.session.preferences.pacing = .fast
  · have leads := rests.leads_skipping leavable fast
    rw [tended.preferences_eq] at leads
    obtain ⟨reached, leadsThere, -, -, session_eq, -⟩ := id leads
    obtain ⟨rfl, -⟩ := leaves.unique leadsThere
    have phase : left.store.session.phase = .encounter := by
      rw [session_eq]
      rfl
    cases confirms with
    | skipped _ => exact (leads.stop occurs rests.noTurn free (by simp) ends leaves settles).2
    | shown screen _ =>
        rw [phase] at screen
        cases screen
  · obtain ⟨reached, leadsThere, -, -, session_eq, comes⟩ := rests.leads_toTransition leavable fast
    obtain ⟨rfl, -⟩ := leaves.unique leadsThere
    have phase : left.store.session.phase = .transition := by
      rw [session_eq]
      rfl
    cases confirms with
    | skipped elsewhere => exact absurd phase elsewhere
    | shown _ confirms =>
        obtain ⟨-, later, occursThen, stopped, freeThen, -⟩ :=
          occurs.carried rests.noTurn free (by simp) leaves
        obtain ⟨there, calm, -, standing⟩ := standing_of_occurs occursThen stopped freeThen
        have screen : there = .transition := by
          have same : left.store.session.phase = there.phase := standing.looks.phase
          rw [phase] at same
          cases there with
          | transition => rfl
          | scene kind _ _ _ => cases kind <;> cases same
          | fresh | epilogue _ _ _ => cases same
          | leaving | claimed _ _ | clearing _ _ | fading _ _ => exact calm.elim
        subst screen
        have quiet : ∀ role, left.isActive role = false :=
          fun role => standing.inactive (by simp [Situation.performer])
        obtain ⟨-, noted⟩ := comes.ended quiet
        have shown : Rests (.given textScene encounterScene) .transition told left := by
          refine ⟨(Sound.of_occurs occursThen).balanced, stopped, trivial, standing, rfl, noted, ?_⟩
          rw [session_eq]
          intro kind
          cases kind with
          | text => exact tended.clear .text
          | encounter => exact tended.clear .encounter
        have leads := shown.leads_beginEncounter
        rw [session_eq, show (world.store.session.enter .transition).preferences = preferences from
          tended.preferences_eq] at leads
        exact (leads.stop occursThen stopped freeThen (by simp) ends confirms settles).2

/-! ## Every list can be played -/

/-- A move can be made, and the play-through settles after it. -/
theorem carries (stop : Stop textScene encounterScene preferences told world) (operation : Operation)
    (move : operation.isMove = true) :
    ∃ later after settled, Carries world operation (operation.isAccepted world.store.session) after
      ∧ Occurs textScene encounterScene preferences later after ∧ after.running = none
      ∧ later.flight = none ∧ Carries after .settle true settled := by
  obtain ⟨history, situation, occurs, free, rests, -⟩ := stop
  have notBegin : operation ≠ .begin := by
    rintro rfl
    cases move
  have notRestart : operation.isRestart = false := by
    cases operation <;> first | rfl | cases move
  obtain ⟨later, after, occursThen, moves, fulfils⟩ :=
    carries_of_occurs occurs rests.noTurn free operation notBegin notRestart
  obtain ⟨-, settled, -, settles, -⟩ :=
    carries_of_occurs occursThen fulfils.noTurn fulfils.free .settle (by simp) rfl
  exact ⟨later, after, settled, moves, occursThen, fulfils.noTurn, fulfils.free, settles⟩

/-- The text scene can be left where it is ready. -/
theorem carries_leaving (stop : Stop textScene encounterScene preferences told world)
    (ready : Operation.triggerTransition.isAccepted world.store.session = true) :
    ∃ left entered settled, Carries world .triggerTransition true left ∧ Confirms left entered
      ∧ Carries entered .settle true settled := by
  obtain ⟨later, left, settled, leaves, occurs, stopped, free, settles⟩ :=
    stop.carries .triggerTransition rfl
  rw [ready] at leaves
  by_cases screen : left.store.session.phase = .transition
  · obtain ⟨history, entered, occursThen, confirms, fulfils⟩ :=
      carries_of_occurs occurs stopped free .beginEncounter (by simp) rfl
    obtain ⟨-, settled, -, settles, -⟩ :=
      carries_of_occurs occursThen fulfils.noTurn fulfils.free .settle (by simp) rfl
    have accepted : Operation.beginEncounter.isAccepted left.store.session = true := by
      simp [Operation.isAccepted, screen]
    rw [accepted] at confirms
    exact ⟨left, entered, settled, leaves, .shown screen confirms, settles⟩
  · exact ⟨left, left, settled, leaves, .skipped screen, settles⟩

/-- How many times the text scene is still left. -/
def departures (session : Session) : Nat := if session.phase = .textScene then 1 else 0

theorem departures_sceneEnd_le (kind : SceneKind) (recital : Recital) (session : Session) :
    departures (sceneEnd kind recital session) ≤ departures session := by
  rcases sceneEnd_phase kind recital session with same | epilogue
  · rw [departures, same]
    exact Nat.le_refl _
  · rw [departures, epilogue]
    exact Nat.zero_le _

/-- Whatever ids are given, a play-through that has settled can be played on with them. -/
theorem plays (stop : Stop textScene encounterScene preferences told world) (ids : List String) :
    ∃ answers stops, Plays world ids answers stops := by
  induction ahead : ids.length + departures world.store.session using Nat.strongRecOn
    generalizing world told ids with
  | ind _ inductionHypothesis =>
  subst ahead
  by_cases silent : world.store.session.onOffer = []
  · cases ready : Operation.triggerTransition.isAccepted world.store.session with
    | false => exact ⟨[], [], .ends ids silent ready⟩
    | true =>
        obtain ⟨left, entered, settled, leaves, confirms, settles⟩ := stop.carries_leaving ready
        obtain ⟨settledStop, session_eq⟩ := stop.leaves ready leaves confirms settles
        have gone : departures settled.store.session ≤ 0 := by
          rw [session_eq]
          exact departures_sceneEnd_le _ _ _
        have there : departures world.store.session = 1 := by
          simp only [Operation.isAccepted, Bool.and_eq_true, beq_iff_eq] at ready
          exact if_pos ready.1
        obtain ⟨answers, stops, rest⟩ := inductionHypothesis _ (by omega) settledStop ids rfl
        exact ⟨answers, settled :: stops, .leaves silent ready leaves confirms settles rest⟩
  · cases ids with
    | nil => exact ⟨[], [], .waits silent⟩
    | cons tag ids =>
        obtain ⟨-, chosen, settled, selects, -, -, -, settles⟩ := stop.carries (.select tag) rfl
        have settledStop : ∃ total, Stop textScene encounterScene preferences total settled
            ∧ departures settled.store.session ≤ departures world.store.session := by
          cases accepted : (Operation.select tag).isAccepted world.store.session with
          | true =>
              obtain ⟨-, kind, index, node, choice, -, -, settledStop, session_eq⟩ :=
                stop.chooses accepted selects settles
              refine ⟨_, settledStop, ?_⟩
              rw [session_eq]
              refine Nat.le_trans (departures_sceneEnd_le _ _ _) ?_
              cases kind <;> exact Nat.le_refl _
          | false =>
              obtain ⟨-, settledStop, session_eq⟩ := stop.refuses accepted selects settles
              refine ⟨told, settledStop, ?_⟩
              rw [session_eq]
        obtain ⟨total, settledStop, notMore⟩ := settledStop
        obtain ⟨answers, stops, rest⟩ :=
          inductionHypothesis _ (by rw [List.length_cons]; omega) settledStop ids rfl
        exact ⟨_, settled :: stops, .selects silent selects settles rest⟩

end Stop

/-- Every list of ids can be played from the beginning. -/
theorem playsThrough (textScene : Option TextScene) (encounterScene : Option EncounterScene)
    (preferences : Preferences) (ids : List String) :
    ∃ answers stops, PlaysThrough textScene encounterScene preferences ids answers stops := by
  have start : Occurs textScene encounterScene preferences .initial _ := .construct
  obtain ⟨later, situation, begun, reaches, completes⟩ :=
    completes_of_occurs start rfl rfl .begin fun _ => rfl
  have occurs := reaches.complete completes.noTurn completes.inFlight completes.ended
  obtain ⟨-, settled, -, settles, -⟩ :=
    carries_of_occurs occurs completes.noTurn (History.flight_completed _ _ _) .settle (by simp) rfl
  obtain ⟨answers, stops, plays⟩ := (stop_of_begin completes.carries settles).1.plays ids
  exact ⟨answers, settled :: stops, begun, settled, stops, completes.carries, settles, plays, rfl⟩

end Alone

end Playthrough.Session
